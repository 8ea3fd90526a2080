import Companions.Proofs.Eval.Safety
import Companions.Proofs.Pools.Derivation
set_option autoImplicit false

/-!
# How code is spelled

What a look-up does not find is written as a placeholder, and a return with a label that is not
there is written without one.  `Printer.Spells` says how code is written that has no need of that:
each node is put together from what it refers to (`Printer.Composes`), and every look-up finds what
is written.

Where all nodes on the paths from a place can be resolved, what is written is what is spelled
(`Printer.expr_eq_ok_iff_spells`).  The check resolves a parameter by the handlers around a node,
writing looks through all handlers of the body; what the one finds the other finds as well
(`Surroundings.BodySafe.resolves`).
-/

namespace Companions

/-- The types that a declaration is written with are known. -/
structure Declaration.TypesKnown (types : TypePool) (d : Declaration) : Prop where
  params : ∀ p ∈ d.params, types.contains p.type = true
  returnType : types.contains d.returnType = true
  handlers : d.HandlersKnown types

namespace Printer

/-! ## The grammar -/

/-- How deep the places that a node refers to are set in. -/
def inside (depth : Nat) : ExprForm → Nat
  | .block _ => depth + 1
  | _ => depth

/-- The name that a parameter is written with: of the declaration, or else of a handler. -/
inductive NamesParam (w : Printer) (d : Declaration) (b : Body) (p : ParamSymbol) : String → Prop
  | own {own : Parameter} {text : String} (found : d.param? p = some own)
      (named : w.names.text? own.name = some text) : NamesParam w d b p text
  | caught {h : Handler} {text : String} (other : d.param? p = none)
      (found : handlerOf? b p b.nodes.toList = .ok (some h))
      (named : w.names.text? h.param.name = some text) : NamesParam w d b p text

/-- The arguments of a call, written out. -/
def argumentsText (texts : List String) : String := "(" ++ String.intercalate ", " texts ++ ")"

/-- A handler, written out. -/
def catchText (param block : String) : String := " catch (" ++ param ++ ") " ++ block

/-- How a node is put together from the texts of what it refers to, in reading order.  Whatever has
to be looked up is found. -/
inductive Composes (w : Printer) (d : Declaration) (b : Body) (depth : Nat) :
    ExprForm → List String → String → Prop
  | const {c : Constant} {text : String} (value : w.constant c = .ok text) :
      Composes w d b depth (.const c) [] text
  | param {p : ParamSymbol} {text : String} (named : w.NamesParam d b p text) :
      Composes w d b depth (.param p) [] text
  | self {c : ClassId} {text : String} (named : w.names.text? c.name = some text) :
      Composes w d b depth (.self c) [] ("this@" ++ text)
  | call {callee : FunctionSymbol} {f : Declaration} {arguments : Span .arguments}
      {name : String} {texts : List String} (found : w.lookup.declaration callee = some f)
      (named : w.names.text? f.id.name = some name) :
      Composes w d b depth (.call callee none arguments) texts (name ++ argumentsText texts)
  | memberCall {callee : FunctionSymbol} {f : Declaration} {receiver : ExprId}
      {arguments : Span .arguments} {target name : String} {texts : List String}
      (found : w.lookup.declaration callee = some f)
      (named : w.names.text? f.id.name = some name) :
      Composes w d b depth (.call callee (some receiver) arguments) (target :: texts)
        (target ++ "." ++ name ++ argumentsText texts)
  | new {constr : ConstructorSymbol} {k : Constructor} {arguments : Span .arguments}
      {name : String} {texts : List String} (found : w.lookup.constr constr = some k)
      (named : k.type.display w.names = .ok name) :
      Composes w d b depth (.new constr arguments) texts (name ++ argumentsText texts)
  | block {statements : Span .expressions} {texts : List String} :
      Composes w d b depth (.block statements) texts
        ("\x7b" ++ String.join (texts.map (newline (depth + 1) ++ ·)) ++ newline depth ++ "\x7d")
  | ret {target : LabelId} {l : Label} {name : String} (found : b.label? target = some l)
      (named : w.names.text? l.name = some name) :
      Composes w d b depth (.ret target none) [] ("return@" ++ name)
  | retValue {target : LabelId} {l : Label} {value : ExprId} {name text : String}
      (found : b.label? target = some l) (named : w.names.text? l.name = some name) :
      Composes w d b depth (.ret target (some value)) [text] ("return@" ++ name ++ " " ++ text)
  | attempt {block : ExprRef} {handlers : Span .handlers} {text : String}
      {params texts : List String}
      (written : (Body.items b.handlers handlers).mapM (fun h => w.parameter h.param) =
        .ok params) :
      Composes w d b depth (.attempt block handlers) (text :: texts)
        ("try " ++ text ++ String.join (List.zipWith catchText params texts))
  | raise {exception : ExprRef} {text : String} :
      Composes w d b depth (.raise exception) [text] ("throw " ++ text)
  | elvis {left right : ExprRef} {text other : String} :
      Composes w d b depth (.elvis left right) [text, other] (text ++ " ?: " ++ other)
  | branch {condition yes : ExprRef} {test text : String} :
      Composes w d b depth (.branch condition yes none) [test, text]
        ("if (" ++ test ++ ") " ++ text)
  | branchElse {condition yes : ExprRef} {no : ExprId} {test text other : String} :
      Composes w d b depth (.branch condition yes (some no)) [test, text, other]
        ("if (" ++ test ++ ") " ++ text ++ " else " ++ other)
  | binary {op : BinaryOp} {left right : ExprRef} {text other : String} :
      Composes w d b depth (.binary op left right) [text, other]
        (text ++ " " ++ op.text ++ " " ++ other)

/-- How the code at a place is written if nothing that is looked up is missing. -/
inductive Spells (w : Printer) (d : Declaration) (b : Body) : Nat → ExprRef → String → Prop
  | node {depth : Nat} {e : ExprRef} {x : Expr} {texts : List String} {text : String}
      (node : b.node? e = some x) (fits : b.FormFits x.form)
      (length : (b.references x.form).length = texts.length)
      (each : ∀ r t, (r, t) ∈ (b.references x.form).zip texts →
        Spells w d b (inside depth x.form) r.place t)
      (form : w.Composes d b depth x.form texts text) : Spells w d b depth e text

variable {w : Printer} {d : Declaration} {b : Body} {n depth : Nat} {e : ExprRef} {x : Expr}
  {p : ParamSymbol} {text : String}

/-! ## Parameters -/

/-- Some parameter with the symbol is found, of the declaration or of a handler. -/
def ParamFound (d : Declaration) (b : Body) (p : ParamSymbol) : Prop :=
  (∃ own, d.param? p = some own) ∨ ∃ x ∈ b.nodes, ∃ h ∈ b.handlersOf x.form, h.param.symbol = p

/-- Where no handler is found, there is none with the parameter. -/
theorem ne_of_handlerOf?_eq_none {nodes : List Expr} (h : handlerOf? b p nodes = .ok none) :
    ∀ x ∈ nodes, ∀ handler ∈ b.handlersOf x.form, handler.param.symbol ≠ p := by
  induction nodes with
  | nil => exact fun x hx => absurd hx List.not_mem_nil
  | cons x rest ih =>
    unfold handlerOf? at h
    split at h
    · next block handlers hform =>
      obtain ⟨items, hread, h⟩ := exists_of_bind_eq_ok h
      cases hfind : items.find? (·.param.symbol = p) with
      | some found =>
        rw [hfind] at h
        cases h
      | none =>
        rw [hfind] at h
        have hno := List.find?_eq_none.1 hfind
        refine List.forall_mem_cons.2 ⟨fun handler hmem => ?_, ih h⟩
        rw [hform, Body.handlersOf, Body.items_of_read hread] at hmem
        simpa using hno handler hmem
    · next hform =>
      refine List.forall_mem_cons.2 ⟨fun handler hmem => ?_, ih h⟩
      obtain ⟨form, type⟩ := x
      cases form with
      | attempt block handlers => exact absurd rfl (hform block handlers)
      | _ => cases hmem

/-- What is written for a parameter that is found is its name. -/
theorem namesParam_of_paramName (hfound : ParamFound d b p) (h : w.paramName d b p = .ok text) :
    w.NamesParam d b p text := by
  unfold paramName at h
  cases hown : d.param? p with
  | some own =>
    rw [hown] at h
    exact .own hown (orFault_eq_ok_iff.1 h)
  | none =>
    rw [hown] at h
    obtain ⟨answer, hanswer, h⟩ := exists_of_bind_eq_ok h
    cases answer with
    | some handler => exact .caught hown hanswer (orFault_eq_ok_iff.1 h)
    | none =>
      rcases hfound with ⟨own, hsome⟩ | ⟨x, hx, handler, hmem, hsymbol⟩
      · rw [hown] at hsome
        cases hsome
      · exact absurd hsymbol
          (ne_of_handlerOf?_eq_none hanswer x (Array.mem_def.1 hx) handler hmem)

theorem paramName_of_namesParam (h : w.NamesParam d b p text) : w.paramName d b p = .ok text := by
  unfold paramName
  cases h with
  | own found named =>
    rw [found]
    exact orFault_eq_ok_iff.2 named
  | caught other found named =>
    rw [other, found]
    exact orFault_eq_ok_iff.2 named

/-! ## One node -/

/-- What a node has to look up is there. -/
def Resolves (w : Printer) (d : Declaration) (b : Body) : ExprForm → Prop
  | .param p => ParamFound d b p
  | .call callee _ _ => ∃ f, w.lookup.declaration callee = some f
  | .new constr _ => ∃ k, w.lookup.constr constr = some k
  | .ret target _ => ∃ l, b.label? target = some l
  | _ => True

/-- Lines with one beginning are written exactly if what is behind it is. -/
theorem mapM_append_eq_ok_iff {α : Type} {before : String} {write : α → Except Fault String}
    {items : List α} {lines : List String} :
    items.mapM (fun a => do return before ++ (← write a)) = .ok lines ↔
      ∃ texts, List.Forall₂ (fun a text => write a = .ok text) items texts ∧
        lines = texts.map (before ++ ·) := by
  rw [mapM_eq_ok_iff]
  constructor
  · intro h
    induction h with
    | nil => exact ⟨[], .nil, rfl⟩
    | cons hfirst _ ih =>
      obtain ⟨text, htext, hline⟩ := exists_of_bind_eq_ok hfirst
      cases hline
      obtain ⟨texts, hrest, rfl⟩ := ih
      exact ⟨text :: texts, .cons htext hrest, rfl⟩
  · rintro ⟨texts, htexts, rfl⟩
    rw [List.forall₂_map_right_iff]
    refine htexts.imp fun a text htext => ?_
    rw [htext]
    rfl

/-- Handlers are written exactly if their parameters and their blocks are. -/
theorem mapM_catches_eq_ok_iff {write : Handler → Except Fault String} {items : List Handler}
    {lines : List String} :
    items.mapM (fun h => do
      let param ← w.parameter h.param
      return " catch (" ++ param ++ ") " ++ (← write h)) = .ok lines ↔
      ∃ params texts, items.mapM (fun h => w.parameter h.param) = .ok params ∧
        List.Forall₂ (fun h text => write h = .ok text) items texts ∧
        lines = List.zipWith catchText params texts := by
  simp only [mapM_eq_ok_iff]
  constructor
  · intro h
    induction h with
    | nil => exact ⟨[], [], .nil, .nil, rfl⟩
    | cons hfirst _ ih =>
      obtain ⟨param, hparam, hline⟩ := exists_of_bind_eq_ok hfirst
      obtain ⟨text, htext, hline⟩ := exists_of_bind_eq_ok hline
      cases hline
      obtain ⟨params, texts, hparams, htexts, rfl⟩ := ih
      exact ⟨param :: params, text :: texts, .cons hparam hparams, .cons htext htexts, rfl⟩
  · rintro ⟨params, texts, hparams, htexts, rfl⟩
    induction hparams generalizing texts with
    | nil =>
      cases htexts
      exact .nil
    | cons hparam _ ih =>
      cases htexts with
      | cons htext hrest =>
        refine .cons ?_ (ih _ hrest)
        rw [hparam, htext]
        rfl

/-- The references are written as these texts. -/
def WritesEach (w : Printer) (d : Declaration) (b : Body) (n depth : Nat)
    (references : List Body.Reference) (texts : List String) : Prop :=
  List.Forall₂ (fun r text => w.expr d b n depth r.place = .ok text) references texts

/-- Arguments behind what is written for the callee. -/
theorem arguments_eq_ok_iff {arguments : Span .arguments} {before : String} :
    (do
      let arguments ← (← b.readArguments arguments).mapM fun a => w.expr d b n depth a.value
      return before ++ "(" ++ String.intercalate ", " arguments ++ ")" : Except Fault String) =
        .ok text ↔
      Body.Fits b.arguments arguments ∧ ∃ texts,
        w.WritesEach d b n depth
          ((Body.items b.arguments arguments).map fun a : Argument => .plain a.value) texts ∧
        before ++ argumentsText texts = text := by
  rw [bind_eq_ok_iff]
  simp only [Body.readArguments, Body.read_eq_ok_iff, bind_eq_ok_iff, mapM_eq_ok_iff, WritesEach,
    List.forall₂_map_left_iff, Body.Reference.plain_place]
  constructor
  · rintro ⟨_, ⟨hfits, rfl⟩, texts, htexts, htext⟩
    cases htext
    exact ⟨hfits, texts, htexts, by simp [argumentsText, String.append_assoc]⟩
  · rintro ⟨hfits, texts, htexts, rfl⟩
    refine ⟨_, ⟨hfits, rfl⟩, texts, htexts, ?_⟩
    simp [argumentsText, String.append_assoc, pure, Except.pure]

/-- What is written for a node that can be resolved is put together from what is written for its
references. -/
theorem exists_composes (hx : b.node? e = some x) (hresolves : w.Resolves d b x.form)
    (h : w.expr d b (n + 1) depth e = .ok text) :
    b.FormFits x.form ∧ ∃ texts,
      w.WritesEach d b n (inside depth x.form) (b.references x.form) texts ∧
      w.Composes d b depth x.form texts text := by
  obtain ⟨form, type⟩ := x
  rw [expr, hx] at h
  -- what is looked up, and which places are left out, decides how the rest is written
  cases form with
  | const c => exact ⟨trivial, [], .nil, .const h⟩
  | param p => exact ⟨trivial, [], .nil, .param (namesParam_of_paramName hresolves h)⟩
  | self c =>
    obtain ⟨name, hname, h⟩ := exists_of_bind_eq_ok h
    cases h
    exact ⟨trivial, [], .nil, .self (orFault_eq_ok_iff.1 hname)⟩
  | call callee receiver arguments =>
    obtain ⟨f, hf⟩ := hresolves
    cases receiver with
    | none =>
      simp only [hf, pure_bind, String.empty_append] at h
      obtain ⟨name, hname, h⟩ := exists_of_bind_eq_ok h
      obtain ⟨hfits, texts, htexts, rfl⟩ := arguments_eq_ok_iff.1 h
      exact ⟨hfits, texts, htexts, .call hf (orFault_eq_ok_iff.1 hname)⟩
    | some r =>
      simp only [hf, pure_bind] at h
      obtain ⟨target, htarget, h⟩ := exists_of_bind_eq_ok h
      obtain ⟨name, hname, h⟩ := exists_of_bind_eq_ok h
      obtain ⟨hfits, texts, htexts, rfl⟩ := arguments_eq_ok_iff.1 h
      exact ⟨hfits, target :: texts, .cons htarget htexts,
        .memberCall hf (orFault_eq_ok_iff.1 hname)⟩
  | new constr arguments =>
    obtain ⟨k, hk⟩ := hresolves
    simp only [hk] at h
    obtain ⟨name, hname, h⟩ := exists_of_bind_eq_ok h
    obtain ⟨hfits, texts, htexts, rfl⟩ := arguments_eq_ok_iff.1 h
    exact ⟨hfits, texts, htexts, .new hk hname⟩
  | block statements =>
    obtain ⟨items, hread, h⟩ := exists_of_bind_eq_ok h
    obtain ⟨lines, hlines, h⟩ := exists_of_bind_eq_ok h
    obtain ⟨hfits, rfl⟩ := Body.read_eq_ok_iff.1 hread
    obtain ⟨texts, htexts, rfl⟩ := mapM_append_eq_ok_iff.1 hlines
    cases h
    exact ⟨hfits, texts, List.forall₂_map_left_iff.2 htexts, .block⟩
  | ret target value =>
    obtain ⟨l, hl⟩ := hresolves
    simp only [hl, pure_bind] at h
    obtain ⟨name, hname, h⟩ := exists_of_bind_eq_ok h
    have hname := orFault_eq_ok_iff.1 hname
    cases value with
    | none =>
      cases h
      rw [String.append_empty, ← String.append_assoc]
      exact ⟨trivial, [], .nil, .ret hl hname⟩
    | some v =>
      obtain ⟨value, hvalue, h⟩ := exists_of_bind_eq_ok h
      cases h
      rw [← String.append_assoc, ← String.append_assoc]
      exact ⟨trivial, [value], .cons hvalue .nil, .retValue hl hname⟩
  | attempt block handlers =>
    obtain ⟨first, hfirst, h⟩ := exists_of_bind_eq_ok h
    obtain ⟨items, hread, h⟩ := exists_of_bind_eq_ok h
    obtain ⟨lines, hlines, h⟩ := exists_of_bind_eq_ok h
    obtain ⟨hfits, rfl⟩ := Body.read_eq_ok_iff.1 hread
    obtain ⟨params, texts, hparams, htexts, rfl⟩ := mapM_catches_eq_ok_iff.1 hlines
    cases h
    exact ⟨hfits, first :: texts, .cons hfirst (List.forall₂_map_left_iff.2 htexts),
      .attempt hparams⟩
  | raise exception =>
    obtain ⟨value, hvalue, h⟩ := exists_of_bind_eq_ok h
    cases h
    exact ⟨trivial, [value], .cons hvalue .nil, .raise⟩
  | elvis left right =>
    obtain ⟨first, hfirst, h⟩ := exists_of_bind_eq_ok h
    obtain ⟨second, hsecond, h⟩ := exists_of_bind_eq_ok h
    cases h
    exact ⟨trivial, [first, second], .cons hfirst (.cons hsecond .nil), .elvis⟩
  | branch condition yes no =>
    obtain ⟨test, htest, h⟩ := exists_of_bind_eq_ok h
    obtain ⟨first, hfirst, h⟩ := exists_of_bind_eq_ok h
    cases no with
    | none =>
      cases h
      rw [String.append_empty]
      exact ⟨trivial, [test, first], .cons htest (.cons hfirst .nil), .branch⟩
    | some other =>
      obtain ⟨second, hsecond, h⟩ := exists_of_bind_eq_ok h
      cases h
      rw [← String.append_assoc]
      exact ⟨trivial, [test, first, second],
        .cons htest (.cons hfirst (.cons hsecond .nil)), .branchElse⟩
  | binary op left right =>
    obtain ⟨first, hfirst, h⟩ := exists_of_bind_eq_ok h
    obtain ⟨second, hsecond, h⟩ := exists_of_bind_eq_ok h
    cases h
    exact ⟨trivial, [first, second], .cons hfirst (.cons hsecond .nil), .binary⟩

/-- What is put together from what is written for the references of a node is written for it. -/
theorem expr_of_composes {texts : List String} (hx : b.node? e = some x)
    (hfits : b.FormFits x.form)
    (htexts : w.WritesEach d b n (inside depth x.form) (b.references x.form) texts)
    (h : w.Composes d b depth x.form texts text) : w.expr d b (n + 1) depth e = .ok text := by
  obtain ⟨form, type⟩ := x
  rw [expr, hx]
  cases h with
  | const value => exact value
  | param named => exact paramName_of_namesParam named
  | self named => exact bind_eq_ok_iff.2 ⟨_, orFault_eq_ok_iff.2 named, rfl⟩
  | call found named =>
    simp only [found, pure_bind, String.empty_append]
    exact bind_eq_ok_iff.2 ⟨_, orFault_eq_ok_iff.2 named,
      arguments_eq_ok_iff.2 ⟨hfits, _, htexts, rfl⟩⟩
  | memberCall found named =>
    obtain _ | ⟨htarget, hrest⟩ := htexts
    simp only [found, pure_bind]
    exact bind_eq_ok_iff.2 ⟨_, htarget, bind_eq_ok_iff.2 ⟨_, orFault_eq_ok_iff.2 named,
      arguments_eq_ok_iff.2 ⟨hfits, _, hrest, rfl⟩⟩⟩
  | new found named =>
    simp only [found]
    exact bind_eq_ok_iff.2 ⟨_, named, arguments_eq_ok_iff.2 ⟨hfits, _, htexts, rfl⟩⟩
  | block =>
    refine bind_eq_ok_iff.2 ⟨_, Body.read_eq_ok_iff.2 ⟨hfits, rfl⟩, bind_eq_ok_iff.2 ⟨_, ?_, rfl⟩⟩
    exact mapM_append_eq_ok_iff.2 ⟨_, List.forall₂_map_left_iff.1 htexts, rfl⟩
  | ret found named =>
    simp only [found, pure_bind, String.append_empty]
    exact bind_eq_ok_iff.2 ⟨_, orFault_eq_ok_iff.2 named, by rw [← String.append_assoc]; rfl⟩
  | retValue found named =>
    obtain _ | ⟨hvalue, -⟩ := htexts
    simp only [found, pure_bind]
    refine bind_eq_ok_iff.2 ⟨_, orFault_eq_ok_iff.2 named, bind_eq_ok_iff.2 ⟨_, hvalue, ?_⟩⟩
    rw [← String.append_assoc, ← String.append_assoc]
    rfl
  | attempt written =>
    obtain _ | ⟨hfirst, hrest⟩ := htexts
    refine bind_eq_ok_iff.2 ⟨_, hfirst, bind_eq_ok_iff.2 ⟨_, Body.read_eq_ok_iff.2 ⟨hfits, rfl⟩,
      bind_eq_ok_iff.2 ⟨_, ?_, rfl⟩⟩⟩
    exact mapM_catches_eq_ok_iff.2 ⟨_, _, written, List.forall₂_map_left_iff.1 hrest, rfl⟩
  | raise =>
    obtain _ | ⟨hvalue, -⟩ := htexts
    exact bind_eq_ok_iff.2 ⟨_, hvalue, rfl⟩
  | elvis =>
    obtain _ | ⟨hfirst, _ | ⟨hsecond, -⟩⟩ := htexts
    exact bind_eq_ok_iff.2 ⟨_, hfirst, bind_eq_ok_iff.2 ⟨_, hsecond, rfl⟩⟩
  | branch =>
    obtain _ | ⟨htest, _ | ⟨hfirst, -⟩⟩ := htexts
    refine bind_eq_ok_iff.2 ⟨_, htest, bind_eq_ok_iff.2 ⟨_, hfirst, ?_⟩⟩
    simp only [pure_bind, String.append_empty]
    rfl
  | branchElse =>
    obtain _ | ⟨htest, _ | ⟨hfirst, _ | ⟨hsecond, -⟩⟩⟩ := htexts
    refine bind_eq_ok_iff.2 ⟨_, htest, bind_eq_ok_iff.2 ⟨_, hfirst,
      bind_eq_ok_iff.2 ⟨_, hsecond, ?_⟩⟩⟩
    simp only [pure_bind, ← String.append_assoc]
    rfl
  | binary =>
    obtain _ | ⟨hfirst, _ | ⟨hsecond, -⟩⟩ := htexts
    exact bind_eq_ok_iff.2 ⟨_, hfirst, bind_eq_ok_iff.2 ⟨_, hsecond, rfl⟩⟩

/-! ## All nodes -/

/-- The paths from a place lead to nodes that can be resolved. -/
def ResolvesFrom (w : Printer) (d : Declaration) (b : Body) (scope : List ParamSymbol)
    (e : ExprRef) : Prop :=
  ∀ scope' e', b.Path scope e scope' e' → ∃ x, b.node? e' = some x ∧ w.Resolves d b x.form

/-- Where the nodes can be resolved, only what is spelled is written.  The induction is on the depth
that is looked at. -/
theorem spells_of_expr {scope : List ParamSymbol} (hresolves : w.ResolvesFrom d b scope e)
    (h : w.expr d b n depth e = .ok text) : w.Spells d b depth e text := by
  induction n generalizing scope e depth text with
  | zero => cases h
  | succ n ih =>
    obtain ⟨x, hx, hnode⟩ := hresolves scope e (.here scope e)
    obtain ⟨hfits, texts, htexts, hform⟩ := exists_composes hx hnode h
    obtain ⟨hlength, heach⟩ := List.forall₂_iff_zip.1 htexts
    refine .node hx hfits hlength (fun r t hmem => ?_) hform
    have hr : r ∈ b.references x.form := (List.of_mem_zip hmem).1
    exact ih (fun scope' e' hpath => hresolves scope' e' (.step hx hr hpath)) (heach hmem)

/-- What is spelled is written, as far as is looked. -/
theorem expr_of_spells (h : w.Spells d b depth e text) (hdepth : b.WithinDepth n e) :
    w.expr d b n depth e = .ok text := by
  induction n generalizing e depth text with
  | zero => exact hdepth.elim
  | succ n ih =>
    obtain ⟨hx, hfits, hlength, heach, hform⟩ := h
    refine expr_of_composes hx hfits (List.forall₂_iff_zip.2 ⟨hlength, ?_⟩) hform
    intro r t hmem
    exact ih (heach r t hmem) (hdepth.reference hx (List.of_mem_zip hmem).1)

/-- Where the nodes can be resolved and the paths come to an end, what is spelled is what is
written. -/
theorem expr_eq_ok_iff_spells {scope : List ParamSymbol} (hresolves : w.ResolvesFrom d b scope e)
    (hdepth : b.WithinDepth n e) :
    w.expr d b n depth e = .ok text ↔ w.Spells d b depth e text :=
  ⟨spells_of_expr hresolves, fun h => expr_of_spells h hdepth⟩

end Printer

/-! ## What an approval resolves -/

namespace Surroundings

variable {s : Surroundings} {d other : Declaration} {b : Body} {w : Printer}

/-- In a safe body, whatever a node looks up is found. -/
theorem BodySafe.resolves (h : s.BodySafe d b) (hlookup : w.lookup = s.lookup) :
    w.ResolvesFrom d b (d.params.map (·.symbol)) b.root := by
  intro scope e hpath
  obtain ⟨⟨form, type⟩, hx, -, hform⟩ := h.nodes scope e hpath
  refine ⟨_, hx, ?_⟩
  cases form with
  | param p =>
    -- the handlers around the node are handlers of the body, so writing comes across them too
    rcases Body.mem_scope_of_path hpath hform with hown | hhandler
    · obtain ⟨own, hmem, rfl⟩ := List.mem_map.1 hown
      refine .inl (Option.isSome_iff_exists.1 ?_)
      exact List.find?_isSome.2 ⟨own, hmem, by simp⟩
    · exact .inr hhandler
  | call callee receiver arguments =>
    obtain ⟨f, hf, -⟩ := hform
    exact ⟨f, hlookup ▸ hf⟩
  | new constr arguments =>
    obtain ⟨k, hk, -⟩ := hform
    exact ⟨k, hlookup ▸ hk⟩
  | ret target value => exact hform
  | _ => trivial

/-- A declaration that is approved is written without a placeholder and with a label behind every
return, if its names and types are known and all handlers of its body are in range: wherever writing
comes to, it finds what it looks up.  What keeps it from coming to an end is only a name that what
the declaration refers to lends to it and that is unknown. -/
theorem spelled_of_approved (happroved : (s.check d other).run = .ok (.ok ()))
    (hlookup : w.lookup = s.lookup) (hnames : d.NamesKnown w.names) (htypes : d.TypesKnown w.types)
    (hfit : ∀ b, d.body = some b → b.HandlersFit) :
    ∃ b, d.body = some b ∧ w.ResolvesFrom d b (d.params.map (·.symbol)) b.root ∧
      ((∃ header code, w.header d = .ok header ∧ w.declaration d = .ok (header ++ " " ++ code) ∧
          w.Spells d b 0 b.root code) ∨
        ∃ n, w.declaration d = .error (.unknownName n) ∧ w.Lends n ∧ w.names.text? n = none) := by
  obtain ⟨b, hbody, hsafe⟩ := exists_bodySafe happroved
  have hresolves := hsafe.resolves hlookup
  refine ⟨b, hbody, hresolves, ?_⟩
  have hwrites : w.Writes (w.declaration d) :=
    Printer.writes_declaration hnames hbody htypes.params htypes.returnType (hfit b hbody)
      (fun _ _ _ hpath hx => hsafe.reads hbody htypes.handlers hpath hx) hsafe.depth
  rcases hwrites with ⟨text, htext⟩ | hlent
  · obtain ⟨header, hheader, hrest⟩ := exists_of_bind_eq_ok htext
    rw [hbody] at hrest
    obtain ⟨code, hcode, hall⟩ := exists_of_bind_eq_ok hrest
    cases hall
    exact .inl ⟨header, code, hheader, htext, Printer.spells_of_expr hresolves hcode⟩
  · exact .inr hlent

end Surroundings

namespace Sample

/-- Answers what is fetched.  What is thrown is answered as well, and what that throws is thrown on
together with it. -/
def nestingBody : Body where
  nodes := #[⟨.param ⟨1⟩, .string⟩, ⟨.call ⟨5⟩ none ⟨0, 1⟩, .string⟩,
    ⟨.ret ⟨0⟩ (some ⟨1⟩), .nothing⟩, ⟨.block ⟨0, 1⟩, .nothing⟩,
    ⟨.param ⟨2⟩, .any⟩, ⟨.ret ⟨0⟩ (some ⟨4⟩), .nothing⟩, ⟨.block ⟨1, 1⟩, .nothing⟩,
    ⟨.param ⟨3⟩, .any⟩, ⟨.new ⟨0⟩ ⟨1, 2⟩, .any⟩, ⟨.raise (some ⟨8⟩), .nothing⟩,
    ⟨.block ⟨2, 1⟩, .nothing⟩, ⟨.attempt (some ⟨6⟩) ⟨0, 1⟩, .nothing⟩, ⟨.block ⟨3, 1⟩, .nothing⟩,
    ⟨.attempt (some ⟨3⟩) ⟨1, 1⟩, .nothing⟩, ⟨.block ⟨4, 1⟩, .nothing⟩]
  statements := #[some ⟨2⟩, some ⟨5⟩, some ⟨9⟩, some ⟨11⟩, some ⟨13⟩]
  arguments := #[⟨some ⟨0⟩, ⟨9⟩⟩, ⟨some ⟨4⟩, ⟨10⟩⟩, ⟨some ⟨7⟩, ⟨11⟩⟩]
  handlers := #[⟨⟨⟨3⟩, ⟨5⟩, .any, .none, .source⟩, some ⟨10⟩⟩,
    ⟨⟨⟨2⟩, ⟨4⟩, .any, .none, .source⟩, some ⟨12⟩⟩]
  labels := #[⟨⟨1⟩, some ⟨1⟩⟩]
  root := some ⟨14⟩

/-- A function of one text that is called `load`. -/
def loading (symbol : FunctionSymbol) (param : ParamSymbol) (body : Option Body) : Declaration :=
  { textFunction symbol param body with
    id := .topLevel .empty ⟨1⟩
    params := [⟨param, ⟨2⟩, .string, .none, .source⟩] }

/-- Knows a function to fetch with, and a failure of two causes. -/
def fetching : Lookup where
  declaration s :=
    if s = ⟨5⟩ then some { textFunction ⟨5⟩ ⟨9⟩ none with id := .topLevel .empty ⟨3⟩ } else none
  constr s :=
    if s = ⟨0⟩ then
      some ⟨⟨0⟩, ⟨.empty, ⟨6⟩⟩,
        [⟨⟨10⟩, ⟨4⟩, .any, .none, .source⟩, ⟨⟨11⟩, ⟨5⟩, .any, .none, .source⟩]⟩
    else none

/-- What the function below is written with. -/
def nestingPrinter : Printer where
  lookup := fetching
  types := .fresh
  names := NameTable.fresh.internEach ["load", "text", "fetch", "cause", "other", "Failure"]

/-- A function with a `try` in a handler. -/
def nesting : Declaration := loading ⟨1⟩ ⟨1⟩ (some nestingBody)

theorem nesting_namesKnown : nesting.NamesKnown nestingPrinter.names where
  id := by decide +kernel
  params := by decide +kernel
  body := by
    rintro _ ⟨⟩
    exact ⟨by decide +kernel, by decide +kernel, by decide +kernel⟩

theorem nesting_typesKnown : nesting.TypesKnown nestingPrinter.types where
  params := by decide +kernel
  returnType := by decide +kernel
  handlers := by
    refine .of_all ?_
    rintro _ ⟨⟩
    decide +kernel

end Sample

open Sample in
/-- Handlers inside handlers are written, with the parameters of both. -/
theorem Surroundings.spelled_of_approved_nesting :
    (((Surroundings.mk fetching .fresh).check nesting (loading ⟨0⟩ ⟨0⟩ none)).run = .ok (.ok ()) ∧
      nesting.NamesKnown nestingPrinter.names ∧ nesting.TypesKnown nestingPrinter.types ∧
      nestingBody.HandlersFit) ∧
    ∃ header code, nestingPrinter.declaration nesting = .ok (header ++ " " ++ code) ∧
      nestingPrinter.Spells nesting nestingBody 0 nestingBody.root code := by
  have happroved : ((Surroundings.mk fetching .fresh).check nesting
      (loading ⟨0⟩ ⟨0⟩ none)).run = .ok (.ok ()) := by decide +kernel
  have hspans : nestingBody.SpansFit := by decide
  have hfit := hspans.handlersFit
  obtain ⟨b, hbody, -, hwritten⟩ := spelled_of_approved happroved rfl nesting_namesKnown
    nesting_typesKnown (by rintro _ ⟨⟩; exact hfit)
  cases hbody
  refine ⟨⟨happroved, nesting_namesKnown, nesting_typesKnown, hfit⟩, ?_⟩
  rcases hwritten with ⟨header, code, -, hall, hspelled⟩ | ⟨n, herror, -⟩
  · exact ⟨header, code, hall, hspelled⟩
  · have hsome : (nestingPrinter.declaration nesting).toOption.isSome = true := by decide +kernel
    rw [herror] at hsome
    cases hsome

open Sample in
/-- Each return has its label, and the inner handler reads the parameter of the outer one. -/
example : nestingPrinter.declaration nesting = .ok
    "public fun load(text: String): String \x7b
    try \x7b
        return@load fetch(text)
    \x7d catch (cause: Any) \x7b
        try \x7b
            return@load cause
        \x7d catch (other: Any) \x7b
            throw Failure(cause, other)
        \x7d
    \x7d
\x7d" := by
  decide +kernel

end Companions
