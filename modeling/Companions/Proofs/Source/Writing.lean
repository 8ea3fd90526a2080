import Companions.Proofs.Body.References
import Companions.Source
import Mathlib.Data.List.Forall2
set_option autoImplicit false

/-!
# What can be written

Writing a declaration reads names, types, nodes and spans.  Some of the names are not its own: they
are lent by what it refers to (`Printer.Lends`).  Where all else is there, a declaration is written,
unless a lent name is unknown (`Printer.writes_declaration`).
-/

namespace Companions

/-! ## Names -/

/-- The table holds the name. -/
def NameTable.Knows (t : NameTable) (n : Name) : Prop := ∃ text, t.text? n = some text

instance (t : NameTable) (n : Name) : Decidable (t.Knows n) :=
  decidable_of_iff ((t.text? n).isSome) Option.isSome_iff_exists

/-- The names that the path of the class is written with. -/
def ClassId.names (c : ClassId) : List Name := [c.package, c.name]

/-- The names that the path of the callable is written with. -/
def CallableId.names (id : CallableId) : List Name :=
  match id.owner with
  | some owner => id.name :: owner.names
  | none => [id.name, id.package]

theorem ClassId.name_mem_names (c : ClassId) : c.name ∈ c.names := by
  simp [names]

theorem CallableId.name_mem_names (id : CallableId) : id.name ∈ id.names := by
  unfold names
  split <;> simp

/-- A member is written with the names of its class. -/
theorem CallableId.mem_names_of_owner {id : CallableId} {c : ClassId} {n : Name}
    (h : id.owner = some c) (hn : n ∈ c.names) : n ∈ id.names := by
  rw [names, h]
  exact List.mem_cons_of_mem _ hn

/-- The names that a node is written with itself. -/
def ExprForm.names : ExprForm → List Name
  | .const (.string text) => [text]
  | .self type => [type.name]
  | _ => []

/-- The names of a body are known. -/
structure Body.NamesKnown (names : NameTable) (b : Body) : Prop where
  nodes : ∀ x ∈ b.nodes, ∀ n ∈ x.form.names, names.Knows n
  labels : ∀ l ∈ b.labels, names.Knows l.name
  handlers : ∀ h ∈ b.handlers, names.Knows h.param.name

/-- The names of a declaration are known. -/
structure Declaration.NamesKnown (names : NameTable) (d : Declaration) : Prop where
  id : ∀ n ∈ d.id.names, names.Knows n
  params : ∀ p ∈ d.params, names.Knows p.name
  body : ∀ b, d.body = some b → b.NamesKnown names

/-- The spans of handlers are in range, also those of nodes that no path leads to. -/
def Body.HandlersFit (b : Body) : Prop :=
  ∀ x ∈ b.nodes, ∀ block handlers, x.form = .attempt block handlers →
    Body.Fits b.handlers handlers

/-- Where all spans are in range, those of handlers are. -/
theorem Body.SpansFit.handlersFit {b : Body} (h : b.SpansFit) : b.HandlersFit := by
  intro x hx block handlers hform
  have hfits := h x hx
  rwa [hform] at hfits

/-! ## Texts in a row -/

/-- Items are all written exactly if each of them is. -/
theorem mapM_eq_ok_iff {α β : Type} {write : α → Except Fault β} {items : List α}
    {texts : List β} :
    items.mapM write = .ok texts ↔ List.Forall₂ (fun a text => write a = .ok text) items texts := by
  induction items generalizing texts with
  | nil =>
    rw [List.mapM_nil, List.forall₂_nil_left_iff]
    exact ⟨fun h => (Except.ok.inj h).symm, fun h => congrArg Except.ok h.symm⟩
  | cons a rest ih =>
    rw [List.mapM_cons, bind_eq_ok_iff]
    constructor
    · rintro ⟨first, hfirst, hrest⟩
      obtain ⟨others, hothers, hall⟩ := exists_of_bind_eq_ok hrest
      cases hall
      exact .cons hfirst (ih.1 hothers)
    · rintro (_ | ⟨hfirst, hrest⟩)
      refine ⟨_, hfirst, ?_⟩
      rw [ih.2 hrest]
      rfl

/-! ## Lent names -/

namespace Printer

/-- A name that is written for what a declaration refers to: the name of a callee, or one of the
names of a class. -/
inductive Lends (w : Printer) : Name → Prop
  | callee {symbol : FunctionSymbol} {f : Declaration}
      (found : w.lookup.declaration symbol = some f) : Lends w f.id.name
  | constructed {symbol : ConstructorSymbol} {k : Constructor} {n : Name}
      (found : w.lookup.constr symbol = some k) (mem : n ∈ k.type.names) : Lends w n
  | typed {type : TypeId} {c : ClassId} {nullability : Nullability} {n : Name}
      (found : w.types.get? type = some ⟨.object c, nullability⟩) (mem : n ∈ c.names) : Lends w n

/-- There is something to write, or a lent name is unknown. -/
def Writes {α : Type} (w : Printer) (x : Except Fault α) : Prop :=
  (∃ a, x = .ok a) ∨ ∃ n, x = .error (.unknownName n) ∧ w.Lends n ∧ w.names.text? n = none

variable {w : Printer} {α β : Type}

namespace Writes

theorem of_ok {a : α} : w.Writes (.ok a : Except Fault α) := .inl ⟨a, rfl⟩

theorem bind {x : Except Fault α} {f : α → Except Fault β} (hx : w.Writes x)
    (hf : ∀ a, x = .ok a → w.Writes (f a)) : w.Writes (x >>= f) := by
  rcases hx with ⟨a, rfl⟩ | ⟨n, rfl, hlent⟩
  · exact hf a rfl
  · exact .inr ⟨n, rfl, hlent⟩

/-- What comes to a text by a last step. -/
theorem map {x : Except Fault α} {f : α → β} (hx : w.Writes x) :
    w.Writes (x >>= fun a => .ok (f a)) :=
  hx.bind fun _ _ => of_ok

theorem mapM {items : List α} {f : α → Except Fault β} (h : ∀ a ∈ items, w.Writes (f a)) :
    w.Writes (items.mapM f) := by
  induction items with
  | nil => exact of_ok
  | cons a rest ih =>
    rw [List.mapM_cons]
    refine (h a List.mem_cons_self).bind fun _ _ => ?_
    exact (ih fun a ha => h a (List.mem_cons_of_mem _ ha)).map

end Writes

/-! ## Names and types -/

theorem writes_text {n : Name} (h : w.names.Knows n) : w.Writes (w.names.text n) := by
  obtain ⟨text, htext⟩ := h
  exact .inl ⟨text, orFault_eq_ok_iff.2 htext⟩

theorem writes_text_of_lends {n : Name} (h : w.Lends n) : w.Writes (w.names.text n) := by
  cases htext : w.names.text? n with
  | some text => exact writes_text ⟨text, htext⟩
  | none => exact .inr ⟨n, by rw [NameTable.text, htext]; rfl, h, htext⟩

theorem writes_class {c : ClassId} (h : ∀ n ∈ c.names, w.Writes (w.names.text n)) :
    w.Writes (c.display w.names) := by
  refine (h c.package (by simp [ClassId.names])).bind fun _ _ => ?_
  exact (h c.name (by simp [ClassId.names])).map

theorem writes_callable {id : CallableId} (h : ∀ n ∈ id.names, w.names.Knows n) :
    w.Writes (id.display w.names) := by
  obtain ⟨package, owner, name⟩ := id
  cases owner with
  | some owner =>
    refine (writes_text (h name (by simp [CallableId.names]))).bind fun _ _ => ?_
    refine (writes_class fun n hn => writes_text (h n ?_)).map
    exact List.mem_cons_of_mem _ hn
  | none =>
    refine (writes_text (h name (by simp [CallableId.names]))).bind fun _ _ => ?_
    exact (writes_text (h package (by simp [CallableId.names]))).map

/-- A type that is known is written, with the names of its class if it has one. -/
theorem writes_type {type : TypeId} (h : w.types.contains type = true) :
    w.Writes (w.types.format w.names type) := by
  obtain ⟨⟨kind, nullability⟩, htype⟩ := TypePool.contains_iff.1 h
  unfold TypePool.format TypePool.get
  rw [htype]
  cases kind with
  | object c => exact (writes_class fun n hn => writes_text_of_lends (.typed htype hn)).map
  | _ => exact .of_ok

theorem writes_parameter {p : Parameter} (hname : w.names.Knows p.name)
    (htype : w.types.contains p.type = true) : w.Writes (w.parameter p) :=
  (writes_text hname).bind fun _ _ => (writes_type htype).map

/-! ## Nodes -/

/-- Looking for the handler with a parameter comes to an answer, and what is found is a handler of
the body. -/
theorem exists_handlerOf? {b : Body} (p : ParamSymbol) {nodes : List Expr}
    (hfit : ∀ x ∈ nodes, ∀ block handlers, x.form = .attempt block handlers →
      Body.Fits b.handlers handlers) :
    ∃ found, handlerOf? b p nodes = .ok found ∧ ∀ h ∈ found, h ∈ b.handlers := by
  induction nodes with
  | nil => exact ⟨none, rfl, fun _ h => by cases h⟩
  | cons x rest ih =>
    obtain ⟨found, hrest, hmem⟩ := ih fun y hy => hfit y (List.mem_cons_of_mem _ hy)
    unfold handlerOf?
    split
    · next block handlers hform =>
      have hread : b.readHandlers handlers = .ok (Body.items b.handlers handlers) :=
        Body.read_of_fits (hfit x List.mem_cons_self block handlers hform)
      rw [hread]
      cases hfind : (Body.items b.handlers handlers).find? (·.param.symbol = p) with
      | some h =>
        refine ⟨some h, by simp [hfind, bind, Except.bind, pure, Except.pure], ?_⟩
        rintro _ ⟨⟩
        exact Body.mem_of_mem_items (List.mem_of_find?_eq_some hfind)
      | none => exact ⟨found, by simpa [hfind, bind, Except.bind] using hrest, hmem⟩
    · exact ⟨found, hrest, hmem⟩

variable {d : Declaration} {b : Body}

theorem writes_paramName (hnames : d.NamesKnown w.names) (hbody : d.body = some b)
    (hfit : b.HandlersFit) (p : ParamSymbol) : w.Writes (w.paramName d b p) := by
  unfold paramName
  cases hown : d.param? p with
  | some own => exact writes_text (hnames.params own (List.mem_of_find?_eq_some hown))
  | none =>
    obtain ⟨found, hfound, hmem⟩ := exists_handlerOf? p fun x hx => hfit x (Array.mem_def.2 hx)
    dsimp only
    rw [hfound]
    cases found with
    | some h => exact writes_text ((hnames.body b hbody).handlers h (hmem h rfl))
    | none => exact .of_ok

/-- What a node refers to with its own spans and types is there. -/
def Reads (w : Printer) (b : Body) (form : ExprForm) : Prop :=
  b.FormFits form ∧ ∀ h ∈ b.handlersOf form, w.types.contains h.param.type = true

theorem writes_arguments {n depth : Nat} {arguments : Span .arguments}
    (hfit : Body.Fits b.arguments arguments)
    (h : ∀ a ∈ Body.items b.arguments arguments, w.Writes (w.expr d b n depth a.value))
    (before : String) :
    w.Writes (do
      let arguments ← (← b.readArguments arguments).mapM fun a => w.expr d b n depth a.value
      return before ++ "(" ++ String.intercalate ", " arguments ++ ")") := by
  have hread : b.readArguments arguments = .ok (Body.items b.arguments arguments) :=
    Body.read_of_fits hfit
  rw [hread]
  exact (Writes.mapM h).map

/-- A node is written if what it refers to is. -/
theorem writes_node (hnames : d.NamesKnown w.names) (hbody : d.body = some b)
    (hfit : b.HandlersFit) {e : ExprRef} {x : Expr} (hx : b.node? e = some x)
    (hreads : w.Reads b x.form) {n : Nat}
    (hrefs : ∀ r ∈ b.references x.form, ∀ depth, w.Writes (w.expr d b n depth r.place))
    (depth : Nat) : w.Writes (w.expr d b (n + 1) depth e) := by
  have hmem := Body.mem_nodes_of_node? hx
  have hbodyNames := hnames.body b hbody
  obtain ⟨form, type⟩ := x
  obtain ⟨hspan, htypes⟩ := hreads
  rw [expr, hx]
  -- a look-up decides which names are written, so it is decided before the places are written
  cases form with
  | const value =>
    cases value with
    | string text =>
      exact (writes_text (hbodyNames.nodes _ hmem text (by simp [ExprForm.names]))).map
    | boolean value => cases value <;> exact .of_ok
    | _ => exact .of_ok
  | param p => exact writes_paramName hnames hbody hfit p
  | self owner =>
    exact (writes_text (hbodyNames.nodes _ hmem owner.name (by simp [ExprForm.names]))).map
  | call callee receiver arguments =>
    have hargs := fun before => writes_arguments hspan (fun a ha => hrefs (.plain a.value)
      (List.mem_append_right _ (List.mem_map_of_mem ha)) depth) before
    dsimp only
    cases hf : w.lookup.declaration callee with
    | some f =>
      have hname := writes_text_of_lends (.callee hf)
      cases receiver with
      | none => exact hname.bind fun _ _ => hargs _
      | some r =>
        refine (hrefs (.plain (some r)) (by simp [Body.references]) depth).bind fun _ _ => ?_
        exact hname.bind fun _ _ => hargs _
    | none =>
      cases receiver with
      | none => exact hargs _
      | some r =>
        refine (hrefs (.plain (some r)) (by simp [Body.references]) depth).bind fun _ _ => ?_
        exact hargs _
  | new constr arguments =>
    have hargs := fun before => writes_arguments hspan (fun a ha => hrefs (.plain a.value)
      (List.mem_map_of_mem ha) depth) before
    dsimp only
    cases hk : w.lookup.constr constr with
    | some k =>
      refine (writes_class fun name hname => ?_).bind fun _ _ => hargs _
      exact writes_text_of_lends (.constructed hk hname)
    | none => exact hargs _
  | block statements =>
    have hread : b.readStatements statements = .ok (Body.items b.statements statements) :=
      Body.read_of_fits hspan
    dsimp only
    rw [hread]
    refine (Writes.mapM fun c hc => ?_).map
    exact (hrefs (.plain c) (List.mem_map_of_mem hc) (depth + 1)).map
  | ret target value =>
    dsimp only
    cases hlabel : b.label? target with
    | some l =>
      have hname := writes_text (hbodyNames.labels l (Array.mem_of_getElem? hlabel))
      cases value with
      | some v =>
        refine hname.bind fun _ _ => ?_
        exact (hrefs (.plain (some v)) (by simp [Body.references]) depth).map
      | none => exact hname.map
    | none =>
      cases value with
      | some v => exact (hrefs (.plain (some v)) (by simp [Body.references]) depth).map
      | none => exact .of_ok
  | attempt block handlers =>
    have hread : b.readHandlers handlers = .ok (Body.items b.handlers handlers) :=
      Body.read_of_fits hspan
    refine (hrefs (.plain block) (by simp [Body.references]) depth).bind fun _ _ => ?_
    rw [hread]
    refine (Writes.mapM fun h hh => ?_).map
    refine (writes_parameter (hbodyNames.handlers h ?_) (htypes h hh)).bind fun _ _ => ?_
    · exact Body.mem_of_mem_items hh
    · exact (hrefs (.handling h) (List.mem_cons_of_mem _ (List.mem_map_of_mem hh)) depth).map
  | raise exception => exact (hrefs (.plain exception) (by simp [Body.references]) depth).map
  | elvis left right =>
    refine (hrefs (.plain left) (by simp [Body.references]) depth).bind fun _ _ => ?_
    exact (hrefs (.plain right) (by simp [Body.references]) depth).map
  | branch condition yes no =>
    refine (hrefs (.plain condition) (by simp [Body.references]) depth).bind fun _ _ => ?_
    refine (hrefs (.plain yes) (by simp [Body.references]) depth).bind fun _ _ => ?_
    cases no with
    | some other => exact (hrefs (.plain (some other)) (by simp [Body.references]) depth).map
    | none => exact .of_ok
  | binary op left right =>
    refine (hrefs (.plain left) (by simp [Body.references]) depth).bind fun _ _ => ?_
    exact (hrefs (.plain right) (by simp [Body.references]) depth).map

/-- What stands at a place is written if all nodes on the paths from there read what is there and
the paths come to an end. -/
theorem writes_expr (hnames : d.NamesKnown w.names) (hbody : d.body = some b)
    (hfit : b.HandlersFit) {n : Nat} {scope : List ParamSymbol} {e : ExprRef}
    (hreads : ∀ scope' e' x, b.Path scope e scope' e' → b.node? e' = some x → w.Reads b x.form)
    (hdepth : b.WithinDepth n e) (depth : Nat) : w.Writes (w.expr d b n depth e) := by
  induction n generalizing scope e depth with
  | zero => exact hdepth.elim
  | succ n ih =>
    cases hx : b.node? e with
    | none =>
      rw [expr, hx]
      exact .of_ok
    | some x =>
      refine writes_node hnames hbody hfit hx (hreads scope e x (.here scope e) hx) ?_ depth
      intro r hr
      exact ih (fun scope' e' x' hpath => hreads scope' e' x' (.step hx hr hpath))
        (hdepth.reference hx hr)

/-! ## Declarations -/

theorem writes_header (hnames : d.NamesKnown w.names)
    (hparams : ∀ p ∈ d.params, w.types.contains p.type = true)
    (hreturn : w.types.contains d.returnType = true) : w.Writes (w.header d) := by
  refine (writes_callable hnames.id).bind fun _ _ => ?_
  refine (Writes.mapM fun p hp => writes_parameter (hnames.params p hp) (hparams p hp)).bind
    fun _ _ => ?_
  exact (writes_type hreturn).map

/-- A declaration is written if its names and types are known, and the nodes on the paths of its
body read what is there. -/
theorem writes_declaration (hnames : d.NamesKnown w.names) (hbody : d.body = some b)
    (hparams : ∀ p ∈ d.params, w.types.contains p.type = true)
    (hreturn : w.types.contains d.returnType = true) (hfit : b.HandlersFit)
    {scope : List ParamSymbol}
    (hreads : ∀ scope' e x, b.Path scope b.root scope' e → b.node? e = some x → w.Reads b x.form)
    (hdepth : b.WithinDepth (b.size + 1) b.root) : w.Writes (w.declaration d) := by
  refine (writes_header hnames hparams hreturn).bind fun _ _ => ?_
  rw [hbody]
  exact (writes_expr hnames hbody hfit hreads hdepth 0).map

end Printer

end Companions
