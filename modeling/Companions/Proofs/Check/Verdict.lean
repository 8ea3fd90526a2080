import Companions.Proofs.Check.WellFormed
set_option autoImplicit false

/-!
# The verdict of the check

A check decides a proposition if it never faults and approves exactly when the proposition holds.
What the steps of a check decide is put together to what the whole check decides
(`Checking.Decides`), and with it the check of a companion is shown to be exact: on an acyclic body
whose spans are in range it approves the companions and nothing else.
-/

namespace Companions

namespace Checking

/-- The check comes to a verdict, and it approves exactly if `P` holds. -/
def Decides (c : Checking Unit) (P : Prop) : Prop :=
  ∃ verdict, c.run = .ok verdict ∧ (verdict = .ok () ↔ P)

theorem Decides.congr {c : Checking Unit} {P Q : Prop} (h : Decides c P) (hPQ : P ↔ Q) :
    Decides c Q := by
  obtain ⟨verdict, hrun, hiff⟩ := h
  exact ⟨verdict, hrun, hiff.trans hPQ⟩

/-- A check that decides a proposition approves exactly if it holds. -/
theorem Decides.run_iff {c : Checking Unit} {P : Prop} (h : Decides c P) :
    c.run = .ok (.ok ()) ↔ P := by
  obtain ⟨verdict, hrun, hiff⟩ := h
  rw [hrun, Except.ok.injEq]
  exact hiff

/-- What is there to be read goes on into the check. -/
@[simp] theorem liftM_ok {α : Type} (a : α) :
    (liftM (Except.ok a : Except Fault α) : Checking α) = pure a := rfl

theorem decides_pure : Decides (pure ()) True := ⟨.ok (), rfl, by simp⟩

theorem decides_throw (wrong : Malformed) : Decides (throw wrong) False :=
  ⟨.error wrong, rfl, by simp⟩

theorem decides_require (condition : Bool) (wrong : Malformed) :
    Decides (require condition wrong) (condition = true) := by
  cases condition
  · exact (decides_throw wrong).congr (by simp)
  · exact decides_pure.congr (by simp)

/-- After an approval the rest of a check decides. -/
theorem run_seq_of_ok {c d : Checking Unit} (h : c.run = .ok (.ok ())) : (do c; d).run = d.run := by
  rw [ExceptT.run_bind, h]
  rfl

/-- The rest of a check does not matter once something is wrong. -/
theorem run_seq_of_error {c d : Checking Unit} {wrong : Malformed}
    (h : c.run = .ok (.error wrong)) : (do c; d).run = .ok (.error wrong) := by
  rw [ExceptT.run_bind, h]
  rfl

/-- The second of two checks counts only where the first approves. -/
theorem Decides.seq {c d : Checking Unit} {P Q : Prop} (hc : Decides c P) (hd : P → Decides d Q) :
    Decides (do c; d) (P ∧ Q) := by
  obtain ⟨verdict, hrun, hiff⟩ := hc
  cases verdict with
  | error wrong =>
    have hP : ¬ P := fun hP => by cases hiff.2 hP
    exact ⟨.error wrong, run_seq_of_error hrun, by simp [hP]⟩
  | ok u =>
    have hP : P := hiff.1 rfl
    obtain ⟨verdict', hrun', hiff'⟩ := hd hP
    exact ⟨verdict', (run_seq_of_ok hrun).trans hrun', hiff'.trans (by simp [hP])⟩

/-- What is looked up has to be there, and the rest of the check is about what is found. -/
theorem decides_found {α : Type} {answer : Option α} {wrong : Malformed} {f : α → Checking Unit}
    {P : α → Prop} (h : ∀ a, answer = some a → Decides (f a) (P a)) :
    Decides (found answer wrong >>= f) (∃ a, answer = some a ∧ P a) := by
  cases answer with
  | none => exact (decides_throw wrong).congr (by simp)
  | some a => exact (h a rfl).congr (by simp)

/-- Every item of a list has to pass. -/
theorem decides_forM {α : Type} {l : List α} {f : α → Checking Unit} {P : α → Prop}
    (h : ∀ a ∈ l, Decides (f a) (P a)) : Decides (l.forM f) (∀ a ∈ l, P a) := by
  induction l with
  | nil => exact decides_pure.congr (by simp)
  | cons a rest ih =>
    have ha := h a (List.mem_cons_self)
    have hrest := ih fun a ha => h a (List.mem_cons_of_mem _ ha)
    exact (ha.seq fun _ => hrest).congr (by simp)

end Checking

open Checking

/-! ## Parameters, labels and arguments -/

theorem firstMismatch_eq_none_iff {provenance : Provenance} {index : Nat}
    {pairs : List (Parameter × Parameter)} :
    firstMismatch provenance index pairs = none ↔
      ∀ pair ∈ pairs, pair.1.Repeats pair.2 provenance := by
  induction pairs generalizing index with
  | nil => simp [firstMismatch]
  | cons pair rest ih =>
    obtain ⟨own, other⟩ := pair
    rw [firstMismatch]
    split
    · next h =>
      rw [ih, List.forall_mem_cons]
      exact ⟨fun hrest => ⟨Parameter.mirrors_iff.1 h, hrest⟩, fun h => h.2⟩
    · next h =>
      simp only [reduceCtorEq, false_iff]
      exact fun hall => h (Parameter.mirrors_iff.2 (hall _ List.mem_cons_self))

theorem decides_checkParams (d other : Declaration) :
    Decides (checkParams d other)
      (List.Forall₂ (fun own theirs => own.Repeats theirs d.provenance) d.params other.params) := by
  refine Decides.congr (P := _ ∧ ∀ pair ∈ d.params.zip other.params,
    pair.1.Repeats pair.2 d.provenance) ((decides_require _ _).seq fun _ => ?_) ?_
  · cases h : firstMismatch d.provenance 0 (d.params.zip other.params) with
    | none => exact decides_pure.congr (by simpa using firstMismatch_eq_none_iff.1 h)
    | some index =>
      refine (decides_throw _).congr (iff_of_false not_false fun hall => ?_)
      rw [firstMismatch_eq_none_iff.2 hall] at h
      cases h
  · rw [List.forall₂_iff_zip, beq_iff_eq]
    simp

/-- Every label leaves the function. -/
theorem decides_checkLabels (symbol : FunctionSymbol) (index : Nat) (labels : List Label) :
    Decides (checkLabels symbol index labels) (∀ l ∈ labels, l.target = some symbol) := by
  induction labels generalizing index with
  | nil => exact decides_pure.congr (by simp)
  | cons l rest ih =>
    rw [checkLabels]
    cases h : l.target with
    | none => exact (decides_throw _).congr (by simp [h])
    | some target =>
      refine ((decides_require _ _).seq fun _ => ih (index + 1)).congr ?_
      simp [h]

/-- Every argument is meant for the parameter beside it. -/
theorem decides_checkBinding (node : ExprRef) (index : Nat) (pairs : List (Argument × Parameter)) :
    Decides (checkBinding node index pairs) (∀ pair ∈ pairs, pair.1.param = pair.2.symbol) := by
  induction pairs generalizing index with
  | nil => exact decides_pure.congr (by simp)
  | cons pair rest ih =>
    obtain ⟨a, p⟩ := pair
    exact ((decides_require _ _).seq fun _ => ih (index + 1)).congr (by simp)

/-- As many arguments as parameters, each meant for the parameter beside it: the arguments name the
parameters position by position. -/
theorem map_param_eq_iff {arguments : List Argument} {params : List Parameter} :
    arguments.map (·.param) = params.map (·.symbol) ↔
      arguments.length = params.length ∧
        ∀ pair ∈ arguments.zip params, pair.1.param = pair.2.symbol := by
  induction arguments generalizing params with
  | nil => cases params <;> simp
  | cons a rest ih =>
    cases params with
    | nil => simp
    | cons p params =>
      simp only [List.map_cons, List.cons.injEq, ih, List.length_cons, Nat.add_right_cancel_iff,
        List.zip_cons_cons, List.forall_mem_cons]
      exact and_left_comm

/-! ## Nodes -/

namespace Surroundings

variable {s : Surroundings} {b : Body}

/-- What is checked of a node beyond its type and before what it refers to. -/
def checkHead (s : Surroundings) (b : Body) (scope : List ParamSymbol) (node : ExprRef) :
    ExprForm → Checking Unit
  | .param p => require (scope.contains p) (.paramOutOfScope node p)
  | .call callee receiver arguments => do
    let d ← found (s.lookup.declaration callee) (.unknownCallee node callee)
    require (d.owner.isNone || receiver.isSome) (.missingReceiver node)
    let arguments := Body.items b.arguments arguments
    require (arguments.length == d.params.length)
      (.argumentCount node d.params.length arguments.length)
    checkBinding node 0 (arguments.zip d.params)
  | .new constr arguments => do
    let k ← found (s.lookup.constr constr) (.unknownConstructor node constr)
    let arguments := Body.items b.arguments arguments
    require (arguments.length == k.params.length)
      (.argumentCount node k.params.length arguments.length)
  | .ret target _ => require (b.label? target).isSome (.unknownLabel node target)
  | _ => pure ()

/-- The check of a node is the check of its type and form, and then that of each reference. -/
theorem checkNode_succ {fuel : Nat} {scope : List ParamSymbol} {parent e : ExprRef} {x : Expr}
    (hx : b.node? e = some x) (hfit : b.FormFits x.form) :
    s.checkNode b (fuel + 1) scope parent e = (do
      require (s.types.contains x.type) (.unknownType e x.type)
      s.checkHead b scope e x.form
      (b.references x.form).forM fun r => s.checkNode b fuel (r.scope scope) e r.place) := by
  rw [checkNode, hx]
  obtain ⟨form, type⟩ := x
  cases form with
  | const value => simp [checkForm, checkHead, found, Body.references]
  | param symbol => simp [checkForm, checkForm.childIfAny, checkHead, found, Body.references]
  | self owner => simp [checkForm, checkForm.childIfAny, checkHead, found, Body.references]
  | call callee receiver arguments =>
    have hargs : b.readArguments arguments = .ok (Body.items b.arguments arguments) :=
      Body.read_of_fits hfit
    cases receiver <;>
      simp [checkForm, checkForm.childIfAny, checkHead, found, Body.references, hargs]
  | new constr arguments =>
    have hargs : b.readArguments arguments = .ok (Body.items b.arguments arguments) :=
      Body.read_of_fits hfit
    simp [checkForm, checkForm.childIfAny, checkHead, found, Body.references, hargs]
  | block statements =>
    have hstatements : b.readStatements statements = .ok (Body.items b.statements statements) :=
      Body.read_of_fits hfit
    simp [checkForm, checkForm.childIfAny, checkHead, found, Body.references, hstatements]
  | ret target value =>
    cases value <;> simp [checkForm, checkForm.childIfAny, checkHead, found, Body.references]
  | attempt block handlers =>
    have hhandlers : b.readHandlers handlers = .ok (Body.items b.handlers handlers) :=
      Body.read_of_fits hfit
    simp [checkForm, checkForm.childIfAny, checkHead, found, Body.references, hhandlers]
  | raise exception => simp [checkForm, checkForm.childIfAny, checkHead, found, Body.references]
  | elvis left right => simp [checkForm, checkForm.childIfAny, checkHead, found, Body.references]
  | branch condition yes no =>
    cases no <;> simp [checkForm, checkForm.childIfAny, checkHead, found, Body.references]
  | binary op left right => simp [checkForm, checkHead, found, Body.references]

theorem decides_checkHead (scope : List ParamSymbol) (e : ExprRef) (form : ExprForm) :
    Decides (s.checkHead b scope e form) (s.FormSound b scope form) := by
  cases form with
  | param p => exact (decides_require _ _).congr (by simp [FormSound])
  | call callee receiver arguments =>
    refine (decides_found fun d _ => (decides_require _ _).seq fun _ =>
      (decides_require _ _).seq fun _ => decides_checkBinding _ _ _).congr ?_
    simp only [FormSound, map_param_eq_iff, beq_iff_eq, Bool.or_eq_true, Option.isNone_iff_eq_none,
      Option.isSome_iff_ne_none, ← or_iff_not_imp_left, ne_eq]
  | new constr arguments =>
    refine (decides_found fun d _ => decides_require _ _).congr ?_
    simp [FormSound]
  | ret target value =>
    exact (decides_require _ _).congr (by simp [FormSound, Option.isSome_iff_exists])
  | _ => exact decides_pure

/-- A sound node passes if all that it refers to does. -/
theorem checkNode_approves {fuel : Nat} {scope : List ParamSymbol} {parent e : ExprRef} {x : Expr}
    (hx : b.node? e = some x) (hfit : b.FormFits x.form) (htype : s.types.contains x.type = true)
    (hform : s.FormSound b scope x.form)
    (hrefs : ∀ r ∈ b.references x.form,
      (s.checkNode b fuel (r.scope scope) e r.place).run = .ok (.ok ())) :
    (s.checkNode b (fuel + 1) scope parent e).run = .ok (.ok ()) := by
  rw [checkNode_succ hx hfit]
  refine ((decides_require _ _).seq fun _ => (decides_checkHead scope e x.form).seq fun _ =>
    decides_forM (P := fun _ => True) fun r hr => ⟨.ok (), hrefs r hr, by simp⟩).run_iff.2 ?_
  exact ⟨htype, hform, fun _ _ => trivial⟩

/-- Within its depth, the check of a node decides whether all places that paths lead to from there
are sound.  The induction follows the references, one fewer level at a time. -/
theorem decides_checkNode (hfit : b.SpansFit) (n : Nat) (scope : List ParamSymbol)
    (parent e : ExprRef) (hdepth : b.WithinDepth n e) :
    Decides (s.checkNode b n scope parent e)
      (∀ scope' e', b.Path scope e scope' e' → s.NodeSound b scope' e') := by
  induction n generalizing scope parent e with
  | zero => exact hdepth.elim
  | succ n ih =>
    cases hx : b.node? e with
    | none =>
      have hrun : s.checkNode b (n + 1) scope parent e = throw (.danglingChild parent e) := by
        rw [checkNode, hx]
        rfl
      rw [hrun]
      refine (decides_throw _).congr (iff_of_false not_false fun hall => ?_)
      obtain ⟨x, hx', -⟩ := hall scope e (.here scope e)
      rw [hx] at hx'
      cases hx'
    | some x =>
      rw [checkNode_succ hx (hfit.node hx), Body.forall_path_iff]
      refine ((decides_require _ _).seq fun _ => (decides_checkHead scope e x.form).seq fun _ =>
        decides_forM fun r hr => ih (r.scope scope) e r.place (hdepth.reference hx hr)).congr ?_
      simp [NodeSound, hx, and_assoc]

/-- A declaration passes if its parameters, root and labels are right and its root passes. -/
theorem check_approves {d other : Declaration}
    (hparams : List.Forall₂ (fun own theirs => own.Repeats theirs d.provenance) d.params
      other.params)
    (hbody : d.body = some b) (hroot : b.contains b.root = true)
    (hlabels : ∀ l ∈ b.labels.toList, l.target = some d.symbol)
    (hnodes : (s.checkNode b (b.size + 1) (d.params.map (·.symbol)) none b.root).run =
      .ok (.ok ())) :
    (s.check d other).run = .ok (.ok ()) := by
  refine ((decides_checkParams d other).seq fun _ =>
    decides_found (P := fun _ => True) fun b' hb' => ?_).run_iff.2 ⟨hparams, b, hbody, trivial⟩
  obtain rfl : b = b' := Option.some.inj (hbody.symm.trans hb')
  refine ((decides_require _ _).seq fun _ => (decides_checkLabels _ _ _).seq fun _ =>
    ⟨.ok (), hnodes, by simp⟩).congr (P := _ ∧ _ ∧ True) ?_
  exact iff_of_true ⟨hroot, hlabels, trivial⟩ trivial

/-- What the steps of the check decide one after the other.  An acyclic body is no deeper than it
has nodes, so the walk does not run out of depth. -/
theorem decides_check (s : Surroundings) (d other : Declaration)
    (hbody : ∀ b, d.body = some b → b.Acyclic ∧ b.SpansFit) :
    Decides (s.check d other)
      (List.Forall₂ (fun own theirs => own.Repeats theirs d.provenance) d.params other.params ∧
        ∃ b, d.body = some b ∧ b.contains b.root = true ∧
          (∀ l ∈ b.labels.toList, l.target = some d.symbol) ∧
          ∀ scope e, b.Path (d.params.map (·.symbol)) b.root scope e → s.NodeSound b scope e) := by
  refine (decides_checkParams d other).seq fun _ => decides_found fun b hb => ?_
  have hnodes := decides_checkNode (s := s) (hbody b hb).2 (b.size + 1) (d.params.map (·.symbol))
    none b.root (Body.withinDepth_of_acyclic (hbody b hb).1 _)
  exact (decides_require _ _).seq fun _ => (decides_checkLabels _ _ _).seq fun _ => hnodes

/-- A body that no check goes round in, and whose spans are in range, is checked to the end. -/
theorem exists_run_check (s : Surroundings) (d other : Declaration)
    (hbody : ∀ b, d.body = some b → b.Acyclic ∧ b.SpansFit) :
    ∃ verdict, (s.check d other).run = .ok verdict := by
  obtain ⟨verdict, hrun, -⟩ := decides_check s d other hbody
  exact ⟨verdict, hrun⟩

/-- The check of a companion comes to a verdict on every declaration whose body is acyclic and has
its spans in range, and it approves the companions of the function and nothing else. -/
theorem check_decides (s : Surroundings) (d other : Declaration)
    (hbody : ∀ b, d.body = some b → b.Acyclic ∧ b.SpansFit) :
    ∃ verdict, (s.check d other).run = .ok verdict ∧
      (verdict = .ok () ↔ s.IsCompanion d other) := by
  refine (decides_check s d other hbody).congr ?_
  constructor
  · rintro ⟨hparams, b, hb, hroot, hlabels, hnodes⟩
    exact ⟨hparams, b, hb, hroot, by simpa using hlabels, hnodes⟩
  · rintro ⟨hparams, b, hb, hroot, hlabels, hnodes⟩
    exact ⟨hparams, b, hb, hroot, by simpa using hlabels, hnodes⟩

end Surroundings

/-! ## A declaration that passes -/

namespace Sample

/-- Answers its parameter from inside a `try`, and from the handler whatever was thrown. -/
def rescuingBody : Body where
  nodes := #[⟨.param ⟨1⟩, .string⟩, ⟨.ret ⟨0⟩ (some ⟨0⟩), .nothing⟩, ⟨.block ⟨0, 1⟩, .nothing⟩,
    ⟨.param ⟨2⟩, .any⟩, ⟨.ret ⟨0⟩ (some ⟨3⟩), .nothing⟩, ⟨.block ⟨1, 1⟩, .nothing⟩,
    ⟨.attempt (some ⟨2⟩) ⟨0, 1⟩, .nothing⟩, ⟨.block ⟨2, 1⟩, .nothing⟩]
  statements := #[some ⟨1⟩, some ⟨4⟩, some ⟨6⟩]
  arguments := #[]
  handlers := #[⟨⟨⟨2⟩, .empty, .any, .none, .source⟩, some ⟨5⟩⟩]
  labels := #[⟨.empty, some ⟨1⟩⟩]
  root := some ⟨7⟩

/-- A function of one text, with its own symbols and body. -/
def textFunction (symbol : FunctionSymbol) (param : ParamSymbol) (body : Option Body) :
    Declaration where
  symbol
  id := .topLevel .empty .empty
  params := [⟨param, .empty, .string, .none, .source⟩]
  returnType := .string
  status := ⟨.everyone, .ofBits 0⟩
  provenance := .source
  phase := .body
  annotations := []
  body

/-- A function without a body. -/
def original : Declaration := textFunction ⟨0⟩ ⟨0⟩ none

/-- The function whose body rescues itself, with symbols of its own. -/
def rescuing : Declaration := textFunction ⟨1⟩ ⟨1⟩ (some rescuingBody)

/-- Nothing is declared, and only the fixed types are known. -/
def surroundings : Surroundings := ⟨⟨fun _ => none, fun _ => none⟩, .fresh⟩

end Sample

open Sample in
/-- The check approves the sample, which is therefore a companion. -/
theorem check_decides_rescuing :
    (∀ b, rescuing.body = some b → b.Acyclic ∧ b.SpansFit) ∧
      surroundings.IsCompanion rescuing original := by
  have hbody : ∀ b, rescuing.body = some b → b.Acyclic ∧ b.SpansFit := by
    rintro _ ⟨⟩
    exact ⟨Body.Descends.acyclic (by decide), by decide⟩
  obtain ⟨verdict, hrun, hiff⟩ := Surroundings.check_decides surroundings rescuing original hbody
  have happroved : (surroundings.check rescuing original).run = .ok (.ok ()) := rfl
  rw [happroved, Except.ok.injEq] at hrun
  exact ⟨hbody, hiff.1 hrun.symm⟩

end Companions
