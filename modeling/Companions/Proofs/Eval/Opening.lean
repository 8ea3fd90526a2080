import Companions.Eval.Depth
import Companions.Proofs.Eval.Arguments
import Mathlib.Tactic.Choose
set_option autoImplicit false

/-!
# What a node evaluates first

Many forms of nodes evaluate some places in any case, one behind the other, and go on with their
values (`Interpreter.opens_evalForm`).  Two of them go on with a place that the value of the first
place asks for (`Interpreter.evalForm_of_chosen`).
-/

namespace Companions

/-- The items of a span, if there are any to be read. -/
def Body.listed {α : Type} {list : ListKind} (store : Array α) (s : Span list) : List α :=
  match read store s with
  | .ok items => items
  | .error _ => []

/-- The places that a node evaluates one behind the other, as long as each has a value. -/
def Body.inOrder (b : Body) : ExprForm → List ExprRef
  | .const _ | .param _ | .self _ | .attempt _ _ => []
  | .call _ receiver arguments =>
    receiver.toList.map some ++ (listed b.arguments arguments).map (·.value)
  | .new _ arguments => (listed b.arguments arguments).map (·.value)
  | .block statements => listed b.statements statements
  | .ret _ value => value.toList.map some
  | .raise exception => [exception]
  | .elvis left _ => [left]
  | .branch condition _ _ => [condition]
  | .binary _ left right => [left, right]

/-- The place that a node evaluates behind those, if it has one value by then and the value asks for
another. -/
def ExprForm.chosen : ExprForm → Value → ExprRef
  | .elvis _ right, v => if v.isNull then right else none
  | .branch _ yes _, .boolean true => yes
  | .branch _ _ no, .boolean false => no
  | _, _ => none

namespace Interpreter

variable (go : ExprRef → EvaluatingOver Gauged Value)

theorem forM_arguments (arguments : List Argument) :
    (arguments.forM fun a => do let _ ← go a.value) =
      (arguments.map (·.value)).mapM go >>= fun _ => pure ⟨⟩ := by
  induction arguments with
  | nil => simp
  | cons a rest ih =>
    rw [List.forM_eq_forM, List.forM_cons, List.map_cons, List.mapM_cons]
    rw [List.forM_eq_forM] at ih
    rw [ih]
    simp only [bind_assoc, pure_bind]

theorem foldlM_statements (statements : List ExprRef) (v : Value) :
    statements.foldlM (fun _ s => go s) v =
      statements.mapM go >>= fun values => pure (values.getLastD v) := by
  induction statements generalizing v with
  | nil => simp
  | cons s rest ih =>
    rw [List.foldlM_cons, List.mapM_cons, bind_assoc]
    refine congrArg _ (funext fun w => ?_)
    rw [ih w, bind_assoc]
    simp only [pure_bind, List.getLastD_cons]

/-- The evaluation opens with the places, one behind the other. -/
def Opens (es : List ExprRef) (x : EvaluatingOver Gauged Value) : Prop :=
  ∃ finish, x = es.mapM go >>= finish

namespace Opens

variable {go : ExprRef → EvaluatingOver Gauged Value} {e : ExprRef} {es : List ExprRef}

theorem nil (x : EvaluatingOver Gauged Value) : Opens go [] x :=
  ⟨fun _ => x, by rw [List.mapM_nil, pure_bind]⟩

theorem cons {k : Value → EvaluatingOver Gauged Value} (h : ∀ v, Opens go es (k v)) :
    Opens go (e :: es) (go e >>= k) := by
  choose finish hfinish using h
  refine ⟨fun values => finish (values.headD .unit) values.tail, ?_⟩
  rw [List.mapM_cons, bind_assoc]
  refine congrArg _ (funext fun v => ?_)
  simp only [bind_assoc, pure_bind, List.headD_cons, List.tail_cons]
  exact hfinish v

theorem optional {k : Option Value → EvaluatingOver Gauged Value} (h : ∀ v, Opens go es (k v)) :
    Opens go (e.toList.map some ++ es) (evalOptional go e >>= k) := by
  cases e with
  | none =>
    rw [evalOptional, pure_bind]
    exact h none
  | some v =>
    rw [evalOptional, bind_map_left]
    exact cons fun w => h (some w)

/-- What cannot be read is not evaluated. -/
theorem read {α : Type} {list : ListKind} {store : Array α} {span : Span list}
    {place : α → ExprRef} {k : List α → EvaluatingOver Gauged Value}
    (h : ∀ items, Opens go (items.map place) (k items)) :
    Opens go ((Body.listed store span).map place)
      ((liftM (Body.read store span) : EvaluatingOver Gauged (List α)) >>= k) := by
  unfold Body.listed
  cases Body.read store span with
  | error fault => exact nil _
  | ok items => exact h items

end Opens

variable {m : Interpreter} {b : Body} {self : Option Value}
  {call : Declaration → Option Value → List Value → Gauged (Except Unwind Value)}

/-- A node opens with the places that it evaluates in any case. -/
theorem opens_evalForm (form : ExprForm) :
    Opens go (b.inOrder form) (m.evalForm call b self go form) := by
  cases form with
  | const value => exact .nil _
  | param p => exact .nil _
  | self type => exact .nil _
  | call callee receiver arguments =>
    refine .optional fun target => .read fun items => ?_
    rw [mapM_arguments, bind_assoc]
    exact ⟨_, rfl⟩
  | new constr arguments =>
    refine .read fun items => ?_
    rw [forM_arguments, bind_assoc]
    exact ⟨_, rfl⟩
  | block statements =>
    have hopens : Opens go ((Body.listed b.statements statements).map id)
        (m.evalForm call b self go (.block statements)) :=
      .read fun items => by
        rw [foldlM_statements, List.map_id]
        exact ⟨_, rfl⟩
    rwa [List.map_id] at hopens
  | ret target value =>
    have hopens : Opens go (value.toList.map some ++ [])
        (m.evalForm call b self go (.ret target value)) :=
      .optional fun v => .nil _
    rwa [List.append_nil] at hopens
  | attempt block handlers => exact .nil _
  | raise exception => exact .cons fun v => .nil _
  | elvis left right => exact .cons fun v => .nil _
  | branch condition yes no => exact .cons fun v => .nil _
  | binary op left right => exact .cons fun v => .cons fun w => .nil _

/-- Where the value of the first place asks for another, the node ends in what that one ends in. -/
theorem evalForm_of_chosen {form : ExprForm} {v : Value} {c : ExprId}
    (h : form.chosen v = some c) : ∃ e k, b.inOrder form = [e] ∧
      m.evalForm call b self go form = go e >>= k ∧ k v = go (some c) := by
  cases form with
  | elvis left right =>
    refine ⟨left, _, rfl, rfl, ?_⟩
    rw [ExprForm.chosen] at h
    split at h
    · next hnull => rw [if_pos hnull, h]
    · cases h
  | branch condition yes no =>
    refine ⟨condition, _, rfl, rfl, ?_⟩
    cases v with
    | boolean holds =>
      cases holds with
      | true => exact congrArg go h
      | false =>
        cases (show no = some c from h)
        simp [evalOptional]
    | _ => cases h
  | _ => cases h

end Interpreter

end Companions
