import Companions.Eval.Value
set_option autoImplicit false

/-!
# Local bindings

The parameters that are bound while a function runs.  A symbol has at most one value: binding it
again takes the place of the earlier value, and unbinding it leaves it without one.
-/

namespace Companions

/-- The parameters that have values, each one once. -/
structure Locals where
  bindings : List (ParamSymbol × Value)
  deriving DecidableEq, Repr, Inhabited

namespace Locals

/-- No parameter has a value. -/
def empty : Locals := ⟨[]⟩

/-- The value of the parameter. -/
def get? (l : Locals) (p : ParamSymbol) : Option Value := l.bindings.lookup p

/-- Takes the value of the parameter away; what value it had before is not brought back. -/
def unbind (l : Locals) (p : ParamSymbol) : Locals := ⟨l.bindings.filter (·.1 ≠ p)⟩

/-- Gives the parameter a value, in the place of the one it has. -/
def bind (l : Locals) (p : ParamSymbol) (v : Value) : Locals := ⟨(p, v) :: (l.unbind p).bindings⟩

/-- Each parameter with the value at its position. -/
def ofArguments (params : List Parameter) (values : List Value) : Locals :=
  (params.zip values).foldl (fun l (p, v) => l.bind p.symbol v) empty

theorem get?_unbind_self (l : Locals) (p : ParamSymbol) : (l.unbind p).get? p = none := by
  simp only [get?, unbind]
  induction l.bindings with
  | nil => rfl
  | cons b rest ih =>
    rw [List.filter_cons]
    split
    · next h =>
      have h : b.1 ≠ p := by simpa using h
      rw [List.lookup_cons, beq_false_of_ne h.symm]
      exact ih
    · exact ih

theorem get?_unbind_of_ne (l : Locals) {p q : ParamSymbol} (h : q ≠ p) :
    (l.unbind p).get? q = l.get? q := by
  simp only [get?, unbind]
  induction l.bindings with
  | nil => rfl
  | cons b rest ih =>
    rw [List.filter_cons]
    split
    · rw [List.lookup_cons, List.lookup_cons, ih]
    · next hb =>
      have hb : b.1 = p := by simpa using hb
      rw [ih, List.lookup_cons, hb, beq_false_of_ne h]

@[simp] theorem get?_bind_self (l : Locals) (p : ParamSymbol) (v : Value) :
    (l.bind p v).get? p = some v := by
  simp [get?, bind]

theorem get?_bind_of_ne (l : Locals) {p q : ParamSymbol} (h : q ≠ p) (v : Value) :
    (l.bind p v).get? q = l.get? q := by
  rw [← get?_unbind_of_ne l h]
  simp [get?, bind, List.lookup_cons, beq_false_of_ne h]

end Locals

end Companions
