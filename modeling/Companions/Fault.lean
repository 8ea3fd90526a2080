import Companions.Identity
set_option autoImplicit false

/-!
# Faults

A fault is a request that no table can answer: a handle is read that was never handed out, a span
reaches beyond the stored items, a class gets a constructor before it is declared.  A fault is a
mistake of the caller and ends the work at hand.  Failures that belong to the domain, such as a
companion that cannot be generated or an exception that nobody catches, are values of types of
their own.
-/

namespace Companions

/-- The three kinds of list that a body stores. -/
inductive ListKind
  | expressions
  | arguments
  | handlers
  deriving DecidableEq, Repr, Inhabited

/-- The kind as it is named in reports. -/
def ListKind.describe : ListKind → String
  | .expressions => "expression list"
  | .arguments => "argument list"
  | .handlers => "catch list"

/-- What ends a piece of work without any answer: something was to be there and is not, or a store
has no room left. -/
inductive Fault
  /-- The table holds no such name. -/
  | unknownName (name : Name)
  /-- The pool holds no such type. -/
  | unknownType (type : TypeId)
  /-- The body holds no such node. -/
  | unknownNode (node : ExprRef)
  /-- A span of a body reaches beyond what the body stores. -/
  | spanOutOfRange (list : ListKind) (start length : Nat)
  /-- A list is longer than a span can say. -/
  | listTooLong (list : ListKind) (length : Nat)
  /-- A constructor needs a declared class. -/
  | undeclaredClass (type : ClassId)
  /-- Following the nodes of a body does not come to an end. -/
  | endless
  deriving DecidableEq, Repr, Inhabited

/-- The faults that have a wording of their own. -/
def Fault.message? : Fault → Option String
  | .undeclaredClass c =>
    some s!"constructor added to undeclared class ClassId \x7b package: {c.package.describe}, name: {c.name.describe} \x7d"
  | .listTooLong list length => some s!"{list.describe} too long: {length}"
  | _ => none

/-- What a lookup finds, or the fault of having asked. -/
def orFault {α : Type} (found : Option α) (fault : Fault) : Except Fault α :=
  match found with
  | some a => .ok a
  | none => .error fault

@[simp] theorem orFault_some {α : Type} (a : α) (fault : Fault) :
    orFault (some a) fault = .ok a := rfl

@[simp] theorem orFault_none {α : Type} (fault : Fault) :
    orFault (none : Option α) fault = .error fault := rfl

theorem orFault_eq_ok_iff {α : Type} {found : Option α} {fault : Fault} {a : α} :
    orFault found fault = .ok a ↔ found = some a := by
  cases found <;> simp [orFault]

/-- Where a run of two parts comes to an end, the first part does. -/
theorem exists_of_bind_eq_ok {α β : Type} {x : Except Fault α} {k : α → Except Fault β} {b : β}
    (h : x >>= k = .ok b) : ∃ a, x = .ok a ∧ k a = .ok b := by
  cases x with
  | error fault => cases h
  | ok a => exact ⟨a, rfl, h⟩

theorem bind_eq_ok_iff {α β : Type} {x : Except Fault α} {k : α → Except Fault β} {b : β} :
    x >>= k = .ok b ↔ ∃ a, x = .ok a ∧ k a = .ok b := by
  constructor
  · exact exists_of_bind_eq_ok
  · rintro ⟨a, rfl, ha⟩
    exact ha

end Companions
