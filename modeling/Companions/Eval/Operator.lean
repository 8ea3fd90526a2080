import Companions.Eval.Error
set_option autoImplicit false

/-!
# Operators

Equality compares any two values; all other operators take integers.  Sums and differences that do
not fit into 64 bits are errors.
-/

namespace Companions

/-- The integer, if it fits into 64 bits. -/
def fitInt64 (n : Int) : Option Int64 :=
  if Int64.minValue.toInt ≤ n ∧ n ≤ Int64.maxValue.toInt then some (Int64.ofInt n) else none

/-- An exact result, or the overflow of the operator. -/
def exactly (op : BinaryOp) (n : Int) : Except EvalError Value :=
  match fitInt64 n with
  | some n => .ok (.int n)
  | none => .error (.integerOverflow op)

namespace BinaryOp

/-- The operator on two integers. -/
def onInts (op : BinaryOp) (a b : Int64) : Except EvalError Value :=
  match op with
  | add => exactly op (a.toInt + b.toInt)
  | sub => exactly op (a.toInt - b.toInt)
  | lt => .ok (.boolean (a < b))
  | le => .ok (.boolean (a ≤ b))
  | gt => .ok (.boolean (b < a))
  | ge => .ok (.boolean (b ≤ a))
  | eq => .ok (.boolean (a = b))
  | ne => .ok (.boolean (a ≠ b))

/-- The operator on any two values. -/
def apply (op : BinaryOp) (left right : Value) : Except EvalError Value :=
  match op with
  | eq => .ok (.boolean (left = right))
  | ne => .ok (.boolean (left ≠ right))
  | _ =>
    match left, right with
    | .int a, .int b => op.onInts a b
    | _, _ => .error (.typeMismatch op left right)

end BinaryOp

end Companions
