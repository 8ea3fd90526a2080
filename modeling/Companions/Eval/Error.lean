import Companions.Eval.Value
set_option autoImplicit false

/-!
# Evaluation errors

Why a call has no value.  An exception that nobody catches is one of the reasons; all others are
mistakes of the program that no handler can catch.

Some messages name functions, values or classes.  These messages are written when the error comes
up, so an unknown name among them is a fault of the call (`EvalError.worded`).
-/

namespace Companions

/-- What goes wrong when a function is called. -/
inductive EvalError
  /-- An exception left the outermost call. -/
  | uncaught (exception : Value)
  | unknownFunction (symbol : FunctionSymbol)
  | unknownConstructor (symbol : ConstructorSymbol)
  | missingBody (function : CallableId)
  /-- There is a body, but its root is not one of its nodes. -/
  | missingRoot (function : CallableId)
  | unboundParam (param : ParamSymbol)
  /-- The receiver is read where there is none. -/
  | noReceiver
  /-- A return to a label that does not leave the running function. -/
  | unboundLabel (label : LabelId)
  | notThrowable (value : Value)
  | nonBoolCondition (value : Value)
  | typeMismatch (op : BinaryOp) (left right : Value)
  | integerOverflow (op : BinaryOp)
  /-- No argument is meant for the parameter. -/
  | missingArgument (param : ParamSymbol)
  | argumentCount (expected found : Nat)
  | stackOverflow (depth : Nat)
  deriving DecidableEq, Repr, Inhabited

namespace EvalError

/-- Says what is wrong. -/
def message (names : NameTable) : EvalError → Except Fault String
  | uncaught exception => do
    let what ←
      match exception.class? with
      | some c => c.display names
      | none => pure exception.typeName
    return s!"uncaught exception: {what}"
  | unknownFunction symbol => .ok s!"unknown function {symbol.describe}"
  | unknownConstructor symbol => .ok s!"unknown constructor {symbol.describe}"
  | missingBody function => do
    let function ← function.display names
    return s!"function `{function}` has no body"
  | missingRoot function => do
    let function ← function.display names
    return s!"body of `{function}` has no root expression"
  | unboundParam param => .ok s!"parameter {param.describe} is not bound in this frame"
  | noReceiver => .ok "`this` outside a member function"
  | unboundLabel label =>
    .ok s!"`return` to label {label.describe}, which is not bound to the running function"
  | notThrowable value => do
    let value ← value.display names
    return s!"only Throwable instances can be thrown, got {value}"
  | nonBoolCondition value => do
    let value ← value.display names
    return s!"condition must be Boolean, got {value}"
  | typeMismatch op left right =>
    .ok s!"`{op.text}` cannot be applied to {left.typeName} and {right.typeName}"
  | integerOverflow op => .ok s!"integer overflow in `{op.text}`"
  | missingArgument param => .ok s!"missing argument for parameter {param.describe}"
  | argumentCount expected found => .ok s!"expected {expected} arguments, got {found}"
  | stackOverflow depth => .ok s!"call depth exceeded {depth}"

/-- The error, once its message has been written. -/
def worded (names : NameTable) (e : EvalError) : Except Fault EvalError := do
  let _ ← e.message names
  return e

end EvalError

/-- Ways to leave an expression without a value. -/
inductive Unwind
  /-- A return on its way to the function that the label leaves. -/
  | ret (label : LabelId) (value : Value)
  /-- An exception on its way to a handler. -/
  | thrown (exception : Value)
  | error (error : EvalError)
  deriving DecidableEq, Repr, Inhabited

end Companions
