import Companions.Host
set_option autoImplicit false

/-!
# What can be wrong with a companion

`Malformed` says how a declaration fails to be a companion of another one.  `GenerationError` says
why no companion could be made.  That nobody asked for a companion is no error.
-/

namespace Companions

/-- What keeps a declaration from being a companion. -/
inductive Malformed
  | missingBody
  /-- The root is not a node of the body. -/
  | missingRoot (root : ExprRef)
  /-- A node refers to a place without a node. -/
  | danglingChild (parent child : ExprRef)
  | unknownType (node : ExprRef) (type : TypeId)
  | unboundLabel (label : LabelId)
  /-- A label leaves another function. -/
  | foreignLabel (label : LabelId) (target : FunctionSymbol)
  | unknownLabel (node : ExprRef) (label : LabelId)
  | paramOutOfScope (node : ExprRef) (param : ParamSymbol)
  | unknownCallee (node : ExprRef) (callee : FunctionSymbol)
  | unknownConstructor (node : ExprRef) (constr : ConstructorSymbol)
  | argumentCount (node : ExprRef) (expected found : Nat)
  /-- An argument is meant for another parameter than the one at its position. -/
  | argumentBinding (node : ExprRef) (index : Nat) (expected found : ParamSymbol)
  /-- A member is called on nothing. -/
  | missingReceiver (node : ExprRef)
  | parameterMismatch (index : Nat)
  | parameterCount (expected found : Nat)
  deriving DecidableEq, Repr, Inhabited

/-- What is wrong, as it is reported. -/
def Malformed.message : Malformed → String
  | .missingBody => "declaration has no body"
  | .missingRoot root => s!"body root {root.describe} is not a node of the body"
  | .danglingChild parent child =>
    s!"{parent.describe} refers to {child.describe}, which is not a node of the body"
  | .unknownType node type =>
    s!"{node.describe} has type {type.describe}, which is not in the type pool"
  | .unboundLabel label => s!"label {label.describe} is not bound"
  | .foreignLabel label target =>
    s!"label {label.describe} returns from {target.describe} instead of the declaration itself"
  | .unknownLabel node label =>
    s!"{node.describe} returns to label {label.describe}, which the body does not declare"
  | .paramOutOfScope node param =>
    s!"{node.describe} reads {param.describe}, which is not in scope"
  | .unknownCallee node callee =>
    s!"{node.describe} calls {callee.describe}, which the host does not know"
  | .unknownConstructor node constr =>
    s!"{node.describe} instantiates through {constr.describe}, which the host does not know"
  | .argumentCount node expected found =>
    s!"{node.describe} passes {found} arguments where {expected} are declared"
  | .argumentBinding node index expected found =>
    s!"{node.describe} binds argument {index} to {found.describe}, expected {expected.describe}"
  | .missingReceiver node => s!"{node.describe} calls a member without a receiver"
  | .parameterMismatch index => s!"parameter {index} does not mirror the original"
  | .parameterCount expected found =>
    s!"declares {found} parameters, the original declares {expected}"

/-- Why a companion that is asked for is not made. -/
inductive GenerationError
  /-- The class to throw cannot be made from nothing. -/
  | missingNoArgConstructor (errorClass : ClassId) (function : CallableId)
  /-- The index names a function that the host does not know any more. -/
  | unknownOrigin (function : CallableId) (symbol : FunctionSymbol)
  /-- The return target could not be bound to the companion. -/
  | returnTarget (function : CallableId) (cause : LabelError)
  /-- The companion does not pass the check. -/
  | malformed (function : CallableId) (reason : Malformed)
  deriving DecidableEq, Repr, Inhabited

/-- The error as it is reported.  The paths in it are looked up, so it can end in a fault. -/
def GenerationError.message (names : NameTable) : GenerationError → Except Fault String
  | .missingNoArgConstructor errorClass function => do
    let errorClass ← errorClass.display names
    let function ← function.display names
    return s!"`{errorClass}` has no zero-argument constructor; cannot synthesize `{function}`"
  | .unknownOrigin function symbol => do
    let function ← function.display names
    return s!"original of `{function}` ({symbol.describe}) is unknown to the host"
  | .returnTarget function cause => do
    let function ← function.display names
    return s!"cannot bind the return target of `{function}`: {cause.message}"
  | .malformed function reason => do
    let function ← function.display names
    return s!"synthesized `{function}` is malformed: {reason.message}"

end Companions
