import Companions.Companion.Error
set_option autoImplicit false

/-!
# Forwarding bodies

The body of a companion calls the function that it stands for with its own parameters, in order, on
its own receiver if the function is a member:

* `fOrNull` returns the answer of the call from inside a `try`, whose only handler returns null;
* `fOrThrow` returns the answer of the call, or else throws a new object of the error class.

Both return to one label, which is bound once the companion has a symbol.
-/

namespace Companions

/-- Generating ends in an answer, in an error that leaves the pools as grown, or in a fault. -/
abbrev Generating := ExceptT GenerationError Growing

namespace Forwarding

/-- Reads each parameter, and hands the value on to the parameter beside it. -/
def readParams (b : Body) : List (Parameter × Parameter) → List Argument × Body
  | [] => ([], b)
  | (declared, own) :: rest =>
    let (value, b) := b.alloc (.param own.symbol) own.type
    let (arguments, b) := readParams b rest
    (⟨some value, declared.symbol⟩ :: arguments, b)

/-- The receiver of the call: the companion's own, for a member. -/
def receiver (f : Declaration) (b : Body) : Growing (ExprRef × Body) :=
  match f.owner with
  | none => return (none, b)
  | some owner => do
    let (e, b) := b.alloc (.self owner) (← Growing.classType owner)
    return (some e, b)

/-- Calls the function with the parameters of the companion. -/
def call (f : Declaration) (params : List Parameter) (b : Body) : Growing (ExprId × Body) := do
  let (receiver, b) ← receiver f b
  let (arguments, b) := readParams b (f.params.zip params)
  let (span, b) ← b.pushArguments arguments
  return b.alloc (.call f.symbol receiver span) f.returnType

/-- A block of one statement. -/
def block (b : Body) (statement : ExprId) (type : TypeId) : Except Fault (ExprId × Body) := do
  let (span, b) ← b.pushStatements [some statement]
  return b.alloc (.block span) type

/-- The parameter of the handler that answers null. -/
def handlerParam (builtins : Builtins) : Growing Parameter := do
  let symbol ← Growing.mintParam
  let name ← Growing.intern "e"
  return ⟨symbol, name, builtins.throwable, .none, Strategy.provenance .nullOnThrow⟩

/-- Tries to return what the function answers; whatever is thrown instead becomes null. -/
def orNull (builtins : Builtins) (f : Declaration) (params : List Parameter) (label : LabelId)
    (b : Body) : Growing Body := do
  let (answer, b) ← call f params b
  let (ret, b) := b.alloc (.ret label (some answer)) builtins.nothing
  let (tried, b) ← block b ret builtins.nothing
  let (null, b) := b.alloc (.const .null) builtins.null
  let (ret, b) := b.alloc (.ret label (some null)) builtins.nothing
  let (handling, b) ← block b ret builtins.nothing
  let param ← handlerParam builtins
  let (handlers, b) ← b.pushHandlers [⟨param, some handling⟩]
  let (attempt, b) := b.alloc (.attempt (some tried) handlers) builtins.nothing
  let (root, b) ← block b attempt builtins.nothing
  return b.setRoot (some root)

/-- Returns what the function answers, or throws where that is null. -/
def orThrow (builtins : Builtins) (errorClass : ClassId) (constr : ConstructorSymbol)
    (f : Declaration) (params : List Parameter) (label : LabelId) (b : Body) : Growing Body := do
  let (answer, b) ← call f params b
  let (error, b) := b.alloc (.new constr .empty) (← Growing.classType errorClass)
  let (raise, b) := b.alloc (.raise (some error)) builtins.nothing
  let notNull ← Growing.withNullability f.returnType .notNull
  let (answer, b) := b.alloc (.elvis (some answer) (some raise)) notNull
  let (ret, b) := b.alloc (.ret label (some answer)) builtins.nothing
  let (root, b) ← block b ret builtins.nothing
  return b.setRoot (some root)

/-- The body of a companion, with its one label. -/
def body (strategy : Strategy) (host : Host) (errorClass : ClassId) (f : Declaration)
    (params : List Parameter) (labelName : Name) : Generating (LabelId × Body) := do
  let (label, b) := Body.empty.newLabel labelName
  match strategy with
  | .nullOnThrow => return (label, ← orNull host.builtins f params label b)
  | .throwOnNull =>
    match host.noArgConstructor errorClass with
    | none => throw (.missingNoArgConstructor errorClass f.id)
    | some constr =>
      return (label, ← orThrow host.builtins errorClass constr f params label b)

end Forwarding

end Companions
