import Companions.Eval.Locals
import Companions.Eval.Operator
set_option autoImplicit false

/-!
# Evaluation

An interpreter runs the functions of a program and those registered with it, which take the place of
program functions with the same symbol.

A call is evaluated in a frame of its own: the receiver, and the bindings of its parameters.  An
expression ends in a value or unwinds.  A return unwinds to the function that its label leaves, an
exception to the nearest handler whose type it has, an error to the outermost call.

At most `maxCallDepth` calls are active at a time.

Expressions are evaluated over whatever runs beneath the frame (`EvaluatingOver`).  Usually that is
nothing but faults; an interpreter that is watched keeps its records there.
-/

namespace Companions

/-- A program, and functions that are callable beside its own. -/
structure Interpreter where
  program : Program
  registered : List Declaration

/-- What a call ends in, unless in a fault. -/
abbrev Outcome := Except Fault (Except Unwind Value)

/-- Evaluation inside a frame, over what runs beneath it.  Bindings outlive an unwinding. -/
abbrev EvaluatingOver (N : Type → Type) := ExceptT Unwind (StateT Locals N)

/-- Evaluation inside a frame that only a fault ends from beneath. -/
abbrev Evaluating := EvaluatingOver (Except Fault)

/-- The calls that may be active at a time. -/
def maxCallDepth : Nat := 200

namespace Interpreter

/-! ## Functions -/

/-- Runs the functions of the program alone. -/
def new (p : Program) : Interpreter := ⟨p, []⟩

/-- Makes a function callable, in the place of the one registered with its symbol. -/
def register (m : Interpreter) (d : Declaration) : Interpreter :=
  { m with registered := Program.putFirst (·.symbol = d.symbol) d m.registered }

/-- The function that a call of the symbol runs. -/
def declaration? (m : Interpreter) (s : FunctionSymbol) : Option Declaration :=
  (m.registered.find? (·.symbol = s)).or (m.program.declaration? s)

/-- The symbol that all functions with the identity share, registered or in the program. -/
def resolve (m : Interpreter) (id : CallableId) : Option FunctionSymbol :=
  match ((m.registered ++ m.program.declarations).filter (·.id = id)).map (·.symbol) with
  | [] => none
  | s :: rest => if rest.all (· = s) then some s else none

/-! ## Arguments and handlers -/

/-- The value for each parameter, whatever the order in which the arguments are written. -/
def pick (bound : List (ParamSymbol × Value)) : List Parameter → Except EvalError (List Value)
  | [] => .ok []
  | p :: rest =>
    match bound.lookup p.symbol with
    | none => .error (.missingArgument p.symbol)
    | some v => (pick bound rest).map (v :: ·)

/-- The values in the order of the parameters.  There are no more arguments than parameters. -/
def route (params : List Parameter) (bound : List (ParamSymbol × Value)) :
    Except EvalError (List Value) := do
  let values ← pick bound params
  if bound.length = values.length then return values
  else throw (.argumentCount values.length bound.length)

/-- The classes of which a value is an instance. -/
def classesOf (m : Interpreter) (v : Value) : List ClassId :=
  match v.class? with
  | some c => m.program.ancestry c
  | none => []

/-- The handler's type is one of the classes of an exception. -/
def accepts (m : Interpreter) (classes : List ClassId) (h : Handler) : Except Fault Bool := do
  match ← m.program.pools.types.classOf h.param.type with
  | some c => return classes.contains c
  | none => return false

/-- The first handler that accepts an exception of the classes. -/
def firstAccepting (m : Interpreter) (classes : List ClassId) :
    List Handler → Except Fault (Option Handler)
  | [] => .ok none
  | h :: rest => do
    if ← m.accepts classes h then return some h
    else m.firstAccepting classes rest

/-- The first handler whose type is a class of which the exception is an instance. -/
def handlerFor (m : Interpreter) (exception : Value) (handlers : List Handler) :
    Except Fault (Option Handler) :=
  m.firstAccepting (m.classesOf exception) handlers

/-- The value is an object of a class that can be thrown. -/
def isThrowable (m : Interpreter) (v : Value) : Bool :=
  (m.classesOf v).contains m.program.builtins.throwableClass

/-! ## Expressions -/

variable {N : Type → Type} [Monad N]

/-- What an expression ends in, as a value. -/
def outcome (x : EvaluatingOver N Value) : EvaluatingOver N (Except Unwind Value) :=
  ExceptT.lift x.run

/-- Goes on with what an expression ended in. -/
def resume : Except Unwind Value → EvaluatingOver N Value
  | .ok v => pure v
  | .error u => throw u

/-- Stops with an error. -/
def orError : Except EvalError Value → EvaluatingOver N Value
  | .ok v => pure v
  | .error e => throw (.error e)

/-- Evaluates a place that may be left empty. -/
def evalOptional (go : ExprRef → EvaluatingOver N Value) :
    ExprRef → EvaluatingOver N (Option Value)
  | some e => some <$> go (some e)
  | none => pure none

/-- Calls the function of a symbol with the values that are meant for its parameters. -/
def callBound (m : Interpreter)
    (call : Declaration → Option Value → List Value → N (Except Unwind Value))
    (callee : FunctionSymbol) (receiver : Option Value) (bound : List (ParamSymbol × Value)) :
    EvaluatingOver N Value :=
  match m.declaration? callee with
  | none => throw (.error (.unknownFunction callee))
  | some d =>
    match route d.params bound with
    | .error e => throw (.error e)
    | .ok values => do resume (← liftM (call d receiver values))

/-- Hands an exception to a handler, whose parameter holds the exception meanwhile. -/
def handle (go : ExprRef → EvaluatingOver N Value) (exception : Value) (h : Handler) :
    EvaluatingOver N Value := do
  modify (·.bind h.param.symbol exception)
  let result ← outcome (go h.block)
  modify (·.unbind h.param.symbol)
  resume result

variable [MonadLiftT (Except Fault) N]

/-- Stops with an error whose message names a value. -/
def stop (m : Interpreter) (e : EvalError) : EvaluatingOver N Value := do
  throw (.error (← e.worded m.program.pools.names))

/-- Evaluates a node of the body.  The places that it refers to are left to `go`, and calls to
`call`. -/
def evalForm (m : Interpreter)
    (call : Declaration → Option Value → List Value → N (Except Unwind Value)) (b : Body)
    (self : Option Value) (go : ExprRef → EvaluatingOver N Value) :
    ExprForm → EvaluatingOver N Value
  | .const c => return .ofConstant c
  | .param p => do
    match (← get).get? p with
    | some v => return v
    | none => throw (.error (.unboundParam p))
  | .self _ =>
    match self with
    | some v => return v
    | none => throw (.error .noReceiver)
  | .call callee receiver arguments => do
    let receiver ← evalOptional go receiver
    let bound ← (← b.readArguments arguments).mapM fun a => do
      return (a.param, ← go a.value)
    m.callBound call callee receiver bound
  | .new constr arguments => do
    (← b.readArguments arguments).forM fun a => do
      let _ ← go a.value
    match m.program.constructor? constr with
    | some k => return .object k.type
    | none => throw (.error (.unknownConstructor constr))
  | .block statements => do
    (← b.readStatements statements).foldlM (fun _ s => go s) .unit
  | .ret target value => do
    let v ← evalOptional go value
    throw (.ret target (v.getD .unit))
  | .attempt block handlers => do
    match ← outcome (go block) with
    | .error (.thrown exception) =>
      match ← m.handlerFor exception (← b.readHandlers handlers) with
      | none => throw (.thrown exception)
      | some h => handle go exception h
    | result => resume result
  | .raise exception => do
    let v ← go exception
    if m.isThrowable v then throw (.thrown v) else m.stop (.notThrowable v)
  | .elvis left right => do
    let v ← go left
    if v.isNull then go right else return v
  | .branch condition yes no => do
    match ← go condition with
    | .boolean true => go yes
    | .boolean false => return (← evalOptional go no).getD .unit
    | other => m.stop (.nonBoolCondition other)
  | .binary op left right => do
    let left ← go left
    let right ← go right
    orError (op.apply left right)

/-- Evaluates the node at a place of the body, following at most `fuel` nodes along a path. -/
def eval (m : Interpreter)
    (call : Declaration → Option Value → List Value → N (Except Unwind Value)) (b : Body)
    (self : Option Value) : (fuel : Nat) → ExprRef → EvaluatingOver N Value
  | 0, _ => liftM (.error .endless : Except Fault Value)
  | fuel + 1, e => do m.evalForm call b self (m.eval call b self fuel) (← b.node e).form

/-! ## Calls -/

/-- How many nodes a path that comes to an end can have.  A path that comes back to a node under the
same bindings never ends.  Bindings change only where a handler binds its parameter to an object
that was thrown, so each handler's parameter is as it was at first, is without a value, or holds an
object of the throwable class or of a declared one. -/
def budget (m : Interpreter) (b : Body) : Nat :=
  (b.size + 1) * Nat.pow (m.program.classes.length + 3) b.handlers.size

/-- A return has arrived if its label leaves the function that ran. -/
def land (d : Declaration) (b : Body) : Except Unwind Value → Except Unwind Value
  | .error (.ret label value) =>
    if (b.label? label).bind (·.target) = some d.symbol then .ok value
    else .error (.error (.unboundLabel label))
  | result => result

/-- Ends in an error, once its message has been written. -/
def failing (m : Interpreter) (e : EvalError) : Outcome := do
  return .error (.error (← e.worded m.program.pools.names))

/-- Runs a function while `room` more calls may become active. -/
def invoke (m : Interpreter) (room : Nat) (d : Declaration) (self : Option Value)
    (arguments : List Value) : Outcome :=
  match d.body with
  | none => m.failing (.missingBody d.id)
  | some b =>
    if b.contains b.root then
      match room with
      | 0 => .ok (.error (.error (.stackOverflow maxCallDepth)))
      | room + 1 => do
        let frame := Locals.ofArguments d.params arguments
        let (result, _) ← (m.eval (m.invoke room) b self (m.budget b) b.root).run.run frame
        return land d b result
    else m.failing (.missingRoot d.id)

/-- What the outermost call answers.  The message about an exception names its class. -/
def answer (m : Interpreter) : Except Unwind Value → Except Fault (Except EvalError Value)
  | .ok v => return .ok v
  | .error (.thrown exception) => do
    return .error (← (EvalError.uncaught exception).worded m.program.pools.names)
  | .error (.error e) => return .error e
  | .error (.ret label _) => return .error (.unboundLabel label)

/-- Calls a function from outside, with as many arguments as it has parameters. -/
def call (m : Interpreter) (s : FunctionSymbol) (self : Option Value) (arguments : List Value) :
    Except Fault (Except EvalError Value) :=
  match m.declaration? s with
  | none => .ok (.error (.unknownFunction s))
  | some d =>
    if arguments.length = d.params.length then do
      m.answer (← m.invoke maxCallDepth d self arguments)
    else .ok (.error (.argumentCount d.params.length arguments.length))

end Interpreter

end Companions
