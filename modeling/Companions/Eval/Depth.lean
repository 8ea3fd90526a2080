import Companions.Eval.Interpreter
set_option autoImplicit false

/-!
# The call counter

An interpreter counts the calls that are active.  There is one counter for all that the interpreter
runs: it is read and set around every call, it goes on from one call to the next, and it alone says
when there are too many.  Here functions are run with that counter.

The run is watched.  Whenever a node is about to be evaluated and whenever a call is about to start,
it is written down what the counter shows and which calls are active (`Moment`).  The active calls
are not read off the counter: each call hands them to what it runs.
-/

namespace Companions

/-- What can be seen of an evaluation. -/
inductive Event
  /-- A node is about to be evaluated. -/
  | node (place : ExprRef)
  /-- The call of a function, whose body has a root, is about to start. -/
  | start (callee : FunctionSymbol)
  deriving DecidableEq, Repr, Inhabited

/-- What is seen at an event. -/
structure Moment where
  /-- The functions whose calls are active, the innermost first. -/
  active : List FunctionSymbol
  /-- What the counter shows. -/
  depth : Nat
  event : Event
  deriving DecidableEq, Repr, Inhabited

/-- The counter, and what has been written down so far. -/
structure Gauge where
  depth : Nat
  moments : List Moment
  deriving DecidableEq, Repr, Inhabited

/-- Work beneath which a gauge is kept. -/
abbrev Gauged := StateT Gauge (Except Fault)

/-- Writes down what happens while the calls are active. -/
def Gauged.note (active : List FunctionSymbol) (event : Event) : Gauged Unit :=
  modify fun g => { g with moments := g.moments ++ [⟨active, g.depth, event⟩] }

namespace Interpreter

/-- Evaluates the node at a place of the body in a frame of the innermost active call. -/
def evalGauged (m : Interpreter)
    (call : Declaration → Option Value → List Value → Gauged (Except Unwind Value)) (b : Body)
    (self : Option Value) (active : List FunctionSymbol) :
    (fuel : Nat) → ExprRef → EvaluatingOver Gauged Value
  | 0, _ => liftM (.error .endless : Except Fault Value)
  | fuel + 1, e => do
    liftM (Gauged.note active (.node e))
    m.evalForm call b self (m.evalGauged call b self active fuel) (← b.node e).form

/-- Runs a function while calls are active.  The counter says whether the call may start; `fuel`
only bounds how many calls are followed into each other. -/
def invokeGauged (m : Interpreter) (fuel : Nat) (active : List FunctionSymbol) (d : Declaration)
    (self : Option Value) (arguments : List Value) : Gauged (Except Unwind Value) :=
  match fuel with
  | 0 => liftM (.error .endless : Except Fault (Except Unwind Value))
  | fuel + 1 =>
    match d.body with
    | none => m.failing (.missingBody d.id)
    | some b =>
      if b.contains b.root then do
        Gauged.note active (.start d.symbol)
        let depth := (← get).depth
        if maxCallDepth ≤ depth then return .error (.error (.stackOverflow maxCallDepth))
        modify ({ · with depth := depth + 1 })
        let frame := Locals.ofArguments d.params arguments
        let active := d.symbol :: active
        let (result, _) ← (m.evalGauged (m.invokeGauged fuel active) b self active (m.budget b)
          b.root).run.run frame
        modify ({ · with depth })
        return land d b result
      else m.failing (.missingRoot d.id)

/-- A call from outside. -/
structure Request where
  symbol : FunctionSymbol
  self : Option Value
  arguments : List Value
  deriving DecidableEq, Repr, Inhabited

/-- What a call from outside answers, and what was written down on the way. -/
structure Reply where
  answer : Except EvalError Value
  moments : List Moment

/-- Calls a function from outside. -/
def callGauged (m : Interpreter) (r : Request) : Gauged (Except EvalError Value) :=
  match m.declaration? r.symbol with
  | none => return .error (.unknownFunction r.symbol)
  | some d =>
    if r.arguments.length = d.params.length then do
      m.answer (← m.invokeGauged (maxCallDepth + 1) [] d r.self r.arguments)
    else return .error (.argumentCount d.params.length r.arguments.length)

/-- Calls functions from outside one after another, from what the counter shows at first to what it
shows in the end. -/
def callEach (m : Interpreter) : List Request → Nat → Except Fault (List Reply × Nat)
  | [], depth => .ok ([], depth)
  | r :: rest, depth => do
    let (answer, g) ← (m.callGauged r).run ⟨depth, []⟩
    let (replies, depth) ← m.callEach rest g.depth
    return (⟨answer, g.moments⟩ :: replies, depth)

end Interpreter

end Companions
