import Companions.Companion.Error
set_option autoImplicit false

/-!
# The check of a companion

A declaration is a companion of another one if its parameters mirror those of the other, if it has a
body whose labels all leave the declaration itself, and if each node that is reached from the root
is sound: its type is known, it reads parameters that are in scope, its calls fit the callee, and it
refers to nodes only.  The check answers with the first thing that is wrong, parameters first, then
body, root and labels, then the nodes from the root in reading order.

A handler's parameter is in scope in the handler's block, along with all that is in scope around it.
-/

namespace Companions

/-- Checking ends in approval, in the first thing that is wrong, or in a fault. -/
abbrev Checking := ExceptT Malformed (Except Fault)

namespace Checking

variable {m : Type → Type} [Monad m] [MonadExceptOf Malformed m]

/-- Goes on if the condition holds. -/
def require (condition : Bool) (wrong : Malformed) : m Unit :=
  if condition then pure () else throw wrong

/-- Goes on with what was looked up if it is there. -/
def found {α : Type} (answer : Option α) (wrong : Malformed) : m α :=
  match answer with
  | some a => pure a
  | none => throw wrong

end Checking

open Checking

/-- A parameter repeats another one under a symbol of its own, with the given provenance. -/
def Parameter.mirrors (own other : Parameter) (provenance : Provenance) : Bool :=
  own.name = other.name && own.type = other.type && own.flags = other.flags &&
    own.symbol ≠ other.symbol && own.provenance = provenance

/-- The position of the first pair, from `index` on, that does not mirror. -/
def firstMismatch (provenance : Provenance) : Nat → List (Parameter × Parameter) → Option Nat
  | _, [] => none
  | index, (own, other) :: rest =>
    if own.mirrors other provenance then firstMismatch provenance (index + 1) rest else some index

/-- Checks that the parameters mirror those of the other declaration. -/
def checkParams (d other : Declaration) : Checking Unit := do
  require (d.params.length == other.params.length)
    (.parameterCount other.params.length d.params.length)
  match firstMismatch d.provenance 0 (d.params.zip other.params) with
  | none => pure ()
  | some index => throw (.parameterMismatch index)

/-- Labels from `index` on leave the function. -/
def checkLabels (symbol : FunctionSymbol) : Nat → List Label → Checking Unit
  | _, [] => pure ()
  | index, l :: rest =>
    match l.target with
    | none => throw (.unboundLabel ⟨index⟩)
    | some target => do
      require (target = symbol) (.foreignLabel ⟨index⟩ target)
      checkLabels symbol (index + 1) rest

section

variable {m : Type → Type} [Monad m] [MonadExceptOf Malformed m] [MonadLiftT (Except Fault) m]

/-- Arguments from `index` on are meant for the parameters at their positions. -/
def checkBinding (node : ExprRef) : Nat → List (Argument × Parameter) → m Unit
  | _, [] => pure ()
  | index, (a, p) :: rest => do
    require (a.param = p.symbol) (.argumentBinding node index p.symbol a.param)
    checkBinding node (index + 1) rest

/-- What a body is checked against. -/
structure Surroundings where
  lookup : Lookup
  types : TypePool

namespace Surroundings

/-- Checks the form of a node where `scope` is readable, and by `child` all that the node refers to.
The handlers of a `try` are left out: they are not checked where the node is. -/
def checkForm (s : Surroundings) (b : Body) (scope : List ParamSymbol) (child : ExprRef → m Unit)
    (node : ExprRef) : ExprForm → m Unit
  | .const _ | .self _ => pure ()
  | .param p => require (scope.contains p) (.paramOutOfScope node p)
  | .call callee receiver arguments => do
    let d ← found (s.lookup.declaration callee) (.unknownCallee node callee)
    require (d.owner.isNone || receiver.isSome) (.missingReceiver node)
    let arguments ← b.readArguments arguments
    require (arguments.length == d.params.length)
      (.argumentCount node d.params.length arguments.length)
    checkBinding node 0 (arguments.zip d.params)
    childIfAny receiver
    arguments.forM fun a => child a.value
  | .new constr arguments => do
    let k ← found (s.lookup.constr constr) (.unknownConstructor node constr)
    let arguments ← b.readArguments arguments
    require (arguments.length == k.params.length)
      (.argumentCount node k.params.length arguments.length)
    arguments.forM fun a => child a.value
  | .block statements => do
    (← b.readStatements statements).forM child
  | .ret target value => do
    require (b.label? target).isSome (.unknownLabel node target)
    childIfAny value
  | .attempt block _ | .raise block => child block
  | .elvis left right | .binary _ left right => do
    child left
    child right
  | .branch condition yes no => do
    child condition
    child yes
    childIfAny no
where
  /-- Checks a reference that may be left out. -/
  childIfAny (e : ExprRef) : m Unit :=
    if e.isSome then child e else pure ()

end Surroundings

end

namespace Surroundings

/-- Checks a node and all that it refers to, at most `fuel` nodes deep. -/
def checkNode (s : Surroundings) (b : Body) :
    (fuel : Nat) → (scope : List ParamSymbol) → (parent node : ExprRef) → Checking Unit
  | 0, _, _, _ => throwThe Fault .endless
  | fuel + 1, scope, parent, node => do
    let x ← found (b.node? node) (.danglingChild parent node)
    require (s.types.contains x.type) (.unknownType node x.type)
    s.checkForm b scope (s.checkNode b fuel scope node) node x.form
    match x.form with
    | .attempt _ handlers =>
      (← b.readHandlers handlers).forM fun h =>
        s.checkNode b fuel (h.param.symbol :: scope) node h.block
    | _ => pure ()

/-- Checks that `d` is a companion of `other`. -/
def check (s : Surroundings) (d other : Declaration) : Checking Unit := do
  checkParams d other
  let b ← found d.body .missingBody
  require (b.contains b.root) (.missingRoot b.root)
  checkLabels d.symbol 0 b.labels.toList
  s.checkNode b (b.size + 1) (d.params.map (·.symbol)) none b.root

end Surroundings

end Companions
