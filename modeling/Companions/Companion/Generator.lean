import Companions.Companion.Check
import Companions.Companion.Forwarding
import Companions.Companion.Index
set_option autoImplicit false

/-!
# Generating companions

A companion is a declaration of its own: it has a fresh symbol and fresh parameters, the status of
the function that it forwards to, and that function's return type with the nullability of the
strategy.  It is checked before it is handed out.
-/

namespace Companions

/-- A generated declaration. -/
structure Companion where
  symbol : FunctionSymbol
  /-- The function that it forwards to. -/
  origin : FunctionSymbol
  declaration : Declaration
  deriving DecidableEq, Repr

namespace Companion

/-- A copy of each parameter under a fresh symbol. -/
def mintParams (provenance : Provenance) : List Parameter → Growing (List Parameter)
  | [] => return []
  | p :: rest => do
    let own := p.copyAs (← Growing.mintParam) provenance
    return own :: (← mintParams provenance rest)

/-- Binds the label of a companion to the companion. -/
def bindLabel (id : CallableId) (label : LabelId) (symbol : FunctionSymbol) (b : Body) :
    Generating Body :=
  match b.bindLabel label symbol with
  | .ok b => return b
  | .error cause => throw (.returnTarget id cause)

/-- Hands the companion out if it passes the check. -/
def approve (host : Host) (id : CallableId) (d f : Declaration) : Generating Unit := do
  let types := (← get).types
  match ← (Surroundings.check ⟨host.toLookup, types⟩ d f).run with
  | .ok () => return
  | .error reason => throw (.malformed id reason)

/-- Makes the companion `id` of the function `f`, whose symbol is `origin`. -/
def make (strategy : Strategy) (errorClass : ClassId) (host : Host) (id : CallableId)
    (origin : FunctionSymbol) (f : Declaration) : Generating Companion := do
  let params ← mintParams strategy.provenance f.params
  let (label, b) ← Forwarding.body strategy host errorClass f params id.name
  let symbol ← Growing.mintFunction
  let b ← bindLabel id label symbol b
  let returnType ← Growing.returnType strategy f.returnType
  let d : Declaration :=
    ⟨symbol, id, params, returnType, f.status, strategy.provenance, .body, [], some b⟩
  approve host id d f
  return ⟨symbol, origin, d⟩

end Companion

/-! ## Generators -/

/-- What makes the companions of one strategy. -/
structure Generator where
  index : LazyIndex
  /-- What an `OrThrow` companion throws. -/
  errorClass : ClassId

namespace Generator

/-- A generator that has looked at no host yet. -/
def new (strategy : Strategy) (predicate : Predicate) (errorClass : ClassId) : Generator :=
  ⟨.new strategy predicate, errorClass⟩

/-- What the companions do with failure. -/
def strategy (g : Generator) : Strategy := g.index.strategy

/-- What marks the functions that get a companion. -/
def predicate (g : Generator) : Predicate := g.index.predicate

/-- The index, and the generator that keeps it. -/
def getIndex (g : Generator) (host : Host) : Growing (CompanionIndex × Generator) := do
  let (built, index) ← g.index.get host
  return (built, { g with index })

/-- The companion `id` according to an index.  There is none if the index does not know it or if it
lives elsewhere than in `owner`. -/
def generateFrom (g : Generator) (index : CompanionIndex) (host : Host) (id : CallableId)
    (owner : Option ClassId) : Generating (Option Companion) :=
  match index.originOf? id with
  | none => return none
  | some origin =>
    if id.owner = owner then
      match host.declaration origin with
      | none => throw (.unknownOrigin id origin)
      | some f => return some (← Companion.make g.strategy g.errorClass host id origin f)
    else return none

/-- The companions of the identities, up to the first failure. -/
def generateEach (g : Generator) (index : CompanionIndex) (host : Host) :
    List CallableId → Generating (List Companion)
  | [] => return []
  | id :: rest => do
    let made ← g.generateFrom index host id id.owner
    return made.toList ++ (← g.generateEach index host rest)

/-- The companion `id` in `owner`. -/
def generate (g : Generator) (host : Host) (id : CallableId) (owner : Option ClassId) :
    Growing (Except GenerationError (Option Companion) × Generator) := do
  let (index, g) ← g.getIndex host
  return (← (g.generateFrom index host id owner).run, g)

/-- Every companion of the index. -/
def generateAll (g : Generator) (host : Host) :
    Growing (Except GenerationError (List Companion) × Generator) := do
  let (index, g) ← g.getIndex host
  return (← (g.generateEach index host index.identities).run, g)

end Generator

end Companions
