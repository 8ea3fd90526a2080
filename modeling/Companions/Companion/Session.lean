import Companions.Companion.Generator
set_option autoImplicit false

/-!
# Sessions

A session serves one compilation with the generators of both strategies.  It says which companions
there are, so that names can be resolved, and makes them when they are asked for.  Each generator
builds its index when the session first needs it.
-/

namespace Companions

/-- The two generators that a host is asked through, one for each strategy. -/
structure Session where
  orNull : Generator
  orThrow : Generator

namespace Session

/-- Interns the error class, then the markers of each strategy. -/
def new (c : Config) : Growing Session := do
  let errorClass ← Growing.classId c.errorClass
  let orNull ← Growing.predicate c .nullOnThrow
  let orThrow ← Growing.predicate c .throwOnNull
  return ⟨.new .nullOnThrow orNull errorClass, .new .throwOnNull orThrow errorClass⟩

/-- The generator for a strategy. -/
def generator (s : Session) : Strategy → Generator
  | .nullOnThrow => s.orNull
  | .throwOnNull => s.orThrow

/-- The session with another generator for the strategy. -/
def setGenerator (s : Session) (strategy : Strategy) (g : Generator) : Session :=
  match strategy with
  | .nullOnThrow => { s with orNull := g }
  | .throwOnNull => { s with orThrow := g }

/-- The index of one strategy. -/
def index (s : Session) (host : Host) (strategy : Strategy) :
    Growing (CompanionIndex × Session) := do
  let (index, g) ← (s.generator strategy).getIndex host
  return (index, s.setGenerator strategy g)

/-- Both indexes. -/
def indexes (s : Session) (host : Host) :
    Growing ((CompanionIndex × CompanionIndex) × Session) := do
  let (orNull, s) ← s.index host .nullOnThrow
  let (orThrow, s) ← s.index host .throwOnNull
  return ((orNull, orThrow), s)

/-- The companions that no class owns. -/
def topLevel (s : Session) (host : Host) : Growing (List CallableId × Session) := do
  let ((orNull, orThrow), s) ← s.indexes host
  return ((orNull.topLevel ++ orThrow.topLevel).eraseDups, s)

/-- The names of the companions that the class owns. -/
def namesIn (s : Session) (host : Host) (c : ClassId) : Growing (List Name × Session) := do
  let ((orNull, orThrow), s) ← s.indexes host
  return ((orNull.namesIn c ++ orThrow.namesIn c).eraseDups, s)

/-- The identities that several functions derive. -/
def collisions (s : Session) (host : Host) : Growing (List Collision × Session) := do
  let ((orNull, orThrow), s) ← s.indexes host
  return (orNull.collisions ++ orThrow.collisions, s)

/-- The companion `id` in `owner`, made by the strategy. -/
def generateBy (s : Session) (host : Host) (strategy : Strategy) (id : CallableId)
    (owner : Option ClassId) : Growing (Except GenerationError (Option Companion) × Session) := do
  let (made, g) ← (s.generator strategy).generate host id owner
  return (made, s.setGenerator strategy g)

/-- The companion `id` in `owner`, made by the first strategy that has it. -/
def generate (s : Session) (host : Host) (id : CallableId) (owner : Option ClassId) :
    Growing (Except GenerationError (Option Companion) × Session) := do
  let (made, s) ← s.generateBy host .nullOnThrow id owner
  match made with
  | .ok none => s.generateBy host .throwOnNull id owner
  | _ => return (made, s)

/-- Every companion of both strategies, or the first failure. -/
def generateAll (s : Session) (host : Host) :
    Growing (Except GenerationError (List Companion) × Session) := do
  let (first, orNull) ← s.orNull.generateAll host
  let s := { s with orNull }
  match first with
  | .error e => return (.error e, s)
  | .ok first => do
    let (second, orThrow) ← s.orThrow.generateAll host
    return (second.map (first ++ ·), { s with orThrow })

end Session

end Companions
