import Companions.Host
set_option autoImplicit false

/-!
# The index of companions

For one strategy, the index says which companions there are: each marked function derives one
identity, and each identity that exactly one function derives is a companion of that function.  When
several functions derive one identity, as overloads do, the companion would be ambiguous; then there
is none, and the identity is reported as a collision.

An index is built when it is first asked for and is kept from then on.
-/

namespace Companions

/-- An identity and the functions that derive it, in the order of the host. -/
structure Derived where
  identity : CallableId
  sources : List FunctionSymbol
  deriving DecidableEq, Repr, Inhabited

/-- Several functions that derive one identity. -/
structure Collision where
  strategy : Strategy
  identity : CallableId
  sources : List FunctionSymbol
  deriving DecidableEq, Repr, Inhabited

/-- The companions of one strategy. -/
structure CompanionIndex where
  /-- What the host answered, without repeats. -/
  matched : List FunctionSymbol
  /-- Companions and the functions they forward to, in the order of the host. -/
  entries : List (CallableId × FunctionSymbol)
  collisions : List Collision
  deriving DecidableEq, Repr, Inhabited

namespace Derived

/-- Adds a function to those that derive the identity. -/
def insert (identity : CallableId) (source : FunctionSymbol) : List Derived → List Derived
  | [] => [⟨identity, [source]⟩]
  | d :: rest =>
    if d.identity = identity then { d with sources := d.sources ++ [source] } :: rest
    else d :: insert identity source rest

/-- The companion, if there is one. -/
def companion? (d : Derived) : Option (CallableId × FunctionSymbol) :=
  match d.sources with
  | [source] => some (d.identity, source)
  | _ => none

/-- The collision, if there is one. -/
def collision? (strategy : Strategy) (d : Derived) : Option Collision :=
  match d.sources with
  | _ :: _ :: _ => some ⟨strategy, d.identity, d.sources⟩
  | _ => none

end Derived

namespace CompanionIndex

/-- The identities of the companions, in the order of their functions in the host. -/
def identities (i : CompanionIndex) : List CallableId := i.entries.map (·.1)

/-- The function behind a companion. -/
def originOf? (i : CompanionIndex) (id : CallableId) : Option FunctionSymbol :=
  (i.entries.find? (·.1 = id)).map (·.2)

/-- The companions that no class owns. -/
def topLevel (i : CompanionIndex) : List CallableId := i.identities.filter (·.isTopLevel)

/-- The names of the companions that the class owns. -/
def namesIn (i : CompanionIndex) (c : ClassId) : List Name :=
  (i.identities.filter (·.owner = some c)).map (·.name)

/-- The number of companions. -/
def size (i : CompanionIndex) : Nat := i.entries.length

/-- No function gets a companion. -/
def isEmpty (i : CompanionIndex) : Bool := i.entries.isEmpty

/-- The index of what the functions derive. -/
def ofDerived (strategy : Strategy) (matched : List FunctionSymbol) (derived : List Derived) :
    CompanionIndex where
  matched
  entries := derived.filterMap (·.companion?)
  collisions := derived.filterMap (·.collision? strategy)

/-- What the functions derive, after what is derived already.  Functions that the host has no
declaration for derive nothing. -/
def deriveAll (host : Host) (suffix : String) :
    List FunctionSymbol → List Derived → Growing (List Derived)
  | [], derived => return derived
  | symbol :: rest, derived =>
    match host.declaration symbol with
    | none => deriveAll host suffix rest derived
    | some d => do
      let identity ← Growing.derive d.id suffix
      deriveAll host suffix rest (Derived.insert identity symbol derived)

/-- Asks the host for the functions that the predicate selects. -/
def build (host : Host) (strategy : Strategy) (predicate : Predicate) :
    Growing CompanionIndex := do
  let matched := (host.matching predicate).eraseDups
  return ofDerived strategy matched (← deriveAll host strategy.suffix matched [])

end CompanionIndex

/-! ## Building once -/

/-- An index that is built when it is first asked for. -/
structure LazyIndex where
  strategy : Strategy
  predicate : Predicate
  built? : Option CompanionIndex

namespace LazyIndex

/-- An index that is not built yet. -/
def new (strategy : Strategy) (predicate : Predicate) : LazyIndex := ⟨strategy, predicate, none⟩

/-- The index has been asked for. -/
def isBuilt (i : LazyIndex) : Bool := i.built?.isSome

/-- The index, and what is kept for the next time. -/
def get (i : LazyIndex) (host : Host) : Growing (CompanionIndex × LazyIndex) :=
  match i.built? with
  | some built => return (built, i)
  | none => do
    let built ← CompanionIndex.build host i.strategy i.predicate
    return (built, { i with built? := some built })

end LazyIndex

end Companions
