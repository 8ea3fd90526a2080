import Companions.Declaration
set_option autoImplicit false

/-!
# Pools

The three stores that grow while declarations are made: names, types and symbols.  `Growing` is work
that may add to them; it ends in an answer or in a fault.
-/

namespace Companions

/-- The three stores together. -/
structure Pools where
  names : NameTable
  types : TypePool
  symbols : SymbolSupply

namespace Pools

/-- Only what is fixed is known, and nothing has been minted. -/
def fresh : Pools := ⟨.fresh, .fresh, .fresh⟩

instance : Inhabited Pools := ⟨fresh⟩

end Pools

/-- Work on the pools. -/
abbrev Growing := StateT Pools (Except Fault)

namespace Growing

/-- The name of the text, which is added if it is new. -/
def intern (text : String) : Growing Name := fun p =>
  let (name, names) := p.names.intern text
  .ok (name, { p with names })

/-- Reads a dotted path. -/
def classId (path : String) : Growing ClassId := fun p =>
  let (c, names) := ClassId.ofPath p.names path
  .ok (c, { p with names })

/-- The marker with the path. -/
def marker (path : String) : Growing Marker := fun p =>
  let (m, names) := Marker.ofPath p.names path
  .ok (m, { p with names })

/-- The id of the type, which is added if it is new. -/
def internType (t : ResolvedType) : Growing TypeId := fun p =>
  let (id, types) := p.types.intern t
  .ok (id, { p with types })

/-- The type of the instances of a class. -/
def classType (c : ClassId) : Growing TypeId := fun p =>
  let (t, types) := p.types.classType c
  .ok (t, { p with types })

/-- The type with its nullability forced. -/
def withNullability (type : TypeId) (n : Nullability) : Growing TypeId := fun p => do
  let (t, types) ← p.types.withNullability type n
  return (t, { p with types })

/-- The type that a companion for the strategy returns. -/
def returnType (strategy : Strategy) (type : TypeId) : Growing TypeId := fun p => do
  let (t, types) ← strategy.returnType p.types type
  return (t, { p with types })

/-- The same place, under the name with the suffix. -/
def derive (id : CallableId) (suffix : String) : Growing CallableId := fun p => do
  let (id, names) ← id.derive p.names suffix
  return (id, { p with names })

/-- A new function symbol. -/
def mintFunction : Growing FunctionSymbol := fun p =>
  let (s, symbols) := p.symbols.mintFunction
  .ok (s, { p with symbols })

/-- A new parameter symbol. -/
def mintParam : Growing ParamSymbol := fun p =>
  let (s, symbols) := p.symbols.mintParam
  .ok (s, { p with symbols })

/-- A new constructor symbol. -/
def mintConstructor : Growing ConstructorSymbol := fun p =>
  let (s, symbols) := p.symbols.mintConstructor
  .ok (s, { p with symbols })

/-- Works with the symbols of another supply.  The supply of the pools stays as it is. -/
def withSupply {α : Type} (supply : SymbolSupply) (work : Growing α) :
    Growing (α × SymbolSupply) := fun p => do
  let (a, grown) ← work { p with symbols := supply }
  return ((a, grown.symbols), { grown with symbols := p.symbols })

end Growing

end Companions
