import Companions.Program
import Companions.Predicate
set_option autoImplicit false

/-!
# Hosts

The compiler around the library owns the declarations.  It is asked for them through a `Host`; all
that is ever changed on its side are the pools.

A program is a host.  It answers for the predicates that were registered with it and for no other.
-/

namespace Companions

/-- The surroundings in which companions are made: what is declared, which functions are marked, and
which constructor makes an object from nothing. -/
structure Host extends Lookup where
  /-- The functions whose annotations satisfy the predicate, in the order of declaration. -/
  matching : Predicate → List FunctionSymbol
  noArgConstructor : ClassId → Option ConstructorSymbol
  builtins : Builtins

/-- The predicates that a host will be asked about. -/
structure Registry where
  predicates : List Predicate
  deriving Repr

namespace Registry

/-- Nothing is registered. -/
def empty : Registry := ⟨[]⟩

instance : Inhabited Registry := ⟨empty⟩

/-- The predicate is registered. -/
def contains (r : Registry) (p : Predicate) : Bool := r.predicates.contains p

/-- Registers a predicate; once is enough. -/
def register (r : Registry) (p : Predicate) : Registry :=
  if r.contains p then r else ⟨r.predicates ++ [p]⟩

theorem contains_register (r : Registry) (p : Predicate) : (r.register p).contains p = true := by
  unfold register
  split
  · assumption
  · simp [contains]

end Registry

/-- The predicate that selects what the configuration marks for a strategy. -/
def Growing.predicate (c : Config) (strategy : Strategy) : Growing Predicate := fun p =>
  let (predicate, names) := c.predicate strategy p.names
  .ok (predicate, { p with names })

/-- Registers the predicates of both strategies. -/
def Registry.registerAll (r : Registry) (c : Config) : Growing Registry := do
  let orNull ← Growing.predicate c .nullOnThrow
  let orThrow ← Growing.predicate c .throwOnNull
  return (r.register orNull).register orThrow

/-- The functions of a program whose annotations satisfy the predicate. -/
def Program.matching (p : Program) (predicate : Predicate) : List FunctionSymbol :=
  (p.declarations.filter fun d => predicate.holds d.annotations).map (·.symbol)

/-- A program as a host. -/
def Program.host (p : Program) (registered : Registry) : Host where
  toLookup := p.lookup
  matching predicate := if registered.contains predicate then p.matching predicate else []
  noArgConstructor := p.noArgConstructor?
  builtins := p.builtins

end Companions
