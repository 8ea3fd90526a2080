import Companions.TypePool
set_option autoImplicit false

/-!
# The two strategies

A companion of a function `f` forwards to `f` and changes how trouble is reported:

* `nullOnThrow` gives `fOrNull`, which answers null where `f` throws;
* `throwOnNull` gives `fOrThrow`, which throws where `f` answers null.

A strategy fixes the suffix of the name and the nullability of the answer.
-/

namespace Companions

/-- What a companion does in the place of failing. -/
inductive Strategy
  /-- Exceptions become null. -/
  | nullOnThrow
  /-- Null becomes an exception. -/
  | throwOnNull
  deriving DecidableEq, Repr, Inhabited

namespace Strategy

/-- Both strategies, in the order in which they are asked. -/
def all : List Strategy := [nullOnThrow, throwOnNull]

/-- What a companion's name ends in. -/
def suffix : Strategy → String
  | nullOnThrow => "OrNull"
  | throwOnNull => "OrThrow"

/-- The nullability that the answer of a companion has. -/
def nullability : Strategy → Nullability
  | nullOnThrow => .nullable
  | throwOnNull => .notNull

/-- The companion's return type: the type of the function it forwards to, with the nullability that
the strategy asks for. -/
def returnType (s : Strategy) (types : TypePool) (type : TypeId) :
    Except Fault (TypeId × TypePool) :=
  types.withNullability type s.nullability

theorem mem_all (s : Strategy) : s ∈ all := by
  cases s <;> decide

end Strategy

/-- Where a declaration or a parameter comes from. -/
inductive Provenance
  | source
  | generated (strategy : Strategy)
  deriving DecidableEq, Repr, Inhabited

/-- Where the companions for the strategy come from. -/
def Strategy.provenance (s : Strategy) : Provenance := .generated s

/-- A text with a suffix. -/
def suffixed (text suffix : String) : String := text ++ suffix

/-- The same place, under the name with the suffix. -/
def CallableId.derive (names : NameTable) (id : CallableId) (suffix : String) :
    Except Fault (CallableId × NameTable) := do
  let text ← names.text id.name
  let (name, names) := names.intern (suffixed text suffix)
  return (id.withName name, names)

end Companions
