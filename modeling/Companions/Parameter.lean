import Companions.Strategy
set_option autoImplicit false

/-!
# Parameters

A value parameter of a function, of a constructor or of a handler.
-/

namespace Companions

/-- The modifiers of a parameter. -/
structure ParamFlags where
  vararg : Bool
  crossinline : Bool
  noinline : Bool
  deriving DecidableEq, Repr, Inhabited

namespace ParamFlags

/-- No flag is set. -/
def none : ParamFlags := ⟨false, false, false⟩

/-- Reads the three lowest bits; higher bits do not count. -/
def ofBits (n : Nat) : ParamFlags := ⟨n.testBit 0, n.testBit 1, n.testBit 2⟩

/-- The flags as a number, one bit each. -/
def bits (f : ParamFlags) : Nat :=
  f.vararg.toNat + 2 * f.crossinline.toNat + 4 * f.noinline.toNat

@[simp] theorem ofBits_bits (f : ParamFlags) : ofBits f.bits = f := by
  rcases f with ⟨_ | _, _ | _, _ | _⟩ <;> rfl

end ParamFlags

/-- A value parameter: the symbol that it is read by, its written name and its type. -/
structure Parameter where
  symbol : ParamSymbol
  name : Name
  type : TypeId
  flags : ParamFlags
  provenance : Provenance
  deriving DecidableEq, Repr, Inhabited

/-- The same name, type and modifiers under a symbol and a provenance of its own. -/
def Parameter.copyAs (p : Parameter) (symbol : ParamSymbol) (provenance : Provenance) :
    Parameter :=
  { p with symbol, provenance }

end Companions
