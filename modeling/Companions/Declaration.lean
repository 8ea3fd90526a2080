import Companions.Body
set_option autoImplicit false

/-!
# Declarations

Functions, constructors and classes, and the look-up that finds the first two by symbol.
-/

namespace Companions

/-- Who may use a function. -/
inductive Visibility
  | everyone
  | unit
  | heirs
  | owner
  deriving DecidableEq, Repr, Inhabited

/-- How the visibility is written. -/
def Visibility.keyword : Visibility → String
  | .everyone => "public"
  | .unit => "internal"
  | .heirs => "protected"
  | .owner => "private"

/-- The modifiers of a function. -/
structure Modifiers where
  inlined : Bool
  suspend : Bool
  operator : Bool
  infixed : Bool
  external : Bool
  deriving DecidableEq, Repr, Inhabited

namespace Modifiers

/-- Reads the five lowest bits; higher bits do not count. -/
def ofBits (n : Nat) : Modifiers :=
  ⟨n.testBit 0, n.testBit 1, n.testBit 2, n.testBit 3, n.testBit 4⟩

/-- The modifiers as a number, one bit each. -/
def bits (m : Modifiers) : Nat :=
  m.inlined.toNat + 2 * m.suspend.toNat + 4 * m.operator.toNat + 8 * m.infixed.toNat +
    16 * m.external.toNat

@[simp] theorem ofBits_bits (m : Modifiers) : ofBits m.bits = m := by
  rcases m with ⟨_ | _, _ | _, _ | _, _ | _, _ | _⟩ <;> rfl

end Modifiers

/-- The visibility and the modifiers of a function. -/
structure Status where
  visibility : Visibility
  modifiers : Modifiers
  deriving DecidableEq, Repr, Inhabited

/-- How far a declaration has been resolved. -/
inductive Phase
  | raw
  | types
  | status
  /-- Signature and body are resolved. -/
  | body
  deriving DecidableEq, Repr, Inhabited

/-- A function. -/
structure Declaration where
  symbol : FunctionSymbol
  id : CallableId
  params : List Parameter
  returnType : TypeId
  status : Status
  provenance : Provenance
  phase : Phase
  annotations : List Marker
  body : Option Body
  deriving DecidableEq, Repr, Inhabited

namespace Declaration

/-- The class that the declaration is a member of. -/
def owner (d : Declaration) : Option ClassId := d.id.owner

/-- The first parameter with the symbol. -/
def param? (d : Declaration) (p : ParamSymbol) : Option Parameter :=
  d.params.find? (·.symbol = p)

end Declaration

/-- A constructor and the class whose instances it makes. -/
structure Constructor where
  symbol : ConstructorSymbol
  type : ClassId
  params : List Parameter
  deriving DecidableEq, Repr, Inhabited

/-- A class: what it inherits from, and its constructors in the order of their declaration. -/
structure Class where
  id : ClassId
  supertype : Option ClassId
  constructors : List ConstructorSymbol
  deriving DecidableEq, Repr, Inhabited

/-- What is known of the functions and the constructors around a declaration. -/
structure Lookup where
  declaration : FunctionSymbol → Option Declaration
  constr : ConstructorSymbol → Option Constructor

end Companions
