import Companions.Program
set_option autoImplicit false

/-!
# Values

What expressions evaluate to.  Of an object nothing but its class is ever looked at, and two strings
are equal exactly when their names are, because each text has one name.
-/

namespace Companions

/-- What an expression can be evaluated to.  An object is told by its class alone. -/
inductive Value
  | null
  | unit
  | int (value : Int64)
  | boolean (value : Bool)
  | string (text : Name)
  | object (type : ClassId)
  deriving DecidableEq, Repr, Inhabited

namespace Value

/-- The value is null. -/
def isNull : Value → Bool
  | null => true
  | _ => false

/-- The number, if the value is one. -/
def int? : Value → Option Int64
  | int n => some n
  | _ => none

/-- The class of an object. -/
def class? : Value → Option ClassId
  | object c => some c
  | _ => none

/-- The name of the type that the value has while the program runs. -/
def typeName : Value → String
  | null => "Nothing?"
  | unit => "Unit"
  | int _ => "Int"
  | boolean _ => "Boolean"
  | string _ => "String"
  | object _ => "object"

/-- Writes the value. -/
def display (names : NameTable) : Value → Except Fault String
  | null => .ok "null"
  | unit => .ok "kotlin.Unit"
  | int n => .ok (toString n.toInt)
  | boolean true => .ok "true"
  | boolean false => .ok "false"
  | string text => names.text text
  | object c => do return (← c.display names) ++ "@instance"

/-- The value of a constant. -/
def ofConstant : Constant → Value
  | .null => null
  | .int n => int n
  | .boolean b => boolean b
  | .string text => string text

end Value

end Companions
