import Companions.Text.Blank
set_option autoImplicit false

/-!
# Trace flags

What is logged while companions are generated: each index as it is built, each companion as it is
written, or both.  The flags are read from a comma-separated list whose words may be written in
capitals; words that name no flag do not count.
-/

namespace Companions

/-- What is reported while companions are made. -/
structure TraceFlags where
  index : Bool
  body : Bool
  deriving DecidableEq, Repr

namespace TraceFlags

/-- Nothing is reported. -/
def off : TraceFlags := ⟨false, false⟩

/-- Everything is reported. -/
def all : TraceFlags := ⟨true, true⟩

instance : Inhabited TraceFlags := ⟨off⟩

/-- What either of the two reports. -/
def union (a b : TraceFlags) : TraceFlags := ⟨a.index || b.index, a.body || b.body⟩

/-- The flags as a number, the index flag in the lowest bit. -/
def bits (f : TraceFlags) : Nat := f.index.toNat + 2 * f.body.toNat

/-- The flags that one word asks for.  The words are ASCII, and no character outside ASCII becomes
one of their letters when it is made small, so small letters are those of ASCII. -/
def ofWord (word : String) : TraceFlags :=
  match word.toLower with
  | "index" => ⟨true, false⟩
  | "body" => ⟨false, true⟩
  | "all" => all
  | _ => off

/-- Reads words that are set apart by commas; what is none of the words does not count. -/
def parse (s : String) : TraceFlags := ((Text.items s).map ofWord).foldl union off

end TraceFlags

end Companions
