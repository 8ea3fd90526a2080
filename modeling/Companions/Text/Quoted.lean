import Companions.Text.GraphemeExtend
set_option autoImplicit false

/-!
# Quoted texts

A text is written between double quotes.  Quotes and backslashes get a backslash, as do tab, line
feed, carriage return and NUL, which are written as letters; a character that would not be seen on
its own is written as its code point in hexadecimal digits.  A single quote stays as it is.
-/

namespace Companions.Text

/-- The code point in hexadecimal digits, between braces. -/
def escapeCodePoint (c : Char) : List Char :=
  ['\\', 'u', '\x7b'] ++ Nat.toDigits 16 c.toNat ++ ['\x7d']

/-- The voiced and the semi-voiced sound mark of halfwidth katakana.  They belong to the letter
before them, but are letters with a cell and a shape of their own. -/
def isSpacingSoundMark (c : Char) : Bool := c == '\uff9e' || c == '\uff9f'

/-- The character would not be seen on its own. -/
def isHidden (c : Char) : Bool :=
  !isPrintable c || isGraphemeExtend c && !isSpacingSoundMark c

/-- How a character is written between quotes. -/
def escapeChar (c : Char) : List Char :=
  match c with
  | '\x00' => ['\\', '0']
  | '\t' => ['\\', 't']
  | '\r' => ['\\', 'r']
  | '\n' => ['\\', 'n']
  | '"' => ['\\', '"']
  | '\\' => ['\\', '\\']
  | _ => if isHidden c then escapeCodePoint c else [c]

/-- The text between double quotes. -/
def quote (s : String) : String :=
  String.ofList ('"' :: s.toList.flatMap escapeChar ++ ['"'])

end Companions.Text
