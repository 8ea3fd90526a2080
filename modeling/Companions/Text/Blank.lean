set_option autoImplicit false

/-!
# Blanks and comma-separated items

A blank is a character with the Unicode property `White_Space`.  The zero-width space U+200B and the
byte order mark U+FEFF do not have it.

`trim` takes blanks off both ends of a text.  `items` reads a comma-separated list: items are
trimmed, and items that are blank do not count.
-/

namespace Companions.Text

/-- The characters with the property `White_Space`. -/
def isBlank (c : Char) : Bool :=
  let n := c.toNat
  (0x9 ≤ n && n ≤ 0xd) || n == 0x20 || n == 0x85 || n == 0xa0 || n == 0x1680 ||
    (0x2000 ≤ n && n ≤ 0x200a) || n == 0x2028 || n == 0x2029 || n == 0x202f || n == 0x205f ||
    n == 0x3000

/-- Every character that core counts as white space is a blank. -/
theorem isBlank_of_isWhitespace {c : Char} (h : c.isWhitespace = true) : isBlank c = true := by
  simp only [Char.isWhitespace, Bool.or_eq_true, decide_eq_true_eq] at h
  rcases h with ((rfl | rfl) | rfl) | rfl <;> rfl

/-- The characters without the blanks at both ends. -/
def trimChars (s : List Char) : List Char :=
  ((s.dropWhile isBlank).reverse.dropWhile isBlank).reverse

/-- The text without the blanks at both ends. -/
def trim (s : String) : String := String.ofList (trimChars s.toList)

/-- The pieces between the separators, one more than there are separators. -/
def splitChars (separator : Char) : List Char → List (List Char)
  | [] => [[]]
  | c :: rest =>
    if c = separator then [] :: splitChars separator rest
    else
      match splitChars separator rest with
      | [] => [[c]]
      | piece :: pieces => (c :: piece) :: pieces

/-- The items of a comma-separated list, trimmed, without the blank ones. -/
def items (s : String) : List String :=
  (((splitChars ',' s.toList).map trimChars).filter (!·.isEmpty)).map String.ofList

theorem splitChars_ne_nil (separator : Char) (s : List Char) : splitChars separator s ≠ [] := by
  cases s with
  | nil => simp [splitChars]
  | cons c rest =>
    simp only [splitChars]
    split
    · simp
    · split <;> simp

end Companions.Text
