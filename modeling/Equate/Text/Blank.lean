import Equate.Text.Basic

/-!
# Blank characters

The characters of the Unicode property White_Space, and the cuts made with them.
Every ASCII blank is among them; no-break spaces are, zero-width spaces are not.
-/
namespace Equate.Text

/-- A character of the property White_Space. -/
def isBlank (c : Char) : Bool :=
  let n := c.toNat
  (9 ≤ n && n ≤ 13) || n == 0x20 || n == 0x85 || n == 0xA0 || n == 0x1680 ||
    (0x2000 ≤ n && n ≤ 0x200A) || n == 0x2028 || n == 0x2029 || n == 0x202F ||
    n == 0x205F || n == 0x3000

/-- A text without the blanks it starts with. -/
def trimStart (t : Text) : Text := t.dropWhile isBlank

/-- A text without the blanks it ends with. -/
def trimEnd (t : Text) : Text := (t.reverse.dropWhile isBlank).reverse

/-- A text without the blanks around it. -/
def trim (t : Text) : Text := trimEnd (trimStart t)

/-- Nothing but blanks. -/
def isBlankText (t : Text) : Bool := t.all isBlank

end Equate.Text
