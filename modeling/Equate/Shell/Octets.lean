import Equate.Text.Encoding

/-!
# Texts of bytes

A shell works on bytes: lengths, patterns and cuts count them, and a script may hold
bytes that are no text at all. Here a byte is a character below 256, so that everything
said about texts can be said about bytes too.
-/
namespace Equate.Shell

/-- A text of which each character stands for a byte. -/
abbrev Octets := Text

/-- The bytes as such a text. -/
def ofBytes (bytes : Bytes) : Octets := bytes.map fun b => Char.ofNat b.toNat

/-- The bytes that such a text stands for. -/
def toBytes (o : Octets) : Bytes := o.map fun c => c.toNat.toUInt8

/-- The bytes of the UTF-8 form of a text. -/
def encode (t : Text) : Octets := ofBytes (Text.toBytes t)

/-- The text that bytes stand for, leniently. -/
def decode (o : Octets) : Text := Text.ofBytes (toBytes o)

/-- The octets of a quoted string, which holds ASCII only. -/
def lit (s : String) : Octets := s.toList

/-- The blanks that count in shells and their programs. -/
def isSpace (c : Char) : Bool := c == ' ' || ('\t' ≤ c && c ≤ '\r')

/-- A character that names of parameters begin with. -/
def isNameStart (c : Char) : Bool := c.isAlpha || c == '_'

/-- A character of names of parameters. -/
def isNameChar (c : Char) : Bool := c.isAlphanum || c == '_'

/-- A name that a parameter can have. -/
def isName : Text → Bool
  | [] => false
  | c :: rest => isNameStart c && rest.all isNameChar

/-- One text stands in front of another: at the first byte that differs it has the smaller
one, or it has none. -/
def isBefore : Octets → Octets → Bool
  | _, [] => false
  | [], _ :: _ => true
  | a :: x, b :: y => if a = b then isBefore x y else decide (a.toNat < b.toNat)

/-- The texts in order. -/
def inOrder (texts : List Octets) : List Octets := texts.mergeSort fun a b => !isBefore b a

/-- A whole number without a sign. -/
def natural? (t : Text) : Option Nat :=
  if t ≠ [] ∧ t.all Char.isDigit then some (Text.digitsValue t) else none

/-- A whole number. -/
def integer? (t : Text) : Option Int :=
  match t with
  | '-' :: rest => (natural? rest).map fun n => -(n : Int)
  | '+' :: rest => (natural? rest).map Int.ofNat
  | t => (natural? t).map Int.ofNat

/-- A whole number in decimal digits. -/
def integerText (n : Int) : Text :=
  if n < 0 then '-' :: Text.decimal n.natAbs else Text.decimal n.natAbs

/-- Lines with what ends each of them; the last may have no end. -/
def fullLines (t : Octets) : List Octets :=
  (t.foldr (fun c (lines : List Octets) =>
    match lines with
    | [] => [[c]]
    | first :: rest => if c = '\n' then ['\n'] :: first :: rest else (c :: first) :: rest) [])

/-- A line without its end. -/
def chomp (line : Octets) : Octets :=
  if line.getLast? = some '\n' then line.dropLast else line

/-- The lines without their ends. -/
def plainLines (t : Octets) : List Octets := (fullLines t).map chomp

end Equate.Shell
