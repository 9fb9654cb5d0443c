import Equate.Shell.Printed

/-!
# Values in a language of records

A value is a number or a text. What comes from an input is a text that counts as a number
if it looks like one; a variable that has no value yet counts as zero and as the empty
text.
-/
namespace Equate.Shell.Records

/-- A value. -/
inductive Datum where
  | unset
  | number (x : Float)
  | text (t : Octets)
  | input (t : Octets)

/-! ## Numbers in texts -/

/-- The value of a hexadecimal digit. -/
def hexDigit? (c : Char) : Option Nat :=
  if c.isDigit then some (c.toNat - 48)
  else if 'a' ≤ c ∧ c ≤ 'f' then some (c.toNat - 87)
  else if 'A' ≤ c ∧ c ≤ 'F' then some (c.toNat - 55)
  else none

/-- A hexadecimal number without its mark, and what follows it. -/
def hexFront (t : Octets) : Option (Float × Octets) :=
  let isHex (c : Char) : Bool := (hexDigit? c).isSome
  let whole := t.takeWhile isHex
  let rest := t.drop whole.length
  let fraction := match rest with
    | '.' :: r => r.takeWhile isHex
    | _ => []
  let digits := whole ++ fraction
  if digits = [] then none
  else
    let rest := if rest.head? = some '.' then rest.drop (fraction.length + 1) else rest
    let n := digits.foldl (fun n c => n * 16 + (hexDigit? c).getD 0) 0
    let (e, rest) : Int × Octets := match rest with
      | c :: r =>
        let (negative, d) := Number.readSign r
        let ds := d.takeWhile Char.isDigit
        if (c = 'p' ∨ c = 'P') ∧ ds ≠ [] then
          let k : Int := Text.digitsValue ds
          (if negative then -k else k, d.drop ds.length)
        else (0, rest)
      | [] => (0, rest)
    let e := e - 4 * fraction.length
    let bounded := max (-5000) (min 5000 e)
    let x := if 0 ≤ bounded then Number.nearest (n * Nat.pow 2 bounded.toNat) 1
      else Number.nearest n (Nat.pow 2 (-bounded).toNat)
    some (x, rest)

/-- The number that a text begins with, behind blanks, and what follows it. Without a
number that is the whole text. -/
def numberFront (t : Octets) : Float × Octets :=
  let body := t.dropWhile isSpace
  let (negative, unsigned) := Number.readSign body
  match unsigned with
  | '0' :: x :: rest =>
    match if x = 'x' ∨ x = 'X' then hexFront rest else none with
    | some (value, rest) => (Number.withSign negative value, rest)
    | none =>
      let (value, behind) := floatAtFront body
      (value, if behind.length = body.length then t else behind)
  | _ =>
    let word := unsigned.map Char.toLower
    let infinity := Float.ofBits Number.infinityCode.toUInt64
    if (lit "infinity").isPrefixOf word then (Number.withSign negative infinity, unsigned.drop 8)
    else if (lit "inf").isPrefixOf word then (Number.withSign negative infinity, unsigned.drop 3)
    else if (lit "nan").isPrefixOf word then
      (Number.withSign negative (Float.ofBits (Number.infinityCode + Nat.pow 2 51).toUInt64),
        unsigned.drop 3)
    else
      let (value, behind) := floatAtFront body
      (value, if behind.length = body.length then t else behind)

/-- A text that is a number from its first character to its last, blanks apart. -/
def wholeNumber? (t : Octets) : Option Float :=
  let body := ((t.dropWhile isSpace).reverse.dropWhile isSpace).reverse
  let begins := body.head?.any fun c => c.isDigit || ['+', '-', '.'].contains c
  let ends := body.getLast?.any fun c => c.isDigit || c == '.'
  let (x, rest) := numberFront body
  if begins ∧ ends ∧ rest.isEmpty then some x else none

/-! ## Numbers as texts -/

/-- The integer part of a number. What is no number or too large has none. -/
def truncated? (x : Float) : Option Int :=
  let code := Number.magnitudeCode x
  if Number.infinityCode ≤ code then none
  else
    let (m, q) := Number.magnitude code
    let n : Nat := if 0 ≤ q then m * Nat.pow 2 q.toNat else m / Nat.pow 2 (-q).toNat
    some (if Number.isNegative x then -(n : Int) else n)

/-- The number is an integer. -/
def isWhole (x : Float) : Bool := x == x.floor && x - x == 0

/-- The integer that a directive for integers prints. -/
def printedInteger (x : Float) : Int :=
  match truncated? x with
  | some n =>
    if (18446744073709551615 : Int) < n then 18446744073709551615
    else if n < -9223372036854775808 then -9223372036854775807
    else n
  | none =>
    if x == x then (if x < 0 then -9223372036854775807 else 18446744073709551615)
    else -9223372036854775808

/-- A format that has been taken apart: what is printed up to now, and what is left of the
arguments. There may be too few of them, or a directive that is none. -/
structure Printing where
  output : Octets
  arguments : List Datum
  /-- How many directives have been met. -/
  count : Nat

/-- Why a format cannot be printed. -/
inductive Misprint where
  | tooFew
  | improper (number : Nat)

/-- The bounds of the integers that a number is printed as. -/
def isPrintedWhole (x : Float) : Bool :=
  isWhole x && -9223372036854775808.0 ≤ x && x ≤ 18446744073709551616.0

/-- A number that may be none. What comes of a calculation without a result has a sign. -/
def floatText (s : Shape) (conversion : Char) (x : Float) : Octets :=
  if x != x then s.pad (if conversion.isUpper then lit "-NAN" else lit "-nan") else s.float conversion x

/-- A number by one directive, which is all that there is in most formats for numbers. -/
def numberText (format : Octets) (x : Float) : Octets :=
  match format with
  | '%' :: rest =>
    let flags := rest.takeWhile fun c => ['#', '-', '+', ' ', '0'].contains c
    let rest := rest.drop flags.length
    let width := rest.takeWhile Char.isDigit
    let rest := rest.drop width.length
    let (precision, rest) := match rest with
      | '.' :: r =>
        let digits := r.takeWhile Char.isDigit
        (some (Text.digitsValue digits), r.drop digits.length)
      | r => (none, r)
    let shape : Shape := ⟨flags, Text.digitsValue width, precision⟩
    match rest with
    | c :: more =>
      if ['e', 'E', 'f', 'F', 'g', 'G'].contains c then floatText shape c x ++ more
      else if c = 'd' ∨ c = 'i' then shape.integer (printedInteger x) ++ more
      else format
    | [] => format
  | c :: rest => c :: numberText rest x
  | [] => []

/-- A number as a text: an integer by its digits, other numbers by the format. -/
def shownNumber (format : Octets) (x : Float) : Octets :=
  if isPrintedWhole x then integerText (printedInteger x) else numberText format x

namespace Datum

/-- The value as a number. -/
def toNumber : Datum → Float
  | unset => 0
  | number x => x
  | text t => (numberFront t).1
  | input t => (numberFront t).1

/-- The value as a text, with a format for the numbers that are no integers. -/
def toText (format : Octets) : Datum → Octets
  | unset => []
  | number x => shownNumber format x
  | text t => t
  | input t => t

/-- The number that the value is, if it counts as one. -/
def number? : Datum → Option Float
  | unset => some 0
  | number x => some x
  | text _ => none
  | input t => wholeNumber? t

/-- The value counts as true. -/
def isTrue : Datum → Bool
  | unset => false
  | number x => x != 0
  | text t => !t.isEmpty
  | input t =>
    match wholeNumber? t with
    | some x => x != 0
    | none => !t.isEmpty

/-- A truth value as a number. -/
def ofBool (b : Bool) : Datum := number (if b then 1 else 0)

/-- Two values in their order: as numbers if both count as such, otherwise as texts. -/
def compared (format : Octets) (a b : Datum) (numbers : Float → Float → Bool)
    (texts : Ordering → Bool) : Bool :=
  match a.number?, b.number? with
  | some x, some y => numbers x y
  | _, _ =>
    let s := a.toText format
    let t := b.toText format
    texts (if s = t then .eq else if isBefore s t then .lt else .gt)

end Datum

/-! ## Formats -/

namespace Printing

/-- The next argument. -/
def use (p : Printing) : Except (Misprint × Octets) (Datum × Printing) :=
  match p.arguments with
  | [] => .error (.tooFew, p.output)
  | a :: rest => .ok (a, { p with arguments := rest })

/-- More output. -/
def add (p : Printing) (t : Octets) : Printing := { p with output := p.output ++ t }

/-- A number in a directive, or an argument in the place of a star. -/
def amount (p : Printing) (format : Octets) :
    Except (Misprint × Octets) (Option Int × Octets × Printing) :=
  match format with
  | '*' :: rest => do
    let (a, p) ← p.use
    return (some (printedInteger a.toNumber), rest, p)
  | format =>
    let digits := format.takeWhile Char.isDigit
    .ok (if digits = [] then none else some (Text.digitsValue digits), format.drop digits.length, p)

/-- The character that a value is printed as. -/
def character : Datum → Char
  | .text t => t.headD '\x00'
  | .unset => '\x00'
  | .number x => Char.ofNat ((printedInteger x) % 256).toNat
  | .input t =>
    match wholeNumber? t with
    | some x => Char.ofNat ((printedInteger x) % 256).toNat
    | none => t.headD '\x00'

/-- A directive behind its percent sign, and what follows it. -/
def directive (convert : Octets) (p : Printing) (format : Octets) :
    Except (Misprint × Octets) (Printing × Octets) := do
  let p := { p with count := p.count + 1 }
  let flags := format.takeWhile fun c => ['#', '-', '+', ' ', '0'].contains c
  let (width, rest, p) ← p.amount (format.drop flags.length)
  let (precision, rest, p) ← match rest with
    | '.' :: rest => do
      let (n, rest, p) ← p.amount rest
      pure (some (n.getD 0), rest, p)
    | rest => pure (none, rest, p)
  let rest := rest.dropWhile fun c => ['l', 'h', 'L', 'q'].contains c
  let shape : Shape :=
    { flags := if width.any (· < 0) then '-' :: flags else flags
      width := (width.getD 0).natAbs
      precision := precision.bind fun n => if n < 0 then none else some n.toNat }
  let (a, p) ← p.use
  match rest with
  | [] => .error (.improper p.count, p.output)
  | c :: behind =>
    let t ← match c with
      | 's' =>
        let t := a.toText convert
        pure (shape.pad (t.take (shape.precision.getD t.length)))
      | 'c' => pure (shape.pad [character a])
      | 'd' => pure (shape.integer (printedInteger a.toNumber))
      | 'i' => pure (shape.integer (printedInteger a.toNumber))
      | c =>
        if ['o', 'x', 'X', 'u'].contains c then
          pure (shape.unsigned c ((printedInteger a.toNumber) % 18446744073709551616).toNat)
        else if ['e', 'E', 'f', 'F', 'g', 'G'].contains c then pure (floatText shape c a.toNumber)
        else .error (.improper p.count, p.output)
    return (p.add t, behind)

/-- A format with its arguments. -/
def run (convert : Octets) : Nat → Printing → Octets → Except (Misprint × Octets) Printing
  | 0, p, _ => .ok p
  | _, p, [] => .ok p
  | fuel + 1, p, '%' :: '%' :: rest => run convert fuel (p.add ['%']) rest
  | fuel + 1, p, '%' :: rest => do
    let (p, rest) ← directive convert p rest
    run convert fuel p rest
  | fuel + 1, p, c :: rest =>
    let plain := c :: rest.takeWhile (· ≠ '%')
    run convert fuel (p.add plain) ((c :: rest).drop plain.length)

end Printing

/-- A format with its arguments, printed. What was printed in front of a mistake is told
with it. -/
def formatted (convert format : Octets) (arguments : List Datum) :
    Except (Misprint × Octets) Octets :=
  (Printing.run convert (format.length + 1) ⟨[], arguments, 0⟩ format).map Printing.output

end Equate.Shell.Records
