import Equate.Number.Plain
import Equate.Shell.Printed
import Equate.Shell.Records.Evaluation

/-!
# Numbers in scripts

Whole numbers have no bounds, others are those of binary64. A number is shown with as few
digits as read back, positionally unless its exponent is far from zero.
-/
namespace Equate.Shell.Dynamic.Numeral

open Equate.Shell.Records (quotientOf remainder)

/-- The number is infinite. -/
def isInfinite (x : Float) : Bool := Number.magnitudeCode x == Number.infinityCode

/-- The number is none. -/
def isNaN (x : Float) : Bool := Number.infinityCode < Number.magnitudeCode x

/-- The number is neither infinite nor none. -/
def isFinite (x : Float) : Bool := Number.magnitudeCode x < Number.infinityCode

/-- The infinity. -/
def infinity : Float := Float.ofBits Number.infinityCode.toUInt64

/-- No number. -/
def nan : Float := Float.ofBits (Number.infinityCode + Nat.pow 2 51).toUInt64

/-- A number without a fraction. -/
def isWhole (x : Float) : Bool := isFinite x && x.floor == x

/-- An exponent with its sign. -/
def exponentText (e : Int) : Text :=
  let digits := Text.decimal e.natAbs
  'e' :: (if e < 0 then '-' else '+') :: (List.replicate (2 - digits.length) '0' ++ digits)

/-- A number in as few digits as read back. -/
def floatText (x : Float) : Text :=
  if isNaN x then "nan"
  else
    let sign : Text := if Number.isNegative x then "-" else ""
    if isInfinite x then sign ++ "inf"
    else if x == 0 then sign ++ "0.0"
    else
      let d := Number.shortest .toEven (Number.withSign (Number.isNegative x) x)
      let digits := Text.decimal d.digits
      let point : Int := digits.length + d.exponent
      if -4 < point ∧ point ≤ 16 then
        match Number.positionalParts d with
        | (whole, []) => sign ++ whole ++ ".0"
        | (whole, fraction) => sign ++ whole ++ '.' :: fraction
      else
        let fraction := digits.drop 1
        sign ++ digits.take 1 ++ (if fraction = [] then [] else '.' :: fraction) ++
          exponentText (point - 1)

/-- Digits with lines between some of them, without the lines; each line stands between two
digits. -/
def withoutLines (accepts : Char → Bool) : Bool → Text → Option Text
  | after, [] => if after then some [] else none
  | after, '_' :: rest =>
    if after ∧ (rest.headD '_') ≠ '_' then withoutLines accepts false rest else none
  | _, c :: rest => if accepts c then (withoutLines accepts true rest).map (c :: ·) else none

/-- The digit of a character. -/
def digitOf (c : Char) : Nat :=
  if c.isDigit then c.toNat - 48 else if c.isLower then c.toNat - 87 else if c.isUpper then c.toNat - 55
  else 99

/-- A text without blanks around it. -/
def trimmed (t : Text) : Text := ((t.dropWhile isSpace).reverse.dropWhile isSpace).reverse

/-- A whole number in a base; the base zero is told by the text. -/
def readInt? (base : Nat) (t : Text) : Option Int :=
  let (negative, body) := Number.readSign (trimmed t)
  let mark := (body.take 2).map Char.toLower
  let marked : Nat := if mark = ['0', 'x'] then 16 else if mark = ['0', 'o'] then 8
    else if mark = ['0', 'b'] then 2 else 0
  let (base, body) :=
    if marked ≠ 0 ∧ (base = marked ∨ base = 0) then
      (marked, let rest := body.drop 2; if rest.head? = some '_' then rest.tail else rest)
    else (if base = 0 then 10 else base, body)
  (withoutLines (fun c => digitOf c < base) false body).map fun digits =>
    let n : Int := if base = 10 then Text.digitsValue digits
      else digits.foldl (fun n c => n * base + digitOf c) (0 : Nat)
    if negative then -n else n

/-- A number. -/
def readFloat? (t : Text) : Option Float :=
  let body := trimmed t
  if body.contains '_' then
    let parts := Text.splitOn '_' body
    let fine := (parts.zip parts.tail).all fun (a, b) =>
      a.getLast?.any Char.isDigit && b.head?.any Char.isDigit
    if fine then Number.readNumber? parts.flatten else none
  else Number.readNumber? body

/-- A whole number as a number of binary64, if it is not too large. -/
def ofInt? (n : Int) : Option Float :=
  let x := Number.nearest n.natAbs 1
  if isFinite x then some (Number.withSign (n < 0) x) else none

/-- A quotient of whole numbers, if it is not too large. -/
def quotient? (a b : Int) : Option Float :=
  let x := Number.nearest a.natAbs b.natAbs
  if isFinite x then some (Number.withSign (decide (a < 0) != decide (b < 0)) x) else none

/-- The whole number of a number that is finite, towards zero. -/
def toInt (x : Float) : Int :=
  let (n, d) := quotientOf x
  let m : Int := (n / d : Nat)
  if Number.isNegative x then -m else m

/-- The largest whole number up to a number that is finite. -/
def floorInt (x : Float) : Int := toInt x.floor

/-- What is left of a division, with the sign of the second number. -/
def modulo (x y : Float) : Float :=
  let m := remainder x y
  if m == 0 then Number.withSign (Number.isNegative y != Number.isNegative m) m
  else if (y < 0) != (m < 0) then m + y else m

/-- How often the second number is contained in the first one. -/
def floorDivide (x y : Float) : Float :=
  let m := remainder x y
  let quotient := (x - m) / y
  let quotient := if m != 0 && (y < 0) != (m < 0) then quotient - 1 else quotient
  if quotient == 0 then Number.withSign (Number.isNegative (x / y) != Number.isNegative quotient) quotient
  else
    let f := quotient.floor
    if 0.5 < quotient - f then f + 1 else f

/-- Two numbers are in an order. -/
def compareInt (n : Int) (x : Float) : Option Ordering :=
  if isNaN x then none
  else if isInfinite x then some (if Number.isNegative x then .gt else .lt)
  else
    let (a, b) := quotientOf x
    let a : Int := if Number.isNegative x then -(a : Int) else a
    some (compare (n * b) a)

/-- A quotient of whole numbers rounded to a whole one, halves to the even neighbour. -/
def roundQuotient (a : Int) (b : Nat) : Int :=
  let n : Int := Number.roundHalfEven a.natAbs b
  if a < 0 then -n else n

/-- A finite number rounded to a whole one. -/
def roundInt (x : Float) : Int :=
  let (a, b) := quotientOf x
  let n : Int := Number.roundHalfEven a b
  if Number.isNegative x then -n else n

/-- A number rounded to so many places. -/
def roundTo (x : Float) (places : Int) : Float :=
  if !isFinite x || places > 400 then x
  else
    let (a, b) := quotientOf x
    let y :=
      if 0 ≤ places then
        let p := Nat.pow 10 places.toNat
        Number.nearest (Number.roundHalfEven (a * p) b) p
      else if places < -400 then 0
      else
        let p := Nat.pow 10 (-places).toNat
        Number.nearest (Number.roundHalfEven a (b * p) * p) 1
    Number.withSign (Number.isNegative x) y

/-- The digits of a whole number in a base, with a mark in front if that is wanted. -/
def inBase (base : Nat) (mark : Text) (n : Int) : Text :=
  (if n < 0 then ['-'] else []) ++ mark ++ Nat.toDigits base n.natAbs

/-! ## Formats -/

/-- How a value is to be shown. -/
structure Format where
  fill : Char
  align : Option Char
  sign : Char
  other : Bool
  zeros : Bool
  width : Nat
  group : Option Char
  precision : Option Nat
  type : Option Char

namespace Format

/-- A format as it is written. -/
def read? (t : Text) : Option Format :=
  let isAlign (c : Char) : Bool := ['<', '>', '=', '^'].contains c
  let (fill, align, rest) : Char × Option Char × Text := match t with
    | f :: a :: rest =>
      if isAlign a then (f, some a, rest)
      else if isAlign f then (' ', some f, a :: rest) else (' ', none, t)
    | [a] => if isAlign a then (' ', some a, []) else (' ', none, t)
    | [] => (' ', none, [])
  let (sign, rest) := match rest with
    | c :: more => if c = '+' ∨ c = '-' ∨ c = ' ' then (c, more) else ('-', rest)
    | [] => ('-', [])
  let rest := if rest.head? = some 'z' then rest.tail else rest
  let (other, rest) := if rest.head? = some '#' then (true, rest.tail) else (false, rest)
  let (zeros, rest) := if rest.head? = some '0' then (true, rest.tail) else (false, rest)
  let width := rest.takeWhile Char.isDigit
  let rest := rest.drop width.length
  let (group, rest) := match rest with
    | c :: more => if c = ',' ∨ c = '_' then (some c, more) else (none, rest)
    | [] => (none, [])
  let precision : Option (Option Nat × Text) := match rest with
    | '.' :: more =>
      let digits := more.takeWhile Char.isDigit
      if digits = [] then none else some (some (Text.digitsValue digits), more.drop digits.length)
    | rest => some (none, rest)
  match precision with
  | none => none
  | some (precision, rest) =>
    let made (type : Option Char) : Format :=
      { fill := if zeros && align.isNone then '0' else fill
        align, sign, other, zeros
        width := Text.digitsValue width
        group, precision, type }
    match rest with
    | [] => some (made none)
    | [c] => some (made (some c))
    | _ => none

/-- A text in the width of the format. -/
def pad (f : Format) (usual : Char) (front t : Text) : Text :=
  let missing := f.width - front.length - t.length
  let fill (n : Nat) : Text := List.replicate n f.fill
  match f.align.getD (if f.zeros then '=' else usual) with
  | '<' => front ++ t ++ fill missing
  | '^' => fill (missing / 2) ++ front ++ t ++ fill (missing - missing / 2)
  | '=' => front ++ fill missing ++ t
  | _ => fill missing ++ front ++ t

/-- The digits of a number in groups. -/
def grouped (mark : Char) (count : Nat) (digits : Text) : Text :=
  let rec go : Nat → Text → Text
    | _, [] => []
    | n, c :: rest => if n = count then mark :: c :: go 1 rest else c :: go (n + 1) rest
  (go 0 digits.reverse).reverse

/-- What stands in front of a number. -/
def signOf (f : Format) (negative : Bool) : Text :=
  if negative then ['-'] else if f.sign = '-' then [] else [f.sign]

/-- Digits in the width of the format, in groups if they are to be. -/
def padDigits (f : Format) (front whole behind : Text) (count : Nat) : Text :=
  match f.group with
  | none => f.pad '>' front (whole ++ behind)
  | some mark =>
    let digits := grouped mark count whole
    if f.zeros && f.align.isNone then
      let rec widen : Nat → Text → Text
        | 0, t => t
        | n + 1, t =>
          let shown := grouped mark count t
          if front.length + shown.length + behind.length < f.width then widen n ('0' :: t) else shown
      f.pad '>' front (widen f.width whole ++ behind)
    else f.pad '>' front (digits ++ behind)

/-- A number of binary64. -/
def float (f : Format) (x : Float) : Text :=
  let front := f.signOf (Number.isNegative x && !isNaN x)
  let size := Number.withSign (Number.isNegative x) x
  let shape : Shape := ⟨if f.other then ['#'] else [], 0, f.precision⟩
  let shown : Text := match f.type with
    | none =>
      match f.precision with
      | none => floatText size
      | some p =>
        if isFinite x then
          let (a, b) := quotientOf size
          let p := max p 1
          let e := (Shape.leading (p - 1) a b).2
          if e < -4 ∨ (p : Int) - 1 ≤ e then
            let t := shape.scientific (p - 1) a b
            Shape.trimFraction (t.takeWhile (· ≠ 'e')) ++ t.dropWhile (· ≠ 'e')
          else
            let t := shape.general p a b
            if t.contains '.' then t else t ++ ['.', '0']
        else shape.float 'g' size
    | some '%' =>
      if isFinite x then
        let (a, b) := quotientOf size
        shape.fixed (f.precision.getD 6) (a * 100) b ++ ['%']
      else shape.float 'f' size ++ ['%']
    | some 'n' => shape.float 'g' size
    | some c => shape.float c size
  let whole := shown.takeWhile Char.isDigit
  f.padDigits front whole (shown.drop whole.length) 3

/-- A whole number. -/
def int (f : Format) (n : Int) : Text :=
  let front := f.signOf (n < 0)
  let digits (base : Nat) : Text := Nat.toDigits base n.natAbs
  let mark (t : Text) : Text := if f.other then t else []
  match f.type with
  | some 'x' => f.padDigits (front ++ mark ['0', 'x']) (digits 16) [] 4
  | some 'X' => f.padDigits (front ++ mark ['0', 'X']) ((digits 16).map Char.toUpper) [] 4
  | some 'o' => f.padDigits (front ++ mark ['0', 'o']) (digits 8) [] 4
  | some 'b' => f.padDigits (front ++ mark ['0', 'b']) (digits 2) [] 4
  | some 'c' => f.pad '<' [] [Char.ofNat n.natAbs]
  | _ => f.padDigits front (digits 10) [] 3

/-- A text. -/
def text (f : Format) (t : Text) : Text := f.pad '<' [] (t.take (f.precision.getD t.length))

end Format
end Equate.Shell.Dynamic.Numeral
