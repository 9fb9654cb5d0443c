import Equate.Text.Basic
import Equate.Number.Rounding

/-!
# Decimal numbers and how they are read

A decimal is an integer times a power of ten. `Decimal.toFloat` rounds it once and
correctly; two bounds on the exponent keep the powers of ten small, and beyond them
the result is certain (a value above `10 ^ 310`, or below half the least positive
number). `Decimal.read?` reads the written form: digits, a point with digits on at
least one of its sides, and an optional exponent. `readNumber?` adds the sign and the
words for the infinities and the undefined number.
-/
namespace Equate

/-- A sign, if there is one; whether it is the negative one. -/
def Number.readSign : Text → Bool × Text
  | '-' :: rest => (true, rest)
  | '+' :: rest => (false, rest)
  | rest => (false, rest)

theorem Number.readSign_shorter (t : Text) : (readSign t).2.length ≤ t.length := by
  unfold readSign
  split <;> simp

/-- The number `digits * 10 ^ exponent`. -/
structure Decimal where
  digits : Nat
  exponent : Int
  deriving DecidableEq, Repr

namespace Decimal

/-- The nearest binary64 number. -/
def toFloat (d : Decimal) : Float :=
  if d.digits = 0 then Float.ofBits 0
  else if 310 < d.exponent then Float.ofBits Number.infinityCode.toUInt64
  else if (d.digits.log2 : Int) + 1100 < -3 * d.exponent then Float.ofBits 0
  else if 0 ≤ d.exponent then Number.nearest (d.digits * Nat.pow 10 d.exponent.toNat) 1
  else Number.nearest d.digits (Nat.pow 10 (-d.exponent).toNat)

/-- An exponent as written: a mark, an optional sign and digits to the end. -/
def readExponent? : Text → Option Int
  | [] => some 0
  | mark :: rest =>
    if mark = 'e' ∨ mark = 'E' then
      let (negative, digits) := Number.readSign rest
      if digits ≠ [] ∧ digits.all Char.isDigit then
        let n : Int := Text.digitsValue digits
        some (if negative then -n else n)
      else none
    else none

/-- An unsigned literal: digits and at most one point, at least one digit, then
possibly an exponent. -/
def read? (t : Text) : Option Decimal :=
  let whole := t.takeWhile Char.isDigit
  let rest := t.dropWhile Char.isDigit
  let (fraction, rest) :=
    match rest with
    | '.' :: r => (r.takeWhile Char.isDigit, r.dropWhile Char.isDigit)
    | _ => ([], rest)
  if whole = [] ∧ fraction = [] then none
  else (readExponent? rest).map fun e =>
    { digits := Text.digitsValue (whole ++ fraction), exponent := e - fraction.length }

end Decimal

namespace Number

/-- The number an unsigned literal denotes. -/
def readLiteral? (t : Text) : Option Float := (Decimal.read? t).map Decimal.toFloat

/-- The number a signed literal denotes. -/
def readSigned? (t : Text) : Option Float :=
  let (negative, rest) := readSign t
  (readLiteral? rest).map (withSign negative)

/-- A signed literal, or one of the words `inf`, `infinity` and `nan` in any case. -/
def readNumber? (t : Text) : Option Float :=
  let (negative, rest) := readSign t
  let word := rest.map Char.toLower
  if word = ("inf" : Text) ∨ word = ("infinity" : Text) then
    some (withSign negative (Float.ofBits infinityCode.toUInt64))
  else if word = ("nan" : Text) then
    some (withSign negative (Float.ofBits (infinityCode + Nat.pow 2 51).toUInt64))
  else (readLiteral? rest).map (withSign negative)

end Number
end Equate
