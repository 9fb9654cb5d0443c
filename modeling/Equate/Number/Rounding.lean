/-!
# The nearest binary64 number to a quotient

`nearest num den` is the binary64 number closest to `num / den`, of two equally close
ones the one with the even significand. Everything happens in natural numbers: the
power of two of the quotient's last place is found first, the quotient is divided in
units of it, and the rounded count of units is placed above the codes of all smaller
magnitudes. A count that reaches the next power of two thereby carries into the
exponent, and a magnitude beyond the largest finite one becomes the infinity.
-/
namespace Equate.Number

/-- The code of the positive infinity; finite magnitudes have smaller codes. -/
def infinityCode : Nat := 2047 * Nat.pow 2 52

/-- The quotient `num / den` rounded to an integer, halves to the even neighbour. -/
def roundHalfEven (num den : Nat) : Nat :=
  let quotient := num / den
  let remainder := num % den
  if 2 * remainder < den then quotient
  else if den < 2 * remainder then quotient + 1
  else if quotient % 2 = 0 then quotient
  else quotient + 1

/-- `num / 2 ^ e` and `den / 2 ^ e` as one fraction of naturals: the quotient
`num / den` measured in units of `2 ^ e`. -/
def inUnits (num den : Nat) (e : Int) : Nat × Nat :=
  if 0 ≤ e then (num, den * Nat.pow 2 e.toNat) else (num * Nat.pow 2 (-e).toNat, den)

/-- The exponent of the largest power of two that is at most `num / den`. -/
def binade (num den : Nat) : Int :=
  let guess : Int := num.log2 - den.log2
  let (n, d) := inUnits num den guess
  if n < d then guess - 1 else guess

/-- The exponent of the last place of a binary64 number near `num / den`. -/
def lastPlace (num den : Nat) : Int := max (binade num den - 52) (-1074)

/-- The code of the binary64 number nearest to `num / den`. -/
def nearestCode (num den : Nat) : Nat :=
  if num = 0 then 0
  else
    let e := lastPlace num den
    let (n, d) := inUnits num den e
    min ((e + 1074).toNat * Nat.pow 2 52 + roundHalfEven n d) infinityCode

/-- The binary64 number nearest to `num / den`, for a positive `den`. -/
def nearest (num den : Nat) : Float := Float.ofBits (nearestCode num den).toUInt64

/-- The magnitude `m * 2 ^ q` that a code below `infinityCode` stands for. -/
def magnitude (code : Nat) : Nat × Int :=
  if code < Nat.pow 2 52 then (code, -1074)
  else (Nat.pow 2 52 + code % Nat.pow 2 52, (code / Nat.pow 2 52 : Nat) - 1075)

/-- The code of a number without its sign. -/
def magnitudeCode (x : Float) : Nat := x.toBits.toNat % Nat.pow 2 63

/-- The sign bit; set for the negative zero too. -/
def isNegative (x : Float) : Bool := decide (Nat.pow 2 63 ≤ x.toBits.toNat)

/-- The number itself or its opposite. -/
def withSign (negative : Bool) (x : Float) : Float := if negative then -x else x

end Equate.Number
