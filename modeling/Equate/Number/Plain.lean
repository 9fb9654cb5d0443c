import Equate.Number.Decimal

/-!
# The plain form of a number

Positional digits without an exponent, as few as read back, with a point only in front
of a fraction; this is the form that values take inside equations and messages.
-/
namespace Equate.Number

/-!
## The shortest decimal that reads back

For one, two, … seventeen digits the two decimals next to the value on that grid are
tried; the first grid with one that reads back to the value wins, and of two on the
same grid the nearer. What happens when both are equally near is left to the format.
Reading back is tested with the reader itself, so a decimal found here reads back by
construction; should no grid have one, the exact decimal expansion stands in.
-/

/-- Where an exact tie between two decimals goes. -/
inductive Tie where
  | up
  | toEven
  deriving DecidableEq, Repr

/-- The exponent of the largest power of ten that is at most `num / den`: estimated
from the power of two, too small by one at most. -/
def decade (num den : Nat) : Int :=
  let guess := (binade num den * 30103).fdiv 100000
  let next := guess + 1
  let (n, d) :=
    if 0 ≤ next then (num, den * Nat.pow 10 next.toNat) else (num * Nat.pow 10 (-next).toNat, den)
  if n < d then guess else next

/-- Zeros at the end of the digits go into the exponent; `fuel` bounds their number. -/
def dropZeros : (fuel : Nat) → Decimal → Decimal
  | 0, d => d
  | fuel + 1, d =>
    if d.digits ≠ 0 ∧ d.digits % 10 = 0 then dropZeros fuel ⟨d.digits / 10, d.exponent + 1⟩
    else d

/-- The decimal of `count` digits that reads back to `value`, if there is one; `num / den`
is the exact value. -/
def onGrid? (tie : Tie) (value : Float) (num den : Nat) (count : Nat) : Option Decimal :=
  let k := decade num den - count + 1
  let (n, d) := if 0 ≤ k then (num, den * Nat.pow 10 k.toNat) else (num * Nat.pow 10 (-k).toNat, den)
  let below := dropZeros 20 ⟨n / d, k⟩
  let above := dropZeros 20 ⟨n / d + 1, k⟩
  let readsBack (c : Decimal) : Bool := decide (c.toFloat = value)
  match readsBack below, readsBack above with
  | false, false => none
  | true, false => some below
  | false, true => some above
  | true, true =>
    let rest := n % d
    if 2 * rest < d then some below
    else if d < 2 * rest then some above
    else
      match tie with
      | .up => some above
      | .toEven => if n / d % 2 = 0 then some below else some above

/-- The exact value of `m * 2 ^ q`. -/
def exactDecimal (m : Nat) (q : Int) : Decimal :=
  if 0 ≤ q then ⟨m * Nat.pow 2 q.toNat, 0⟩ else ⟨m * Nat.pow 5 (-q).toNat, q⟩

/-- The shortest decimal that reads back to a positive finite number. -/
def shortest (tie : Tie) (value : Float) : Decimal :=
  let (m, q) := magnitude (magnitudeCode value)
  let (num, den) := if 0 ≤ q then (m * Nat.pow 2 q.toNat, 1) else (m, Nat.pow 2 (-q).toNat)
  ((List.range' 1 17).findSome? (onGrid? tie value num den)).getD (exactDecimal m q)

/-! ## Positional digits -/

/-- `count` zeros. -/
def zeros (count : Nat) : Text := List.replicate count '0'

/-- The digits in front of the point and behind it; there are always some in front. -/
def positionalParts (d : Decimal) : Text × Text :=
  let digits := Text.decimal d.digits
  let places := (-d.exponent).toNat
  if 0 ≤ d.exponent then (digits ++ zeros d.exponent.toNat, [])
  else if places < digits.length then
    (digits.take (digits.length - places), digits.drop (digits.length - places))
  else ("0", zeros (places - digits.length) ++ digits)

/-- The positional form; a point is written only in front of digits. -/
def positional (d : Decimal) : Text :=
  match positionalParts d with
  | (whole, []) => whole
  | (whole, fraction) => whole ++ '.' :: fraction

/-- A number in plain form. An exact tie between two digit strings goes up. -/
def plain (x : Float) : Text :=
  let code := magnitudeCode x
  if infinityCode < code then "NaN"
  else
    let sign : Text := if isNegative x then "-" else ""
    if code = infinityCode then sign ++ "inf"
    else if code = 0 then sign ++ "0"
    else sign ++ positional (shortest .up (withSign (isNegative x) x))

/-!
## Its characters

A finite number is written with digits, at most one point and possibly a dash in front,
so nothing in it can be read as a name, and nothing as an exponent. The words for the
infinities and the undefined number have letters, but no number whatever breaks a line.
-/

/-- A character of a finite number in plain form. -/
def isPlainChar (c : Char) : Bool := c.isDigit || c == '.' || c == '-'

theorem isDigit_of_mem_decimal {n : Nat} {c : Char} (h : c ∈ Text.decimal n) : c.isDigit :=
  Nat.isDigit_of_mem_toDigits (by decide) (by decide) h

theorem isDigit_of_mem_zeros {n : Nat} {c : Char} (h : c ∈ zeros n) : c.isDigit := by
  rw [List.eq_of_mem_replicate h]
  decide

theorem isDigit_of_mem_positionalParts {d : Decimal} {c : Char}
    (h : c ∈ (positionalParts d).1 ∨ c ∈ (positionalParts d).2) : c.isDigit := by
  unfold positionalParts at h
  dsimp only at h
  split at h
  · rcases h with h | h
    · rcases List.mem_append.mp h with h | h
      · exact isDigit_of_mem_decimal h
      · exact isDigit_of_mem_zeros h
    · exact absurd h List.not_mem_nil
  · split at h
    · rcases h with h | h
      · exact isDigit_of_mem_decimal (List.mem_of_mem_take h)
      · exact isDigit_of_mem_decimal (List.mem_of_mem_drop h)
    · rcases h with h | h
      · rw [List.mem_singleton.mp h]
        decide
      · rcases List.mem_append.mp h with h | h
        · exact isDigit_of_mem_zeros h
        · exact isDigit_of_mem_decimal h

theorem positional_eq (d : Decimal) :
    positional d = if (positionalParts d).2 = [] then (positionalParts d).1
      else (positionalParts d).1 ++ '.' :: (positionalParts d).2 := by
  unfold positional
  obtain ⟨whole, fraction⟩ := positionalParts d
  cases fraction <;> rfl

theorem isPlainChar_of_mem_positional {d : Decimal} {c : Char} (h : c ∈ positional d) :
    isPlainChar c := by
  have hdigit : c.isDigit → isPlainChar c := fun hc => by simp [isPlainChar, hc]
  rw [positional_eq] at h
  split at h
  · exact hdigit (isDigit_of_mem_positionalParts (.inl h))
  · rcases List.mem_append.mp h with h | h
    · exact hdigit (isDigit_of_mem_positionalParts (.inl h))
    · rcases List.mem_cons.mp h with rfl | h
      · decide
      · exact hdigit (isDigit_of_mem_positionalParts (.inr h))

/-- Below the code of the infinity a number is written with digits, a point and a dash. -/
theorem isPlainChar_of_mem_plain {x : Float} (hx : magnitudeCode x < infinityCode) {c : Char}
    (h : c ∈ plain x) : isPlainChar c := by
  have hsign : ∀ b : Bool, c ∈ (if b then "-" else "" : Text) → isPlainChar c := by
    rintro (_ | _) hc
    · exact absurd hc List.not_mem_nil
    · rw [List.mem_singleton.mp hc]
      decide
  unfold plain at h
  dsimp only at h
  rw [if_neg (by omega), if_neg (by omega)] at h
  split at h
  · rcases List.mem_append.mp h with h | h
    · exact hsign _ h
    · rw [List.mem_singleton.mp h]
      decide
  · rcases List.mem_append.mp h with h | h
    · exact hsign _ h
    · exact isPlainChar_of_mem_positional h

/-- The words for the other numbers have letters besides. -/
theorem isPlainChar_or_isAlpha_of_mem_plain {x : Float} {c : Char} (h : c ∈ plain x) :
    isPlainChar c ∨ c.isAlpha := by
  by_cases hx : magnitudeCode x < infinityCode
  · exact .inl (isPlainChar_of_mem_plain hx h)
  · unfold plain at h
    dsimp only at h
    split at h
    · have hall : ("NaN" : Text).all (fun d => isPlainChar d || d.isAlpha) = true := by decide
      exact Bool.or_eq_true_iff.mp (List.all_eq_true.mp hall c h)
    · have hall : ∀ b : Bool, ((if b then "-" else "" : Text) ++ ("inf" : Text)).all
          (fun d => isPlainChar d || d.isAlpha) = true := by decide
      rw [if_pos (by omega)] at h
      exact Bool.or_eq_true_iff.mp (List.all_eq_true.mp (hall _) c h)

theorem newline_not_mem_plain (x : Float) : '\n' ∉ plain x :=
  fun h => absurd (isPlainChar_or_isAlpha_of_mem_plain h) (by decide)

theorem return_not_mem_plain (x : Float) : '\r' ∉ plain x :=
  fun h => absurd (isPlainChar_or_isAlpha_of_mem_plain h) (by decide)

end Equate.Number
