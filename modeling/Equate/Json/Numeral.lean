import Equate.Json.Basic
import Equate.Number.Plain

/-!
# Numbers in documents

How a number is written and read in a document. Writing takes the shortest digits,
positional for magnitudes from `1e-5` below `1e16` and with a digit behind the point
even for whole numbers, scientific with a signed exponent otherwise.

Reading keeps as many leading digits as fit a 64-bit mantissa, converts that mantissa
once and multiplies or divides it once by a power of ten. The two roundings make the
result differ from the nearest number in the last place now and then. An overflow is
refused, an underflow gives zero.
-/
namespace Equate.Json
namespace Numeral

/-- The sign of an exponent; the positive one is written too. -/
def exponentSign (negative : Bool) : Char := if negative then '-' else '+'

/-- The written form. -/
def text (n : Numeral) : Text :=
  (if n.negative then ['-'] else []) ++ n.whole ++
    (if n.fraction = [] then [] else '.' :: n.fraction) ++
    match n.exponent with
    | none => []
    | some (negative, digits) => 'e' :: exponentSign negative :: digits

/-- The digits in front of the point: a zero alone, or a run that starts with another
digit. -/
def readWhole? : Text → Option (Text × Text)
  | '0' :: rest => some (['0'], rest)
  | t =>
    let digits := t.takeWhile Char.isDigit
    if digits = [] then none else some (digits, t.dropWhile Char.isDigit)

/-- The digits behind the point, if there is a point. -/
def readFraction? : Text → Option (Text × Text)
  | '.' :: rest =>
    let digits := rest.takeWhile Char.isDigit
    if digits = [] then none else some (digits, rest.dropWhile Char.isDigit)
  | t => some ([], t)

/-- The exponent, if there is one. -/
def readExponent? : Text → Option (Option (Bool × Text) × Text)
  | [] => some (none, [])
  | mark :: rest =>
    if mark = 'e' ∨ mark = 'E' then
      let (negative, rest) := Number.readSign rest
      let digits := rest.takeWhile Char.isDigit
      if digits = [] then none
      else some (some (negative, digits), rest.dropWhile Char.isDigit)
    else some (none, mark :: rest)

/-- A minus sign, if there is one. -/
def readMinus : Text → Bool × Text
  | '-' :: rest => (true, rest)
  | rest => (false, rest)

/-- The number at the front of a text, with the rest. -/
def read? (t : Text) : Option (Numeral × Text) := do
  let (negative, t) := readMinus t
  let (whole, t) ← readWhole? t
  let (fraction, t) ← readFraction? t
  let (exponent, t) ← readExponent? t
  return ({ negative, whole, fraction, exponent }, t)

theorem readMinus_shorter (t : Text) : (readMinus t).2.length ≤ t.length := by
  unfold readMinus
  split <;> simp

theorem readWhole?_shorter {t digits rest : Text} (h : readWhole? t = some (digits, rest)) :
    rest.length < t.length := by
  unfold readWhole? at h
  split at h
  · simp only [Option.some.injEq, Prod.mk.injEq] at h
    obtain ⟨-, rfl⟩ := h
    simp
  · dsimp only at h
    split at h
    · simp at h
    · rename_i hd
      simp only [Option.some.injEq, Prod.mk.injEq] at h
      obtain ⟨-, rfl⟩ := h
      exact Text.length_dropWhile_lt hd

theorem readFraction?_shorter {t digits rest : Text}
    (h : readFraction? t = some (digits, rest)) : rest.length ≤ t.length := by
  unfold readFraction? at h
  split at h
  · dsimp only at h
    split at h
    · simp at h
    · simp only [Option.some.injEq, Prod.mk.injEq] at h
      obtain ⟨-, rfl⟩ := h
      exact Nat.le_succ_of_le (Text.length_dropWhile_le _ _)
  · simp only [Option.some.injEq, Prod.mk.injEq] at h
    obtain ⟨-, rfl⟩ := h
    exact Nat.le_refl _

theorem readExponent?_shorter {t rest : Text} {e : Option (Bool × Text)}
    (h : readExponent? t = some (e, rest)) : rest.length ≤ t.length := by
  unfold readExponent? at h
  split at h
  · simp_all
  · rename_i mark tail
    split at h
    · have hs := Number.readSign_shorter tail
      dsimp only at h
      split at h
      · simp at h
      · simp only [Option.some.injEq, Prod.mk.injEq] at h
        obtain ⟨-, rfl⟩ := h
        have := Text.length_dropWhile_le Char.isDigit (Number.readSign tail).2
        simp only [List.length_cons]
        omega
    · simp only [Option.some.injEq, Prod.mk.injEq] at h
      obtain ⟨-, rfl⟩ := h
      exact Nat.le_refl _

/-- A number takes at least one character. -/
theorem read?_shorter {t rest : Text} {n : Numeral} (h : read? t = some (n, rest)) :
    rest.length < t.length := by
  simp only [read?, Option.bind_eq_bind, Option.pure_def, Option.bind_eq_some_iff,
    Prod.exists, Option.some.injEq, Prod.mk.injEq] at h
  obtain ⟨w, r₁, hw, f, r₂, hf, e, r₃, he, -, rfl⟩ := h
  have h₁ := readWhole?_shorter hw
  have h₂ := readFraction?_shorter hf
  have h₃ := readExponent?_shorter he
  have h₀ := readMinus_shorter t
  omega

/-- The largest mantissa, of 64 bits. -/
def mantissaLimit : Nat := Nat.pow 2 64 - 1

/-- Digits appended to a mantissa as long as they fit, with those left over. -/
def absorb (mantissa : Nat) : Text → Nat × Text
  | [] => (mantissa, [])
  | c :: rest =>
    let next := Nat.ofDigitChars 10 [c] mantissa
    if next ≤ mantissaLimit then absorb next rest else (mantissa, c :: rest)

/-- The mantissa of a number, and the power of ten it stands for without the written
exponent. Digits left over in front of the point count as places, those behind are
dropped. -/
def mantissa (n : Numeral) : Nat × Int :=
  let (m, skipped) := absorb 0 n.whole
  let (m, dropped) := absorb m n.fraction
  (m, (skipped.length : Int) - ((n.fraction.length : Int) - dropped.length))

/-- The written exponent. -/
def exponentValue (n : Numeral) : Int :=
  match n.exponent with
  | none => 0
  | some (negative, digits) =>
    let e : Int := Text.digitsValue digits
    if negative then -e else e

/-- The number nearest to a power of ten. -/
def powerOfTen (e : Nat) : Float := (Decimal.mk 1 e).toFloat

/-- A number times a power of ten in one step, or in steps of `1e308` downwards as long
as the power is out of range. An overflow gives nothing. -/
def scale? (f : Float) (x : Int) : Option Float :=
  if x.natAbs ≤ 308 then
    if 0 ≤ x then
      let product := f * powerOfTen x.toNat
      if product.isInf then none else some product
    else some (f / powerOfTen (-x).toNat)
  else if f == 0 then some f
  else if 0 < x then none
  else scale? (f / powerOfTen 308) (x + 308)
termination_by (-x).toNat
decreasing_by omega

/-- The number that a numeral denotes. -/
def toFloat? (n : Numeral) : Option Float :=
  let (m, x) := n.mantissa
  (scale? (Number.nearest m 1) (x + n.exponentValue)).map (Number.withSign n.negative)

/-- Written without sign, point and exponent. -/
def isNatural (n : Numeral) : Bool :=
  !n.negative && n.fraction.isEmpty && n.exponent.isNone

/-- The natural number that a numeral denotes, up to a limit. -/
def toNat? (limit : Nat) (n : Numeral) : Option Nat :=
  let value := Text.digitsValue n.whole
  if n.isNatural ∧ value ≤ limit then some value else none

/-- A natural number as written. -/
def ofNat (n : Nat) : Numeral := ⟨false, Text.decimal n, [], none⟩

/-- A decimal as written: positional where its leading digit stands at a place from
`-5` to `15`, and scientific elsewhere. -/
def ofDecimal (negative : Bool) (d : Decimal) : Numeral :=
  let digits := Text.decimal d.digits
  let leading : Int := digits.length - 1 + d.exponent
  if -5 ≤ leading ∧ leading ≤ 15 then
    match Number.positionalParts d with
    | (whole, []) => ⟨negative, whole, "0", none⟩
    | (whole, fraction) => ⟨negative, whole, fraction, none⟩
  else
    ⟨negative, digits.take 1, digits.drop 1,
      some (decide (leading < 0), Text.decimal leading.natAbs)⟩

/-- A finite number as written. An exact tie between two digit strings goes to the even
digit. -/
def ofFinite (x : Float) : Numeral :=
  let negative := Number.isNegative x
  if Number.magnitudeCode x = 0 then ⟨negative, "0", "0", none⟩
  else ofDecimal negative (Number.shortest .toEven (Number.withSign negative x))

end Numeral

/-- A number as a document; the infinities and the undefined number have no numeral. -/
def ofFloat (x : Float) : Json :=
  if Number.magnitudeCode x < Number.infinityCode then .number (Numeral.ofFinite x) else .null

end Equate.Json
