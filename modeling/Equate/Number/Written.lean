import Equate.Number.Decimal

/-!
# The parts of a written number

How far a number reaches at the front of a text. Which characters count as digits is a
parameter: expressions take ASCII digits, patterns the digits of all scripts. An
exponent belongs to the number only when it is complete, that is when digits follow
the mark and its sign.
-/
namespace Equate.Number

/-- The sign at the front, as written, and the rest. -/
def splitSign : Text → Text × Text
  | '+' :: rest => (['+'], rest)
  | '-' :: rest => (['-'], rest)
  | rest => ([], rest)

/-- A complete exponent at the front, as written, and the rest. -/
def splitExponent (isDigit : Char → Bool) : Text → Text × Text
  | [] => ([], [])
  | mark :: rest =>
    if mark = 'e' ∨ mark = 'E' then
      let (sign, tail) := splitSign rest
      let digits := tail.takeWhile isDigit
      if digits = [] then ([], mark :: rest)
      else (mark :: sign ++ digits, tail.dropWhile isDigit)
    else ([], mark :: rest)

/-- Digits with a point behind or among them, or a point with digits behind it. -/
def splitMantissa? (isDigit : Char → Bool) (t : Text) : Option (Text × Text) :=
  let whole := t.takeWhile isDigit
  match t.dropWhile isDigit with
  | '.' :: rest =>
    let fraction := rest.takeWhile isDigit
    if whole = [] ∧ fraction = [] then none
    else some (whole ++ '.' :: fraction, rest.dropWhile isDigit)
  | rest => if whole = [] then none else some (whole, rest)

/-- A sign, a mantissa and a complete exponent, of which only the mantissa must be
there. -/
def splitNumber? (isDigit : Char → Bool) (t : Text) : Option (Text × Text) := do
  let (sign, t) := splitSign t
  let (mantissa, t) ← splitMantissa? isDigit t
  let (exponent, t) := splitExponent isDigit t
  return (sign ++ mantissa ++ exponent, t)

/-- A sign is cut off, nothing else changes. -/
theorem splitSign_append (t : Text) : (splitSign t).1 ++ (splitSign t).2 = t := by
  unfold splitSign
  split <;> rfl

/-- An exponent is cut off, nothing else changes. -/
theorem splitExponent_append (isDigit : Char → Bool) (t : Text) :
    (splitExponent isDigit t).1 ++ (splitExponent isDigit t).2 = t := by
  unfold splitExponent
  split
  · rfl
  · rename_i mark rest
    have hs := splitSign_append rest
    dsimp only
    split
    · split
      · rfl
      · rw [List.cons_append, List.cons_append, List.append_assoc,
          List.takeWhile_append_dropWhile, hs]
    · rfl

end Equate.Number
