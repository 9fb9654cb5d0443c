import Equate.Number.Written
import Equate.Proofs.Text.Lines

/-!
# Where a written number ends

A mantissa has its digits on both sides of a point, or no point. A sign and an exponent are cut off
in the same way whatever follows the text, as long as no number goes on there.
-/
namespace Equate.Number
open Text

theorem splitSign_of_isDigit {d : Char} (hd : d.isDigit = true) (rest : Text) :
    splitSign (d :: rest) = ([], d :: rest) := by
  unfold splitSign
  split
  · next heq => cases (List.cons.inj heq).1; exact absurd hd (by decide)
  · next heq => cases (List.cons.inj heq).1; exact absurd hd (by decide)
  · rfl

theorem splitMantissa?_point {isDigit : Char → Bool} {t rest : Text}
    (h : t.dropWhile isDigit = '.' :: rest) :
    splitMantissa? isDigit t =
      if t.takeWhile isDigit = [] ∧ rest.takeWhile isDigit = [] then none
      else some (t.takeWhile isDigit ++ '.' :: rest.takeWhile isDigit, rest.dropWhile isDigit) := by
  simp only [splitMantissa?, h]

theorem splitMantissa?_whole {isDigit : Char → Bool} {t : Text}
    (h : ∀ rest, t.dropWhile isDigit ≠ '.' :: rest) :
    splitMantissa? isDigit t =
      if t.takeWhile isDigit = [] then none
      else some (t.takeWhile isDigit, t.dropWhile isDigit) := by
  unfold splitMantissa?
  dsimp only
  split
  · next hrest => exact absurd hrest (h _)
  · rfl

section
variable {rest : Text}

theorem splitSign_append_of_stop (h : ∀ c more, rest = c :: more → c ≠ '+' ∧ c ≠ '-') (t : Text) :
    splitSign (t ++ rest) = ((splitSign t).1, (splitSign t).2 ++ rest) := by
  cases t with
  | nil =>
    cases rest with
    | nil => rfl
    | cons c more =>
      obtain ⟨hplus, hminus⟩ := h c more rfl
      unfold splitSign
      split
      · next heq => exact absurd (List.cons.inj heq).1 hplus
      · next heq => exact absurd (List.cons.inj heq).1 hminus
      · rfl
  | cons c t =>
    rw [List.cons_append]
    unfold splitSign
    split
    · next heq => cases (List.cons.inj heq).1; cases (List.cons.inj heq).2; rfl
    · next heq => cases (List.cons.inj heq).1; cases (List.cons.inj heq).2; rfl
    · next hplus hminus =>
      split
      · next heq => exact absurd (congrArg (· ++ rest) heq) (hplus _)
      · next heq => exact absurd (congrArg (· ++ rest) heq) (hminus _)
      · rfl

variable {isDigit : Char → Bool}

/-- A character that goes on with no exponent, not even with an incomplete one. -/
def Stops (isDigit : Char → Bool) (c : Char) : Prop :=
  isDigit c = false ∧ (c ≠ 'e' ∧ c ≠ 'E') ∧ c ≠ '+' ∧ c ≠ '-'

instance (c : Char) : Decidable (Stops isDigit c) := by unfold Stops; infer_instance

theorem splitExponent_append_of_stop (h : ∀ c more, rest = c :: more → Stops isDigit c) (t : Text) :
    splitExponent isDigit (t ++ rest) =
      ((splitExponent isDigit t).1, (splitExponent isDigit t).2 ++ rest) := by
  cases t with
  | nil =>
    cases rest with
    | nil => rfl
    | cons c more =>
      obtain ⟨-, ⟨hlower, hupper⟩, -⟩ := h c more rfl
      have hmark : ¬(c = 'e' ∨ c = 'E') := not_or.mpr ⟨hlower, hupper⟩
      show splitExponent isDigit (c :: more) = ([], c :: more)
      rw [splitExponent, if_neg hmark]
  | cons mark t =>
    have hdigit : ∀ c more, rest = c :: more → isDigit c = false := fun c more heq => (h c more heq).1
    rw [List.cons_append, splitExponent, splitExponent]
    dsimp only
    rw [splitSign_append_of_stop fun c more heq => (h c more heq).2.2]
    dsimp only
    rw [takeWhile_append_of_stop hdigit, dropWhile_append_of_stop hdigit]
    split
    · split <;> rfl
    · rfl

end

end Equate.Number
