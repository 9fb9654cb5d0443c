import Equate.Proofs.Expr.Spelling

/-!
# The pieces of a number

Names and numbers are told apart in two ways: the pieces of a text look at the character in front
of a name, an expression is read number by number. In a number that is read as one, the digits,
points and signs are single characters of the text and the mark of the exponent is none of its
names.
-/
namespace Equate.Name
open Equate.Expr Text

variable {t : Text}

theorem isStart_of_isNumeric {c : Char} (h : isNumeric c = true) : isStart c = false := by
  rw [← Bool.not_eq_true]
  intro hstart
  exact absurd h (by rw [isNumeric_of_isStart hstart]; exact Bool.false_ne_true)

theorem isStart_of_sign {sign : Char} (h : sign = '+' ∨ sign = '-') : isStart sign = false :=
  isStart_of_isContinue (isContinue_of_sign h)

/-- What stands in front of a text is of no account where no name starts. -/
theorem pieces_of_not_isStart (ht : ∀ c rest, t = c :: rest → isStart c = false)
    (afterNumber : Bool) : pieces afterNumber t = pieces false t := by
  cases t with
  | nil => rw [pieces_nil, pieces_nil]
  | cons c rest => rw [pieces_other (ht c rest rfl), pieces_other (ht c rest rfl)]

/-- Digits and points are pieces of their own. -/
theorem pieces_run {run : Text} (hrun : ∀ c ∈ run, isNumeric c = true) (hne : run ≠ [])
    (afterNumber : Bool) (t : Text) :
    pieces afterNumber (run ++ t) = run.map .other ++ pieces true t := by
  induction run generalizing afterNumber with
  | nil => exact absurd rfl hne
  | cons c run ih =>
    obtain ⟨hc, hrun⟩ := List.forall_mem_cons.mp hrun
    have hnumber : endsNumber c = true := hc
    rw [List.cons_append, pieces_other (isStart_of_isNumeric hc), hnumber, List.map_cons,
      List.cons_append]
    cases run with
    | nil => rfl
    | cons d run => rw [ih hrun (List.cons_ne_nil _ _)]

section
variable {mark : Char} {digits : Text} (hmark : mark = 'e' ∨ mark = 'E') (hne : digits ≠ [])
  (hdigits : ∀ d ∈ digits, d.isDigit = true)
include hmark hne hdigits

/-- An exponent without a sign is one piece. -/
theorem pieces_unsigned (ht : ∀ c rest, t = c :: rest → isContinue c = false) :
    pieces true (mark :: digits ++ t) = .exponent (mark :: digits) :: pieces false t := by
  have hcut := cut_append (p := isContinue)
    (fun d hd => by rw [isContinue_eq, hdigits d hd, Bool.or_true]) ht
  have hexponent : isExponentTail (mark :: digits) t = true := by
    simp only [isExponentTail, List.isEmpty_eq_false_iff.mpr hne, Bool.and_eq_true,
      Bool.or_eq_true, beq_iff_eq]
    exact ⟨hmark, List.all_eq_true.mpr hdigits⟩
  rw [List.cons_append, pieces_start (isStart_of_mark hmark), hcut.1, hcut.2, hexponent]
  rfl

/-- Of an exponent with a sign the mark is a piece, and so is every character behind it. -/
theorem pieces_signed {sign : Char} (hsign : sign = '+' ∨ sign = '-') (t : Text) :
    pieces true (mark :: sign :: digits ++ t) =
      .exponent [mark] :: .other sign :: (digits.map .other ++ pieces true t) := by
  have hcontinue := isContinue_of_sign hsign
  have hexponent : isExponentTail [mark] (sign :: (digits ++ t)) = true := by
    obtain ⟨d, digits, rfl⟩ := List.exists_cons_of_ne_nil hne
    simp only [isExponentTail, List.isEmpty_nil, if_true, opensSignedDigit, List.cons_append,
      hdigits d List.mem_cons_self, Bool.and_true, Bool.and_eq_true, Bool.or_eq_true, beq_iff_eq]
    exact ⟨hmark, hsign⟩
  have hrun : ∀ c ∈ digits, isNumeric c = true := fun c hc => by
    rw [isNumeric, hdigits c hc, Bool.true_or]
  rw [List.cons_append, List.cons_append, pieces_start (isStart_of_mark hmark),
    List.takeWhile_cons, List.dropWhile_cons, hcontinue, if_neg Bool.false_ne_true,
    if_neg Bool.false_ne_true, hexponent, pieces_other (isStart_of_sign hsign),
    pieces_run hrun hne]
  rfl

end

theorem name_not_mem_map_other (v : Text) (word : Text) (glued : Bool) :
    .name word glued ∉ v.map Piece.other := by
  simp

theorem flatMap_text_map_other (v : Text) : (v.map Piece.other).flatMap Piece.text = v := by
  induction v with
  | nil => rfl
  | cons c v ih => rw [List.map_cons, List.flatMap_cons, ih]; rfl

/-- An exponent has no name. -/
theorem exists_pieces_exponent {tail : Text} (h : IsExponent tail) (ht : Parts t) :
    ∃ ps, pieces true (tail ++ t) = ps ++ pieces false t ∧ ps.flatMap Piece.text = tail ∧
      ∀ word glued, .name word glued ∉ ps := by
  cases h with
  | @unsigned mark digits hmark hne hdigits =>
    exact ⟨[.exponent (mark :: digits)],
      pieces_unsigned hmark hne hdigits fun _ _ => ht.isContinue, List.append_nil _, by simp⟩
  | @signed mark sign digits hmark hsign hne hdigits =>
    refine ⟨.exponent [mark] :: .other sign :: digits.map .other, ?_, ?_, by simp⟩
    · rw [pieces_signed hmark hne hdigits hsign, pieces_of_not_isStart (fun _ _ => ht.isStart)]
      rfl
    · rw [List.flatMap_cons, List.flatMap_cons, flatMap_text_map_other]
      rfl

/-- A number has no name, and the text behind it is cut as it is without the number. -/
theorem exists_piecesOf_literal {l : Text} (hl : IsLiteral l) (ht : Parts t) :
    ∃ ps, piecesOf (l ++ t) = ps ++ piecesOf t ∧ ps.flatMap Piece.text = l ∧
      ∀ word glued, .name word glued ∉ ps := by
  obtain ⟨run, tail, rfl, hne, hrun, htail⟩ := hl
  rcases htail with rfl | htail
  · refine ⟨run.map .other, ?_, ?_, name_not_mem_map_other run⟩
    · rw [piecesOf, List.append_nil, pieces_run hrun hne,
        pieces_of_not_isStart fun _ _ => ht.isStart]
      rfl
    · rw [flatMap_text_map_other, List.append_nil]
  · obtain ⟨ps, hps, htext, hnone⟩ := exists_pieces_exponent htail ht
    refine ⟨run.map .other ++ ps, ?_, ?_, fun word glued hmem => ?_⟩
    · rw [piecesOf, List.append_assoc, pieces_run hrun hne, hps, ← List.append_assoc]
      rfl
    · rw [List.flatMap_append, flatMap_text_map_other, htext]
    · rcases List.mem_append.mp hmem with hmem | hmem
      · exact name_not_mem_map_other run word glued hmem
      · exact hnone word glued hmem

end Equate.Name
