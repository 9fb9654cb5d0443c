import Equate.Name.Piece
import Equate.Proofs.Text.Lines

/-!
# Names before and after replacement

A character that continues no name and signs no exponent cuts the pieces of a text in
two, so names can be looked for line by line. A name is replaced by a group, something
in parentheses without letters. Then the pieces of the new text are those of the old one,
with each replaced name giving way to the single characters of its group: no name appears,
none of the others changes, and no exponent becomes a name or the other way round.
-/
namespace Equate.Name
open Text

theorem isStart_iff_toNat {c : Char} :
    isStart c ↔ 65 ≤ c.toNat ∧ c.toNat ≤ 90 ∨ 97 ≤ c.toNat ∧ c.toNat ≤ 122 ∨ c.toNat = 95 := by
  have hunderscore : c = '_' ↔ c.toNat = 95 := Char.toNat_inj.symm
  have hupper : c.isUpper = true ↔ 65 ≤ c.toNat ∧ c.toNat ≤ 90 := decide_eq_true_iff
  have hlower : c.isLower = true ↔ 97 ≤ c.toNat ∧ c.toNat ≤ 122 :=
    Bool.and_eq_true_iff.trans (and_congr decide_eq_true_iff decide_eq_true_iff)
  show ((c.isUpper || c.isLower) || c == '_') = true ↔ _
  rw [Bool.or_eq_true, Bool.or_eq_true, hupper, hlower, beq_iff_eq, hunderscore, or_assoc]

theorem isContinue_eq (c : Char) : isContinue c = (isStart c || c.isDigit) := by
  show (c.isAlpha || c.isDigit || c == '_') = (c.isAlpha || c == '_' || c.isDigit)
  rw [Bool.or_right_comm]

theorem isContinue_of_isStart {c : Char} (h : isStart c = true) : isContinue c = true := by
  rw [isContinue_eq, h, Bool.true_or]

theorem isStart_of_isContinue {c : Char} (h : isContinue c = false) : isStart c = false := by
  rw [isContinue_eq, Bool.or_eq_false_iff] at h
  exact h.1

theorem isDigit_of_isContinue {c : Char} (h : isContinue c = false) : c.isDigit = false := by
  rw [isContinue_eq, Bool.or_eq_false_iff] at h
  exact h.2

theorem isDigit_of_isStart {c : Char} (h : isStart c) : c.isDigit = false := by
  rw [isStart_iff_toNat] at h
  rw [← Bool.not_eq_true, Char.isDigit_iff_toNat]
  simp only [Char.reduceToNat]
  omega

/-- An identifier starts with the start of a name, and everything behind it continues one. -/
theorem exists_of_isIdentifier {w : Text} (h : isIdentifier w = true) :
    ∃ c rest, w = c :: rest ∧ isStart c = true ∧ ∀ d ∈ rest, isContinue d = true := by
  cases w with
  | nil => cases h
  | cons c rest =>
    obtain ⟨hc, hrest⟩ := Bool.and_eq_true_iff.mp h
    exact ⟨c, rest, rfl, hc, List.all_eq_true.mp hrest⟩

theorem isIdentifier_takeWhile {c : Char} (hc : isStart c = true) (rest : Text) :
    isIdentifier (c :: rest.takeWhile isContinue) = true := by
  rw [isIdentifier, hc, Bool.true_and]
  exact List.all_takeWhile

theorem isContinue_of_isIdentifier {w : Text} (h : isIdentifier w = true) {c : Char} (hc : c ∈ w) :
    isContinue c = true := by
  obtain ⟨d, rest, rfl, hd, hrest⟩ := exists_of_isIdentifier h
  rcases List.mem_cons.mp hc with rfl | hc
  · exact isContinue_of_isStart hd
  · exact hrest c hc

theorem not_mem_of_isIdentifier {w : Text} (h : isIdentifier w = true) {c : Char}
    (hc : isContinue c = false) : c ∉ w := by
  intro hmem
  rw [isContinue_of_isIdentifier h hmem] at hc
  cases hc

@[simp] theorem pieces_nil (afterNumber : Bool) : pieces afterNumber [] = [] := by rw [pieces]

theorem pieces_start {c : Char} (h : isStart c) (afterNumber : Bool) (rest : Text) :
    pieces afterNumber (c :: rest) =
      (if afterNumber && isExponentTail (c :: rest.takeWhile isContinue) (rest.dropWhile isContinue)
        then .exponent (c :: rest.takeWhile isContinue)
        else .name (c :: rest.takeWhile isContinue) afterNumber) ::
      pieces false (rest.dropWhile isContinue) := by
  rw [pieces, if_pos h]

theorem pieces_other {c : Char} (h : isStart c = false) (afterNumber : Bool) (rest : Text) :
    pieces afterNumber (c :: rest) = .other c :: pieces (endsNumber c) rest := by
  rw [pieces, if_neg (by rw [h]; exact Bool.false_ne_true)]

theorem piecesOf_cons_of_other {c : Char} (hc : isStart c = false) (hnumber : endsNumber c = false)
    (t : Text) : piecesOf (c :: t) = .other c :: piecesOf t := by
  rw [piecesOf, pieces_other hc, hnumber, piecesOf]

/-- A name is one piece, with nothing in front of it that ends a number. -/
theorem piecesOf_append_word {w t : Text} (hw : isIdentifier w = true)
    (ht : ∀ c rest, t = c :: rest → isContinue c = false) :
    piecesOf (w ++ t) = .name w false :: piecesOf t := by
  obtain ⟨c, w, rfl, hc, hw⟩ := exists_of_isIdentifier hw
  have hcut := cut_append hw ht
  rw [piecesOf, List.cons_append, pieces_start hc, hcut.1, hcut.2]
  rfl

/-! ## Cutting at a separator -/

/-- A character that is neither part of a name nor the sign of an exponent. -/
def Separates (c : Char) : Prop := isContinue c = false ∧ c ≠ '+' ∧ c ≠ '-'

instance (c : Char) : Decidable (Separates c) := by unfold Separates; infer_instance

theorem opensSignedDigit_append_separator {c : Char} (h : Separates c) (t b : Text) :
    opensSignedDigit (t ++ c :: b) = opensSignedDigit t := by
  obtain ⟨hc, hplus, hminus⟩ := h
  match t with
  | [] => cases b <;> simp [opensSignedDigit, hplus, hminus]
  | [sign] => simp [opensSignedDigit, isDigit_of_isContinue hc]
  | sign :: digit :: rest => rfl

theorem isExponentTail_append_separator {c : Char} (h : Separates c) (word t b : Text) :
    isExponentTail word (t ++ c :: b) = isExponentTail word t := by
  cases word with
  | nil => rfl
  | cons mark digits =>
    simp only [isExponentTail, opensSignedDigit_append_separator h]

theorem pieces_append_separator {c : Char} (h : Separates c) (afterNumber : Bool) (a b : Text) :
    pieces afterNumber (a ++ c :: b) =
      pieces afterNumber a ++ .other c :: pieces (endsNumber c) b := by
  fun_induction pieces afterNumber a with
  | case1 afterNumber =>
    rw [List.nil_append, pieces_other (isStart_of_isContinue h.1), List.nil_append]
  | case2 afterNumber d rest hd word after ih =>
    rw [List.cons_append, pieces, if_pos hd, takeWhile_append_stop h.1, dropWhile_append_stop h.1]
    simp only [isExponentTail_append_separator h]
    rw [ih, List.cons_append]
  | case3 afterNumber d rest hd ih => rw [List.cons_append, pieces, if_neg hd, ih, List.cons_append]

/-! ## Blanks around a text -/

theorem separates_of_isBlank {c : Char} (h : isBlank c) : Separates c ∧ endsNumber c = false := by
  have hstart : isStart c = false := by
    rw [← Bool.not_eq_true, isStart_iff_toNat]
    simp only [isBlank, Bool.or_eq_true, Bool.and_eq_true, decide_eq_true_eq, beq_iff_eq] at h
    omega
  have hdigit : c.isDigit = false := by
    rw [← Bool.not_eq_true, Char.isDigit_iff_toNat]
    simp only [isBlank, Bool.or_eq_true, Bool.and_eq_true, decide_eq_true_eq, beq_iff_eq] at h
    simp only [Char.reduceToNat]
    omega
  have hne : c ≠ '+' ∧ c ≠ '-' ∧ c ≠ '.' := by
    refine ⟨?_, ?_, ?_⟩ <;> rintro rfl <;> exact absurd h (by decide)
  refine ⟨⟨?_, hne.1, hne.2.1⟩, ?_⟩
  · rw [isContinue_eq, hstart, hdigit, Bool.or_false]
  · simp [endsNumber, hdigit, hne.2.2]

theorem piecesOf_append_blank {c : Char} (h : isBlank c) (t : Text) :
    piecesOf (t ++ [c]) = piecesOf t ++ [.other c] := by
  rw [piecesOf, pieces_append_separator (separates_of_isBlank h).1, pieces_nil, piecesOf]

theorem opensCall_append_blank {c : Char} (h : isBlank c) (ps : List Piece) :
    opensCall (ps ++ [.other c]) = opensCall ps := by
  induction ps with
  | nil => simp [opensCall, h]
  | cons p ps ih =>
    cases p with
    | other d => rw [List.cons_append, opensCall, opensCall, ih]
    | _ => rfl

theorem named_append_blank {c : Char} (h : isBlank c) (ps : List Piece) :
    named (ps ++ [.other c]) = named ps := by
  induction ps with
  | nil => rfl
  | cons p ps ih =>
    cases p with
    | name word glued => rw [List.cons_append, named, named, opensCall_append_blank h, ih]
    | _ => exact ih

theorem identifiers_append_blank {c : Char} (h : isBlank c) (t : Text) :
    identifiers (t ++ [c]) = identifiers t := by
  rw [identifiers, piecesOf_append_blank h, named_append_blank h, identifiers]

theorem identifiers_cons_blank {c : Char} (h : isBlank c) (t : Text) :
    identifiers (c :: t) = identifiers t := by
  obtain ⟨hsep, hnumber⟩ := separates_of_isBlank h
  rw [identifiers, piecesOf_cons_of_other (isStart_of_isContinue hsep.1) hnumber]
  rfl

/-- The blanks around a text have no part in its names. -/
theorem identifiers_trim (t : Text) : identifiers (trim t) = identifiers t := by
  have hend : ∀ r : Text, identifiers (r.dropWhile isBlank).reverse = identifiers r.reverse := by
    intro r
    induction r with
    | nil => rfl
    | cons c r ih =>
      rw [List.dropWhile_cons]
      split
      · next h => rw [ih, List.reverse_cons, identifiers_append_blank h]
      · rfl
  have hstart : identifiers (trimStart t) = identifiers t := by
    unfold trimStart
    induction t with
    | nil => rfl
    | cons c t ih =>
      rw [List.dropWhile_cons]
      split
      · next h => rw [ih, identifiers_cons_blank h]
      · rfl
  rw [trim, trimEnd, hend, List.reverse_reverse, hstart]

theorem gluedName?_append_blank {c : Char} (h : isBlank c) (t : Text) :
    gluedName? (t ++ [c]) = gluedName? t := by
  rw [gluedName?, piecesOf_append_blank h, List.findSome?_append]
  exact Option.or_none

/-- What is read as a variable or a parameter is one of the names. -/
theorem exists_name_of_mem_named {word : Text} {ps : List Piece} (h : word ∈ named ps) :
    ∃ glued, .name word glued ∈ ps := by
  induction ps with
  | nil => exact absurd h List.not_mem_nil
  | cons p ps ih =>
    have hlift : word ∈ named ps → ∃ glued, .name word glued ∈ p :: ps := fun h =>
      (ih h).imp fun _ => List.mem_cons_of_mem p
    cases p with
    | name w glued =>
      rw [named] at h
      split at h
      · exact hlift h
      · rcases List.mem_cons.mp h with rfl | h
        · exact ⟨glued, List.mem_cons_self⟩
        · exact hlift h
    | _ => exact hlift h

/-! ## Replacing names -/

/-- What stands in the place of a piece. -/
def replaced (replacement : Text → Option Text) : Piece → Text
  | .name word _ => (replacement word).getD word
  | piece => piece.text

theorem substitute_eq_flatMap (replacement : Text → Option Text) (t : Text) :
    substitute replacement t = (piecesOf t).flatMap (replaced replacement) := rfl

theorem substitute_cons {r : Text → Option Text} {c : Char} (hc : isStart c = false) (hnumber : endsNumber c = false)
    (t : Text) : substitute r (c :: t) = c :: substitute r t := by
  rw [substitute_eq_flatMap, piecesOf_cons_of_other hc hnumber]
  rfl

theorem substitute_nil {r : Text → Option Text} : substitute r [] = [] := by
  rw [substitute_eq_flatMap, piecesOf, pieces_nil]
  rfl

/-- A name as long as it can be is replaced as a whole. -/
theorem substitute_append_word {r : Text → Option Text} {w t : Text} (hw : isIdentifier w = true)
    (ht : ∀ c rest, t = c :: rest → isContinue c = false) :
    substitute r (w ++ t) = (r w).getD w ++ substitute r t := by
  rw [substitute_eq_flatMap, piecesOf_append_word hw ht]
  rfl

/-- Something in parentheses in which no name starts. -/
def IsGroup (v : Text) : Prop := ∃ body, v = '(' :: (body ++ [')']) ∧ ∀ c ∈ body, isStart c = false

/-- The pieces of what stands in the place of a piece. -/
def regrouped (replacement : Text → Option Text) : Piece → List Piece
  | .name word glued =>
    match replacement word with
    | none => [.name word glued]
    | some v => v.map .other
  | piece => [piece]

theorem pieces_group {v : Text} (h : IsGroup v) (afterNumber : Bool) (t : Text) :
    pieces afterNumber (v ++ t) = v.map .other ++ pieces false t := by
  obtain ⟨body, rfl, hbody⟩ := h
  have hrest : ∀ b, pieces b (body ++ ')' :: t) =
      body.map .other ++ .other ')' :: pieces false t := by
    induction body with
    | nil => exact fun b => pieces_other (by decide) b t
    | cons c body ih =>
      intro b
      obtain ⟨hc, hbody⟩ := List.forall_mem_cons.mp hbody
      rw [List.cons_append, pieces_other hc, ih hbody, List.map_cons, List.cons_append]
  rw [List.cons_append, List.append_assoc, List.singleton_append, pieces_other (by decide), hrest]
  simp

section
variable {r : Text → Option Text} (hr : ∀ word v, r word = some v → IsGroup v)
include hr

/-- Where a text starts with a name, the new one starts with that letter or with the
parenthesis of a group. -/
theorem exists_cons_flatMap_replaced {c : Char} (hc : isStart c) (afterNumber : Bool) (t : Text) :
    ∃ d rest, (pieces afterNumber (c :: t)).flatMap (replaced r) = d :: rest ∧ d.isDigit = false := by
  rw [pieces_start hc, List.flatMap_cons]
  split
  · exact ⟨c, _, rfl, isDigit_of_isStart hc⟩
  · cases hv : r (c :: t.takeWhile isContinue) with
    | none =>
      rw [replaced, hv]
      exact ⟨c, _, rfl, isDigit_of_isStart hc⟩
    | some v =>
      obtain ⟨body, rfl, -⟩ := hr _ v hv
      rw [replaced, hv]
      exact ⟨'(', _, rfl, by decide⟩

theorem opensSignedDigit_flatMap_replaced {t : Text} (afterNumber : Bool)
    (ht : ∀ c rest, t = c :: rest → isStart c = false) :
    opensSignedDigit ((pieces afterNumber t).flatMap (replaced r)) = opensSignedDigit t := by
  cases t with
  | nil => rw [pieces_nil]; rfl
  | cons c t =>
    rw [pieces_other (ht c t rfl), List.flatMap_cons]
    cases t with
    | nil => rw [pieces_nil]; rfl
    | cons d t =>
      by_cases hd : isStart d
      · obtain ⟨e, rest, heq, he⟩ := exists_cons_flatMap_replaced hr hd (endsNumber c) t
        rw [heq]
        simp [replaced, Piece.text, opensSignedDigit, he, isDigit_of_isStart hd]
      · rw [pieces_other (by simpa using hd), List.flatMap_cons]
        rfl

/-- The pieces after names have been replaced by groups. -/
theorem pieces_flatMap_replaced (afterNumber : Bool) (t : Text) :
    pieces afterNumber ((pieces afterNumber t).flatMap (replaced r)) =
      (pieces afterNumber t).flatMap (regrouped r) := by
  fun_induction pieces afterNumber t with
  | case1 afterNumber => rw [List.flatMap_nil, pieces_nil, List.flatMap_nil]
  | case2 afterNumber c rest hc word after ih =>
    -- What follows a name starts with a character that no name goes on with, replaced or not.
    have hafter : ∀ d more, after = d :: more → isContinue d = false := fun d more h =>
      eq_false_of_dropWhile h
    have hstop : ∀ d more, (pieces false after).flatMap (replaced r) = d :: more →
        isContinue d = false := by
      intro d more h
      cases hcase : after with
      | nil =>
        rw [hcase, pieces_nil] at h
        cases h
      | cons e others =>
        have he := hafter e others hcase
        rw [hcase, pieces_other (isStart_of_isContinue he)] at h
        cases h
        exact he
    have hcut := cut_append (List.all_eq_true.mp (List.all_takeWhile (l := rest))) hstop
    have hexp : isExponentTail word ((pieces false after).flatMap (replaced r)) =
        isExponentTail word after := by
      have hopens := opensSignedDigit_flatMap_replaced hr false
        fun d more h => isStart_of_isContinue (hafter d more h)
      simp only [word, isExponentTail, hopens]
    have hkept : pieces afterNumber (word ++ (pieces false after).flatMap (replaced r)) =
        (if afterNumber && isExponentTail word after then .exponent word
          else .name word afterNumber) :: (pieces false after).flatMap (regrouped r) := by
      rw [← ih, ← hexp]
      show pieces afterNumber (c :: (rest.takeWhile isContinue ++ _)) = _
      rw [pieces_start hc, hcut.1, hcut.2]
    rw [List.flatMap_cons, List.flatMap_cons]
    by_cases hexponent : (afterNumber && isExponentTail word after) = true
    · rw [if_pos hexponent] at hkept ⊢
      exact hkept
    · rw [if_neg hexponent] at hkept ⊢
      rw [replaced, regrouped]
      cases hv : r word with
      | none => exact hkept
      | some v => exact (pieces_group (hr word v hv) afterNumber _).trans (by rw [ih])
  | case3 afterNumber c rest hc ih =>
    rw [List.flatMap_cons, List.flatMap_cons, ← ih]
    exact pieces_other (by simpa using hc) afterNumber _

/-- Every name that is left has no replacement. -/
theorem eq_none_of_mem_identifiers_substitute {t word : Text}
    (h : word ∈ identifiers (substitute r t)) : r word = none := by
  rw [identifiers, substitute_eq_flatMap, piecesOf, piecesOf, pieces_flatMap_replaced hr] at h
  obtain ⟨glued, hpiece⟩ := exists_name_of_mem_named h
  obtain ⟨piece, -, hpiece⟩ := List.mem_flatMap.mp hpiece
  cases piece with
  | name w g =>
    rw [regrouped] at hpiece
    cases hw : r w with
    | none =>
      rw [hw] at hpiece
      cases List.mem_singleton.mp hpiece
      exact hw
    | some v =>
      rw [hw] at hpiece
      obtain ⟨c, -, hc⟩ := List.mem_map.mp hpiece
      cases hc
  | _ => cases List.mem_singleton.mp hpiece

end

/-! ## Replacing names line by line -/

theorem substitute_append_separator (replacement : Text → Option Text) {c : Char}
    (h : Separates c) (hnumber : endsNumber c = false) (a b : Text) :
    substitute replacement (a ++ c :: b) =
      substitute replacement a ++ c :: substitute replacement b := by
  simp only [substitute_eq_flatMap, piecesOf, pieces_append_separator h, List.flatMap_append,
    List.flatMap_cons, hnumber]
  rfl

theorem text_ne_nil_of_mem_pieces {piece : Piece} {afterNumber : Bool} {t : Text}
    (h : piece ∈ pieces afterNumber t) : piece.text ≠ [] := by
  fun_induction pieces afterNumber t with
  | case1 => exact absurd h List.not_mem_nil
  | case2 afterNumber c rest hc word after ih =>
    rcases List.mem_cons.mp h with rfl | h
    · split <;> exact List.cons_ne_nil _ _
    · exact ih h
  | case3 afterNumber c rest hc ih =>
    rcases List.mem_cons.mp h with rfl | h
    · exact List.cons_ne_nil _ _
    · exact ih h

/-- Names are replaced on each line on its own, if what is put in their place is not
empty and has no line end. -/
theorem linewise_substitute {ε : Type} {r : Text → Option Text}
    (hr : ∀ word v, r word = some v → v ≠ [] ∧ '\n' ∉ v ∧ '\r' ∉ v) :
    Linewise fun t => (.ok (substitute r t) : Except ε Text) where
  nil := by simp [substitute_eq_flatMap, piecesOf]
  newline a b _ := congrArg Except.ok (substitute_append_separator r (by decide) (by decide) a b)
  carriage a := by
    refine congrArg Except.ok ((substitute_append_separator r (by decide) (by decide) a []).trans ?_)
    simp [substitute_eq_flatMap, piecesOf]
  stays a b ha h := by
    cases h
    rw [substitute_eq_flatMap]
    have hcases : ∀ piece ∈ piecesOf a, replaced r piece = piece.text ∨
        (replaced r piece ≠ [] ∧ '\n' ∉ replaced r piece ∧ '\r' ∉ replaced r piece) := by
      intro piece _
      cases piece with
      | name word glued =>
        rw [replaced]
        cases hv : r word with
        | none => exact .inl rfl
        | some v => exact .inr (hr word v hv)
      | _ => exact .inl rfl
    have htext : (piecesOf a).flatMap Piece.text = a := flatMap_text_pieces false a
    have hstays : ('\n' ∉ (piecesOf a).flatMap Piece.text →
          '\n' ∉ (piecesOf a).flatMap (replaced r)) ∧
        (((piecesOf a).flatMap (replaced r)).getLast? = some '\r' →
          ((piecesOf a).flatMap Piece.text).getLast? = some '\r') ∧
        ((piecesOf a).flatMap (replaced r) = [] → (piecesOf a).flatMap Piece.text = []) :=
      flatMap_stays (fun piece hp hn => ?_) (fun piece hp => ?_) (fun piece hp hl => ?_)
    · rw [htext] at hstays
      exact ⟨hstays.1 ha, hstays.2⟩
    · rcases hcases piece hp with h | ⟨-, h, -⟩
      · rwa [h]
      · exact h
    · rcases hcases piece hp with h | ⟨h, -⟩
      · rw [h]
        exact text_ne_nil_of_mem_pieces hp
      · exact h
    · rcases hcases piece hp with h | ⟨-, -, h⟩
      · rwa [h] at hl
      · exact absurd (List.mem_of_getLast? hl) h

end Equate.Name
