import Equate.Proofs.Name.Pieces
import Equate.Proofs.Text.Part

/-!
# Names that stay

Blanks around a text and names that give way to groups leave the other names where they
are: each is written against a number afterwards exactly if it was before. A text in which
nothing is replaced stays as it is.
-/
namespace Equate.Name
open Text

/-! ## Blanks around a text -/

theorem piecesOf_cons_blank {c : Char} (h : isBlank c = true) (t : Text) :
    piecesOf (c :: t) = .other c :: piecesOf t := by
  obtain ⟨hsep, hnumber⟩ := separates_of_isBlank h
  exact piecesOf_cons_of_other (isStart_of_isContinue hsep.1) hnumber t

/-- The pieces of a text are those of what is left without the blanks around it, and the
blanks. -/
theorem piecesOf_append_blanks {left right : Text} (hleft : ∀ c ∈ left, isBlank c = true)
    (hright : ∀ c ∈ right, isBlank c = true) (t : Text) :
    piecesOf (left ++ t ++ right) =
      left.map .other ++ piecesOf t ++ right.map .other := by
  have hback : ∀ t, piecesOf (t ++ right) = piecesOf t ++ right.map .other := by
    induction right with
    | nil => simp
    | cons c right ih =>
      intro t
      obtain ⟨hc, hright⟩ := List.forall_mem_cons.mp hright
      rw [List.append_cons, ih hright, piecesOf_append_blank hc, List.map_cons,
        List.append_assoc, List.singleton_append]
  rw [hback]
  congr 1
  induction left with
  | nil => rfl
  | cons c left ih =>
    obtain ⟨hc, hleft⟩ := List.forall_mem_cons.mp hleft
    rw [List.cons_append, piecesOf_cons_blank hc, ih hleft, List.map_cons, List.cons_append]

theorem name_mem_piecesOf_trim {t word : Text} {glued : Bool} :
    .name word glued ∈ piecesOf (trim t) ↔ .name word glued ∈ piecesOf t := by
  obtain ⟨left, right, hleft, hright, h⟩ := exists_trim t
  have hpieces := piecesOf_append_blanks hleft hright (trim t)
  rw [← h] at hpieces
  rw [hpieces]
  simp

/-! ## What names are -/

/-- A name stands in the text and is an identifier. -/
theorem isIdentifier_of_mem_pieces {afterNumber : Bool} {t word : Text} {glued : Bool}
    (h : .name word glued ∈ pieces afterNumber t) : isIdentifier word = true ∧ word <:+: t := by
  fun_induction pieces afterNumber t with
  | case1 => exact absurd h List.not_mem_nil
  | case2 afterNumber c rest hc w after ih =>
    have hcut : c :: rest = w ++ after := by
      rw [List.cons_append, List.takeWhile_append_dropWhile]
    rcases List.mem_cons.mp h with h | h
    · have hw : word = w := by
        split at h
        · cases h
        · exact (Piece.name.inj h).1
      rw [hw]
      exact ⟨isIdentifier_takeWhile hc rest, hcut ▸ (List.prefix_append w after).isInfix⟩
    · obtain ⟨hword, hpart⟩ := ih h
      exact ⟨hword, hpart.trans (hcut ▸ (List.suffix_append w after).isInfix)⟩
  | case3 afterNumber c rest hc ih =>
    rcases List.mem_cons.mp h with h | h
    · cases h
    · obtain ⟨hword, hpart⟩ := ih h
      exact ⟨hword, hpart.trans (List.suffix_cons c rest).isInfix⟩

/-- An identifier is one name. -/
theorem piecesOf_of_isIdentifier {w : Text} (h : isIdentifier w = true) :
    piecesOf w = [.name w false] := by
  have hpieces := piecesOf_append_word (t := []) h nofun
  rwa [List.append_nil, piecesOf, piecesOf, pieces_nil] at hpieces

theorem isIdentifier_of_isStart {w : Text} (hne : w ≠ []) (h : ∀ c ∈ w, isStart c = true) :
    isIdentifier w = true := by
  obtain ⟨c, w, rfl⟩ := List.exists_cons_of_ne_nil hne
  obtain ⟨hc, hw⟩ := List.forall_mem_cons.mp h
  rw [isIdentifier, hc, Bool.true_and, List.all_eq_true]
  exact fun d hd => isContinue_of_isStart (hw d hd)

/-! ## Names against numbers -/

theorem gluedName?_eq_none_iff {t : Text} :
    gluedName? t = none ↔ ∀ word, .name word true ∉ piecesOf t := by
  rw [gluedName?, List.findSome?_eq_none_iff]
  constructor
  · intro h word hmem
    cases h _ hmem
  · intro h piece hmem
    cases piece with
    | name word glued =>
      cases glued with
      | true => exact absurd hmem (h word)
      | false => rfl
    | exponent word => rfl
    | other c => rfl

/-! ## Replacing names -/

section
variable {r : Text → Option Text} (hr : ∀ word v, r word = some v → IsGroup v)
include hr

/-- The names behind a replacement are those before it that have none. -/
theorem name_mem_piecesOf_substitute {t word : Text} {glued : Bool} :
    .name word glued ∈ piecesOf (substitute r t) ↔
      .name word glued ∈ piecesOf t ∧ r word = none := by
  rw [substitute_eq_flatMap, piecesOf, piecesOf, pieces_flatMap_replaced hr, List.mem_flatMap]
  constructor
  · rintro ⟨piece, hmem, hpiece⟩
    cases piece with
    | name w g =>
      rw [regrouped] at hpiece
      cases hw : r w with
      | none =>
        rw [hw] at hpiece
        cases List.mem_singleton.mp hpiece
        exact ⟨hmem, hw⟩
      | some v =>
        rw [hw] at hpiece
        obtain ⟨c, -, hc⟩ := List.mem_map.mp hpiece
        cases hc
    | _ => cases List.mem_singleton.mp hpiece
  · rintro ⟨hmem, hword⟩
    refine ⟨_, hmem, ?_⟩
    rw [regrouped, hword]
    exact List.mem_singleton_self _

end

/-- Where no name has a replacement, nothing changes. -/
theorem substitute_eq_self {r : Text → Option Text} {t : Text}
    (h : ∀ word glued, .name word glued ∈ piecesOf t → r word = none) : substitute r t = t := by
  have hkept : ∀ piece ∈ piecesOf t, replaced r piece = piece.text := by
    intro piece hmem
    cases piece with
    | name word glued => rw [replaced, h word glued hmem]; rfl
    | _ => rfl
  calc
    substitute r t = (piecesOf t).flatMap Piece.text := by
      rw [substitute_eq_flatMap, List.flatMap_def, List.flatMap_def, List.map_congr_left hkept]
    _ = t := flatMap_text_pieces false t

/-- Without letters there are no names. -/
theorem substitute_of_not_isStart {r : Text → Option Text} {t : Text}
    (h : ∀ c ∈ t, isStart c = false) : substitute r t = t := by
  apply substitute_eq_self
  intro word glued hmem
  obtain ⟨hword, hpart⟩ := isIdentifier_of_mem_pieces hmem
  cases word with
  | nil => cases hword
  | cons c word =>
    rw [isIdentifier, h c (hpart.subset List.mem_cons_self)] at hword
    cases hword

/-- The pieces of a text without numbers end where no name goes on. -/
theorem pieces_append_of_stop {t rest : Text} (ht : ∀ c ∈ t, endsNumber c = false)
    (hrest : ∀ c more, rest = c :: more → isContinue c = false) :
    pieces false (t ++ rest) = pieces false t ++ pieces false rest := by
  generalize hfalse : false = afterNumber
  fun_induction pieces afterNumber t with
  | case1 => rw [List.nil_append, List.nil_append]
  | case2 afterNumber c t hc word after ih =>
    subst hfalse
    have hafter : ∀ d ∈ after, endsNumber d = false := fun d hd =>
      ht d (List.mem_cons_of_mem c ((List.dropWhile_suffix isContinue).subset hd))
    rw [List.cons_append, pieces_start hc, takeWhile_append_of_stop hrest,
      dropWhile_append_of_stop hrest, ih hafter rfl]
    rfl
  | case3 afterNumber c t hc ih =>
    obtain ⟨hnumber, ht⟩ := List.forall_mem_cons.mp ht
    rw [List.cons_append, pieces_other (by simpa using hc), hnumber, ← hfalse]
    rw [hnumber] at ih
    exact congrArg _ (ih ht rfl)

theorem substitute_append_of_stop {r : Text → Option Text} {t rest : Text}
    (ht : ∀ c ∈ t, endsNumber c = false) (hrest : ∀ c more, rest = c :: more → isContinue c = false) :
    substitute r (t ++ rest) = substitute r t ++ substitute r rest := by
  simp only [substitute_eq_flatMap, piecesOf, pieces_append_of_stop ht hrest, List.flatMap_append]

/-- Where a name is replaced by a group, the new text is the old one up to that name, and there
goes on with a parenthesis. -/
theorem exists_front_of_replaced {r : Text → Option Text} {t name : Text} {glued : Bool}
    (hr : ∀ word v, r word = some v → ∃ more, v = '(' :: more)
    (hname : .name name glued ∈ piecesOf t) (hsome : r name ≠ none) :
    ∃ front more, substitute r t = front ++ '(' :: more ∧ front <+: t ∧ front.length < t.length := by
  have hpieces : ∀ ps : List Piece, (∀ piece ∈ ps, piece.text ≠ []) → .name name glued ∈ ps →
      ∃ front more, ps.flatMap (replaced r) = front ++ '(' :: more ∧
        front <+: ps.flatMap Piece.text ∧ front.length < (ps.flatMap Piece.text).length := by
    intro ps hne hname
    induction ps with
    | nil => exact absurd hname List.not_mem_nil
    | cons piece ps ih =>
      obtain ⟨hpiece, hne⟩ := List.forall_mem_cons.mp hne
      rw [List.flatMap_cons, List.flatMap_cons]
      have hkept : replaced r piece = piece.text → .name name glued ∈ ps →
          ∃ front more, replaced r piece ++ ps.flatMap (replaced r) = front ++ '(' :: more ∧
            front <+: piece.text ++ ps.flatMap Piece.text ∧
            front.length < (piece.text ++ ps.flatMap Piece.text).length := by
        intro hkept hmem
        obtain ⟨front, more, heq, hstarts, hlt⟩ := ih hne hmem
        exact ⟨piece.text ++ front, more, by rw [hkept, heq, List.append_assoc],
          (List.prefix_append_right_inj _).mpr hstarts, by simpa using hlt⟩
      cases piece with
      | name word g =>
        cases hv : r word with
        | some v =>
          obtain ⟨more, rfl⟩ := hr word v hv
          refine ⟨[], more ++ ps.flatMap (replaced r), by rw [replaced, hv]; rfl, List.nil_prefix, ?_⟩
          exact List.length_pos_iff.mpr (List.append_ne_nil_of_left_ne_nil hpiece _)
        | none =>
          rcases List.mem_cons.mp hname with heq | hmem
          · cases heq
            exact absurd hv hsome
          · exact hkept (by rw [replaced, hv]; rfl) hmem
      | _ => exact hkept rfl ((List.mem_cons.mp hname).resolve_left Piece.noConfusion)
  have h := hpieces (piecesOf t) (fun _ => text_ne_nil_of_mem_pieces) hname
  rwa [piecesOf, flatMap_text_pieces] at h

/-- So without a parenthesis nothing has been replaced. -/
theorem substitute_eq_self_of_not_mem {r : Text → Option Text} {t : Text}
    (hr : ∀ word v, r word = some v → ∃ more, v = '(' :: more) (h : '(' ∉ substitute r t) :
    substitute r t = t := by
  refine substitute_eq_self fun name glued hname => Classical.byContradiction fun hsome => ?_
  obtain ⟨front, more, heq, -, -⟩ := exists_front_of_replaced hr hname hsome
  exact h (heq ▸ List.mem_append_right front List.mem_cons_self)

/-- What stands in a text with groups, starts with a character that no group has and has no
parenthesis that opens one, stood there before. -/
theorem infix_of_infix_substitute {r : Text → Option Text} {d : Char} {body t : Text}
    (hgroup : ∀ word v, r word = some v → d ∉ v ∧ ∃ rest, v = '(' :: rest)
    (hopen : '(' ∉ d :: body) (h : d :: body <:+: substitute r t) : d :: body <:+: t := by
  rw [substitute_eq_flatMap] at h
  have hold : d :: body <:+: (piecesOf t).flatMap Piece.text :=
    infix_of_infix_flatMap rfl (fun piece _ => ?_) h
  · rwa [piecesOf, flatMap_text_pieces] at hold
  · cases piece with
    | name word glued =>
      rw [replaced]
      cases hv : r word with
      | none => exact .inl rfl
      | some v =>
        obtain ⟨hd, rest, rfl⟩ := hgroup word v hv
        exact .inr ⟨hd, '(', rest, rfl, hopen⟩
    | _ => exact .inl rfl

end Equate.Name
