import Equate.Proofs.Conversion.Lines
import Equate.Proofs.Text.Part

/-!
# Texts without conversion tags

A tag is found in a text exactly if the characters of one stand in it: brackets are no unit
characters, so no tag hides another. A factor starts with a blank, which has no place in a
tag, and no bracket stands in it, so resolving the tags of a text leaves none and makes
none. A text without tags is its own resolution.
-/
namespace Equate.Conversion
open Text Success

/-- The characters of a tag. -/
def IsTag (u : Text) : Prop :=
  ∃ source target, source ≠ [] ∧ target ≠ [] ∧ (∀ c ∈ source, isUnitChar c) ∧
    (∀ c ∈ target, isUnitChar c) ∧ u = (Segment.tag source target).text

/-- Somewhere in the text stands a tag. -/
def HasTag (t : Text) : Prop := ∃ u, IsTag u ∧ u <:+: t

theorem HasTag.of_isInfix {t t' : Text} (h : HasTag t') (ht : t' <:+: t) : HasTag t := by
  obtain ⟨u, hu, hpart⟩ := h
  exact ⟨u, hu, hpart.trans ht⟩

theorem IsTag.exists_cons {u : Text} (h : IsTag u) : ∃ body, u = '[' :: body := by
  obtain ⟨source, target, -, -, -, -, rfl⟩ := h
  exact ⟨_, rfl⟩

theorem IsTag.not_mem {u : Text} (h : IsTag u) {c : Char} (hc : Outside c) : c ∉ u := by
  obtain ⟨source, target, -, -, hs, ht, rfl⟩ := h
  obtain ⟨hunit, hopen, hgt, hclose⟩ := hc
  have hdash : c ≠ '-' := by
    rintro rfl
    exact absurd hunit (by decide)
  have hnot : ∀ {v : Text}, (∀ d ∈ v, isUnitChar d) → c ∉ v :=
    fun hv hcv => Bool.false_ne_true (hunit.symm.trans (hv c hcv))
  simp [Segment.text, hnot hs, hnot ht, hopen, hdash, hgt, hclose]

/-- Behind the bracket of a tag one is read. -/
theorem IsTag.tag?_eq_some {body : Text} (h : IsTag ('[' :: body)) (after : Text) :
    ∃ source target, tag? (body ++ after) = some (source, target, after) := by
  obtain ⟨source, target, hsource, htarget, hs, ht, heq⟩ := h
  refine ⟨source, target, tag?_eq_some_iff.mpr ⟨hsource, htarget, hs, ht, ?_⟩⟩
  simp [(List.cons.inj heq).2]

/-! ## Tags that are found -/

/-- The segments of a text from one of them on are those of the text from there on. -/
theorem segments_flatMap_text {t : Text} {xs ys : List Segment} (h : segments t = xs ++ ys) :
    segments (ys.flatMap Segment.text) = ys := by
  have hwhole : ∀ {t : Text} {ys : List Segment}, segments t = [] ++ ys →
      segments (ys.flatMap Segment.text) = ys := by
    rintro t ys rfl
    rw [flatMap_text_segments]
  fun_induction segments t generalizing xs with
  | case1 =>
    obtain ⟨rfl, rfl⟩ := List.append_eq_nil_iff.mp h.symm
    rw [List.flatMap_nil, segments]
  | case2 rest source target after htag hshort ih =>
    cases xs with
    | nil =>
      refine hwhole (t := '[' :: rest) ?_
      rw [← h, segments, if_pos rfl]
      split
      · next heq => cases htag.symm.trans heq; rfl
      · next heq => cases htag.symm.trans heq
    | cons x xs => exact ih (List.cons.inj h).2
  | case3 rest htag ih =>
    cases xs with
    | nil =>
      refine hwhole (t := '[' :: rest) ?_
      rw [← h, segments, if_pos rfl]
      split
      · next heq => cases htag.symm.trans heq
      · rfl
    | cons x xs => exact ih (List.cons.inj h).2
  | case4 c rest hc ih =>
    cases xs with
    | nil =>
      refine hwhole (t := c :: rest) ?_
      rw [← h, segments, if_neg hc]
    | cons x xs => exact ih (List.cons.inj h).2

/-- A bracket that is left as plain text opens no tag. -/
theorem not_isTag_prefix_of_segments {t : Text} {c : Char} {xs ys : List Segment} {u : Text}
    (h : segments t = xs ++ .plain c :: ys) (hu : IsTag u) :
    ¬ u <+: c :: ys.flatMap Segment.text := by
  obtain ⟨body, rfl⟩ := hu.exists_cons
  rintro ⟨after, hafter⟩
  obtain ⟨rfl, hrest⟩ := List.cons.inj hafter
  obtain ⟨source, target, htag⟩ := hu.tag?_eq_some after
  have hseg := segments_flatMap_text h
  rw [List.flatMap_cons, Segment.text, List.singleton_append, ← hrest, segments, if_pos rfl] at hseg
  split at hseg
  · cases (List.cons.inj hseg).1
  · next heq => cases htag.symm.trans heq

theorem symbols_of_mem_segments {t source target : Text} (h : .tag source target ∈ segments t) :
    source ≠ [] ∧ target ≠ [] ∧ (∀ c ∈ source, isUnitChar c) ∧ (∀ c ∈ target, isUnitChar c) := by
  fun_induction segments t with
  | case1 => exact absurd h List.not_mem_nil
  | case2 rest source' target' after htag _ ih =>
    rcases List.mem_cons.mp h with heq | h
    · cases heq
      obtain ⟨hsource, htarget, hs, ht, -⟩ := tag?_eq_some_iff.mp htag
      exact ⟨hsource, htarget, hs, ht⟩
    · exact ih h
  | case3 rest _ ih =>
    rcases List.mem_cons.mp h with heq | h
    · cases heq
    · exact ih h
  | case4 c rest _ ih =>
    rcases List.mem_cons.mp h with heq | h
    · cases heq
    · exact ih h

theorem isTag_of_mem_segments {t source target : Text} (h : .tag source target ∈ segments t) :
    IsTag (Segment.tag source target).text := by
  obtain ⟨hsource, htarget, hs, ht⟩ := symbols_of_mem_segments h
  exact ⟨source, target, hsource, htarget, hs, ht, rfl⟩

/-- Without a tag among its segments a text is cut into its characters. -/
theorem segments_eq_map_plain {xs : List Segment} (h : ∀ source target, .tag source target ∉ xs) :
    xs = (xs.flatMap Segment.text).map .plain := by
  induction xs with
  | nil => rfl
  | cons x xs ih =>
    cases x with
    | tag source target => exact absurd List.mem_cons_self (h source target)
    | plain c =>
      rw [List.flatMap_cons, Segment.text, List.singleton_append, List.map_cons,
        ← ih fun source target hmem => h source target (List.mem_cons_of_mem _ hmem)]

/-- A tag stands in a text exactly if one is among its segments. -/
theorem hasTag_iff {t : Text} : HasTag t ↔ ∃ source target, .tag source target ∈ segments t := by
  constructor
  · rintro ⟨u, hu, before, after, rfl⟩
    refine Classical.byContradiction fun hnone => ?_
    have hplain : segments (before ++ u ++ after) = _ :=
      segments_eq_map_plain fun source target h => hnone ⟨source, target, h⟩
    obtain ⟨body, rfl⟩ := hu.exists_cons
    rw [flatMap_text_segments, List.append_assoc, List.map_append, List.cons_append,
      List.map_cons] at hplain
    refine not_isTag_prefix_of_segments hplain hu ⟨after, ?_⟩
    have htext : ∀ v : Text, (v.map Segment.plain).flatMap Segment.text = v := by
      intro v
      induction v with
      | nil => rfl
      | cons c v ih => rw [List.map_cons, List.flatMap_cons, ih]; rfl
    rw [htext, List.cons_append]
  · rintro ⟨source, target, h⟩
    obtain ⟨xs, ys, hxs⟩ := List.append_of_mem h
    refine ⟨_, isTag_of_mem_segments h, xs.flatMap Segment.text, ys.flatMap Segment.text, ?_⟩
    rw [← flatMap_text_segments t, hxs, List.flatMap_append, List.flatMap_cons, List.append_assoc]

theorem locate_eq_nil_iff {xs : List Segment} {line offset : Nat} :
    locate line offset xs = [] ↔ ∀ source target, .tag source target ∉ xs := by
  induction xs generalizing line offset with
  | nil => simp [locate]
  | cons x xs ih =>
    cases x with
    | plain c => simp [locate, ih]
    | tag source target =>
      exact iff_of_false (List.cons_ne_nil _ _) fun h => h source target List.mem_cons_self

/-- No tags are listed exactly if none stands in the text. -/
theorem tags_eq_nil_iff {t : Text} : tags t = [] ↔ ¬ HasTag t := by
  rw [tags, locate_eq_nil_iff, hasTag_iff]
  simp only [not_exists]

/-! ## Tags and their resolution -/

section
variable {ε : Type} {factor : Text → Text → Except ε Float}

theorem resolveSegments_map_plain (t : Text) :
    resolveSegments factor (t.map .plain) = .ok t := by
  induction t with
  | nil => rfl
  | cons c t ih => rw [List.map_cons, resolveSegments, ih]; rfl

/-- Without tags nothing changes. -/
theorem resolve_of_not_hasTag {t : Text} (h : ¬ HasTag t) : resolve factor t = .ok t := by
  rw [hasTag_iff] at h
  simp only [not_exists] at h
  rw [resolve, segments_eq_map_plain h, flatMap_text_segments, resolveSegments_map_plain]

/-- With all tags resolved no tag is left. -/
theorem not_hasTag_of_resolve {t b : Text} (h : resolve factor t = .ok b) : ¬ HasTag b := by
  rintro ⟨u, hu, hpart⟩
  obtain ⟨body, rfl⟩ := hu.exists_cons
  obtain ⟨htags, rfl⟩ := resolveSegments_eq_ok_iff.mp h
  have hfactor : ∀ source target, Segment.tag source target ∈ segments t →
      ∃ x, written factor (.tag source target) = factorText x := by
    intro source target hmem
    obtain ⟨x, hx⟩ := htags source target hmem
    exact ⟨x, by rw [written, hx]⟩
  -- Every end of the segments is searched for the bracket with which the tag starts.
  suffices hsuffix : ∀ xs ys, segments t = xs ++ ys → ¬ '[' :: body <:+: ys.flatMap (written factor) by
    exact hsuffix [] _ rfl hpart
  intro xs ys hys hpart
  induction ys generalizing xs with
  | nil => exact absurd (List.eq_nil_of_infix_nil hpart) (List.cons_ne_nil _ _)
  | cons y ys ih =>
    have hnext : segments t = (xs ++ [y]) ++ ys := by simpa using hys
    have hmem : ∀ z ∈ y :: ys, z ∈ segments t := fun z hz => hys ▸ List.mem_append_right xs hz
    rw [List.flatMap_cons] at hpart
    cases y with
    | plain c =>
      rcases List.infix_cons_iff.mp hpart with hprefix | hpart
      · refine not_isTag_prefix_of_segments hys hu
          (prefix_append_flatMap (w := [c]) (fun z hz => ?_) hprefix)
        cases z with
        | plain d => exact .inl rfl
        | tag source target =>
          obtain ⟨x, hx⟩ := hfactor source target (hmem _ (List.mem_cons_of_mem _ hz))
          exact .inr ⟨' ', _, hx, hu.not_mem (by decide)⟩
      · exact ih _ hnext hpart
    | tag source target =>
      obtain ⟨x, hx⟩ := hfactor source target (hmem _ List.mem_cons_self)
      have hopen : '[' ∉ factorText x := not_mem_factorText (by decide) (by decide) fun hmem => by
        rcases Number.isPlainChar_or_isAlpha_of_mem_plain hmem with h | h <;> revert h <;> decide
      rw [hx] at hpart
      exact ih _ hnext (infix_of_infix_append hopen hpart)

/-- What a text has gained with its tags resolved, factors have. -/
theorem mem_of_mem_resolve {t b : Text} (h : resolve factor t = .ok b) {c : Char} (hc : c ∈ b) :
    c ∈ t ∨ ∃ x, c ∈ factorText x := by
  obtain ⟨htags, rfl⟩ := resolveSegments_eq_ok_iff.mp h
  obtain ⟨segment, hmem, hc⟩ := List.mem_flatMap.mp hc
  cases segment with
  | plain d =>
    left
    rw [← flatMap_text_segments t]
    exact List.mem_flatMap.mpr ⟨.plain d, hmem, hc⟩
  | tag source target =>
    obtain ⟨x, hx⟩ := htags source target hmem
    rw [written, hx] at hc
    exact .inr ⟨x, hc⟩

/-- A text that has no place for an arrow has no tag. -/
theorem not_hasTag_of_not_mem {t : Text} (h : '>' ∉ t) : ¬ HasTag t := by
  rintro ⟨u, ⟨source, target, -, -, -, -, rfl⟩, hpart⟩
  exact h (hpart.subset (by simp [Segment.text]))

end

end Equate.Conversion
