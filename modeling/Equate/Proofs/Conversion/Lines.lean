import Equate.Conversion.Tag
import Equate.Number.Plain
import Equate.Proofs.Success
import Equate.Proofs.Text.Lines

/-!
# Conversion tags are resolved line by line

No tag reaches over a character that has no place in one, in particular over the end of
a line, and a factor brings no line end along. Resolving the tags of a text is therefore
resolving those of each of its lines.
-/
namespace Equate.Conversion
open Text Success

/-- A character that can stand in no tag. -/
def Outside (c : Char) : Prop := isUnitChar c = false ∧ c ≠ '[' ∧ c ≠ '>' ∧ c ≠ ']'

instance (c : Char) : Decidable (Outside c) := by unfold Outside; infer_instance

/-- A character that no tag reaches from an opening bracket in front of it. -/
def Divides (c : Char) : Prop := isUnitChar c = false ∧ c ≠ '>' ∧ c ≠ ']'

instance (c : Char) : Decidable (Divides c) := by unfold Divides; infer_instance

theorem Outside.divides {c : Char} (h : Outside c) : Divides c := ⟨h.1, h.2.2⟩

theorem tag?_append {source target : Text} (hsource : source ≠ []) (htarget : target ≠ [])
    (hs : ∀ c ∈ source, isUnitChar c) (ht : ∀ c ∈ target, isUnitChar c) (after : Text) :
    tag? (source ++ '-' :: '>' :: target ++ ']' :: after) = some (source, target, after) := by
  -- The dash is a character of symbols, and the first run takes it along.
  have hrun : (source ++ '-' :: '>' :: target ++ ']' :: after).takeWhile isUnitChar =
      source ++ ['-'] := by
    rw [List.append_assoc, List.takeWhile_append_of_pos hs]
    rfl
  have hdrop : (source ++ '-' :: '>' :: target ++ ']' :: after).dropWhile isUnitChar =
      '>' :: (target ++ ']' :: after) := by
    rw [List.append_assoc, List.dropWhile_append_of_pos hs]
    rfl
  have hrun' : (target ++ ']' :: after).takeWhile isUnitChar = target := by
    rw [List.takeWhile_append_of_pos ht]
    exact List.append_nil target
  have hdrop' : (target ++ ']' :: after).dropWhile isUnitChar = ']' :: after := by
    rw [List.dropWhile_append_of_pos ht]
    rfl
  simp only [tag?, hrun, hdrop, hrun', hdrop']
  rw [if_pos ⟨by simp, by simpa using hsource, htarget⟩]
  simp

/-- A tag is read exactly where two symbols with the arrow between them and the closing
bracket behind them stand at the front. -/
theorem tag?_eq_some_iff {t source target after : Text} :
    tag? t = some (source, target, after) ↔
      source ≠ [] ∧ target ≠ [] ∧ (∀ c ∈ source, isUnitChar c) ∧ (∀ c ∈ target, isUnitChar c) ∧
        t = source ++ '-' :: '>' :: target ++ ']' :: after := by
  constructor
  · intro h
    unfold tag? at h
    dsimp only at h
    split at h
    · next rest hrest =>
      split at h
      · next after' hafter =>
        split at h
        · next hc =>
          obtain ⟨hlast, hsource, htarget⟩ := hc
          simp only [Option.some.injEq, Prod.mk.injEq] at h
          obtain ⟨rfl, rfl, rfl⟩ := h
          obtain ⟨front, hfront⟩ := List.getLast?_eq_some_iff.mp hlast
          have hrun : ∀ c ∈ t.takeWhile isUnitChar, isUnitChar c :=
            fun c hc => List.all_eq_true.mp List.all_takeWhile c hc
          refine ⟨hsource, htarget, fun c hc => hrun c (List.dropLast_subset _ hc),
            fun c hc => List.all_eq_true.mp List.all_takeWhile c hc, ?_⟩
          calc
            t = t.takeWhile isUnitChar ++ t.dropWhile isUnitChar :=
              List.takeWhile_append_dropWhile.symm
            _ = (front ++ ['-']) ++ '>' :: (rest.takeWhile isUnitChar ++ ']' :: after') := by
              rw [hfront, hrest, ← hafter, List.takeWhile_append_dropWhile]
            _ = _ := by simp [hfront]
        · cases h
      · cases h
    · cases h
  · rintro ⟨hsource, htarget, hs, ht, rfl⟩
    exact tag?_append hsource htarget hs ht after

/-- Whether a tag opens a text does not depend on what follows a character that divides it. -/
theorem tag?_append_of_divides {c : Char} (hc : Divides c) (t b : Text) :
    tag? (t ++ c :: b) =
      (tag? t).map fun (source, target, after) => (source, target, after ++ c :: b) := by
  refine Option.ext fun ⟨source, target, after⟩ => ?_
  rw [Option.map_eq_some_iff, tag?_eq_some_iff]
  constructor
  · rintro ⟨hsource, htarget, hs, ht, h⟩
    have hmem : c ∉ source ++ '-' :: '>' :: target ++ [']'] := by
      obtain ⟨hunit, hgt, hclose⟩ := hc
      have hdash : c ≠ '-' := by
        rintro rfl
        exact absurd hunit (by decide)
      have hnot : ∀ {u : Text}, (∀ d ∈ u, isUnitChar d) → c ∉ u :=
        fun hu hcu => Bool.false_ne_true (hunit.symm.trans (hu c hcu))
      simp [hnot hs, hnot ht, hdash, hgt, hclose]
    have hcut : t ++ c :: b = (source ++ '-' :: '>' :: target ++ [']']) ++ after := by
      rw [h]
      simp
    obtain ⟨between, rfl, rfl⟩ := append_cons_eq_append hmem hcut
    exact ⟨(source, target, between), tag?_eq_some_iff.mpr
      ⟨hsource, htarget, hs, ht, by simp⟩, rfl⟩
  · rintro ⟨⟨source', target', after'⟩, h, heq⟩
    simp only [Prod.mk.injEq] at heq
    obtain ⟨rfl, rfl, rfl⟩ := heq
    obtain ⟨hsource, htarget, hs, ht, rfl⟩ := tag?_eq_some_iff.mp h
    exact ⟨hsource, htarget, hs, ht, by simp⟩

/-- The segments of a text are those in front of a character that divides it and those from
there on. -/
theorem segments_append_of_divides {c : Char} (hc : Divides c) (a b : Text) :
    segments (a ++ c :: b) = segments a ++ segments (c :: b) := by
  fun_induction segments a with
  | case1 => rw [List.nil_append, List.nil_append]
  | case2 rest source target after h _ ih =>
    rw [List.cons_append, segments, if_pos rfl]
    have htag := tag?_append_of_divides hc rest b
    rw [h, Option.map_some] at htag
    split
    · next s t r heq =>
      rw [htag] at heq
      cases heq
      rw [ih, List.cons_append]
    · next heq =>
      rw [htag] at heq
      cases heq
  | case3 rest h ih =>
    rw [List.cons_append, segments, if_pos rfl]
    have htag := tag?_append_of_divides hc rest b
    rw [h, Option.map_none] at htag
    split
    · next heq =>
      rw [htag] at heq
      cases heq
    · rw [ih, List.cons_append]
  | case4 d rest hd ih => rw [List.cons_append, segments, if_neg hd, ih, List.cons_append]

/-- A character outside cuts the segments of a text in two. -/
theorem segments_append_outside {c : Char} (hc : Outside c) (a b : Text) :
    segments (a ++ c :: b) = segments a ++ .plain c :: segments b := by
  rw [segments_append_of_divides hc.divides, segments.eq_def (c :: b)]
  dsimp only
  rw [if_neg hc.2.1]

/-- Put together again, the segments of a text are the text. -/
theorem flatMap_text_segments (t : Text) : (segments t).flatMap Segment.text = t := by
  fun_induction segments t with
  | case1 => rfl
  | case2 rest source target after h _ ih =>
    obtain ⟨-, -, -, -, hrest⟩ := tag?_eq_some_iff.mp h
    rw [List.flatMap_cons, ih, hrest]
    simp [Segment.text]
  | case3 rest _ ih => rw [List.flatMap_cons, ih]; rfl
  | case4 d rest _ ih => rw [List.flatMap_cons, ih]; rfl

section Resolving
variable {ε : Type} {factor : Text → Text → Except ε Float}

theorem resolveSegments_append (xs ys : List Segment) :
    resolveSegments factor (xs ++ ys) =
      (do return (← resolveSegments factor xs) ++ (← resolveSegments factor ys)) := by
  induction xs with
  | nil =>
    rw [List.nil_append, resolveSegments, ok_bind]
    cases resolveSegments factor ys <;> rfl
  | cons x xs ih =>
    cases x with
    | plain c =>
      rw [List.cons_append, resolveSegments, resolveSegments, ih]
      simp only [bind_assoc, pure_bind, List.cons_append]
    | tag source target =>
      rw [List.cons_append, resolveSegments, resolveSegments, ih]
      simp only [bind_assoc, pure_bind, List.append_assoc]

/-- What is written for a segment; nothing for a tag without a factor. -/
def written (factor : Text → Text → Except ε Float) : Segment → Text
  | .plain c => [c]
  | .tag source target =>
    match factor source target with
    | .ok x => factorText x
    | .error _ => []

/-- Segments can be resolved if each of their tags has a factor. -/
theorem resolveSegments_eq_ok_iff {xs : List Segment} {b : Text} :
    resolveSegments factor xs = .ok b ↔
      (∀ source target, .tag source target ∈ xs → ∃ x, factor source target = .ok x) ∧
        b = xs.flatMap (written factor) := by
  induction xs generalizing b with
  | nil => simp [resolveSegments, eq_comm]
  | cons x xs ih =>
    cases x with
    | plain c =>
      rw [resolveSegments, bind_eq_ok]
      constructor
      · rintro ⟨more, hmore, h⟩
        obtain ⟨htags, rfl⟩ := ih.mp hmore
        exact ⟨fun s t hmem => htags s t (by simpa using hmem), (Except.ok.inj h).symm⟩
      · rintro ⟨htags, rfl⟩
        exact ⟨_, ih.mpr ⟨fun s t hmem => htags s t (List.mem_cons_of_mem _ hmem), rfl⟩, rfl⟩
    | tag source target =>
      rw [resolveSegments, bind_eq_ok]
      constructor
      · rintro ⟨f, hf, h⟩
        obtain ⟨more, hmore, h⟩ := bind_eq_ok.mp h
        obtain ⟨htags, rfl⟩ := ih.mp hmore
        refine ⟨fun s t hmem => ?_, ?_⟩
        · rcases List.mem_cons.mp hmem with heq | hmem
          · cases heq
            exact ⟨f, hf⟩
          · exact htags s t hmem
        · rw [List.flatMap_cons, written, hf]
          exact (Except.ok.inj h).symm
      · rintro ⟨htags, rfl⟩
        obtain ⟨f, hf⟩ := htags source target List.mem_cons_self
        refine ⟨f, hf, bind_eq_ok.mpr ⟨_, ih.mpr
          ⟨fun s t hmem => htags s t (List.mem_cons_of_mem _ hmem), rfl⟩, ?_⟩⟩
        rw [List.flatMap_cons, written, hf]
        rfl

/-- Segments that cannot be resolved have a tag without a factor. -/
theorem exists_of_resolveSegments_eq_error {xs : List Segment} {e : ε}
    (h : resolveSegments factor xs = .error e) : ∃ source target, factor source target = .error e := by
  induction xs with
  | nil => cases h
  | cons x xs ih =>
    cases x with
    | plain c =>
      rcases bind_eq_error.mp h with h | ⟨more, -, h⟩
      · exact ih h
      · cases h
    | tag source target =>
      rcases bind_eq_error.mp h with h | ⟨f, -, h⟩
      · exact ⟨source, target, h⟩
      · rcases bind_eq_error.mp h with h | ⟨more, -, h⟩
        · exact ih h
        · cases h

theorem not_mem_factorText {c : Char} {x : Float} (hblank : c ≠ ' ') (hstar : c ≠ '*')
    (hc : c ∉ Number.plain x) : c ∉ factorText x := by
  simp [factorText, hblank, hstar, hc]

theorem resolveSegments_stays {xs : List Segment} {b : Text}
    (h : resolveSegments factor xs = .ok b) :
    ('\n' ∉ xs.flatMap Segment.text → '\n' ∉ b) ∧
      (b.getLast? = some '\r' → (xs.flatMap Segment.text).getLast? = some '\r') ∧
      (b = [] → xs.flatMap Segment.text = []) := by
  obtain ⟨htags, rfl⟩ := resolveSegments_eq_ok_iff.mp h
  have hcases : ∀ s ∈ xs, written factor s = s.text ∨ ∃ x, written factor s = factorText x := by
    intro s hs
    cases s with
    | plain c => exact .inl rfl
    | tag source target =>
      obtain ⟨x, hx⟩ := htags source target hs
      exact .inr ⟨x, by rw [written, hx]⟩
  refine flatMap_stays (fun s hs hn => ?_) (fun s hs => ?_) (fun s hs hl => ?_)
  · rcases hcases s hs with h | ⟨x, h⟩ <;> rw [h]
    · exact hn
    · exact not_mem_factorText (by decide) (by decide) (Number.newline_not_mem_plain x)
  · rcases hcases s hs with h | ⟨x, h⟩ <;> rw [h]
    · cases s <;> exact List.cons_ne_nil _ _
    · exact List.cons_ne_nil _ _
  · rcases hcases s hs with h | ⟨x, h⟩
    · rwa [h] at hl
    · rw [h] at hl
      exact absurd (List.mem_of_getLast? hl)
        (not_mem_factorText (by decide) (by decide) (Number.return_not_mem_plain x))

/-- Tags are resolved on each line on its own. -/
theorem linewise_resolve (factor : Text → Text → Except ε Float) : Linewise (resolve factor) where
  nil := by rw [resolve, segments, resolveSegments]
  newline a b _ := by
    rw [resolve, segments_append_outside (by decide), resolveSegments_append, resolveSegments]
    simp only [resolve, bind_assoc, pure_bind]
  carriage a := by
    rw [resolve, segments_append_outside (by decide), resolveSegments_append, segments,
      resolveSegments, resolveSegments]
    simp only [resolve, pure_bind, ok_bind]
    cases resolveSegments factor (segments a) <;> rfl
  stays a b ha h := by
    have hstays := resolveSegments_stays h
    rw [flatMap_text_segments] at hstays
    exact ⟨hstays.1 ha, hstays.2⟩

end Resolving

end Equate.Conversion
