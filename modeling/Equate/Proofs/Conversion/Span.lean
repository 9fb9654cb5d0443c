import Equate.Proofs.Conversion.Literal
import Equate.Proofs.Unit.Agreement

/-!
# The tags of a text and where they stand

The tags of a text are found from left to right, and a bracket that opens none is passed over
alone. That misses no tag: a bracket is no unit character, so a tag that stands somewhere in a text
is read at its own bracket whatever has been read in front of it. With their tags resolved, texts
keep everything between the tags. All they gain is multiplications by numbers in digits, for the factors
of a loaded table are positive and finite.
-/
namespace Equate.Conversion
open Text Success

/-- The characters of a tag. -/
def Tag.text (x : Tag) : Text := (Segment.tag x.source x.target).text

/-- A tag stands in a text: two symbols, neither of them empty and both of unit characters only,
with the arrow between them and the brackets around them, on the line and at the bytes it says. -/
def Tag.StandsIn (x : Tag) (t : Text) : Prop :=
  ∃ before after, t = before ++ (('[' :: x.source ++ "->" ++ x.target ++ "]") ++ after) ∧
    x.source ≠ [] ∧ x.target ≠ [] ∧
    (∀ c ∈ x.source, isUnitChar c) ∧ (∀ c ∈ x.target, isUnitChar c) ∧
    x.line = before.count '\n' + 1 ∧ x.start = byteCount before ∧
    x.stop = x.start + byteCount x.text

theorem segments_tag_append {source target : Text} (hsource : source ≠ []) (htarget : target ≠ [])
    (hs : ∀ c ∈ source, isUnitChar c) (ht : ∀ c ∈ target, isUnitChar c) (after : Text) :
    segments ((Segment.tag source target).text ++ after) = .tag source target :: segments after := by
  have htag : tag? (source ++ "->" ++ target ++ "]" ++ after) = some (source, target, after) :=
    tag?_eq_some_iff.mpr ⟨hsource, htarget, hs, ht, by simp⟩
  have hcut : (Segment.tag source target).text ++ after =
      '[' :: (source ++ "->" ++ target ++ "]" ++ after) := rfl
  rw [hcut, segments, if_pos rfl]
  split
  · next heq =>
    cases htag.symm.trans heq
    rfl
  · next heq => cases htag.symm.trans heq

/-! ## Which tags are listed -/

theorem newline_not_mem_tag {t source target : Text} (h : .tag source target ∈ segments t) :
    '\n' ∉ (Segment.tag source target).text :=
  (isTag_of_mem_segments h).not_mem (by decide)

/-- Segments of whose tags none reaches over the end of a line. -/
def OneLine (xs : List Segment) : Prop :=
  ∀ source target, .tag source target ∈ xs → '\n' ∉ (Segment.tag source target).text

theorem OneLine.tail {x : Segment} {xs : List Segment} (h : OneLine (x :: xs)) : OneLine xs :=
  fun source target hmem => h source target (List.mem_cons_of_mem x hmem)

theorem lineBehind_plain (c : Char) (line : Nat) :
    (if c = '\n' then line + 1 else line) = line + (Segment.plain c).text.count '\n' := by
  rw [Segment.text, List.count_singleton]
  split <;> simp [*]

theorem OneLine.count_tag {source target : Text} {xs : List Segment}
    (h : OneLine (.tag source target :: xs)) : (Segment.tag source target).text.count '\n' = 0 :=
  List.count_eq_zero.mpr (h source target List.mem_cons_self)

/-- Behind segments the lines and the bytes are counted on from where they end. -/
theorem locate_append {xs : List Segment} (h : OneLine xs) (ys : List Segment) (line offset : Nat) :
    locate line offset (xs ++ ys) = locate line offset xs ++
      locate (line + (xs.flatMap Segment.text).count '\n')
        (offset + byteCount (xs.flatMap Segment.text)) ys := by
  induction xs generalizing line offset with
  | nil => rfl
  | cons x xs ih =>
    rw [List.cons_append, List.flatMap_cons, List.count_append, byteCount_append, ← Nat.add_assoc,
      ← Nat.add_assoc]
    cases x with
    | plain c =>
      rw [locate, locate, ih h.tail, ← lineBehind_plain]
      rfl
    | tag source target =>
      rw [locate, locate, ih h.tail, h.count_tag]
      rfl

theorem exists_of_mem_locate {xs : List Segment} (h : OneLine xs) {line offset : Nat} {x : Tag}
    (hx : x ∈ locate line offset xs) :
    ∃ before after, xs = before ++ .tag x.source x.target :: after ∧
      x.line = line + (before.flatMap Segment.text).count '\n' ∧
      x.start = offset + byteCount (before.flatMap Segment.text) ∧
      x.stop = x.start + byteCount x.text := by
  induction xs generalizing line offset with
  | nil => exact absurd hx List.not_mem_nil
  | cons y ys ih =>
    cases y with
    | plain c =>
      obtain ⟨before, after, rfl, hline, hstart, hstop⟩ := ih h.tail hx
      refine ⟨.plain c :: before, after, rfl, ?_, ?_, hstop⟩
      · rw [hline, lineBehind_plain, List.flatMap_cons, List.count_append, Nat.add_assoc]
      · rw [hstart, List.flatMap_cons, byteCount_append, ← Nat.add_assoc]
        rfl
    | tag source target =>
      rcases List.mem_cons.mp hx with rfl | hx
      · exact ⟨[], ys, rfl, rfl, rfl, rfl⟩
      · obtain ⟨before, after, rfl, hline, hstart, hstop⟩ := ih h.tail hx
        refine ⟨.tag source target :: before, after, rfl, ?_, ?_, hstop⟩
        · rw [hline, List.flatMap_cons, List.count_append, h.count_tag, Nat.zero_add]
        · rw [hstart, List.flatMap_cons, byteCount_append, ← Nat.add_assoc]

/-- The tags that are listed are those that stand in the text. -/
theorem mem_tags_iff {t : Text} {x : Tag} : x ∈ tags t ↔ x.StandsIn t := by
  constructor
  · intro hx
    obtain ⟨before, after, h, hline, hstart, hstop⟩ :=
      exists_of_mem_locate (fun _ _ => newline_not_mem_tag) hx
    obtain ⟨hsource, htarget, hs, ht⟩ :=
      symbols_of_mem_segments (h ▸ List.mem_append_right before List.mem_cons_self)
    refine ⟨before.flatMap Segment.text, after.flatMap Segment.text, ?_, hsource, htarget, hs, ht,
      by rw [hline, Nat.add_comm], by rw [hstart, Nat.zero_add], hstop⟩
    rw [← flatMap_text_segments t, h, List.flatMap_append, List.flatMap_cons]
    rfl
  · rintro ⟨before, after, rfl, hsource, htarget, hs, ht, hline, hstart, hstop⟩
    have hcut : segments (before ++ ((Segment.tag x.source x.target).text ++ after)) =
        segments before ++ .tag x.source x.target :: segments after := by
      rw [← segments_tag_append hsource htarget hs ht]
      exact segments_append_of_divides (by decide) before _
    have hx : x = ⟨1 + before.count '\n', byteCount before,
        byteCount before + byteCount x.text, x.source, x.target⟩ := by
      rw [Nat.add_comm, ← hline, ← hstart, ← hstop]
    rw [tags, show '[' :: x.source ++ "->" ++ x.target ++ "]" =
      (Segment.tag x.source x.target).text from rfl, hcut,
      locate_append (fun _ _ => newline_not_mem_tag), flatMap_text_segments, locate, Nat.zero_add]
    refine List.mem_append_right _ (List.mem_cons.mpr (.inl hx))

theorem start_lt_stop_of_mem_locate {xs : List Segment} {line offset : Nat} {x : Tag}
    (h : x ∈ locate line offset xs) : offset ≤ x.start ∧ x.start < x.stop := by
  induction xs generalizing line offset with
  | nil => exact absurd h List.not_mem_nil
  | cons y ys ih =>
    cases y with
    | plain c =>
      obtain ⟨hle, hlt⟩ := ih h
      exact ⟨Nat.le_of_add_right_le hle, hlt⟩
    | tag source target =>
      have hpos : 0 < byteCount (Segment.tag source target).text := by
        rw [Segment.text, List.cons_append, List.cons_append, List.cons_append, byteCount_cons]
        exact Nat.add_pos_left (Char.utf8Size_pos _) _
      rcases List.mem_cons.mp h with rfl | h
      · exact ⟨Nat.le_refl _, Nat.lt_add_of_pos_right hpos⟩
      · obtain ⟨hle, hlt⟩ := ih h
        exact ⟨Nat.le_of_add_right_le hle, hlt⟩

theorem pairwise_locate (xs : List Segment) (line offset : Nat) :
    (locate line offset xs).Pairwise fun x y => x.stop ≤ y.start := by
  induction xs generalizing line offset with
  | nil => exact .nil
  | cons y ys ih =>
    cases y with
    | plain c => exact ih _ _
    | tag source target =>
      exact .cons (fun x hx => (start_lt_stop_of_mem_locate hx).1) (ih _ _)

/-! ## What becomes of the text -/

/-- A text up to the end of its next tag, with the factor of that tag. -/
structure Stretch where
  plain : Text
  tag : Tag
  factor : Float

namespace Stretch

/-- The stretch as it is written. -/
def source (s : Stretch) : Text := s.plain ++ s.tag.text

/-- The stretch with its tag resolved. -/
def resolved (s : Stretch) : Text := s.plain ++ factorText s.factor

end Stretch

/-- A text and what it becomes are made of the same plain texts, between the tags of the one and
the factors of the other. -/
structure Keeps {ε : Type} (factor : Text → Text → Except ε Float) (t out : Text)
    (ss : List Stretch) (last : Text) : Prop where
  text : t = ss.flatMap Stretch.source ++ last
  resolved : out = ss.flatMap Stretch.resolved ++ last
  factor : ∀ s ∈ ss, factor s.tag.source s.tag.target = .ok s.factor
  tags : ss.map Stretch.tag = tags t
  start : ∀ before s after, ss = before ++ s :: after →
    s.tag.start = byteCount (before.flatMap Stretch.source ++ s.plain)

section
variable {ε : Type} {factor : Text → Text → Except ε Float}

/-- Where the tags of stretches start is counted on behind the first one. -/
theorem start_of_cons {first : Stretch} {ss : List Stretch} {base : Nat}
    (hfirst : first.tag.start = base + byteCount first.plain)
    (h : ∀ before s after, ss = before ++ s :: after → s.tag.start =
      base + byteCount first.source + byteCount (before.flatMap Stretch.source ++ s.plain)) :
    ∀ before s after, first :: ss = before ++ s :: after →
      s.tag.start = base + byteCount (before.flatMap Stretch.source ++ s.plain) := by
  intro before s after heq
  cases before with
  | nil =>
    obtain ⟨rfl, -⟩ := List.cons.inj heq
    exact hfirst
  | cons s' before =>
    obtain ⟨rfl, hrest⟩ := List.cons.inj heq
    rw [h before s after hrest, List.flatMap_cons, List.append_assoc, byteCount_append first.source,
      Nat.add_assoc]

/-- The plain characters in front of a tag are collected until the tag comes. -/
theorem exists_stretches {xs : List Segment} {b : Text} (h : resolveSegments factor xs = .ok b)
    (front : Text) (line base : Nat) : ∃ ss last,
      front ++ xs.flatMap Segment.text = ss.flatMap Stretch.source ++ last ∧
      front ++ b = ss.flatMap Stretch.resolved ++ last ∧
      (∀ s ∈ ss, factor s.tag.source s.tag.target = .ok s.factor) ∧
      ss.map Stretch.tag = locate line (base + byteCount front) xs ∧
      ∀ before s after, ss = before ++ s :: after →
        s.tag.start = base + byteCount (before.flatMap Stretch.source ++ s.plain) := by
  induction xs generalizing b front line base with
  | nil =>
    obtain rfl := Except.ok.inj h
    exact ⟨[], front, List.append_nil _, List.append_nil _, nofun, rfl,
      fun before s after heq => absurd heq.symm (by simp)⟩
  | cons x xs ih =>
    cases x with
    | plain c =>
      obtain ⟨more, hmore, hb⟩ := bind_eq_ok.mp h
      obtain rfl := Except.ok.inj hb
      obtain ⟨ss, last, htext, hout, hfactor, htags, hstart⟩ :=
        ih hmore (front ++ [c]) (if c = '\n' then line + 1 else line) base
      refine ⟨ss, last, ?_, ?_, hfactor, ?_, hstart⟩
      · rw [← htext, List.flatMap_cons, Segment.text, List.append_assoc]
      · rw [← hout, List.append_assoc, List.singleton_append]
      · rw [htags, locate, byteCount_append, Nat.add_assoc]
        rfl
    | tag source target =>
      obtain ⟨f, hf, hrest⟩ := bind_eq_ok.mp h
      obtain ⟨more, hmore, hb⟩ := bind_eq_ok.mp hrest
      obtain rfl := Except.ok.inj hb
      let tag : Tag := ⟨line, base + byteCount front,
        base + byteCount front + byteCount (Segment.tag source target).text, source, target⟩
      obtain ⟨ss, last, htext, hout, hfactor, htags, hstart⟩ := ih hmore [] line tag.stop
      refine ⟨⟨front, tag, f⟩ :: ss, last, ?_, ?_, ?_, ?_, ?_⟩
      · rw [List.flatMap_cons, List.flatMap_cons, List.append_assoc, ← htext, Stretch.source,
          List.append_assoc]
        rfl
      · rw [List.flatMap_cons, List.append_assoc, ← hout, Stretch.resolved, List.append_assoc]
        rfl
      · exact List.forall_mem_cons.mpr ⟨hf, hfactor⟩
      · rw [List.map_cons, htags]
        rfl
      · have hstop : tag.stop = base + byteCount (Stretch.source ⟨front, tag, f⟩) := by
          rw [Stretch.source, byteCount_append, ← Nat.add_assoc]
          rfl
        exact start_of_cons rfl (hstop ▸ hstart)

/-- Resolving keeps what stands between the tags. -/
theorem exists_keeps {t out : Text} (h : resolve factor t = .ok out) :
    ∃ ss last, Keeps factor t out ss last := by
  obtain ⟨ss, last, htext, hout, hfactor, htags, hstart⟩ := exists_stretches h [] 1 0
  rw [List.nil_append, flatMap_text_segments] at htext
  exact ⟨ss, last, htext, hout, hfactor, htags, fun before s after heq => by
    rw [hstart before s after heq, Nat.zero_add]⟩

/-- No tag and no factor has a line end. -/
theorem Keeps.count_newline {t out last : Text} {ss : List Stretch}
    (h : Keeps factor t out ss last) : out.count '\n' = t.count '\n' := by
  have htag : ∀ s ∈ ss, s.tag.text.count '\n' = 0 := by
    intro s hs
    have hmem : s.tag ∈ Conversion.tags t := h.tags ▸ List.mem_map_of_mem hs
    obtain ⟨-, -, -, hsource, htarget, hsu, htu, -⟩ := mem_tags_iff.mp hmem
    have htext : IsTag s.tag.text := ⟨_, _, hsource, htarget, hsu, htu, rfl⟩
    exact List.count_eq_zero.mpr (htext.not_mem (by decide))
  have hfactor : ∀ x : Float, (factorText x).count '\n' = 0 := fun x =>
    List.count_eq_zero.mpr
      (not_mem_factorText (by decide) (by decide) (Number.newline_not_mem_plain x))
  rw [h.text, h.resolved, List.count_append, List.count_append, List.count_flatMap,
    List.count_flatMap]
  refine congrArg (List.sum · + last.count '\n') (List.map_congr_left fun s hs => ?_)
  simp only [Function.comp_apply, Stretch.resolved, Stretch.source, List.count_append, htag s hs,
    hfactor]

end

/-- The tags of a text are listed in order and apart, and they are all that stand in it. A text whose
tags have been resolved has kept what stood between them and its line ends, has no tag any more and
stays as it is when it is resolved again. -/
theorem tags_resolve_exact (units : Unit.Table) (t : Text) :
    (∀ x, x ∈ tags t ↔ x.StandsIn t) ∧
      (∀ x ∈ tags t, x.start < x.stop) ∧ (tags t).Pairwise (fun x y => x.stop ≤ y.start) ∧
      ∀ out, resolve units.conversion t = .ok out →
        (∃ ss last, Keeps units.conversion t out ss last) ∧ out.count '\n' = t.count '\n' ∧
          (∀ x : Tag, ¬ x.StandsIn out) ∧ tags out = [] ∧
          resolve units.conversion out = .ok out := by
  refine ⟨fun x => mem_tags_iff, fun x hx => (start_lt_stop_of_mem_locate hx).2,
    pairwise_locate _ _ _, fun out hout => ?_⟩
  obtain ⟨ss, last, hkeeps⟩ := exists_keeps hout
  have hnone : ¬ HasTag out := not_hasTag_of_resolve hout
  have htags : tags out = [] := tags_eq_nil_iff.mpr hnone
  refine ⟨⟨ss, last, hkeeps⟩, hkeeps.count_newline, fun x hx => ?_, htags,
    resolve_of_not_hasTag hnone⟩
  exact List.not_mem_nil (htags ▸ mem_tags_iff.mpr hx)

/-- The inner one of two brackets opens the tag, and brackets without an arrow open none. -/
theorem tags_resolve_exact_nested :
    ∃ units out, Unit.Table.load lengths = .ok units ∧
      tags "[[km->m]\n[km>m]" = [⟨1, 1, 8, "km", "m"⟩] ∧
      resolve units.conversion "[[km->m]\n[km>m]" = .ok out ∧
      out = '[' :: (factorText 1000 ++ "\n[km>m]") ∧ out.count '\n' = 1 ∧ tags out = [] ∧
      resolve units.conversion out = .ok out := by
  obtain ⟨units, hload, hfactor⟩ := exists_load_lengths
  have hsegments : segments "[[km->m]\n[km>m]" =
      .plain '[' :: .tag "km" "m" :: ("\n[km>m]" : Text).map .plain := by decide +kernel
  have hresolve : resolve units.conversion "[[km->m]\n[km>m]" =
      .ok ('[' :: (factorText 1000 ++ "\n[km>m]")) := by
    rw [resolve, hsegments, resolveSegments, resolveSegments, resolveSegments_map_plain, hfactor]
    rfl
  obtain ⟨-, hcount, -, htags, hagain⟩ :=
    (tags_resolve_exact units "[[km->m]\n[km>m]").2.2.2 _ hresolve
  exact ⟨units, _, hload, by decide +kernel, hresolve, rfl, hcount.trans (by decide), htags, hagain⟩

/-! ## What factors add -/

theorem isPositional_plain {x : Float} (h : Number.IsPositive x) : Number.IsPositional (Number.plain x) := by
  obtain ⟨hsign, -⟩ := Number.isPositive_iff.mp h
  rw [Number.plain_eq h.1, hsign]
  exact Number.isPositional_digitsText x

/-- A loaded table has positive finite conversion factors only. What a text gains when its tags are
resolved is, for each tag, a multiplication sign and a number in digits with at most one point. -/
theorem multipliers_of_load {configuration : Json.Value} {units : Unit.Table}
    (hload : Unit.Table.load configuration = .ok units) :
    (∀ source target factor, units.conversion source target = .ok factor → Number.IsPositive factor) ∧
    ∀ text out, resolve units.conversion text = .ok out →
      ∃ ss last, Keeps units.conversion text out ss last ∧
        ∀ s ∈ ss, Number.IsPositive s.factor ∧
          ∃ digits, Number.IsPositional digits ∧ s.resolved = s.plain ++ (" * " ++ digits) := by
  have hpositive : ∀ source target factor, units.conversion source target = .ok factor →
      Number.IsPositive factor := fun _ _ _ => Unit.Table.isPositive_of_conversion hload
  refine ⟨hpositive, fun text out hresolve => ?_⟩
  obtain ⟨ss, last, hkeeps⟩ := exists_keeps hresolve
  refine ⟨ss, last, hkeeps, fun s hs => ?_⟩
  have hfactor := hpositive _ _ _ (hkeeps.factor s hs)
  exact ⟨hfactor, _, isPositional_plain hfactor, rfl⟩

theorem multipliers_of_load_lengths :
    ∃ units out ss last, Unit.Table.load lengths = .ok units ∧
      resolve units.conversion "[km->m]" = .ok out ∧ Keeps units.conversion "[km->m]" out ss last ∧
      ∀ s ∈ ss, Number.IsPositive s.factor := by
  obtain ⟨units, hload, hfactor⟩ := exists_load_lengths
  have htag : segments "[km->m]" = [.tag "km" "m"] := by decide +kernel
  have hresolve : resolve units.conversion "[km->m]" = .ok (factorText 1000) := by
    rw [resolve, htag]
    simp only [resolveSegments, hfactor]
    rfl
  obtain ⟨ss, last, hkeeps, hpositive⟩ := (multipliers_of_load hload).2 _ _ hresolve
  exact ⟨units, _, ss, last, hload, hresolve, hkeeps, fun s hs => (hpositive s hs).1⟩

end Equate.Conversion
