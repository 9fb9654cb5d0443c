import Equate.Proofs.Conversion.Tagless
import Equate.Proofs.Expr.Substitution
import Equate.Proofs.Number.Written
import Equate.Proofs.Unit.Factor

/-!
# The number that a factor is read as

A factor is written with digits and a point only, and nothing stands between it and the text
behind its tag. The number that is read at the factor therefore is the factor with what the text
goes on with: it is the factor alone exactly if no number goes on there. Another tag behind it
does no harm, because its factor comes with a blank in front.
-/
namespace Equate

namespace Expr
open Text

/-- A number in front goes on into the text: with a digit or a point, or with a complete
exponent. -/
def LeadsOn (t : Text) : Prop :=
  (∃ c rest, t = c :: rest ∧ isNumeric c = true) ∨ ∃ tail rest, t = tail ++ rest ∧ IsExponent tail

theorem leadsOn_iff {t : Text} : LeadsOn t ↔ (splitLiteral t).1 ≠ [] := by
  have hcut : (splitLiteral t).1 = t.takeWhile isNumeric ++
    (Number.splitExponent Char.isDigit (t.dropWhile isNumeric)).1 := rfl
  rw [hcut]
  constructor
  · rintro (⟨c, rest, rfl, hc⟩ | ⟨tail, rest, rfl, htail⟩)
    · rw [List.takeWhile_cons_of_pos hc, List.cons_append]
      exact List.cons_ne_nil _ _
    · obtain ⟨mark, more, rfl, hmark⟩ : ∃ mark more, tail = mark :: more ∧ (mark = 'e' ∨ mark = 'E') := by
        cases htail with
        | unsigned hmark => exact ⟨_, _, rfl, hmark⟩
        | signed hmark => exact ⟨_, _, rfl, hmark⟩
      have hnumeric : ¬ isNumeric mark = true := by
        rw [isNumeric_of_isStart (isStart_of_mark hmark)]
        exact Bool.false_ne_true
      rw [List.cons_append, List.takeWhile_cons_of_neg hnumeric, List.dropWhile_cons_of_neg hnumeric,
        List.nil_append, ← List.cons_append]
      exact splitExponent_append_ne_nil htail rest
  · intro hne
    cases hrun : t.takeWhile isNumeric with
    | cons c run =>
      refine .inl ⟨c, run ++ t.dropWhile isNumeric, ?_, ?_⟩
      · rw [← List.cons_append, ← hrun, List.takeWhile_append_dropWhile]
      · exact List.all_eq_true.mp List.all_takeWhile c (hrun ▸ List.mem_cons_self)
    | nil =>
      have hwhole : t.dropWhile isNumeric = t := by
        have h := List.takeWhile_append_dropWhile (p := isNumeric) (l := t)
        rwa [hrun] at h
      rw [hrun, hwhole, List.nil_append] at hne
      exact .inr ⟨_, _, (Number.splitExponent_append _ t).symm,
        (isExponent_splitExponent t).resolve_left hne⟩

instance (t : Text) : Decidable (LeadsOn t) := decidable_of_iff _ leadsOn_iff.symm

theorem splitLiteral_append_of_numeric {w : Text} (hw : ∀ c ∈ w, isNumeric c = true) (t : Text) :
    (splitLiteral (w ++ t)).1 = w ++ (splitLiteral t).1 := by
  rw [splitLiteral, splitLiteral, List.takeWhile_append_of_pos hw, List.dropWhile_append_of_pos hw]
  exact List.append_assoc ..

/-- A text whose first character is part of no number. -/
def EndsNumber (rest : Text) : Prop :=
  ∀ c more, rest = c :: more → c ≠ '.' ∧ Number.Stops Char.isDigit c

theorem endsNumber_cons {c : Char} (h : c ≠ '.' ∧ Number.Stops Char.isDigit c) (rest : Text) :
    EndsNumber (c :: rest) := by
  rintro d more ⟨⟩
  exact h

theorem splitLiteral_append_of_endsNumber {rest : Text} (h : EndsNumber rest) (t : Text) :
    (splitLiteral (t ++ rest)).1 = (splitLiteral t).1 := by
  have hnumeric : ∀ c more, rest = c :: more → isNumeric c = false := by
    intro c more heq
    obtain ⟨hpoint, hdigit, -⟩ := h c more heq
    simp [isNumeric, hdigit, hpoint]
  rw [splitLiteral, splitLiteral, takeWhile_append_of_stop hnumeric, dropWhile_append_of_stop hnumeric,
    Number.splitExponent_append_of_stop fun c more heq => (h c more heq).2]

end Expr

namespace Conversion
open Equate.Expr Success

theorem isNumeric_of_mem_plain {x : Float} (hfinite : x.isFinite = true)
    (hsign : Number.isNegative x = false) : ∀ c ∈ Number.plain x, isNumeric c = true := by
  rw [Number.plain_eq hfinite, hsign]
  exact isNumeric_of_mem_digitsText

section
variable {ε : Type} {factor : Text → Text → Except ε Float}

/-- The texts before and after the tags are resolved go together up to the first tag, where a
number ends in both. -/
theorem exists_common_append {xs : List Segment}
    (h : ∀ source target, .tag source target ∈ xs → ∃ x, factor source target = .ok x) :
    ∃ common a b, xs.flatMap (written factor) = common ++ a ∧
      xs.flatMap Segment.text = common ++ b ∧ EndsNumber a ∧ EndsNumber b := by
  induction xs with
  | nil => exact ⟨[], [], [], rfl, rfl, nofun, nofun⟩
  | cons x xs ih =>
    cases x with
    | plain c =>
      obtain ⟨common, a, b, ha, hb, hends⟩ :=
        ih fun source target hmem => h source target (List.mem_cons_of_mem _ hmem)
      refine ⟨c :: common, a, b, ?_, ?_, hends⟩
      · rw [List.flatMap_cons, ha]
        rfl
      · rw [List.flatMap_cons, hb]
        rfl
    | tag source target =>
      obtain ⟨f, hf⟩ := h source target List.mem_cons_self
      have hwritten : (Segment.tag source target :: xs).flatMap (written factor) =
          factorText f ++ xs.flatMap (written factor) := by
        rw [List.flatMap_cons, written, hf]
      exact ⟨[], _, _, hwritten, rfl, endsNumber_cons (by decide) _, endsNumber_cons (by decide) _⟩

theorem splitLiteral_flatMap_written {xs : List Segment}
    (h : ∀ source target, .tag source target ∈ xs → ∃ x, factor source target = .ok x) :
    (splitLiteral (xs.flatMap (written factor))).1 = (splitLiteral (xs.flatMap Segment.text)).1 := by
  obtain ⟨common, a, b, ha, hb, hends, hends'⟩ := exists_common_append h
  rw [ha, hb, splitLiteral_append_of_endsNumber hends, splitLiteral_append_of_endsNumber hends']

end

/-- The number that is read at the factor of a tag, by a table that has been loaded, is the factor
with the number that the text behind the tag starts with. So it is the factor alone exactly if no
number goes on into that text. -/
theorem splitLiteral_factor {configuration : Json.Value} {units : Unit.Table} {text out : Text}
    {before after : List Segment} {source target : Text}
    (hload : Unit.Table.load configuration = .ok units)
    (hresolve : resolve units.conversion text = .ok out)
    (htag : segments text = before ++ .tag source target :: after) :
    ∃ factor behind, units.conversion source target = .ok factor ∧
      resolve units.conversion (after.flatMap Segment.text) = .ok behind ∧
      out = before.flatMap (written units.conversion) ++ (factorText factor ++ behind) ∧
      (splitLiteral (Number.plain factor ++ behind)).1 =
        Number.plain factor ++ (splitLiteral (after.flatMap Segment.text)).1 ∧
      ((splitLiteral (Number.plain factor ++ behind)).1 = Number.plain factor ↔
        ¬ LeadsOn (after.flatMap Segment.text)) := by
  obtain ⟨htags, hout⟩ := resolveSegments_eq_ok_iff.mp hresolve
  rw [htag] at htags hout
  obtain ⟨factor, hfactor⟩ := htags source target (List.mem_append_right _ List.mem_cons_self)
  have hafter : ∀ s t, .tag s t ∈ after → ∃ x, units.conversion s t = .ok x := fun s t hmem =>
    htags s t (List.mem_append_right _ (List.mem_cons_of_mem _ hmem))
  obtain ⟨hfinite, hsign⟩ := Unit.isFinite_of_conversion hload hfactor
  have hliteral : (splitLiteral (Number.plain factor ++ after.flatMap (written units.conversion))).1 =
      Number.plain factor ++ (splitLiteral (after.flatMap Segment.text)).1 := by
    rw [splitLiteral_append_of_numeric (isNumeric_of_mem_plain hfinite hsign),
      splitLiteral_flatMap_written hafter]
  refine ⟨factor, after.flatMap (written units.conversion), hfactor, ?_, ?_, hliteral, ?_⟩
  · have hcut : segments text = (before ++ [.tag source target]) ++ after := by
      rw [htag, List.append_assoc]
      rfl
    rw [resolve, segments_flatMap_text hcut]
    exact resolveSegments_eq_ok_iff.mpr ⟨hafter, rfl⟩
  · rw [hout, List.flatMap_append, List.flatMap_cons, written, hfactor]
  · rw [hliteral, leadsOn_iff, not_not, List.append_right_eq_self]

/-- A configuration with two lengths and nothing else. -/
def lengths : Json.Value :=
  .object [("LENGTH", .object [("m", .integer 1), ("km", .float 0.001)]), ("MASS", .object []),
    ("TIME", .object []), ("FORCE", .object []), ("PRESSURE", .object [])]

theorem exists_load_lengths :
    ∃ units, Unit.Table.load lengths = .ok units ∧ units.conversion "km" "m" = .ok 1000 := by
  have hload : ((Unit.Table.load lengths).toOption.bind fun units =>
      (units.conversion "km" "m").toOption) = some 1000 := by decide +kernel
  obtain ⟨units, hunits, hfactor⟩ := Option.bind_eq_some_iff.mp hload
  exact ⟨units, eq_ok_of_toOption hunits, eq_ok_of_toOption hfactor⟩

/-- With a blank behind its tag a factor is read alone. -/
theorem splitLiteral_factor_apart :
    ∃ units behind, Unit.Table.load lengths = .ok units ∧
      resolve units.conversion "[km->m] 5" = .ok (factorText 1000 ++ behind) ∧
      (splitLiteral (Number.plain 1000 ++ behind)).1 = Number.plain 1000 := by
  obtain ⟨units, hload, hfactor⟩ := exists_load_lengths
  have htag : segments "[km->m] 5" = [] ++ .tag "km" "m" :: [.plain ' ', .plain '5'] := by
    decide +kernel
  have hresolve : resolve units.conversion "[km->m] 5" = .ok (factorText 1000 ++ " 5") := by
    rw [resolve, htag]
    simp only [List.nil_append, resolveSegments, hfactor]
    rfl
  obtain ⟨factor, behind, hfactor', -, hout, -, halone⟩ := splitLiteral_factor hload hresolve htag
  cases hfactor.symm.trans hfactor'
  rw [hout] at hresolve
  exact ⟨units, behind, hload, hresolve, halone.mpr (by decide)⟩

/-- A digit directly behind a tag becomes part of the factor. -/
theorem splitLiteral_factor_merged :
    ∃ units, Unit.Table.load lengths = .ok units ∧ units.conversion "km" "m" = .ok 1000 ∧
      resolve units.conversion "[km->m]5" = .ok (" * " ++ (Number.plain 1000 ++ "5")) ∧
      (splitLiteral (Number.plain 1000 ++ "5")).1 ≠ Number.plain 1000 := by
  obtain ⟨units, hload, hfactor⟩ := exists_load_lengths
  have htag : segments "[km->m]5" = [.tag "km" "m", .plain '5'] := by decide +kernel
  refine ⟨units, hload, hfactor, ?_, by decide +kernel⟩
  rw [resolve, htag]
  simp only [resolveSegments, hfactor]
  rfl

end Conversion
end Equate
