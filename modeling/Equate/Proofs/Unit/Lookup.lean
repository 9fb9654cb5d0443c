import Equate.Proofs.Unit.Factor

/-!
# Looking up conversions

A category is filled by insertions alone, so its index gives the place of each of its symbols. A
conversion is therefore proposed by the categories that hold both symbols. The first proposal is
compared with itself too, and passes if it is positive and finite: then a conversion is ambiguous
only if another proposal is not near to it. Quotients of factors can be zero, infinite or
undefined, and then even a single proposal is refused.
-/
namespace Equate.Unit
open Success

/-! ## The index of a category -/

namespace Category

/-- The index gives the place of each symbol, and of nothing else. -/
def Indexed (c : Category) : Prop :=
  ∀ (symbol : Text) (place : Nat),
    c.index[symbol]? = some place ↔ ∃ factor, c.units[place]? = some (symbol, factor)

theorem indexed_empty (name : Text) : (empty name).Indexed := by
  intro symbol place
  simp [empty]

/-- A new factor in an old place leaves the symbols where they are. -/
theorem Indexed.modify {c : Category} (h : c.Indexed) (old : Nat) (factor : Float) :
    Indexed { c with units := c.units.modify old fun (s, _) => (s, factor) } := by
  intro symbol place
  show c.index[symbol]? = some place ↔ _
  rw [h symbol place, Array.getElem?_modify]
  split
  · cases c.units[place]? with
    | none => simp
    | some u => simp [Prod.ext_iff]
  · rfl

/-- A new symbol gets the place behind all others. -/
theorem Indexed.push {c : Category} (h : c.Indexed) {symbol : Text} (hnew : c.index[symbol]? = none)
    (factor : Float) :
    Indexed { c with
      units := c.units.push (symbol, factor), index := c.index.insert symbol c.units.size } := by
  intro s place
  show (c.index.insert symbol c.units.size)[s]? = some place ↔ _
  rw [Array.getElem?_push, Std.ExtTreeMap.getElem?_insert]
  by_cases hs : symbol = s
  · subst hs
    rw [if_pos Std.ReflCmp.compare_self, Option.some.injEq]
    split
    · next hplace => exact iff_of_true hplace.symm ⟨factor, rfl⟩
    · next hplace =>
      refine iff_of_false (fun heq => hplace heq.symm) fun hunit => ?_
      rw [← h symbol place, hnew] at hunit
      cases hunit
  · rw [if_neg fun heq => hs (Std.LawfulEqCmp.eq_of_compare heq), h s place]
    split
    · next hplace =>
      subst hplace
      refine iff_of_false ?_ ?_
      · simp
      · rintro ⟨x, hx⟩
        exact hs (Prod.mk.inj (Option.some.inj hx)).1
    · rfl

theorem Indexed.insert {c : Category} (h : c.Indexed) (symbol : Text) (factor : Float) :
    (c.insert symbol factor).Indexed := by
  unfold Category.insert
  split
  · next old _ => exact h.modify old factor
  · next hnew => exact h.push hnew factor

theorem Indexed.isSome_factor? {c : Category} (h : c.Indexed) (symbol : Text) :
    (c.factor? symbol).isSome = c.contains symbol := by
  rw [contains, ← Std.ExtTreeMap.isSome_getElem?_eq_contains, factor?]
  cases hplace : c.index[symbol]? with
  | none => rfl
  | some place =>
    obtain ⟨factor, hfactor⟩ := (h symbol place).mp hplace
    simp [hfactor]

theorem Indexed.insertAll {c : Category} (h : c.Indexed) (entries : List (Text × Float)) :
    (c.insertAll entries).Indexed := by
  unfold Category.insertAll
  induction entries generalizing c with
  | nil => exact h
  | cons e entries ih => exact ih (h.insert e.1 e.2)

theorem Filled.indexed {P : Float → Prop} {c : Category} (h : c.Filled P) : c.Indexed := by
  obtain ⟨name, entries, -, rfl⟩ := h
  exact (indexed_empty name).insertAll entries

/-- The factor that a category gives for two of its symbols. -/
def quotient? (c : Category) (source target : Text) : Option Float := do
  let perSource ← c.factor? source
  let perTarget ← c.factor? target
  return perTarget / perSource

theorem proposal?_eq (c : Category) (source target : Text) :
    proposal? source target c = (c.quotient? source target).map fun q => (c.name, q) := by
  unfold proposal? quotient?
  cases c.factor? source with
  | none => rfl
  | some x => cases c.factor? target <;> rfl

/-- The category holds both symbols. -/
def holds (source target : Text) (c : Category) : Bool := c.contains source && c.contains target

theorem Indexed.isSome_quotient? {c : Category} (h : c.Indexed) (source target : Text) :
    (c.quotient? source target).isSome = c.holds source target := by
  rw [holds, ← h.isSome_factor?, ← h.isSome_factor?, quotient?]
  cases c.factor? source with
  | none => rfl
  | some x => cases c.factor? target <;> rfl

end Category

/-! ## Proposals -/

/-- The categories that hold two symbols. -/
def Table.holding (t : Table) (source target : Text) : List Category :=
  t.categories.filter (Category.holds source target)

section
variable {cs : List Category} (hcs : ∀ c ∈ cs, c.Indexed) (source target : Text)
include hcs

/-- The categories that propose a factor are those that hold both symbols. -/
theorem filterMap_proposal?_filter :
    (cs.filter (Category.holds source target)).filterMap (proposal? source target) =
      cs.filterMap (proposal? source target) := by
  rw [List.filterMap_filter]
  refine List.filterMap_congr fun c hc => ?_
  split
  · rfl
  · next hnone =>
    rw [← (hcs c hc).isSome_quotient?, Option.not_isSome_iff_eq_none] at hnone
    rw [Category.proposal?_eq, hnone, Option.map_none]

end

theorem map_fst_proposals {source target : Text} {cs : List Category}
    (h : ∀ c ∈ cs, (c.quotient? source target).isSome = true) :
    (cs.filterMap (proposal? source target)).map Prod.fst = cs.map Category.name := by
  rw [List.map_filterMap, ← List.filterMap_eq_map]
  refine List.filterMap_congr fun c hc => ?_
  obtain ⟨q, hq⟩ := Option.isSome_iff_exists.mp (h c hc)
  rw [Category.proposal?_eq, hq]
  rfl

theorem agrees_self_iff {q : Float} (hq : Number.isNegative q = false) :
    agrees q q = true ↔ q.isFinite = true ∧ 0 < q := by
  rw [agrees, decide_eq_true_eq]
  exact Number.abs_sub_self_div_le_iff (by decide) hq

/-- All quotients are near to a number. -/
def AllAgree (source target : Text) (q : Float) (cs : List Category) : Prop :=
  ∀ c ∈ cs, ∀ r, c.quotient? source target = some r → agrees q r = true

theorem all_agrees_proposals (source target : Text) (q : Float) (cs : List Category) :
    (cs.filterMap (proposal? source target)).all (fun (_, other) => agrees q other) = true ↔
      AllAgree source target q cs := by
  rw [List.all_eq_true]
  constructor
  · intro h c hc r hr
    refine h (c.name, r) (List.mem_filterMap.mpr ⟨c, hc, ?_⟩)
    rw [Category.proposal?_eq, hr, Option.map_some]
  · intro h x hx
    obtain ⟨c, hc, hproposal⟩ := List.mem_filterMap.mp hx
    rw [Category.proposal?_eq] at hproposal
    obtain ⟨r, hr, rfl⟩ := Option.map_eq_some_iff.mp hproposal
    exact h c hc r hr

/-- With a first proposal the lookup is one comparison with all of them. -/
theorem conversion_of_holding {t : Table} (ht : ∀ c ∈ t.categories, c.Indexed) {source target : Text}
    {c : Category} {rest : List Category} (h : t.holding source target = c :: rest) :
    ∃ q, c.quotient? source target = some q ∧
      (AllAgree source target q (c :: rest) → t.conversion source target = .ok q) ∧
      (¬AllAgree source target q (c :: rest) → t.conversion source target =
        .error (.ambiguousUnit source target ((c :: rest).map Category.name))) := by
  have hsome : ∀ d ∈ c :: rest, (d.quotient? source target).isSome = true := by
    intro d hd
    obtain ⟨hmem, hholds⟩ := List.mem_filter.mp (h ▸ hd)
    rw [(ht d hmem).isSome_quotient?, hholds]
  obtain ⟨q, hq⟩ := Option.isSome_iff_exists.mp (hsome c List.mem_cons_self)
  have hproposals : t.categories.filterMap (proposal? source target) =
      (c :: rest).filterMap (proposal? source target) := by
    rw [← filterMap_proposal?_filter ht, ← Table.holding, h]
  have hfirst : (c :: rest).filterMap (proposal? source target) =
      (c.name, q) :: rest.filterMap (proposal? source target) :=
    List.filterMap_cons_some (by rw [Category.proposal?_eq, hq, Option.map_some])
  have hall := all_agrees_proposals source target q (c :: rest)
  have hnames := map_fst_proposals hsome
  rw [hfirst] at hproposals hall hnames
  refine ⟨q, hq, fun hagree => ?_, fun hdiffer => ?_⟩
  · simp only [Table.conversion, hproposals]
    rw [if_pos (hall.mpr hagree)]
  · simp only [Table.conversion, hproposals]
    rw [if_neg fun hagree => hdiffer (hall.mp hagree), hnames]

theorem AllAgree.cons_iff {source target : Text} {q : Float} {c : Category} {rest : List Category}
    (hq : c.quotient? source target = some q) :
    AllAgree source target q (c :: rest) ↔ agrees q q = true ∧ AllAgree source target q rest := by
  unfold AllAgree
  rw [List.forall_mem_cons, hq]
  simp

theorem not_allAgree_iff {source target : Text} {q : Float} {cs : List Category} :
    ¬AllAgree source target q cs ↔
      ∃ c ∈ cs, ∃ r, c.quotient? source target = some r ∧ agrees q r = false := by
  simp [AllAgree]

section
variable {configuration : Json.Value} {t : Table} (hload : Table.load configuration = .ok t)
include hload

theorem indexed_of_load : ∀ c ∈ t.categories, c.Indexed := fun c hc =>
  (Table.filled_load kept_unsigned hload c hc).indexed

theorem isNegative_of_quotient? {c : Category} (hc : c ∈ t.categories) {source target : Text} {q : Float}
    (hq : c.quotient? source target = some q) : Number.isNegative q = false := by
  have hevery := Table.every_load kept_unsigned hload c hc
  obtain ⟨x, hx, hq⟩ := Option.bind_eq_some_iff.mp hq
  obtain ⟨y, hy, hq⟩ := Option.bind_eq_some_iff.mp hq
  cases hq
  exact kept_unsigned.div _ _ (hevery.factor? hy) (hevery.factor? hx)

/-- What a conversion in a loaded table comes to. Either no category holds both symbols, or the
first that does has a quotient of their factors. If this is a positive finite number it is the
factor, unless the quotient of another category is not near to it. If it is not, the conversion is
ambiguous, be it in one category or in several. -/
theorem conversion_of_load (source target : Text) :
    (t.conversion source target = .error (.unitNotFound source target) ↔
      t.holding source target = []) ∧
    ∀ c rest, t.holding source target = c :: rest →
      ∃ q, c.quotient? source target = some q ∧
        (q.isFinite = true ∧ 0 < q →
          (t.conversion source target = .ok q ↔ AllAgree source target q rest) ∧
          (t.conversion source target =
              .error (.ambiguousUnit source target ((c :: rest).map Category.name)) ↔
            ∃ d ∈ rest, ∃ r, d.quotient? source target = some r ∧ agrees q r = false)) ∧
        (¬(q.isFinite = true ∧ 0 < q) → t.conversion source target =
          .error (.ambiguousUnit source target ((c :: rest).map Category.name))) := by
  have hindexed := indexed_of_load hload
  refine ⟨?_, fun c rest hholding => ?_⟩
  · cases hholding : t.holding source target with
    | nil =>
      refine iff_of_true ?_ rfl
      have hnone := filterMap_proposal?_filter hindexed source target
      rw [← Table.holding, hholding] at hnone
      rw [Table.conversion, ← hnone]
      rfl
    | cons c rest =>
      refine iff_of_false (fun h => ?_) (List.cons_ne_nil c rest)
      obtain ⟨q, -, hagree, hdiffer⟩ := conversion_of_holding hindexed hholding
      by_cases hall : AllAgree source target q (c :: rest)
      · cases h.symm.trans (hagree hall)
      · cases h.symm.trans (hdiffer hall)
  · obtain ⟨q, hq, hagree, hdiffer⟩ := conversion_of_holding hindexed hholding
    have hc : c ∈ t.categories := List.mem_of_mem_filter (hholding ▸ List.mem_cons_self)
    have hself := agrees_self_iff (isNegative_of_quotient? hload hc hq)
    rw [AllAgree.cons_iff hq, hself] at hagree hdiffer
    refine ⟨q, hq, fun hpositive => ?_, fun hpositive => hdiffer fun h => hpositive h.1⟩
    rw [← not_allAgree_iff]
    by_cases hall : AllAgree source target q rest
    · have hok := hagree ⟨hpositive, hall⟩
      exact ⟨iff_of_true hok hall, iff_of_false (fun h => by cases hok.symm.trans h) (not_not.mpr hall)⟩
    · have herror := hdiffer fun h => hall h.2
      exact ⟨iff_of_false (fun h => by cases herror.symm.trans h) hall, iff_of_true herror hall⟩

end

/-- A configuration with two symbols, both lengths. -/
def twoLengths (x y : Float) : Json.Value :=
  .object [("LENGTH", .object [("a", .float x), ("b", .float y)]), ("MASS", .object []),
    ("TIME", .object []), ("FORCE", .object []), ("PRESSURE", .object [])]

theorem conversion_of_load_thousand :
    ∃ t c, Table.load (twoLengths 1 1000) = .ok t ∧ t.holding "a" "b" = [c] ∧
      c.quotient? "a" "b" = some 1000 ∧ t.conversion "a" "b" = .ok 1000 := by
  have hload : ((Table.load (twoLengths 1 1000)).toOption.map fun t =>
      (t.holding "a" "b").map (Category.quotient? · "a" "b")) = some [some 1000] := by decide +kernel
  obtain ⟨t, ht, hquotients⟩ := Option.map_eq_some_iff.mp hload
  obtain ⟨c, hholding, hquotient⟩ := List.map_eq_singleton_iff.mp hquotients
  have ht := eq_ok_of_toOption ht
  obtain ⟨q, hq, hpositive, -⟩ := (conversion_of_load ht "a" "b").2 c [] hholding
  cases hquotient.symm.trans hq
  exact ⟨t, c, ht, hholding, hquotient, (hpositive (by decide)).1.mpr nofun⟩

/-- One category alone can be called ambiguous: here the quotient of its factors is infinite. -/
theorem not_conversion_of_load_overflow :
    ∃ t c, Table.load (twoLengths 1e-200 1e200) = .ok t ∧ t.holding "a" "b" = [c] ∧
      t.conversion "a" "b" = .error (.ambiguousUnit "a" "b" ["LENGTH"]) := by
  have hload : ((Table.load (twoLengths 1e-200 1e200)).toOption.map fun t =>
      ((t.holding "a" "b").map Category.name, failure? (t.conversion "a" "b"))) =
        some ([("LENGTH" : Text)], some (.ambiguousUnit "a" "b" ["LENGTH"])) := by decide +kernel
  obtain ⟨t, ht, hanswers⟩ := Option.map_eq_some_iff.mp hload
  obtain ⟨hnames, hfailure⟩ := Prod.mk.inj hanswers
  obtain ⟨c, hholding, -⟩ := List.map_eq_singleton_iff.mp hnames
  exact ⟨t, c, eq_ok_of_toOption ht, hholding, eq_error_of_failure? hfailure⟩

end Equate.Unit
