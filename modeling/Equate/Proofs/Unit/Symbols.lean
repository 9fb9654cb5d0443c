import Mathlib.Data.List.Nodup
import Equate.Proofs.Unit.Composition

/-!
# The symbols of a category

A category that is filled by insertions alone lists each symbol once, in the order of the first
insertions, and gives it the factor of its last insertion. The index repeats what the list says: it
gives the place of each symbol. An insertion puts a new symbol behind all others, and otherwise
changes no more than the factor that its symbol has.
-/
namespace Equate.Unit

/-! ## Lists without repetitions -/

/-- A further member counts if it is new. -/
theorem eraseDups_concat {α : Type} [BEq α] [LawfulBEq α] (xs : List α) (x : α) :
    (xs ++ [x]).eraseDups = if xs.contains x then xs.eraseDups else xs.eraseDups ++ [x] := by
  rw [List.eraseDups_append, List.removeAll, List.filter_singleton, List.elem_eq_contains]
  cases xs.contains x with
  | true => exact List.append_nil _
  | false => rfl

theorem eraseDups_of_nodup {α : Type} [BEq α] [LawfulBEq α] {xs : List α} (h : xs.Nodup) :
    xs.eraseDups = xs := by
  induction xs with
  | nil => rfl
  | cons x xs ih =>
    obtain ⟨hx, hxs⟩ := List.nodup_cons.mp h
    have hothers : ∀ y ∈ xs, (!y == x) = true := by
      intro y hy
      rw [Bool.not_eq_true', beq_eq_false_iff_ne]
      rintro rfl
      exact hx hy
    rw [List.eraseDups_cons, List.filter_eq_self.mpr hothers, ih hxs]

namespace Category
variable {c : Category}

/-- The symbols in the order of their places. -/
def symbols (c : Category) : List Text := c.toList.map Prod.fst

theorem getElem?_symbols (c : Category) (place : Nat) :
    c.symbols[place]? = c.units[place]?.map Prod.fst := by
  rw [symbols, toList, List.getElem?_map, Array.getElem?_toList]

theorem getElem?_symbols_eq_some {symbol : Text} {place : Nat} :
    c.symbols[place]? = some symbol ↔ ∃ factor, c.units[place]? = some (symbol, factor) := by
  rw [getElem?_symbols, Option.map_eq_some_iff]
  constructor
  · rintro ⟨u, hu, rfl⟩
    exact ⟨u.2, hu⟩
  · rintro ⟨factor, hunit⟩
    exact ⟨_, hunit, rfl⟩

/-- The index and the list say the same. -/
theorem indexed_iff : c.Indexed ↔
    ∀ (symbol : Text) (place : Nat), c.index[symbol]? = some place ↔ c.symbols[place]? = some symbol := by
  simp only [Indexed, getElem?_symbols_eq_some]

namespace Indexed
variable (h : c.Indexed)
include h

theorem nodup_symbols : c.symbols.Nodup := by
  rw [List.nodup_iff_getElem?_ne_getElem?]
  intro i j hij hj heq
  have hsymbol : c.symbols[j]? = some c.symbols[j] := List.getElem?_eq_getElem hj
  have hi := (indexed_iff.mp h _ i).mpr (heq.trans hsymbol)
  have hj := (indexed_iff.mp h _ j).mpr hsymbol
  exact Nat.ne_of_lt hij (Option.some.inj (hi.symm.trans hj))

theorem mem_symbols_iff {symbol : Text} : symbol ∈ c.symbols ↔ (c.index[symbol]?).isSome := by
  rw [List.mem_iff_getElem?, Option.isSome_iff_exists]
  exact exists_congr fun place => (indexed_iff.mp h symbol place).symm

theorem symbols_insert (symbol : Text) (x : Float) :
    (c.insert symbol x).symbols =
      if c.symbols.contains symbol then c.symbols else c.symbols ++ [symbol] := by
  have hmem : c.symbols.contains symbol = (c.index[symbol]?).isSome := by
    rw [Bool.eq_iff_iff, List.contains_iff_mem, h.mem_symbols_iff]
  rw [hmem]
  unfold Category.insert
  cases hplace : c.index[symbol]? with
  | some place =>
    refine List.ext_getElem? fun other => ?_
    rw [Option.isSome_some, if_pos rfl, getElem?_symbols, getElem?_symbols, Array.getElem?_modify]
    split
    · rw [Option.map_map]
      rfl
    · rfl
  | none =>
    rw [Option.isSome_none, if_neg Bool.false_ne_true, symbols, toList, Array.toList_push,
      List.map_append]
    rfl

/-- What is listed is what is found. -/
theorem mem_toList_iff {symbol : Text} {x : Float} :
    (symbol, x) ∈ c.toList ↔ c.factor? symbol = some x := by
  rw [h.factor?_eq_some_iff, toList, List.mem_iff_getElem?]
  simp only [Array.getElem?_toList]

end Indexed

/-- The place of a symbol stays, and a new one is put behind all others. -/
theorem getElem?_index_insert (c : Category) (symbol : Text) (x : Float) (other : Text) :
    (c.insert symbol x).index[other]? =
      if other = symbol then some (c.index[symbol]?.getD c.size) else c.index[other]? := by
  unfold Category.insert
  split
  · next place hplace =>
    split
    · next heq => rw [heq, hplace, Option.getD_some]
    · rfl
  · next hnew =>
    show (c.index.insert symbol c.units.size)[other]? = _
    rw [Std.ExtTreeMap.getElem?_insert, hnew]
    by_cases heq : other = symbol
    · rw [if_pos heq, heq, if_pos Std.ReflCmp.compare_self]
      rfl
    · rw [if_neg heq, if_neg fun h => heq (Std.LawfulEqCmp.eq_of_compare h).symm]

/-! ## What insertions leave -/

/-- A category says what has been inserted: which symbols, where each of them stands, and which
factor was the last. -/
structure Records (c : Category) (entries : List (Text × Float)) : Prop where
  distinct : c.symbols.Nodup
  placed : ∀ (symbol : Text) (place : Nat),
    c.index[symbol]? = some place ↔ c.symbols[place]? = some symbol
  ordered : c.symbols = (entries.map Prod.fst).eraseDups
  latest : ∀ symbol, c.factor? symbol = entries.reverse.lookup symbol

theorem records_empty (name : Text) : (empty name).Records [] where
  distinct := List.nodup_nil
  placed := indexed_iff.mp (indexed_empty name)
  ordered := rfl
  latest _ := rfl

theorem Records.indexed {entries : List (Text × Float)} (h : c.Records entries) : c.Indexed :=
  indexed_iff.mpr h.placed

theorem Records.insert {entries : List (Text × Float)} (h : c.Records entries) (symbol : Text)
    (x : Float) : (c.insert symbol x).Records (entries ++ [(symbol, x)]) where
  distinct := (h.indexed.insert symbol x).nodup_symbols
  placed := indexed_iff.mp (h.indexed.insert symbol x)
  ordered := by
    have hmem : c.symbols.contains symbol = (entries.map Prod.fst).contains symbol := by
      rw [h.ordered, Bool.eq_iff_iff, List.contains_iff_mem, List.contains_iff_mem, List.mem_eraseDups]
    rw [h.indexed.symbols_insert, hmem, h.ordered, List.map_append, List.map_singleton, eraseDups_concat]
  latest other := by
    rw [h.indexed.factor?_insert, h.latest, List.reverse_append, List.reverse_singleton,
      List.singleton_append, List.lookup_cons]
    by_cases heq : other = symbol
    · rw [if_pos heq, beq_iff_eq.mpr heq]
    · rw [if_neg heq, beq_eq_false_iff_ne.mpr heq]

/-- More insertions are recorded behind the others. -/
theorem Records.insertAll {before : List (Text × Float)} (h : c.Records before)
    (entries : List (Text × Float)) : (c.insertAll entries).Records (before ++ entries) := by
  induction entries using List.reverseRecOn with
  | nil =>
    rw [List.append_nil]
    exact h
  | append_singleton entries e ih =>
    rw [insertAll_concat, ← List.append_assoc]
    exact ih.insert e.1 e.2

/-- After any insertions into an empty category it says what has been inserted, and one more
insertion leaves the factor and the place of every other symbol as they are. -/
theorem records_insertAll (name : Text) (entries : List (Text × Float)) :
    let c := (empty name).insertAll entries
    c.Records entries ∧
      ∀ (symbol : Text) (x : Float) (other : Text),
        (c.insert symbol x).factor? other = (if other = symbol then some x else c.factor? other) ∧
        (c.insert symbol x).index[other]? =
          if other = symbol then some (c.index[symbol]?.getD c.size) else c.index[other]? := by
  intro c
  have hrecords : c.Records entries := (records_empty name).insertAll entries
  exact ⟨hrecords, fun symbol x other =>
    ⟨hrecords.indexed.factor?_insert symbol x other, getElem?_index_insert c symbol x other⟩⟩

end Category
end Equate.Unit
