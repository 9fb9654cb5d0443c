import Equate.Json.Record
import Equate.Proofs.Json.Document
import Equate.Proofs.Name.Map

/-!
# Records, lists and maps read again

Whatever is put together from well-formed parts is well formed. A record gives its fields
back, a list the readings of its items and a map those of its values.
-/
namespace Equate.Json
open Success Text

/-! ## Written forms -/

theorem wellFormed_ofText (t : Text) : (ofText t).WellFormed := .string (isQuoted_quote t)

theorem wellFormed_ofNat (n : Nat) : (ofNat n).WellFormed := .number (Numeral.wellFormed_ofNat n)

theorem wellFormed_ofFloat (x : Float) : (ofFloat x).WellFormed := by
  unfold ofFloat
  split
  · next h => exact .number (Numeral.wellFormed_ofFinite ((Number.isFinite_iff x).mpr h))
  · exact .null

theorem wellFormed_ofList {α : Type} {item : α → Json} {xs : List α}
    (h : ∀ x ∈ xs, (item x).WellFormed) : (ofList item xs).WellFormed :=
  .array (List.forall_mem_map.mpr h)

theorem wellFormed_ofFields {fields : List (Text × Json)} (h : ∀ f ∈ fields, f.2.WellFormed) :
    (ofFields fields).WellFormed :=
  .object (List.forall_mem_map.mpr fun f _ => isQuoted_quote f.1) (List.forall_mem_map.mpr h)

theorem wellFormed_ofMap {α : Type} {value : α → Json} (m : NameMap α)
    (h : ∀ x, (value x).WellFormed) : (ofMap value m).WellFormed :=
  wellFormed_ofFields (List.forall_mem_map.mpr fun e _ => h e.2)

/-! ## Readings -/

theorem toText?_ofText (t : Text) : toText? (ofText t) = some t := unquote?_quote t

theorem toNat?_ofNat (limit n : Nat) :
    toNat? limit (ofNat n) = if n ≤ limit then some n else none := by
  simp [toNat?, ofNat, Numeral.toNat?, Numeral.ofNat, Numeral.isNatural, digitsValue_decimal]

theorem toList?_ofList {α β : Type} (item : α → Json) (item? : Json → Option β) (xs : List α) :
    toList? item? (ofList item xs) = xs.mapM fun x => item? (item x) := by
  rw [ofList, toList?, List.mapM_map]
  rfl

theorem toList?_toText? (ts : List Text) : toList? toText? (ofList ofText ts) = some ts := by
  simp only [toList?_ofList, toText?_ofText]
  rw [mapM_eq_some_iff]

/-- A record with its own fields, each of them once, gives them back. -/
theorem recordMembers?_map_quote {names : List Text} {fields : List (Text × Json)} (closed : Bool)
    (hnames : ∀ f ∈ fields, f.1 ∈ names) (hd : (fields.map Prod.fst).Nodup) :
    recordMembers? names closed (fields.map fun (name, document) => (quote name, document)) =
      some fields := by
  induction fields with
  | nil => rfl
  | cons f fields ih =>
    obtain ⟨hname, hnames⟩ := List.forall_mem_cons.mp hnames
    rw [List.map_cons, List.nodup_cons] at hd
    have hnew : fields.lookup f.1 = none := by
      rw [List.lookup_eq_none_iff]
      intro g hg
      rw [bne_iff_ne]
      rintro heq
      exact hd.1 (List.mem_map.mpr ⟨g, hg, heq.symm⟩)
    rw [List.map_cons, recordMembers?, unquote?_quote, ih hnames hd.2]
    simp [hname, hnew]

theorem fields?_ofFields {names : List Text} (closed : Bool) {fields : List (Text × Json)}
    (hd : names.Nodup) (hnames : fields.map Prod.fst = names) :
    fields? names closed (ofFields fields) = some fields := by
  subst hnames
  exact recordMembers?_map_quote closed (fun f => List.mem_map_of_mem) hd

/-- A map gives back the readings of its values. -/
theorem toMap?_ofMap {α β : Type} (value : α → Json) (value? : Json → Option β) (m : NameMap α) :
    toMap? value? (ofMap value m) = m.traverse? fun x => value? (value x) := by
  have hfold : ∀ (entries : List (Text × α)) (known : NameMap β),
      (entries.map fun e => (quote e.1, value e.2)).foldlM (fun m (quoted, document) => do
        let name ← unquote? quoted
        let x ← value? document
        return m.insert name x) known =
      (entries.mapM fun e => (value? (value e.2)).map (e.1, ·)).map
        (List.foldl (fun m e => m.insert e.1 e.2) known) := by
    intro entries
    induction entries with
    | nil => exact fun known => rfl
    | cons e entries ih =>
      intro known
      rw [List.map_cons, List.foldlM_cons, List.mapM_cons]
      dsimp only
      rw [unquote?_quote]
      cases hx : value? (value e.2) with
      | none => rfl
      | some x =>
        refine (ih (known.insert e.1 x)).trans ?_
        cases entries.mapM fun e => (value? (value e.2)).map (e.1, ·) <;> rfl
  rw [ofMap, ofFields, toMap?, List.map_map]
  exact hfold m.toList ∅

end Equate.Json
