import Equate.Failure.Document
import Equate.Proofs.Json.Record

/-!
# Failures read from their documents

The kind of a failure is written in front of its details, so nothing is held back when it is
read again; and a fault inside a failure is a tagged record of its own, with other kinds. So
every failure comes back from its text, whatever characters its strings have and however many
categories it lists. Only a line number that the machine has no place for is refused.
-/
namespace Equate
open Success Text

namespace Json

theorem kindInObject?_ofText (held : Bool) (kind : Text) :
    kindInObject? held (ofText kind) = some kind :=
  toText?_ofText kind

/-- A tagged record with the kind in front is taken apart as it was put together. -/
theorem tagged?_ofTagged (depth : Nat) (held : Bool) (kinds : List Text) (kind : Text)
    (details : Json) : tagged? depth held kinds (ofTagged kind details) = some ⟨kind, details, held⟩ := by
  have hread : tagged? depth held kinds (ofTagged kind details) =
      (kindInObject? held (ofText kind)).bind fun kind => some ⟨kind, details, held⟩ := rfl
  rw [hread, kindInObject?_ofText, Option.bind_some]

/-- A record of strings. -/
theorem wellFormed_texts (fields : List (Text × Text)) :
    (ofFields (fields.map fun (name, t) => (name, ofText t))).WellFormed :=
  wellFormed_ofFields (List.forall_mem_map.mpr fun f _ => wellFormed_ofText f.2)

theorem wellFormed_ofTagged {kind : Text} {details : Json} (h : details.WellFormed) :
    (ofTagged kind details).WellFormed := by
  apply wellFormed_ofFields
  simp [wellFormed_ofText, h]

end Json

/-! ## Faults -/

namespace Fault

/-- The line that the fault points at, if it does, has a number that can be read. -/
def InRange (f : Fault) : Prop := ∀ line ∈ f.line?, line ≤ lineLimit

instance (f : Fault) : Decidable f.InRange := by unfold InRange; infer_instance

theorem inRange_of_line? {f : Fault} (h : f.line? = none) : f.InRange := by simp [InRange, h]

theorem wellFormed_placed (line : Nat) (text reason : Text) : (placed line text reason).WellFormed := by
  apply Json.wellFormed_ofFields
  simp [Json.wellFormed_ofText, Json.wellFormed_ofNat]

theorem wellFormed_toJson (f : Fault) : f.toJson.WellFormed := by
  cases f with
  | unitNotFound source target =>
    exact Json.wellFormed_ofTagged (Json.wellFormed_texts [("from", source), ("to", target)])
  | ambiguousUnit source target categories =>
    have hcategories : (Json.ofList Json.ofText categories).WellFormed :=
      Json.wellFormed_ofList fun t _ => Json.wellFormed_ofText t
    apply Json.wellFormed_ofTagged
    apply Json.wellFormed_ofFields
    simp [Json.wellFormed_ofText, hcategories]
  | parameter line text reason => exact Json.wellFormed_ofTagged (wellFormed_placed line text reason)
  | directive line text reason => exact Json.wellFormed_ofTagged (wellFormed_placed line text reason)
  | equation line text reason => exact Json.wellFormed_ofTagged (wellFormed_placed line text reason)
  | nameConflict name reason =>
    exact Json.wellFormed_ofTagged (Json.wellFormed_texts [("name", name), ("reason", reason)])

/-- The details of a fault with a line are read again if the line can be. -/
theorem placed?_placed (line : Nat) (text reason : Text) :
    placed? (placed line text reason) =
      if line ≤ lineLimit then some (line, text, reason) else none := by
  have hread : placed? (placed line text reason) = (do
      let line ← Json.toNat? lineLimit (Json.ofNat line)
      let text ← Json.toText? (Json.ofText text)
      let reason ← Json.toText? (Json.ofText reason)
      return (line, text, reason)) := rfl
  rw [hread, Json.toNat?_ofNat, Json.toText?_ofText, Json.toText?_ofText]
  split <;> rfl

/-- A fault comes back from its document, held back or not, if its line can be read. -/
theorem ofJson?_toJson (held : Bool) (f : Fault) :
    ofJson? held f.toJson = if f.InRange then some f else none := by
  have htagged : ∀ kind details, ofJson? held (Json.ofTagged kind details) = ofDetails? kind details := by
    intro kind details
    rw [ofJson?, Json.tagged?_ofTagged]
    rfl
  -- The three kinds of faults with a line have the same details.
  have hplaced : ∀ (g : Nat → Text → Text → Fault) line text reason,
      (g line text reason).line? = some line →
      ((placed? (placed line text reason)).bind fun parts => some (g parts.1 parts.2.1 parts.2.2)) =
        if (g line text reason).InRange then some (g line text reason) else none := by
    intro g line text reason hline
    have hrange : (g line text reason).InRange ↔ line ≤ lineLimit := by simp [InRange, hline]
    rw [placed?_placed]
    simp only [hrange]
    split <;> rfl
  cases f with
  | unitNotFound source target =>
    have hread : ofJson? held (unitNotFound source target).toJson = (do
        let source ← Json.toText? (Json.ofText source)
        let target ← Json.toText? (Json.ofText target)
        return unitNotFound source target) := htagged _ _
    rw [hread, Json.toText?_ofText, Json.toText?_ofText, if_pos (inRange_of_line? rfl)]
    rfl
  | ambiguousUnit source target categories =>
    have hread : ofJson? held (ambiguousUnit source target categories).toJson = (do
        let source ← Json.toText? (Json.ofText source)
        let target ← Json.toText? (Json.ofText target)
        let categories ← Json.toList? Json.toText? (Json.ofList Json.ofText categories)
        return ambiguousUnit source target categories) := htagged _ _
    rw [hread, Json.toText?_ofText, Json.toText?_ofText, Json.toList?_toText?, if_pos (inRange_of_line? rfl)]
    rfl
  | parameter line text reason => exact (htagged _ _).trans (hplaced parameter line text reason rfl)
  | directive line text reason => exact (htagged _ _).trans (hplaced directive line text reason rfl)
  | equation line text reason => exact (htagged _ _).trans (hplaced equation line text reason rfl)
  | nameConflict name reason =>
    have hread : ofJson? held (nameConflict name reason).toJson = (do
        let name ← Json.toText? (Json.ofText name)
        let reason ← Json.toText? (Json.ofText reason)
        return nameConflict name reason) := htagged _ _
    rw [hread, Json.toText?_ofText, Json.toText?_ofText, if_pos (inRange_of_line? rfl)]
    rfl

end Fault

/-! ## Failures -/

namespace Failure

/-- The line that the failure points at, if it points at one. -/
def line? : Failure → Option Nat
  | source fault => fault.line?
  | _ => none

/-- That line, too, has a number that can be read. -/
def InRange (f : Failure) : Prop := ∀ line ∈ f.line?, line ≤ Fault.lineLimit

instance (f : Failure) : Decidable f.InRange := by unfold InRange; infer_instance

theorem inRange_of_line? {f : Failure} (h : f.line? = none) : f.InRange := by simp [InRange, h]

theorem wellFormed_toJson (f : Failure) : f.toJson.WellFormed := by
  cases f with
  | configuration reason => exact Json.wellFormed_ofTagged (Json.wellFormed_texts [("reason", reason)])
  | source fault => exact Json.wellFormed_ofTagged fault.wellFormed_toJson
  | solver text => exact Json.wellFormed_ofTagged (Json.wellFormed_texts [("message", text)])
  | file operation path reason =>
    exact Json.wellFormed_ofTagged
      (Json.wellFormed_texts [("operation", operation), ("path", path), ("reason", reason)])
  | document reason => exact Json.wellFormed_ofTagged (Json.wellFormed_texts [("reason", reason)])

/-- A failure comes back from its document if its line can be read. -/
theorem ofJson?_toJson (f : Failure) : ofJson? f.toJson = if f.InRange then some f else none := by
  have htagged : ∀ kind details, ofJson? (Json.ofTagged kind details) = ofDetails? kind details false := by
    intro kind details
    rw [ofJson?, Json.tagged?_ofTagged]
    rfl
  -- The three kinds of failures with one string read it under different names.
  have honly : ∀ (g : Text → Failure) name t, (g t).line? = none →
      (only? name (Json.ofFields [(name, Json.ofText t)])).map g =
        if (g t).InRange then some (g t) else none := by
    intro g name t hline
    have hdetails : Json.details? [name] (Json.ofFields [(name, Json.ofText t)]) =
        some [(name, Json.ofText t)] := by
      refine Json.recordMembers?_map_quote false ?_ ?_ <;> simp
    rw [only?, hdetails, if_pos (inRange_of_line? hline)]
    simp [Json.field?, Json.toText?_ofText]
  cases f with
  | configuration reason => exact (htagged _ _).trans (honly configuration "reason" reason rfl)
  | source fault =>
    have hread : ofJson? (source fault).toJson = (Fault.ofJson? false fault.toJson).map source :=
      htagged _ _
    have hrange : (source fault).InRange ↔ fault.InRange := Iff.rfl
    rw [hread, Fault.ofJson?_toJson]
    simp only [hrange]
    split <;> rfl
  | solver text => exact (htagged _ _).trans (honly solver "message" text rfl)
  | file operation path reason =>
    have hread : ofJson? (file operation path reason).toJson = (do
        let operation ← Json.toText? (Json.ofText operation)
        let path ← Json.toText? (Json.ofText path)
        let reason ← Json.toText? (Json.ofText reason)
        return file operation path reason) := htagged _ _
    rw [hread, Json.toText?_ofText, Json.toText?_ofText, Json.toText?_ofText, if_pos (inRange_of_line? rfl)]
    rfl
  | document reason => exact (htagged _ _).trans (honly document "reason" reason rfl)

/-- The text of a failure is read as this failure and no other, with its code, its message and
its line, exactly if the number of the line has a place in the machine. -/
theorem read?_compact_eq_some_iff (f g : Failure) :
    read? (Json.compact f.toJson) = some g ↔ g = f ∧ f.InRange := by
  rw [read?, f.wellFormed_toJson.parse?_compact, Option.bind_some, ofJson?_toJson]
  split
  · next hrange => simp [hrange, eq_comm]
  · next hrange => simp [hrange]

/-- For instance this is the text of a fault whose reason has a line end in it. -/
example : Json.compact (source (.nameConflict "x" "a\nb")).toJson =
    ("\x7b\"type\":\"Preprocess\",\"details\":\x7b\"type\":\"NameConflict\"," : Text) ++
      ("\"details\":\x7b\"name\":\"x\",\"reason\":\"a\\nb\"\x7d\x7d\x7d" : Text) := by
  decide +kernel

end Failure
end Equate
