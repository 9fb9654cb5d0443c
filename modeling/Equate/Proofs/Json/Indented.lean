import Equate.Proofs.Json.Document

/-!
# Indented documents

The blanks of the indented form are no tokens, so it is cut into the tokens of the compact
form and read as the same document.
-/
namespace Equate.Json
open Text

theorem tokens?_blank {c : Char} (hc : isSpace c = true) (t : Text) : tokens? (c :: t) = tokens? t := by
  rw [tokens?, if_pos hc]

theorem CutsInto.blank {c : Char} {a : Text} {ts : List Token} (hc : isSpace c = true)
    (ha : CutsInto a ts) : CutsInto (c :: a) ts := by
  intro rest hrest
  rw [List.cons_append, tokens?_blank hc]
  exact ha rest hrest

theorem CutsInto.newline {a : Text} {ts : List Token} (depth : Nat) (ha : CutsInto a ts) :
    CutsInto (newline depth ++ a) ts := by
  refine CutsInto.blank (by decide) ?_
  induction 2 * depth with
  | zero => exact ha
  | succ n ih => exact ih.blank (by decide)

section
variable {depth : Nat}

theorem cutsInto_indentedItems {items : List Json}
    (h : ∀ item ∈ items, CutsInto (indented depth item) (tokensOf item)) :
    CutsInto (indentedItems depth items) (tokensOfItems items) := by
  induction items with
  | nil => exact cutsInto_nil
  | cons item items ih =>
    obtain ⟨hitem, hitems⟩ := List.forall_mem_cons.mp h
    have hline := hitem.newline depth
    cases items with
    | nil => exact hline
    | cons next items =>
      refine hline.append ((ih hitems).cons (by decide) fun _ => rfl) fun rest => ?_
      exact ends_cons (by decide)

theorem cutsInto_indentedMember {key : Text} {value : Json} (hkey : IsQuoted key)
    (hvalue : CutsInto (indented depth value) (tokensOf value)) :
    CutsInto (newline depth ++ inQuotes key ++ ": " ++ indented depth value)
      (.string key :: .colon :: tokensOf value) := by
  rw [List.append_assoc, List.append_assoc]
  refine CutsInto.newline depth ((cutsInto_inQuotes hkey).append
    ((hvalue.blank (c := ' ') (by decide)).cons (c := ':') (by decide) fun _ => rfl) fun rest => ?_)
  exact ends_cons (by decide)

theorem cutsInto_indentedMembers {members : List (Text × Json)} (hkeys : ∀ m ∈ members, IsQuoted m.1)
    (h : ∀ m ∈ members, CutsInto (indented depth m.2) (tokensOf m.2)) :
    CutsInto (indentedMembers depth members) (tokensOfMembers members) := by
  induction members with
  | nil => exact cutsInto_nil
  | cons m members ih =>
    obtain ⟨hkey, hkeys⟩ := List.forall_mem_cons.mp hkeys
    obtain ⟨hvalue, h⟩ := List.forall_mem_cons.mp h
    have hline := cutsInto_indentedMember hkey hvalue
    cases members with
    | nil => exact hline
    | cons next members =>
      refine hline.append ((ih hkeys h).cons (by decide) fun _ => rfl) fun rest => ?_
      exact ends_cons (by decide)

end

/-- The closing bracket or brace on a line of its own. -/
theorem cutsInto_closing {c : Char} {token : Token} (hc : isSpace c = false)
    (htoken : ∀ t, token? (c :: t) = some (token, t)) (depth : Nat) :
    CutsInto (newline depth ++ [c]) [token] :=
  (cutsInto_nil.cons hc htoken).newline depth

/-- The indented text of a document is cut into its tokens. -/
theorem WellFormed.cutsInto_indented {d : Json} (h : WellFormed d) (depth : Nat) :
    CutsInto (indented depth d) (tokensOf d) := by
  induction h generalizing depth with
  | null => exact WellFormed.null.cutsInto
  | bool b => exact (WellFormed.bool b).cutsInto
  | number hn => exact (WellFormed.number hn).cutsInto
  | string hs => exact cutsInto_inQuotes hs
  | @array items _ ih =>
    cases items with
    | nil => exact WellFormed.cutsInto (.array fun _ h => absurd h List.not_mem_nil)
    | cons item items =>
      have hitems := cutsInto_indentedItems fun d hd => ih d hd (depth + 1)
      rw [indented, List.append_assoc]
      · refine (hitems.append (cutsInto_closing (c := ']') (by decide) (fun _ => rfl) depth)
          fun rest => ends_cons (by decide)).cons (by decide) fun _ => rfl
      · exact nofun
  | @object members hkeys _ ih =>
    cases members with
    | nil =>
      exact WellFormed.cutsInto (.object (fun _ h => absurd h List.not_mem_nil)
        fun _ h => absurd h List.not_mem_nil)
    | cons m members =>
      have hmembers := cutsInto_indentedMembers hkeys fun m hm => ih m hm (depth + 1)
      rw [indented, List.append_assoc]
      · refine (hmembers.append (cutsInto_closing (by decide) (fun _ => rfl) depth)
          fun rest => ends_cons (by decide)).cons (by decide) fun _ => rfl
      · exact nofun

/-- The indented text of a document, with a line end behind it, is read as the document. -/
theorem WellFormed.parse?_indented {d : Json} (h : WellFormed d) :
    parse? (indented 0 d ++ "\n") = some d := by
  have hends : Ends ("\n" : Text) := ends_cons (by decide)
  apply h.parse?_of_tokens?
  rw [h.cutsInto_indented 0 _ hends]
  show (tokens? ['\n']).map _ = _
  rw [tokens?_blank (by decide), tokens?, Option.map_some, List.append_nil]

end Equate.Json
