import Equate.Proofs.Name.Pieces

/-!
# Calls that replacement makes

A function's name counts as a name unless it is called, and what is called shows only
behind it: a parenthesis, with blanks at most in between. A group starts with one. So a
function's name in front of a name that gives way to a group was a name and is a call
afterwards, and it is no longer read. This is the only way in which replacement changes
the names that are read, apart from taking away those it replaces.
-/
namespace Equate.Name

section
variable (r : Text → Option Text)

/-- The first thing that is not blank is a name with a replacement. -/
def opensReplaced : List Piece → Bool
  | .other c :: rest => Text.isBlank c && opensReplaced rest
  | .name word _ :: _ => (r word).isSome
  | _ => false

/-- Somewhere a function's name stands in front of a name with a replacement, with blanks at
most between them. -/
def hidesName : List Piece → Bool
  | [] => false
  | .name word _ :: rest => (functions.contains word && opensReplaced r rest) || hidesName rest
  | _ :: rest => hidesName rest

theorem opensReplaced_iff {ps : List Piece} :
    opensReplaced r ps = true ↔ ∃ blanks word glued after,
      ps = List.map Piece.other blanks ++ .name word glued :: after ∧
        (∀ c ∈ blanks, Text.isBlank c = true) ∧ (r word).isSome = true := by
  constructor
  · intro h
    induction ps with
    | nil => cases h
    | cons p ps ih =>
      cases p with
      | other c =>
        obtain ⟨hc, h⟩ := Bool.and_eq_true_iff.mp h
        obtain ⟨blanks, word, glued, after, rfl, hblanks, hword⟩ := ih h
        exact ⟨c :: blanks, word, glued, after, rfl, List.forall_mem_cons.mpr ⟨hc, hblanks⟩, hword⟩
      | name word glued => exact ⟨[], word, glued, ps, rfl, nofun, h⟩
      | exponent word => cases h
  · rintro ⟨blanks, word, glued, after, rfl, hblanks, hword⟩
    induction blanks with
    | nil => exact hword
    | cons c blanks ih =>
      obtain ⟨hc, hblanks⟩ := List.forall_mem_cons.mp hblanks
      exact Bool.and_eq_true_iff.mpr ⟨hc, ih hblanks⟩

theorem hidesName_iff {ps : List Piece} :
    hidesName r ps = true ↔ ∃ before function glued after,
      ps = before ++ .name function glued :: after ∧ function ∈ functions ∧
        opensReplaced r after = true := by
  constructor
  · intro h
    induction ps with
    | nil => cases h
    | cons p ps ih =>
      have hlift : hidesName r ps = true → ∃ before function glued after,
          p :: ps = before ++ .name function glued :: after ∧ function ∈ functions ∧
            opensReplaced r after = true := by
        intro h
        obtain ⟨before, function, glued, after, rfl, hfunction, hopens⟩ := ih h
        exact ⟨p :: before, function, glued, after, rfl, hfunction, hopens⟩
      cases p with
      | name word glued =>
        rcases Bool.or_eq_true_iff.mp h with h | h
        · obtain ⟨hfunction, hopens⟩ := Bool.and_eq_true_iff.mp h
          exact ⟨[], word, glued, ps, rfl, List.contains_iff_mem.mp hfunction, hopens⟩
        · exact hlift h
      | _ => exact hlift h
  · rintro ⟨before, function, glued, after, rfl, hfunction, hopens⟩
    induction before with
    | nil =>
      exact Bool.or_eq_true_iff.mpr
        (.inl (Bool.and_eq_true_iff.mpr ⟨List.contains_iff_mem.mpr hfunction, hopens⟩))
    | cons p before ih =>
      cases p with
      | name => exact Bool.or_eq_true_iff.mpr (.inr ih)
      | _ => exact ih

end

/-- What opens a call does not open with a name. -/
theorem opensReplaced_of_opensCall {r : Text → Option Text} {ps : List Piece}
    (h : opensCall ps = true) : opensReplaced r ps = false := by
  induction ps with
  | nil => rfl
  | cons p ps ih =>
    cases p with
    | other c =>
      rw [opensCall] at h
      rw [opensReplaced]
      cases hc : Text.isBlank c with
      | true => exact ih (by rwa [if_pos hc] at h)
      | false => rfl
    | _ => cases h

/-- Only names are read. -/
theorem named_append_of_no_name {ps qs : List Piece} (h : ∀ word glued, .name word glued ∉ ps) :
    named (ps ++ qs) = named qs := by
  induction ps with
  | nil => rfl
  | cons piece ps ih =>
    have hps : ∀ word glued, .name word glued ∉ ps := fun word glued hmem =>
      h word glued (List.mem_cons_of_mem piece hmem)
    cases piece with
    | name word glued => exact absurd List.mem_cons_self (h word glued)
    | _ => exact ih hps

theorem named_map_other (v : Text) (ps : List Piece) : named (v.map .other ++ ps) = named ps :=
  named_append_of_no_name (by simp)

section
variable {r : Text → Option Text} (hr : ∀ word v, r word = some v → IsGroup v)
include hr

theorem opensCall_flatMap_regrouped (ps : List Piece) :
    opensCall (ps.flatMap (regrouped r)) = (opensCall ps || opensReplaced r ps) := by
  induction ps with
  | nil => rfl
  | cons p ps ih =>
    rw [List.flatMap_cons]
    cases p with
    | other c =>
      show opensCall (.other c :: ps.flatMap (regrouped r)) = _
      rw [opensCall, opensCall, opensReplaced]
      cases Text.isBlank c with
      | true => exact ih
      | false => exact (Bool.or_false _).symm
    | exponent word => rfl
    | name word glued =>
      rw [regrouped, opensReplaced]
      cases hv : r word with
      | none => rfl
      | some v =>
        obtain ⟨body, rfl, -⟩ := hr word v hv
        rfl

/-- Replaced names are no longer read, and of the others all are except for those that
replacement hides. -/
theorem named_flatMap_regrouped
    (hfree : ∀ word, (r word).isSome = true → word ∉ functions ∧ word ∉ constants)
    (ps : List Piece) :
    (named (ps.flatMap (regrouped r))).length ≤ ((named ps).filter fun w => (r w).isNone).length ∧
      (named (ps.flatMap (regrouped r)) = (named ps).filter (fun w => (r w).isNone) ↔
        hidesName r ps = false) := by
  induction ps with
  | nil => exact ⟨Nat.le_refl _, fun _ => rfl, fun _ => rfl⟩
  | cons p ps ih =>
    cases p with
    | other c => exact ih
    | exponent word => exact ih
    | name word glued =>
      rw [List.flatMap_cons, regrouped, named, hidesName]
      cases hv : r word with
      | some v =>
        -- The name is replaced: it was read, and its group has no name.
        obtain ⟨hfunction, hconstant⟩ := hfree word (by rw [hv]; rfl)
        have hf : functions.contains word = false := by simpa using hfunction
        have hc : constants.contains word = false := by simpa using hconstant
        simp only [hf, hc, Bool.false_and, Bool.or_false, Bool.false_or, Bool.false_eq_true, if_false]
        rw [named_map_other, List.filter_cons_of_neg (by simp [hv])]
        exact ih
      | none =>
        dsimp only
        rw [List.singleton_append, named, opensCall_flatMap_regrouped hr]
        cases hc : constants.contains word with
        | true =>
          have hf : functions.contains word = false := by
            rw [List.contains_iff_mem] at hc
            exact (by decide : ∀ w ∈ constants, functions.contains w = false) word hc
          simp only [hf, Bool.true_or, if_true, Bool.false_and, Bool.false_or]
          exact ih
        | false =>
          cases hf : functions.contains word with
          | false => simpa [hv] using ih
          | true =>
            cases hcall : opensCall ps with
            | true => simpa [opensReplaced_of_opensCall hcall] using ih
            | false =>
              cases hopens : opensReplaced r ps with
              | false => simpa [hv] using ih
              | true =>
                -- The function's name was read and is a call now.
                simp only [Bool.false_or, Bool.and_self, if_true, Bool.and_false,
                  Bool.false_eq_true, if_false, Bool.true_or, List.filter_cons, hv,
                  Option.isNone_none, List.length_cons]
                refine ⟨Nat.le_succ_of_le ih.1, fun heq => ?_, fun hfalse => Bool.noConfusion hfalse⟩
                have := ih.1
                rw [heq, List.length_cons] at this
                exact absurd this (Nat.not_succ_le_self _)

/-- When exactly the names of a text with groups are those of the text without the replaced
ones. -/
theorem identifiers_substitute_eq_iff
    (hfree : ∀ word, (r word).isSome = true → word ∉ functions ∧ word ∉ constants) (t : Text) :
    identifiers (substitute r t) = (identifiers t).filter (fun w => (r w).isNone) ↔
      hidesName r (piecesOf t) = false := by
  have hpieces : piecesOf (substitute r t) = (piecesOf t).flatMap (regrouped r) :=
    pieces_flatMap_replaced hr false t
  rw [identifiers, identifiers, hpieces]
  exact (named_flatMap_regrouped hr hfree _).2

end

end Equate.Name
