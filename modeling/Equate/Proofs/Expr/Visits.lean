import Equate.Proofs.Expr.Names
import Equate.Proofs.Name.Calls
import Equate.Proofs.Name.Numeral

/-!
# The names that a replacement is asked for

Replacing names in a text asks for each of them in turn. To see for which, the replacement is
given a state in which it writes them down: it asks for the same names and gives the same text
whatever it does besides. In the text of an expression these are the names in its tree, from left
to right, because no name stands against a number there. None is called either, so apart from the
constants they are what is read as variables.
-/
namespace Equate

namespace Name

/-- The word of a piece that is a name. -/
def Piece.name? : Piece → Option Text
  | .name word _ => some word
  | _ => none

/-- The names among pieces. -/
def wordsOf (ps : List Piece) : List Text := ps.filterMap Piece.name?

section Asking
variable {m : Type → Type} [Monad m]

/-- What stands in the place of a piece, by a replacement that has effects. -/
def replacedM (replacement : Text → m (Option Text)) : Piece → m Text
  | .name word _ => do return (← replacement word).getD word
  | piece => return piece.text

/-- The text with each name replaced for which there is a replacement, asked for in turn. -/
def substituteM (replacement : Text → m (Option Text)) (t : Text) : m Text := do
  return (← (piecesOf t).mapM (replacedM replacement)).flatten

/-- Without effects this is the text with its names replaced. -/
theorem substituteM_pure [LawfulMonad m] (r : Text → Option Text) (t : Text) :
    substituteM (m := m) (fun word => pure (r word)) t = pure (substitute r t) := by
  have hone : replacedM (m := m) (fun word => pure (r word)) =
      fun piece => pure (replaced r piece) := by
    funext piece
    cases piece with
    | name word glued => exact pure_bind _ _
    | _ => rfl
  rw [substituteM, hone, List.mapM_pure, pure_bind, substitute_eq_flatMap, List.flatMap_def]

end Asking

/-- A replacement that notes every word it is asked for. -/
def noted (r : Text → Option Text) (word : Text) : StateM (List Text) (Option Text) := do
  modify (· ++ [word])
  return r word

theorem run_replacedM_noted (r : Text → Option Text) (piece : Piece) (asked : List Text) :
    (replacedM (noted r) piece).run asked = (replaced r piece, asked ++ wordsOf [piece]) := by
  cases piece with
  | name word glued => rfl
  | _ => rw [wordsOf, List.filterMap_cons_none rfl, List.filterMap_nil, List.append_nil]; rfl

theorem wordsOf_cons (piece : Piece) (ps : List Piece) :
    wordsOf (piece :: ps) = wordsOf [piece] ++ wordsOf ps := by
  rw [wordsOf, ← List.singleton_append, List.filterMap_append]
  rfl

/-- One piece after another is asked for, and the notes are added up. -/
theorem run_mapM_noted (r : Text → Option Text) (ps : List Piece) (asked : List Text) :
    (ps.mapM (replacedM (noted r))).run asked = (ps.map (replaced r), asked ++ wordsOf ps) := by
  induction ps generalizing asked with
  | nil => rw [wordsOf, List.filterMap_nil, List.append_nil]; rfl
  | cons piece ps ih =>
    rw [List.mapM_cons, StateT.run_bind, run_replacedM_noted]
    show (do return replaced r piece :: (← ps.mapM (replacedM (noted r))) :
      StateM (List Text) (List Text)).run (asked ++ wordsOf [piece]) = _
    rw [StateT.run_bind, ih, wordsOf_cons piece ps, List.append_assoc]
    rfl

/-- Noting them changes nothing, and the notes are the names of the text in their order. -/
theorem run_substituteM_noted (r : Text → Option Text) (t : Text) (asked : List Text) :
    (substituteM (noted r) t).run asked = (substitute r t, asked ++ wordsOf (piecesOf t)) := by
  rw [substituteM, StateT.run_bind, run_mapM_noted, substitute_eq_flatMap, List.flatMap_def]
  rfl

end Name

namespace Expr
open Name Success

theorem word?_of_not_isOperand {u : Token} (h : u.isOperand = false) : u.word? = none := by
  cases u with
  | name => cases h
  | _ => rfl

/-- The names among the pieces of a text are those among its tokens. -/
theorem words_of_spells {t : Text} {us : List Token} (h : Spells t us) :
    wordsOf (piecesOf t) = us.filterMap Token.word? := by
  induction h with
  | nil => rw [piecesOf, pieces_nil]; rfl
  | gap hc _ ih =>
    obtain ⟨hstart, hnumber, -⟩ := isStart_of_isGap hc
    rw [piecesOf_cons_of_other hstart hnumber]
    exact ih
  | num hl _ hparts _ ih =>
    obtain ⟨ps, hps, -, hnone⟩ := exists_piecesOf_literal hl hparts
    have hwords : ps.filterMap Piece.name? = [] := by
      rw [List.filterMap_eq_nil_iff]
      intro piece hmem
      cases piece with
      | name word glued => exact absurd hmem (hnone word glued)
      | _ => rfl
    rw [hps, wordsOf, List.filterMap_append, hwords]
    exact ih
  | name hw hparts _ ih =>
    rw [piecesOf_append_word hw fun _ _ => hparts.isContinue]
    exact congrArg (_ :: ·) ih
  | sign hc _ ih =>
    obtain ⟨hstart, hnumber, hoperand, -⟩ := isStart_of_sign? hc
    rw [piecesOf_cons_of_other hstart hnumber]
    exact ih.trans (List.filterMap_cons_none (word?_of_not_isOperand hoperand)).symm

/-- What starts with a sign behind an operand opens no call. -/
theorem opensCall_of_spells {t : Text} {us : List Token} (h : Spells t us)
    (hfirst : ∀ v ∈ us.head?, v ∈ [.plus, .minus, .times, .over, .closeParen]) :
    opensCall (piecesOf t) = false := by
  induction h with
  | nil => rw [piecesOf, pieces_nil]; rfl
  | gap hc _ ih =>
    obtain ⟨hstart, hnumber, hblank⟩ := isStart_of_isGap hc
    rw [piecesOf_cons_of_other hstart hnumber, opensCall, if_pos hblank]
    exact ih hfirst
  | num => exact absurd (hfirst _ rfl) (by simp)
  | name => exact absurd (hfirst _ rfl) (by simp)
  | sign hc _ _ =>
    obtain ⟨hstart, hnumber, -, hblank, hopen⟩ := isStart_of_sign? hc
    rw [piecesOf_cons_of_other hstart hnumber, opensCall, if_neg (by rw [hblank]; exact Bool.false_ne_true),
      beq_eq_false_iff_ne]
    rintro rfl
    rw [hopen rfl] at hfirst
    exact absurd (hfirst _ rfl) (by simp)

/-- Where signs join the operands no name is called, and all but the constants are read. -/
theorem named_of_spells {t : Text} {us : List Token} (h : Spells t us) (hus : us.IsChain Token.Joined) :
    named (piecesOf t) = (us.filterMap Token.word?).filter fun name => !constants.contains name := by
  induction h with
  | nil => rw [piecesOf, pieces_nil]; rfl
  | gap hc _ ih =>
    obtain ⟨hstart, hnumber, -⟩ := isStart_of_isGap hc
    rw [piecesOf_cons_of_other hstart hnumber]
    exact ih hus
  | num hl _ hparts _ ih =>
    obtain ⟨ps, hps, -, hnone⟩ := exists_piecesOf_literal hl hparts
    rw [hps, named_append_of_no_name hnone]
    exact ih (List.isChain_cons.mp hus).2
  | @name w t us hw hparts hspells ih =>
    obtain ⟨hjoined, hus⟩ := List.isChain_cons.mp hus
    have hcall : opensCall (piecesOf t) = false := opensCall_of_spells hspells fun v hv =>
      (hjoined v hv).resolve_left (by simp)
    have hword : (Token.name w).word? = some w := rfl
    rw [piecesOf_append_word hw fun _ _ => hparts.isContinue, named, hcall, Bool.and_false,
      Bool.or_false, ih hus, List.filterMap_cons_some hword, List.filter_cons]
    cases constants.contains w <;> rfl
  | @sign c t us token hc _ ih =>
    obtain ⟨hstart, hnumber, hoperand, -⟩ := isStart_of_sign? hc
    rw [piecesOf_cons_of_other hstart hnumber, List.filterMap_cons_none (word?_of_not_isOperand hoperand)]
    exact ih (List.isChain_cons.mp hus).2

/-- The names in the text of an expression are those in its tree, from left to right. Replacement
asks for each of them in turn, and the variables that are read in the text are the same but for the
constants. -/
theorem names_of_parse {t : Text} {e : Expr} (h : parse t = .ok e) :
    wordsOf (piecesOf t) = e.names ∧
      (∀ r, (substituteM (noted r) t).run [] = (substitute r t, e.names)) ∧
      identifiers t = e.names.filter fun name => !constants.contains name := by
  obtain ⟨us, hus, hderives⟩ := parse_eq_ok_iff_spells.mp h
  have hnames : us.filterMap Token.word? = e.names := hderives.names_eq.symm
  have hwords : wordsOf (piecesOf t) = e.names := (words_of_spells hus).trans hnames
  refine ⟨hwords, fun r => ?_, ?_⟩
  · rw [run_substituteM_noted, hwords, List.nil_append]
  · rw [identifiers, named_of_spells hus hderives.joined, hnames]

/-- For instance with an exponent, a constant, a function that is not called and a name that comes
twice. -/
theorem names_of_parse_difference :
    ∃ e, parse "1e+5*pi - a/sin - a" = .ok e ∧
      e.names = [("pi" : Text), ("a" : Text), ("sin" : Text), ("a" : Text)] ∧
      (substituteM (noted fun _ => none) "1e+5*pi - a/sin - a").run [] =
        (("1e+5*pi - a/sin - a" : Text), e.names) ∧
      identifiers "1e+5*pi - a/sin - a" = [("a" : Text), ("sin" : Text), ("a" : Text)] := by
  have hproduct := Derives.term (.unary (.num 1e5)) (.times (.unary (.name "pi")) .productsEnd)
  have hquotient := Derives.term (.unary (.name "a")) (.dividedBy (.unary (.name "sin")) .productsEnd)
  have hlast := Derives.term (.unary (.name "a")) .productsEnd
  have hparse : parse "1e+5*pi - a/sin - a" =
      .ok (.sub (.sub (.mul (.num 1e5) (.var "pi")) (.div (.var "a") (.var "sin"))) (.var "a")) :=
    parse_eq_ok.mpr ⟨[(0, .num 1e5), (4, .times), (5, .name "pi"), (8, .minus),
      (10, .name "a"), (11, .over), (12, .name "sin"), (16, .minus), (18, .name "a")],
      eq_ok_of_toOption (by decide +kernel),
      Derives.expr hproduct (.minus hquotient (.minus hlast .sumsEnd))⟩
  obtain ⟨-, hasked, hread⟩ := names_of_parse hparse
  refine ⟨_, hparse, rfl, ?_, hread.trans (by decide +kernel)⟩
  rw [hasked, substitute_none]

end Expr
end Equate
