import Equate.Proofs.Name.Glued
import Equate.Proofs.Name.Numeral

/-!
# Names behind numbers

Read from the left with every number as long as it can be, a text has a name directly behind a
number in two cases. Either the name is found by the character in front of it, or it has the shape
of an exponent and stands behind the digits of one that has been read: the `e3` of `1e+5e3` is no
part of the number `1e+5`, but behind its digit it looks like an exponent. It takes a sign for
that, since without one the second exponent is part of the word that the first one starts.
-/
namespace Equate

namespace Name
open Equate.Expr

/-- Digits with an exponent directly behind them. -/
def runsIntoExponent : List Piece → Bool
  | .other c :: rest => c.isDigit && runsIntoExponent rest
  | .exponent _ :: _ => true
  | _ => false

/-- Behind the mark of an exponent stand a sign, digits and another exponent. -/
def opensRepetition (word : Text) : List Piece → Bool
  | .other sign :: rest => word.length == 1 && (sign == '+' || sign == '-') && runsIntoExponent rest
  | _ => false

/-- Some exponent with a sign has another exponent directly behind its digits. -/
def repeatsExponent : List Piece → Bool
  | [] => false
  | .exponent word :: rest => opensRepetition word rest || repeatsExponent rest
  | _ :: rest => repeatsExponent rest

/-- In the text an exponent with a sign has another exponent directly behind its digits. -/
def RepeatsExponent (t : Text) : Prop :=
  ∃ before mark sign digits word after, piecesOf t =
      before ++ .exponent [mark] :: .other sign ::
        (List.map Piece.other digits ++ .exponent word :: after) ∧
    (sign = '+' ∨ sign = '-') ∧ ∀ d ∈ digits, d.isDigit = true

theorem runsIntoExponent_iff {ps : List Piece} : runsIntoExponent ps = true ↔
    ∃ digits word after, ps = List.map Piece.other digits ++ .exponent word :: after ∧
      ∀ d ∈ digits, d.isDigit = true := by
  constructor
  · intro h
    induction ps with
    | nil => cases h
    | cons p ps ih =>
      cases p with
      | other c =>
        obtain ⟨hc, h⟩ := Bool.and_eq_true_iff.mp h
        obtain ⟨digits, word, after, rfl, hdigits⟩ := ih h
        exact ⟨c :: digits, word, after, rfl, List.forall_mem_cons.mpr ⟨hc, hdigits⟩⟩
      | exponent word => exact ⟨[], word, ps, rfl, nofun⟩
      | name word glued => cases h
  · rintro ⟨digits, word, after, rfl, hdigits⟩
    induction digits with
    | nil => rfl
    | cons d digits ih =>
      obtain ⟨hd, hdigits⟩ := List.forall_mem_cons.mp hdigits
      exact Bool.and_eq_true_iff.mpr ⟨hd, ih hdigits⟩

theorem opensRepetition_iff {word : Text} {ps : List Piece} : opensRepetition word ps = true ↔
    ∃ mark sign rest, word = [mark] ∧ ps = .other sign :: rest ∧ (sign = '+' ∨ sign = '-') ∧
      runsIntoExponent rest = true := by
  constructor
  · intro h
    cases ps with
    | nil => cases h
    | cons p rest =>
      cases p with
      | other sign =>
        simp only [opensRepetition, Bool.and_eq_true, Bool.or_eq_true, beq_iff_eq,
          List.length_eq_one_iff] at h
        obtain ⟨⟨⟨mark, rfl⟩, hsign⟩, hrest⟩ := h
        exact ⟨mark, sign, rest, rfl, rfl, hsign, hrest⟩
      | _ => cases h
  · rintro ⟨mark, sign, rest, rfl, rfl, hsign, hrest⟩
    simp [opensRepetition, hsign, hrest]

theorem repeatsExponent_iff {ps : List Piece} : repeatsExponent ps = true ↔
    ∃ before word rest, ps = before ++ .exponent word :: rest ∧ opensRepetition word rest = true := by
  constructor
  · intro h
    induction ps with
    | nil => cases h
    | cons p ps ih =>
      have hlift : repeatsExponent ps = true → ∃ before word rest,
          p :: ps = before ++ .exponent word :: rest ∧ opensRepetition word rest = true := by
        intro h
        obtain ⟨before, word, rest, rfl, hopens⟩ := ih h
        exact ⟨p :: before, word, rest, rfl, hopens⟩
      cases p with
      | exponent word =>
        rcases Bool.or_eq_true_iff.mp h with h | h
        · exact ⟨[], word, ps, rfl, h⟩
        · exact hlift h
      | _ => exact hlift h
  · rintro ⟨before, word, rest, rfl, hopens⟩
    induction before with
    | nil => exact Bool.or_eq_true_iff.mpr (.inl hopens)
    | cons p before ih =>
      cases p with
      | exponent word' => exact Bool.or_eq_true_iff.mpr (.inr ih)
      | _ => exact ih

theorem repeatsExponent_piecesOf {t : Text} :
    repeatsExponent (piecesOf t) = true ↔ RepeatsExponent t := by
  rw [repeatsExponent_iff]
  constructor
  · rintro ⟨before, word, rest, hpieces, hopens⟩
    obtain ⟨mark, sign, more, rfl, rfl, hsign, hrun⟩ := opensRepetition_iff.mp hopens
    obtain ⟨digits, word, after, rfl, hdigits⟩ := runsIntoExponent_iff.mp hrun
    exact ⟨before, mark, sign, digits, word, after, hpieces, hsign, hdigits⟩
  · rintro ⟨before, mark, sign, digits, word, after, hpieces, hsign, hdigits⟩
    exact ⟨before, [mark], _, hpieces, opensRepetition_iff.mpr
      ⟨mark, sign, _, rfl, rfl, hsign, runsIntoExponent_iff.mpr ⟨digits, word, after, rfl, hdigits⟩⟩⟩

instance (t : Text) : Decidable (RepeatsExponent t) := decidable_of_iff _ repeatsExponent_piecesOf

theorem runsIntoExponent_map_other {v : Text} (hv : ∀ c ∈ v, c.isDigit = true) (ps : List Piece) :
    runsIntoExponent (v.map .other ++ ps) = runsIntoExponent ps := by
  induction v with
  | nil => rfl
  | cons c v ih =>
    obtain ⟨hc, hv⟩ := List.forall_mem_cons.mp hv
    rw [List.map_cons, List.cons_append, runsIntoExponent, hc, Bool.true_and, ih hv]

theorem repeatsExponent_map_other (v : Text) (ps : List Piece) :
    repeatsExponent (v.map .other ++ ps) = repeatsExponent ps := by
  induction v with
  | nil => rfl
  | cons c v ih => exact ih

/-- A text that starts with neither a digit nor a name runs into no exponent. -/
theorem runsIntoExponent_pieces {t : Text} (ht : ∀ c rest, t = c :: rest → isContinue c = false)
    (afterNumber : Bool) : runsIntoExponent (pieces afterNumber t) = false := by
  cases t with
  | nil => rw [pieces_nil]; rfl
  | cons c rest =>
    have hc := ht c rest rfl
    rw [pieces_other (isStart_of_isContinue hc), runsIntoExponent, isDigit_of_isContinue hc]
    rfl

/-! ## Texts with blanks around them and with names replaced -/

section
variable {right : Text} (hright : ∀ c ∈ right, Text.isBlank c = true)
include hright

theorem runsIntoExponent_append_blanks (ps : List Piece) :
    runsIntoExponent (ps ++ right.map .other) = runsIntoExponent ps := by
  induction ps with
  | nil =>
    cases right with
    | nil => rfl
    | cons c right =>
      have hc := (separates_of_isBlank (hright c List.mem_cons_self)).1.1
      rw [List.nil_append, List.map_cons, runsIntoExponent, isDigit_of_isContinue hc]
      rfl
  | cons p ps ih =>
    cases p with
    | other c => rw [List.cons_append, runsIntoExponent, runsIntoExponent, ih]
    | _ => rfl

theorem opensRepetition_append_blanks (word : Text) (ps : List Piece) :
    opensRepetition word (ps ++ right.map .other) = opensRepetition word ps := by
  cases ps with
  | nil =>
    cases right with
    | nil => rfl
    | cons c right =>
      obtain ⟨-, hplus, hminus⟩ := (separates_of_isBlank (hright c List.mem_cons_self)).1
      simp [opensRepetition, hplus, hminus]
  | cons p ps =>
    cases p with
    | other c =>
      rw [List.cons_append, opensRepetition, opensRepetition, runsIntoExponent_append_blanks hright]
    | _ => rfl

theorem repeatsExponent_append_blanks (ps : List Piece) :
    repeatsExponent (ps ++ right.map .other) = repeatsExponent ps := by
  induction ps with
  | nil =>
    have h := repeatsExponent_map_other right []
    rwa [List.append_nil] at h
  | cons p ps ih =>
    cases p with
    | exponent word =>
      rw [List.cons_append, repeatsExponent, repeatsExponent, opensRepetition_append_blanks hright, ih]
    | _ => exact ih

end

theorem repeatsExponent_trim {t : Text} : RepeatsExponent (Text.trim t) ↔ RepeatsExponent t := by
  obtain ⟨left, right, hleft, hright, h⟩ := Text.exists_trim t
  have hpieces := piecesOf_append_blanks hleft hright (Text.trim t)
  rw [← h] at hpieces
  rw [← repeatsExponent_piecesOf, ← repeatsExponent_piecesOf, hpieces, List.append_assoc,
    repeatsExponent_map_other, repeatsExponent_append_blanks hright]

section
variable {r : Text → Option Text} (hr : ∀ word v, r word = some v → IsGroup v)
include hr

theorem runsIntoExponent_flatMap_regrouped (ps : List Piece) :
    runsIntoExponent (ps.flatMap (regrouped r)) = runsIntoExponent ps := by
  induction ps with
  | nil => rfl
  | cons p ps ih =>
    rw [List.flatMap_cons]
    cases p with
    | other c =>
      show runsIntoExponent (.other c :: ps.flatMap (regrouped r)) = _
      rw [runsIntoExponent, runsIntoExponent, ih]
    | exponent word => rfl
    | name word glued =>
      rw [regrouped]
      cases hv : r word with
      | none => rfl
      | some v =>
        obtain ⟨body, rfl, -⟩ := hr word v hv
        rfl

theorem opensRepetition_flatMap_regrouped (word : Text) (ps : List Piece) :
    opensRepetition word (ps.flatMap (regrouped r)) = opensRepetition word ps := by
  cases ps with
  | nil => rfl
  | cons p ps =>
    rw [List.flatMap_cons]
    cases p with
    | other c =>
      show opensRepetition word (.other c :: ps.flatMap (regrouped r)) = _
      rw [opensRepetition, opensRepetition, runsIntoExponent_flatMap_regrouped hr]
    | exponent word => rfl
    | name w glued =>
      rw [regrouped]
      cases hv : r w with
      | none => rfl
      | some v =>
        obtain ⟨body, rfl, -⟩ := hr w v hv
        simp [opensRepetition]

theorem repeatsExponent_flatMap_regrouped (ps : List Piece) :
    repeatsExponent (ps.flatMap (regrouped r)) = repeatsExponent ps := by
  induction ps with
  | nil => rfl
  | cons p ps ih =>
    rw [List.flatMap_cons]
    cases p with
    | other c => exact ih
    | exponent word =>
      show repeatsExponent (.exponent word :: ps.flatMap (regrouped r)) = _
      rw [repeatsExponent, repeatsExponent, opensRepetition_flatMap_regrouped hr, ih]
    | name word glued =>
      rw [regrouped]
      cases r word with
      | none => exact ih
      | some v => exact (repeatsExponent_map_other v _).trans ih

/-- Groups in the places of names have no part in it. -/
theorem repeatsExponent_substitute {t : Text} :
    RepeatsExponent (substitute r t) ↔ RepeatsExponent t := by
  have hpieces : piecesOf (substitute r t) = (piecesOf t).flatMap (regrouped r) :=
    pieces_flatMap_replaced hr false t
  rw [← repeatsExponent_piecesOf, ← repeatsExponent_piecesOf, hpieces,
    repeatsExponent_flatMap_regrouped hr]

end

/-! ## Numbers among pieces -/

/-- No name among pieces is written against a number, and no exponent is repeated. -/
def NumbersApart (ps : List Piece) : Prop :=
  (∀ word, .name word true ∉ ps) ∧ repeatsExponent ps = false

theorem numbersApart_map_other_append (v : Text) (ps : List Piece) :
    NumbersApart (v.map .other ++ ps) ↔ NumbersApart ps := by
  rw [NumbersApart, repeatsExponent_map_other]
  refine and_congr_left fun _ => forall_congr' fun word => not_congr ?_
  rw [List.mem_append, or_iff_right (name_not_mem_map_other v word true)]

theorem numbersApart_exponent_cons {word : Text} {ps : List Piece} (h : opensRepetition word ps = false) :
    NumbersApart (.exponent word :: ps) ↔ NumbersApart ps := by
  rw [NumbersApart, repeatsExponent, h, Bool.false_or]
  simp [NumbersApart]

theorem numbersApart_name_cons {word : Text} {ps : List Piece} :
    NumbersApart (.name word false :: ps) ↔ NumbersApart ps := by
  rw [NumbersApart, repeatsExponent]
  · simp [NumbersApart]
  · simp

/-- A name directly behind a number is found unless it has the shape of an exponent. -/
theorem not_numbersApart_of_isStart {c : Char} (hc : isStart c = true) {rest : Text}
    (h : isExponentTail (c :: rest.takeWhile isContinue) (rest.dropWhile isContinue) = false) :
    ¬ NumbersApart (pieces true (c :: rest)) := by
  rw [pieces_start hc, h]
  exact fun hapart => hapart.1 _ List.mem_cons_self

/-- Behind the digits of a signed exponent it is found in any case. -/
theorem not_numbersApart_signed {mark sign c : Char} {digits rest : Text} (hmark : mark = 'e' ∨ mark = 'E')
    (hsign : sign = '+' ∨ sign = '-') (hne : digits ≠ []) (hdigits : ∀ d ∈ digits, d.isDigit = true)
    (hc : isStart c = true) : ¬ NumbersApart (pieces true (mark :: sign :: digits ++ c :: rest)) := by
  rw [pieces_signed hmark hne hdigits hsign]
  cases htail : isExponentTail (c :: rest.takeWhile isContinue) (rest.dropWhile isContinue) with
  | false =>
    refine fun hapart => not_numbersApart_of_isStart hc htail ⟨fun word hmem => hapart.1 word ?_, ?_⟩
    · exact List.mem_cons_of_mem _ (List.mem_cons_of_mem _ (List.mem_append_right _ hmem))
    · have h := (Bool.or_eq_false_iff.mp hapart.2).2
      rwa [repeatsExponent, repeatsExponent_map_other] at h
      simp
  | true =>
    intro hapart
    have hopens := (Bool.or_eq_false_iff.mp hapart.2).1
    rw [pieces_start hc, htail, Bool.true_and, if_pos rfl] at hopens
    refine Bool.false_ne_true (hopens.symm.trans (opensRepetition_iff.mpr
      ⟨mark, sign, _, rfl, rfl, hsign, runsIntoExponent_iff.mpr ⟨digits, _, _, rfl, hdigits⟩⟩))

end Name

namespace Expr
open Text

/-- A part of a text as an expression is read: a name, a number or a single character. -/
inductive Lexeme where
  | word (w : Text)
  | literal (l : Text)
  | other (c : Char)
  deriving DecidableEq, Repr

/-- The characters of a part. -/
def Lexeme.text : Lexeme → Text
  | .word w => w
  | .literal l => l
  | .other c => [c]

/-- A text read from the left with every name and every number as long as it can be. -/
def lexemes : Text → List Lexeme
  | [] => []
  | c :: rest =>
    if _hn : isNumeric c then
      .literal (splitLiteral (c :: rest)).1 :: lexemes (splitLiteral (c :: rest)).2
    else if Name.isStart c then
      .word (c :: rest.takeWhile Name.isContinue) :: lexemes (rest.dropWhile Name.isContinue)
    else .other c :: lexemes rest
termination_by t => t.length
decreasing_by
  · exact splitLiteral_shorter _hn
  · exact Nat.lt_succ_of_le (length_dropWhile_le _ _)
  · exact Nat.lt_succ_self _

/-- Put together again, the parts of a text are the text. -/
theorem flatMap_text_lexemes (t : Text) : (lexemes t).flatMap Lexeme.text = t := by
  fun_induction lexemes t with
  | case1 => rfl
  | case2 c rest _ ih => rw [List.flatMap_cons, ih, Lexeme.text, splitLiteral_append]
  | case3 c rest _ _ ih =>
    rw [List.flatMap_cons, ih, Lexeme.text, List.cons_append, List.takeWhile_append_dropWhile]
  | case4 c rest _ _ ih => rw [List.flatMap_cons, ih]; rfl

/-- No name starts directly behind a number. -/
def NumbersEnd (t : Text) : Prop :=
  ∀ before l after, lexemes t = before ++ .literal l :: after →
    ∀ c rest, after.flatMap Lexeme.text = c :: rest → Name.isStart c = false

/-! ## Reading part by part -/

theorem lexemes_literal {c : Char} (hc : isNumeric c = true) (rest : Text) :
    lexemes (c :: rest) =
      .literal (splitLiteral (c :: rest)).1 :: lexemes (splitLiteral (c :: rest)).2 := by
  rw [lexemes, dif_pos hc]

theorem lexemes_word {c : Char} (hc : Name.isStart c = true) (rest : Text) :
    lexemes (c :: rest) =
      .word (c :: rest.takeWhile Name.isContinue) :: lexemes (rest.dropWhile Name.isContinue) := by
  rw [lexemes, dif_neg (by rw [isNumeric_of_isStart hc]; exact Bool.false_ne_true), if_pos hc]

theorem lexemes_other {c : Char} (hn : isNumeric c = false) (hs : Name.isStart c = false)
    (rest : Text) : lexemes (c :: rest) = .other c :: lexemes rest := by
  rw [lexemes, dif_neg (by rw [hn]; exact Bool.false_ne_true),
    if_neg (by rw [hs]; exact Bool.false_ne_true)]

theorem numbersEnd_nil : NumbersEnd [] := by
  intro before l after h
  rw [lexemes] at h
  exact absurd h.symm (by simp)

/-- What a text needs for its numbers to end, its first part and the text behind it need. -/
theorem numbersEnd_iff_of_cons {t rest : Text} {x : Lexeme} (h : lexemes t = x :: lexemes rest) :
    NumbersEnd t ↔ (∀ l, x = .literal l → ∀ c more, rest = c :: more → Name.isStart c = false) ∧
      NumbersEnd rest := by
  constructor
  · intro hends
    refine ⟨?_, fun before l after hrest => hends (x :: before) l after (by rw [h, hrest]; rfl)⟩
    rintro l rfl c more rfl
    exact hends [] l _ h c more (flatMap_text_lexemes _)
  · rintro ⟨hfirst, hends⟩ before l after hcut
    rw [h] at hcut
    cases before with
    | nil =>
      obtain ⟨rfl, rfl⟩ := List.cons.inj hcut
      rw [flatMap_text_lexemes]
      exact hfirst l rfl
    | cons y before => exact hends before l after (List.cons.inj hcut).2

theorem numbersEnd_literal {c : Char} (hc : isNumeric c = true) (rest : Text) :
    NumbersEnd (c :: rest) ↔
      (∀ d more, (splitLiteral (c :: rest)).2 = d :: more → Name.isStart d = false) ∧
        NumbersEnd (splitLiteral (c :: rest)).2 := by
  rw [numbersEnd_iff_of_cons (lexemes_literal hc rest)]
  exact and_congr_left fun _ => ⟨fun h => h _ rfl, fun h _ _ => h⟩

/-! ## Where a number ends -/

/-- What has the shape of an exponent behind a number is one, whatever follows. -/
theorem splitExponent_ne_nil_of_isExponentTail {word after : Text}
    (h : Name.isExponentTail word after = true) :
    (Number.splitExponent Char.isDigit (word ++ after)).1 ≠ [] := by
  cases word with
  | nil => cases h
  | cons mark digits =>
    simp only [Name.isExponentTail, Bool.and_eq_true, Bool.or_eq_true, beq_iff_eq] at h
    obtain ⟨hmark, htail⟩ := h
    cases digits with
    | nil =>
      rw [List.isEmpty_nil, if_pos rfl] at htail
      cases after with
      | nil => cases htail
      | cons sign after =>
        cases after with
        | nil => cases htail
        | cons d more =>
          simp only [Name.opensSignedDigit, Bool.and_eq_true, Bool.or_eq_true, beq_iff_eq] at htail
          have hexponent : IsExponent [mark, sign, d] :=
            .signed hmark htail.1 (List.cons_ne_nil _ _) (by simpa using htail.2)
          exact splitExponent_append_ne_nil hexponent more
    | cons d digits =>
      rw [List.isEmpty_cons, if_neg Bool.false_ne_true, List.all_eq_true] at htail
      exact splitExponent_append_ne_nil (.unsigned hmark (List.cons_ne_nil _ _) htail) after

/-- An exponent takes all digits that there are. -/
theorem isDigit_behind_splitExponent {t : Text} (h : (Number.splitExponent Char.isDigit t).1 ≠ [])
    {c : Char} {more : Text} (hmore : (Number.splitExponent Char.isDigit t).2 = c :: more) :
    c.isDigit = false := by
  have hexponent := (isExponent_splitExponent t).resolve_left h
  have hcut := splitExponent_append hexponent (Number.splitExponent Char.isDigit t).2
  rw [Number.splitExponent_append] at hcut
  exact eq_false_of_dropWhile ((congrArg Prod.snd hcut).symm.trans hmore)

/-- A number is digits and points, and behind them a complete exponent if there is one. -/
theorem splitLiteral_cases {c : Char} (hc : isNumeric c = true) (rest : Text) :
    ∃ run tail, (splitLiteral (c :: rest)).1 = run ++ tail ∧ run ≠ [] ∧
      (∀ d ∈ run, isNumeric d = true) ∧
      (tail = [] ∧ (Number.splitExponent Char.isDigit (splitLiteral (c :: rest)).2).1 = [] ∨
        IsExponent tail ∧
          ∀ d more, (splitLiteral (c :: rest)).2 = d :: more → d.isDigit = false) := by
  refine ⟨(c :: rest).takeWhile isNumeric, _, rfl, ?_, List.all_eq_true.mp List.all_takeWhile, ?_⟩
  · rw [List.takeWhile_cons_of_pos hc]
    exact List.cons_ne_nil _ _
  · have hsplit : (splitLiteral (c :: rest)).2 =
        (Number.splitExponent Char.isDigit ((c :: rest).dropWhile isNumeric)).2 := rfl
    rw [hsplit]
    rcases isExponent_splitExponent ((c :: rest).dropWhile isNumeric) with hnil | hexponent
    · refine .inl ⟨hnil, ?_⟩
      have hwhole := Number.splitExponent_append Char.isDigit ((c :: rest).dropWhile isNumeric)
      rw [hnil, List.nil_append] at hwhole
      rw [hwhole, hnil]
    · refine .inr ⟨hexponent, fun d more => isDigit_behind_splitExponent ?_⟩
      intro hnil
      rw [hnil] at hexponent
      cases hexponent

/-! ## Both readings -/

section
open Name

/-- Behind a number, pieces and parts go on together unless a name starts there. -/
theorem numbersApart_tail_append {tail more : Text}
    (h : tail = [] ∧ (Number.splitExponent Char.isDigit more).1 = [] ∨
      IsExponent tail ∧ ∀ d rest, more = d :: rest → d.isDigit = false) :
    NumbersApart (pieces true (tail ++ more)) ↔
      (∀ d rest, more = d :: rest → isStart d = false) ∧ NumbersApart (pieces false more) := by
  by_cases hstart : ∀ d rest, more = d :: rest → isStart d = false
  · rw [and_iff_right hstart]
    rcases h with ⟨rfl, -⟩ | ⟨hexponent, hdigit⟩
    · rw [List.nil_append, pieces_of_not_isStart hstart]
    · have hstop : ∀ d rest, more = d :: rest → isContinue d = false := fun d rest heq => by
        rw [isContinue_eq, hstart d rest heq, hdigit d rest heq, Bool.or_false]
      cases hexponent with
      | @unsigned mark digits hmark hne hdigits =>
        rw [pieces_unsigned hmark hne hdigits hstop]
        refine numbersApart_exponent_cons (Bool.eq_false_iff.mpr fun hopens => ?_)
        obtain ⟨mark', -, -, hword, -⟩ := opensRepetition_iff.mp hopens
        exact hne (List.cons.inj hword).2
      | @signed mark sign digits hmark hsign hne hdigits =>
        rw [pieces_signed hmark hne hdigits hsign, pieces_of_not_isStart hstart]
        have hopens : opensRepetition [mark]
            (.other sign :: (digits.map .other ++ pieces false more)) = false := by
          rw [opensRepetition, runsIntoExponent_map_other hdigits, runsIntoExponent_pieces hstop,
            Bool.and_false]
        rw [numbersApart_exponent_cons hopens]
        exact numbersApart_map_other_append (sign :: digits) _
  · refine iff_of_false ?_ fun hboth => hstart hboth.1
    obtain ⟨d, rest, rfl, hd⟩ : ∃ d rest, more = d :: rest ∧ isStart d = true := by
      simpa using hstart
    rcases h with ⟨rfl, hnone⟩ | ⟨hexponent, hdigit⟩
    · refine not_numbersApart_of_isStart hd (Bool.eq_false_iff.mpr fun htail => ?_)
      have hcut : d :: rest.takeWhile isContinue ++ rest.dropWhile isContinue = d :: rest := by
        rw [List.cons_append, List.takeWhile_append_dropWhile]
      exact splitExponent_ne_nil_of_isExponentTail htail (hcut ▸ hnone)
    · cases hexponent with
      | @unsigned mark digits hmark hne hdigits =>
        -- The name continues the word that the mark starts, and so it is not digits only.
        rw [List.cons_append]
        refine not_numbersApart_of_isStart (isStart_of_mark hmark) ?_
        have hword : (digits ++ d :: rest).takeWhile isContinue =
            digits ++ d :: rest.takeWhile isContinue := by
          rw [List.takeWhile_append_of_pos fun c hc => by
            rw [isContinue_eq, hdigits c hc, Bool.or_true],
            List.takeWhile_cons_of_pos (isContinue_of_isStart hd)]
        rw [hword, isExponentTail]
        simp [isDigit_of_isStart hd]
      | signed hmark hsign hne hdigits => exact not_numbersApart_signed hmark hsign hne hdigits hd

end

theorem numbersEnd_iff_numbersApart {t : Text} :
    NumbersEnd t ↔ Name.NumbersApart (Name.piecesOf t) := by
  unfold Name.piecesOf
  fun_induction lexemes t with
  | case1 =>
    rw [Name.pieces_nil]
    exact iff_of_true numbersEnd_nil ⟨fun _ => List.not_mem_nil, rfl⟩
  | case2 c rest hc ih =>
    obtain ⟨run, tail, hliteral, hne, hrun, htail⟩ := splitLiteral_cases hc rest
    have hcut : c :: rest = run ++ (tail ++ (splitLiteral (c :: rest)).2) := by
      rw [← List.append_assoc, ← hliteral, splitLiteral_append]
    calc
      NumbersEnd (c :: rest) ↔
          (∀ d more, (splitLiteral (c :: rest)).2 = d :: more → Name.isStart d = false) ∧
            Name.NumbersApart (Name.pieces false (splitLiteral (c :: rest)).2) := by
        rw [numbersEnd_literal hc, ih]
      _ ↔ Name.NumbersApart (Name.pieces true (tail ++ (splitLiteral (c :: rest)).2)) :=
        (numbersApart_tail_append htail).symm
      _ ↔ Name.NumbersApart (Name.pieces false (run ++ (tail ++ (splitLiteral (c :: rest)).2))) := by
        rw [Name.pieces_run hrun hne, Name.numbersApart_map_other_append]
      _ ↔ Name.NumbersApart (Name.pieces false (c :: rest)) := by rw [← hcut]
  | case3 c rest _ hc ih =>
    rw [numbersEnd_iff_of_cons (lexemes_word hc rest), and_iff_right nofun, ih,
      Name.pieces_start hc, Bool.false_and, if_neg Bool.false_ne_true, Name.numbersApart_name_cons]
  | case4 c rest hn hs ih =>
    rw [Bool.not_eq_true] at hn hs
    have hnumber : Name.endsNumber c = false := hn
    rw [numbersEnd_iff_of_cons (lexemes_other hn hs rest), and_iff_right nofun, ih,
      Name.pieces_other hs, hnumber]
    exact (Name.numbersApart_map_other_append [c] _).symm

/-- No name starts behind a number exactly if none is found there and no exponent is repeated. -/
theorem numbersEnd_iff {t : Text} :
    NumbersEnd t ↔ Name.gluedName? t = none ∧ ¬ Name.RepeatsExponent t := by
  rw [numbersEnd_iff_numbersApart, Name.gluedName?_eq_none_iff, ← Name.repeatsExponent_piecesOf,
    Bool.not_eq_true]
  rfl

end Expr
end Equate
