import Equate.Proofs.Directive.Reading
import Equate.Proofs.Name.Glued
import Equate.Proofs.Parameter.Substitution
import Equate.Proofs.Text.Part

/-!
# The words that open directives

A line opens with a directive if its first word is one of two, compared without case. The
blanks around the line have no part in it, and neither has anything behind the word. Written
in ASCII the word is reserved, so no parameter takes its place. With one of the two letters
beyond ASCII that fold to ASCII letters it is cut into shorter names, and these can be
parameters: then a directive ceases to be one when names are replaced.
-/
namespace Equate.Directive
open Text

theorem dropWord?_eq_some_iff {word t rest : Text} :
    dropWord? word t = some rest ↔ ∃ front, t = front ++ rest ∧ front.map foldCase = word := by
  induction word generalizing t with
  | nil =>
    rw [dropWord?, Option.some.injEq]
    constructor
    · rintro rfl
      exact ⟨[], rfl, rfl⟩
    · rintro ⟨front, rfl, hfront⟩
      rw [List.map_eq_nil_iff.mp hfront, List.nil_append]
  | cons w word ih =>
    cases t with
    | nil =>
      refine iff_of_false nofun ?_
      rintro ⟨front, h, hfront⟩
      rw [(List.append_eq_nil_iff.mp h.symm).1] at hfront
      cases hfront
    | cons c t =>
      rw [dropWord?]
      constructor
      · intro h
        split at h
        · next hc =>
          obtain ⟨front, rfl, rfl⟩ := ih.mp h
          exact ⟨c :: front, rfl, by rw [List.map_cons, hc]⟩
        · cases h
      · rintro ⟨front, h, hfront⟩
        obtain ⟨d, front, rfl, hd, rfl⟩ := List.map_eq_cons_iff.mp hfront
        obtain ⟨rfl, rfl⟩ := List.cons.inj h
        rw [if_pos hd]
        exact ih.mpr ⟨front, rfl, rfl⟩

/-- The words that open a directive. -/
def openings : List Text := ["guess", "keep"]

/-- The word that a line opens with, behind its blanks. -/
def openingWord (line : Text) : Text := (trimStart line).takeWhile isWordCharacter

/-- The kind of directive that a word opens. -/
def kindOfWord? (word : Text) : Option Kind :=
  if word.map foldCase = ("guess" : Text) then
    some (if word.map Char.toLower = ("guess" : Text) then .guess else .keep)
  else if word.map foldCase = ("keep" : Text) then some .keep
  else none

theorem isSome_kindOfWord? {word : Text} :
    (kindOfWord? word).isSome = true ↔ word.map foldCase ∈ openings := by
  unfold kindOfWord? openings
  split
  · next h => simp [h]
  · next hguess =>
    split
    · next h => simp [h]
    · next hkeep =>
      refine iff_of_false Bool.false_ne_true fun hmem => ?_
      rcases List.mem_cons.mp hmem with h | h
      · exact hguess h
      · exact hkeep (List.mem_singleton.mp h)

/-! ## The letters of an opening -/

theorem foldCase_of_ne {c : Char} (hs : c ≠ '\u017f') (hk : c ≠ '\u212a') :
    foldCase c = c.toLower := by
  rw [foldCase, if_neg hs, if_neg hk]

theorem isStart_of_toLower {c : Char} (h : Name.isStart c.toLower = true) : Name.isStart c = true := by
  rw [Name.isStart_iff_toNat] at h ⊢
  unfold Char.toLower at h
  split at h
  · next hupper =>
    have : 65 ≤ c.toNat ∧ c.toNat ≤ 90 := by
      simpa [Char.isUpper, Char.le_def, UInt32.le_iff_toNat_le] using hupper
    exact .inl this
  · exact h

section
variable {c : Char} (h : Name.isStart (foldCase c) = true)
include h

/-- What folds to a letter of ASCII is one of them or one of two others. -/
theorem letter_of_foldCase : Name.isStart c = true ∨ c = '\u017f' ∨ c = '\u212a' := by
  by_cases hs : c = '\u017f'
  · exact .inr (.inl hs)
  by_cases hk : c = '\u212a'
  · exact .inr (.inr hk)
  · rw [foldCase_of_ne hs hk] at h
    exact .inl (isStart_of_toLower h)

theorem isWordCharacter_of_foldCase : isWordCharacter c = true := by
  rcases letter_of_foldCase h with hstart | rfl | rfl
  · have hcontinue := Name.isContinue_of_isStart hstart
    rw [isWordCharacter, Bool.or_eq_true]
    exact .inl hcontinue
  · decide +kernel
  · decide +kernel

end

section
variable {word : Text} (h : word.map foldCase ∈ openings) {c : Char} (hc : c ∈ word)
include h

theorem ne_nil_of_folded : word ≠ [] := by
  rintro rfl
  exact absurd h (by decide)

include hc

theorem isStart_of_folded : Name.isStart (foldCase c) = true := by
  have hopenings : ∀ word ∈ openings, word.all Name.isStart = true := by decide
  exact List.all_eq_true.mp (hopenings _ h) _ (List.mem_map_of_mem hc)

theorem letter_of_folded : Name.isStart c = true ∨ c = '\u017f' ∨ c = '\u212a' :=
  letter_of_foldCase (isStart_of_folded h hc)

theorem isWordCharacter_of_folded : isWordCharacter c = true :=
  isWordCharacter_of_foldCase (isStart_of_folded h hc)

theorem isBlank_of_folded : isBlank c = false :=
  isBlank_of_isWordCharacter (isWordCharacter_of_folded h hc)

theorem endsNumber_of_folded : Name.endsNumber c = false := by
  rcases letter_of_folded h hc with hstart | rfl | rfl
  · have hpoint : (c == '.') = false := by
      rw [beq_eq_false_iff_ne]
      rintro rfl
      exact absurd hstart (by decide)
    rw [Name.endsNumber, Name.isDigit_of_isStart hstart, hpoint, Bool.or_false]
  · decide
  · decide

end

theorem trimStart_append_of_folded {word : Text} (h : word.map foldCase ∈ openings) {blanks : Text}
    (hblanks : ∀ c ∈ blanks, isBlank c = true) (t : Text) :
    trimStart (blanks ++ (word ++ t)) = word ++ t := by
  obtain ⟨c, word, rfl⟩ := List.exists_cons_of_ne_nil (ne_nil_of_folded h)
  rw [trimStart, List.dropWhile_append_of_pos hblanks]
  refine trimStart_eq_self fun d more heq => ?_
  cases (List.cons.inj heq).1
  exact isBlank_of_folded h List.mem_cons_self

/-! ## The kind of a line -/

theorem startsInWord_dropWhile (t : Text) : startsInWord (t.dropWhile isWordCharacter) = false := by
  cases hrest : t.dropWhile isWordCharacter with
  | nil => rfl
  | cons c rest =>
    have hc : isWordCharacter c = false := eq_false_of_dropWhile hrest
    exact hc

theorem isWordCharacter_of_startsInWord {t : Text} (h : startsInWord t = false) (c : Char)
    (rest : Text) (ht : t = c :: rest) : isWordCharacter c = false := by
  subst ht
  exact h

/-- One of the words stands in front with no word character behind it if it is the first word. -/
theorem dropWord?_opening_iff (t : Text) {word : Text} (hword : word ∈ openings) :
    (∃ rest, dropWord? word t = some rest ∧ startsInWord rest = false) ↔
      (t.takeWhile isWordCharacter).map foldCase = word := by
  constructor
  · rintro ⟨rest, hrest, hstop⟩
    obtain ⟨front, rfl, rfl⟩ := dropWord?_eq_some_iff.mp hrest
    rw [(cut_append (fun c => isWordCharacter_of_folded hword)
      (isWordCharacter_of_startsInWord hstop)).1]
  · intro h
    exact ⟨_, dropWord?_eq_some_iff.mpr ⟨_, List.takeWhile_append_dropWhile.symm, h⟩,
      startsInWord_dropWhile t⟩

/-- No text starts with both words, as their first letters differ. -/
theorem dropWord?_guess_of_keep {t rest : Text} (h : dropWord? "keep" t = some rest) :
    dropWord? "guess" t = none := by
  obtain ⟨front, rfl, hfront⟩ := dropWord?_eq_some_iff.mp h
  obtain ⟨c, front, rfl, hc, -⟩ := List.map_eq_cons_iff.mp hfront
  exact if_neg fun h => absurd (hc.symm.trans h) (by decide)

/-- The first word decides. -/
theorem kind?_eq (line : Text) : kind? line = kindOfWord? (openingWord line) := by
  unfold kind? openingWord kindOfWord?
  generalize trimStart line = t
  have hguess := dropWord?_opening_iff t (show ("guess" : Text) ∈ openings by decide)
  have hkeep := dropWord?_opening_iff t (show ("keep" : Text) ∈ openings by decide)
  dsimp only
  by_cases hg : (t.takeWhile isWordCharacter).map foldCase = ("guess" : Text)
  · obtain ⟨rest, hrest, hstop⟩ := hguess.mpr hg
    have htake : t.take 5 = t.takeWhile isWordCharacter := by
      have hlength : (t.takeWhile isWordCharacter).length = 5 := by
        rw [← List.length_map foldCase, hg]
        rfl
      rw [← hlength]
      exact (List.prefix_iff_eq_take.mp (List.takeWhile_prefix _)).symm
    rw [hrest, if_pos hg]
    dsimp only
    rw [hstop, if_neg Bool.false_ne_true, htake]
    split <;> rfl
  · rw [if_neg hg]
    by_cases hk : (t.takeWhile isWordCharacter).map foldCase = ("keep" : Text)
    · obtain ⟨rest, hrest, hstop⟩ := hkeep.mpr hk
      rw [dropWord?_guess_of_keep hrest, hrest, if_pos hk]
      dsimp only
      rw [hstop, if_neg Bool.false_ne_true]
    · rw [if_neg hk]
      split
      · next rest hrest =>
        split
        · rfl
        · next hstop => exact absurd (hguess.mp ⟨rest, hrest, by simpa using hstop⟩) hg
      · split
        · next rest hrest =>
          split
          · rfl
          · next hstop => exact absurd (hkeep.mp ⟨rest, hrest, by simpa using hstop⟩) hk
        · rfl

/-- What a line opens with does not change when it is cut at its ends. -/
theorem kind?_trim (line : Text) : kind? (trim line) = kind? line := by
  have hstart : trimStart (trim line) = trim line :=
    trimStart_eq_self fun _ _ => isBlank_of_trim_eq_cons
  obtain ⟨blanks, hblanks, hline⟩ := trimStart_eq_append line
  have hstop : ∀ c more, blanks = c :: more → isWordCharacter c = false := by
    rintro c more rfl
    exact isWordCharacter_of_isBlank (hblanks c List.mem_cons_self)
  rw [kind?_eq, kind?_eq, openingWord, openingWord, hstart, hline, takeWhile_append_of_stop hstop]

/-- A line with its opening taken out of it. -/
theorem exists_opening {line : Text} {kind : Kind} (h : kind? line = some kind) :
    ∃ blanks rest, line = blanks ++ (openingWord line ++ rest) ∧ (∀ c ∈ blanks, isBlank c = true) ∧
      (openingWord line).map foldCase ∈ openings ∧ startsInWord rest = false := by
  rw [kind?_eq] at h
  refine ⟨line.takeWhile isBlank, (trimStart line).dropWhile isWordCharacter, ?_,
    List.all_eq_true.mp List.all_takeWhile, ?_, startsInWord_dropWhile _⟩
  · rw [openingWord, List.takeWhile_append_dropWhile, trimStart, List.takeWhile_append_dropWhile]
  · rw [← isSome_kindOfWord?, h]
    rfl

/-- The word of a guess is compared in ASCII. -/
theorem ne_of_mem_openingWord {line : Text} (h : kind? line = some .guess) {c : Char}
    (hc : c ∈ openingWord line) : c ≠ '\u017f' ∧ c ≠ '\u212a' := by
  have hlower : (openingWord line).map Char.toLower = ("guess" : Text) := by
    rw [kind?_eq, kindOfWord?] at h
    split at h
    · split at h
      · assumption
      · cases h
    · split at h <;> cases h
  have hmem : c.toLower ∈ ("guess" : Text) := hlower ▸ List.mem_map_of_mem hc
  constructor <;> rintro rfl <;> exact absurd hmem (by decide)

/-! ## Names replaced in a line -/

theorem isContinue_of_startsInWord {t : Text} (h : startsInWord t = false) (c : Char) (rest : Text)
    (ht : t = c :: rest) : Name.isContinue c = false := by
  have hc := isWordCharacter_of_startsInWord h c rest ht
  rw [isWordCharacter, Bool.or_eq_false_iff] at hc
  exact hc.1

theorem startsInWord_substitute {r : Text → Option Text} {t : Text} (h : startsInWord t = false) :
    startsInWord (Name.substitute r t) = false := by
  cases t with
  | nil => rw [Name.substitute_nil]; rfl
  | cons c t =>
    have hstart := Name.isStart_of_isContinue (isContinue_of_startsInWord h c t rfl)
    rw [Name.substitute_eq_flatMap, Name.piecesOf, Name.pieces_other hstart]
    exact h

theorem substitute_append_blanks {r : Text → Option Text} {blanks : Text}
    (h : ∀ c ∈ blanks, isBlank c = true) (t : Text) :
    Name.substitute r (blanks ++ t) = blanks ++ Name.substitute r t := by
  induction blanks with
  | nil => rfl
  | cons c blanks ih =>
    obtain ⟨hc, hblanks⟩ := List.forall_mem_cons.mp h
    obtain ⟨hsep, hnumber⟩ := Name.separates_of_isBlank hc
    rw [List.cons_append, Name.substitute_cons (Name.isStart_of_isContinue hsep.1) hnumber,
      ih hblanks, List.cons_append]

/-- The names in the first word are replaced on their own. -/
theorem substitute_opening {r : Text → Option Text} {blanks word rest : Text}
    (hblanks : ∀ c ∈ blanks, isBlank c = true) (hword : word.map foldCase ∈ openings)
    (hstop : startsInWord rest = false) :
    Name.substitute r (blanks ++ (word ++ rest)) =
      blanks ++ (Name.substitute r word ++ Name.substitute r rest) := by
  rw [substitute_append_blanks hblanks,
    Name.substitute_append_of_stop (fun c => endsNumber_of_folded hword)
      (isContinue_of_startsInWord hstop)]

/-- None of the words is a part of another at its front. -/
theorem kindOfWord?_eq_none_of_prefix {front word : Text} (hword : word.map foldCase ∈ openings)
    (hfront : front <+: word) (hlt : front.length < word.length) : kindOfWord? front = none := by
  have hopenings : ∀ a ∈ openings, ∀ b ∈ openings, a <+: b → a = b := by decide
  rw [← Option.not_isSome_iff_eq_none, isSome_kindOfWord?]
  intro h
  have hlength := congrArg List.length (hopenings _ h _ hword (hfront.map foldCase))
  rw [List.length_map, List.length_map] at hlength
  omega

section
variable {r : Text → Option Text} {line : Text} {kind : Kind} (h : kind? line = some kind)
include h

/-- Without a name to be replaced in its word a directive stays one. -/
theorem kind?_substitute_of_kept
    (hnames : ∀ name glued, .name name glued ∈ Name.piecesOf (openingWord line) → r name = none) :
    kind? (Name.substitute r line) = some kind := by
  obtain ⟨blanks, rest, hline, hblanks, hfolded, hstop⟩ := exists_opening h
  have hnew : Name.substitute r line = blanks ++ (openingWord line ++ Name.substitute r rest) := by
    conv => lhs; rw [hline]
    rw [substitute_opening hblanks hfolded hstop, Name.substitute_eq_self hnames]
  have hword : openingWord (Name.substitute r line) = openingWord line := by
    rw [hnew, openingWord, trimStart_append_of_folded hfolded hblanks]
    exact (cut_append (fun c => isWordCharacter_of_folded hfolded)
      (isWordCharacter_of_startsInWord (startsInWord_substitute hstop))).1
  rw [kind?_eq, hword, ← kind?_eq, h]

variable {name : Text} {glued : Bool}
  (hname : .name name glued ∈ Name.piecesOf (openingWord line)) (hsome : r name ≠ none)
include hname hsome

/-- With a group in its word it is none any more. -/
theorem kind?_substitute_of_replaced (hr : ∀ word v, r word = some v → ∃ more, v = '(' :: more) :
    kind? (Name.substitute r line) = none := by
  obtain ⟨blanks, rest, hline, hblanks, hfolded, hstop⟩ := exists_opening h
  obtain ⟨front, more, hfront, hstarts, hlt⟩ := Name.exists_front_of_replaced hr hname hsome
  have hnew : Name.substitute r line = blanks ++ (front ++ '(' :: (more ++ Name.substitute r rest)) := by
    conv => lhs; rw [hline]
    rw [substitute_opening hblanks hfolded hstop, hfront, List.append_assoc, List.cons_append]
  have hstart : trimStart (Name.substitute r line) = front ++ '(' :: (more ++ Name.substitute r rest) := by
    rw [hnew, trimStart, List.dropWhile_append_of_pos hblanks]
    refine trimStart_eq_self fun c rest heq => ?_
    cases front with
    | nil =>
      cases (List.cons.inj heq).1
      decide
    | cons d front =>
      cases (List.cons.inj heq).1
      exact isBlank_of_folded hfolded (hstarts.subset List.mem_cons_self)
  have hword : openingWord (Name.substitute r line) = front := by
    rw [openingWord, hstart]
    refine (cut_append (fun c hc => isWordCharacter_of_folded hfolded (hstarts.subset hc))
      fun c rest heq => ?_).1
    cases (List.cons.inj heq).1
    decide
  rw [kind?_eq, hword, kindOfWord?_eq_none_of_prefix hfolded hstarts hlt]

/-- In ASCII the word is one name, and not replaced where no opening is. -/
theorem mem_openingWord_of_replaced (hr : ∀ word, word.map Char.toLower ∈ openings → r word = none) :
    '\u017f' ∈ openingWord line ∨ '\u212a' ∈ openingWord line := by
  obtain ⟨blanks, rest, hline, hblanks, hfolded, hstop⟩ := exists_opening h
  refine or_iff_not_and_not.mpr fun ⟨hs, hk⟩ => hsome ?_
  have hletters : ∀ c ∈ openingWord line, Name.isStart c = true := by
    intro c hc
    rcases letter_of_folded hfolded hc with hstart | rfl | rfl
    · exact hstart
    · exact absurd hc hs
    · exact absurd hc hk
  have hlower : (openingWord line).map foldCase = (openingWord line).map Char.toLower := by
    refine List.map_congr_left fun c hc => foldCase_of_ne ?_ ?_
    · rintro rfl
      exact hs hc
    · rintro rfl
      exact hk hc
  have hpieces : Name.piecesOf (openingWord line) = [.name (openingWord line) false] :=
    Name.piecesOf_of_isIdentifier (Name.isIdentifier_of_isStart (ne_nil_of_folded hfolded) hletters)
  rw [hpieces] at hname
  cases List.mem_singleton.mp hname
  exact hr _ (hlower ▸ hfolded)

end

/-- A directive whose word is written in ASCII stays one when names are replaced, if its
word is none of them. -/
theorem directs_substitute {r : Text → Option Text} {line : Text}
    (hr : ∀ word, word.map Char.toLower ∈ openings → r word = none)
    (hs : '\u017f' ∉ line) (hk : '\u212a' ∉ line) (h : directs line = true) :
    directs (Name.substitute r line) = true := by
  obtain ⟨kind, hkind⟩ := Option.isSome_iff_exists.mp h
  have hpart : ∀ {c}, c ∈ openingWord line → c ∈ line := fun hc =>
    (List.dropWhile_suffix isBlank).subset ((List.takeWhile_prefix isWordCharacter).subset hc)
  have hnew : kind? (Name.substitute r line) = some kind := by
    refine kind?_substitute_of_kept hkind fun name glued hname => ?_
    by_contra hsome
    rcases mem_openingWord_of_replaced hkind hname hsome hr with hmem | hmem
    · exact hs (hpart hmem)
    · exact hk (hpart hmem)
  rw [directs, hnew]
  rfl

end Equate.Directive
