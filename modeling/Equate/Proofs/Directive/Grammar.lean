import Equate.Proofs.Directive.Form
import Equate.Proofs.Directive.Reading

/-!
# What lines with directives say

A line that opens with a directive is read if it has the form of its kind, its numbers are
written in the digits of ASCII and the ends of a bound are in order. The texts of the form and
the parts of its numbers are then determined by the line. Every other such line is a fault. A line
with the form of one kind opens with that kind, but for guesses with a long s in their first word.
-/
namespace Equate.Directive
open Text Success

/-- A line has the form of a guess, and its number is a literal in the digits of ASCII. -/
structure GuessForm.Spells (f : GuessForm) (l : Number.Literal) (line : Text) : Prop where
  form : f.Matches
  text : f.text = line
  number : l.WellFormed Char.isDigit
  literal : l.text = f.number

/-- A line has the form of a bound, and its ends are literals in the digits of ASCII. -/
structure KeepForm.Spells (f : KeepForm) (low high : Number.Literal) (line : Text) : Prop where
  form : f.Matches
  text : f.text = line
  lowNumber : low.WellFormed Char.isDigit
  lowText : low.text = f.low
  highNumber : high.WellFormed Char.isDigit
  highText : high.text = f.high

theorem GuessForm.Matches.exists_literal {f : GuessForm} (h : f.Matches) :
    ∃ l : Number.Literal, l.WellFormed isDecimalDigit ∧ l.text = f.number := by
  obtain ⟨-, -, -, hnumber, -⟩ := matches_iff.mp h
  exact Part.accepts_number_iff.mp hnumber

theorem KeepForm.Matches.exists_literals {f : KeepForm} (h : f.Matches) :
    (∃ l : Number.Literal, l.WellFormed isDecimalDigit ∧ l.text = f.low) ∧
      ∃ l : Number.Literal, l.WellFormed isDecimalDigit ∧ l.text = f.high := by
  obtain ⟨-, -, -, -, -, -, -, -, hlow, -, -, hhigh, -⟩ := matches_iff.mp h
  exact ⟨Part.accepts_number_iff.mp hlow, Part.accepts_number_iff.mp hhigh⟩

/-- A guess is read from the lines that spell it. -/
theorem readGuess_eq_ok_iff_spells {n : Nat} {line : Text} {g : Guess} :
    readGuess n line = .ok g ↔
      ∃ (f : GuessForm) (l : Number.Literal), f.Spells l line ∧ g = ⟨n, f.name, l.value⟩ := by
  rw [readGuess_eq_ok]
  constructor
  · rintro ⟨number, name, value, hparts, hvalue, rfl⟩
    obtain ⟨f, hf, htext, rfl, rfl⟩ := guessParts?_eq_some_iff.mp hparts
    obtain ⟨l, hl, hnumber, rfl⟩ := (Number.readSigned?_eq_some_iff hf.exists_literal).mp hvalue
    exact ⟨f, l, ⟨hf, htext, hl, hnumber⟩, rfl⟩
  · rintro ⟨f, l, h, rfl⟩
    have hvalue := (Number.readSigned?_eq_some_iff h.form.exists_literal).mpr
      ⟨l, h.number, h.literal, rfl⟩
    exact ⟨_, _, _, guessParts?_eq_some_iff.mpr ⟨f, h.form, h.text, rfl, rfl⟩, hvalue, rfl⟩

/-- So is a bound, if its ends are in order. -/
theorem readKeep_eq_ok_iff_spells {n : Nat} {line : Text} {k : Keep} :
    readKeep n line = .ok k ↔
      ∃ (f : KeepForm) (low high : Number.Literal), f.Spells low high line ∧
        low.value ≤ high.value ∧ k = ⟨n, f.name, ⟨low.value, high.value⟩⟩ := by
  rw [readKeep_eq_ok]
  constructor
  · rintro ⟨name, lowText, highText, low, high, hparts, hlow, hhigh, hle, rfl⟩
    obtain ⟨f, hf, htext, rfl, rfl, rfl⟩ := keepParts?_eq_some_iff.mp hparts
    obtain ⟨hexistsLow, hexistsHigh⟩ := hf.exists_literals
    obtain ⟨l, hl, hlowText, rfl⟩ := (Number.readSigned?_eq_some_iff hexistsLow).mp hlow
    obtain ⟨h, hh, hhighText, rfl⟩ := (Number.readSigned?_eq_some_iff hexistsHigh).mp hhigh
    exact ⟨f, l, h, ⟨hf, htext, hl, hlowText, hh, hhighText⟩, hle, rfl⟩
  · rintro ⟨f, low, high, h, hle, rfl⟩
    obtain ⟨hexistsLow, hexistsHigh⟩ := h.form.exists_literals
    have hlow := (Number.readSigned?_eq_some_iff hexistsLow).mpr ⟨low, h.lowNumber, h.lowText, rfl⟩
    have hhigh := (Number.readSigned?_eq_some_iff hexistsHigh).mpr ⟨high, h.highNumber, h.highText, rfl⟩
    exact ⟨_, _, _, _, _, keepParts?_eq_some_iff.mpr ⟨f, h.form, h.text, rfl, rfl, rfl⟩, hlow, hhigh,
      hle, rfl⟩

/-! ## The parts are determined -/

theorem GuessForm.Spells.unique {line : Text} {f f' : GuessForm} {l l' : Number.Literal}
    (h : f.Spells l line) (h' : f'.Spells l' line) : f = f' ∧ l = l' := by
  obtain rfl := h.form.eq_of_text h'.form (h.text.trans h'.text.symm)
  exact ⟨rfl, h.number.eq_of_text Number.isDigit_marks h'.number (h.literal.trans h'.literal.symm)⟩

theorem KeepForm.Spells.unique {line : Text} {f f' : KeepForm} {low high low' high' : Number.Literal}
    (h : f.Spells low high line) (h' : f'.Spells low' high' line) :
    f = f' ∧ low = low' ∧ high = high' := by
  obtain rfl := h.form.eq_of_text h'.form (h.text.trans h'.text.symm)
  exact ⟨rfl, h.lowNumber.eq_of_text Number.isDigit_marks h'.lowNumber (h.lowText.trans h'.lowText.symm),
    h.highNumber.eq_of_text Number.isDigit_marks h'.highNumber (h.highText.trans h'.highText.symm)⟩

/-! ## A line on its own -/

section
variable {line : Text} (hline : '\n' ∉ line)
include hline

theorem linesOfKind_of_line {kind : Kind} (hkind : kind? line = some kind) :
    linesOfKind kind line = [(line, 1)] := by
  have hne : line ≠ [] := by
    rintro rfl
    cases hkind
  simp [linesOfKind, numberedLines, lines_of_newline_not_mem hline, hne, hkind]

theorem guesses_of_line (hkind : kind? line = some .guess) :
    guesses line = (readGuess 1 line).map fun g => [g] := by
  rw [guesses, linesOfKind_of_line hline hkind, List.mapM_cons, List.mapM_nil]
  dsimp only
  cases readGuess 1 line <;> rfl

theorem keeps_of_line (hkind : kind? line = some .keep) :
    keeps line = (readKeep 1 line).map fun k => [k] := by
  rw [keeps, linesOfKind_of_line hline hkind, List.mapM_cons, List.mapM_nil]
  dsimp only
  cases readKeep 1 line <;> rfl

theorem guesses_of_line_eq_ok (hkind : kind? line = some .guess) {gs : List Guess} :
    guesses line = .ok gs ↔
      ∃ (f : GuessForm) (l : Number.Literal), f.Spells l line ∧ gs = [⟨1, f.name, l.value⟩] := by
  rw [guesses_of_line hline hkind, map_eq_ok]
  simp only [readGuess_eq_ok_iff_spells]
  constructor
  · rintro ⟨_, ⟨f, l, h, rfl⟩, rfl⟩
    exact ⟨f, l, h, rfl⟩
  · rintro ⟨f, l, h, rfl⟩
    exact ⟨_, ⟨f, l, h, rfl⟩, rfl⟩

theorem keeps_of_line_eq_ok (hkind : kind? line = some .keep) {ks : List Keep} :
    keeps line = .ok ks ↔
      ∃ (f : KeepForm) (low high : Number.Literal), f.Spells low high line ∧
        low.value ≤ high.value ∧ ks = [⟨1, f.name, ⟨low.value, high.value⟩⟩] := by
  rw [keeps_of_line hline hkind, map_eq_ok]
  simp only [readKeep_eq_ok_iff_spells]
  constructor
  · rintro ⟨_, ⟨f, low, high, h, hle, rfl⟩, rfl⟩
    exact ⟨f, low, high, h, hle, rfl⟩
  · rintro ⟨f, low, high, h, hle, rfl⟩
    exact ⟨_, ⟨f, low, high, h, hle, rfl⟩, rfl⟩

theorem exists_cause_of_guess_line (hkind : kind? line = some .guess)
    (hnone : ¬∃ (f : GuessForm) (l : Number.Literal), f.Spells l line) :
    ∃ cause : Cause, guesses line = .error (cause.fault 1 line) := by
  cases hread : readGuess 1 line with
  | ok g =>
    obtain ⟨f, l, h, -⟩ := readGuess_eq_ok_iff_spells.mp hread
    exact absurd ⟨f, l, h⟩ hnone
  | error e =>
    obtain ⟨cause, rfl⟩ := readGuess_eq_error hread
    exact ⟨cause, by rw [guesses_of_line hline hkind, hread, map_error]⟩

theorem exists_cause_of_keep_line (hkind : kind? line = some .keep)
    (hnone : ¬∃ (f : KeepForm) (low high : Number.Literal), f.Spells low high line ∧
      low.value ≤ high.value) :
    ∃ cause : Cause, keeps line = .error (cause.fault 1 line) := by
  cases hread : readKeep 1 line with
  | ok k =>
    obtain ⟨f, low, high, h, hle, -⟩ := readKeep_eq_ok_iff_spells.mp hread
    exact absurd ⟨f, low, high, h, hle⟩ hnone
  | error e =>
    obtain ⟨cause, rfl⟩ := readKeep_eq_error hread
    exact ⟨cause, by rw [keeps_of_line hline hkind, hread, map_error]⟩

/-- A line that opens with a directive is read by the grammar of its kind, in one way, and is
a fault of that line otherwise. -/
theorem directive_of_line :
    (kind? line = some .guess →
      (∀ gs, guesses line = .ok gs ↔
        ∃ (f : GuessForm) (l : Number.Literal), f.Spells l line ∧ gs = [⟨1, f.name, l.value⟩]) ∧
      (∀ (f f' : GuessForm) (l l' : Number.Literal), f.Spells l line → f'.Spells l' line →
        f = f' ∧ l = l') ∧
      ((¬∃ (f : GuessForm) (l : Number.Literal), f.Spells l line) →
        ∃ cause : Cause, guesses line = .error (cause.fault 1 line))) ∧
    (kind? line = some .keep →
      (∀ ks, keeps line = .ok ks ↔
        ∃ (f : KeepForm) (low high : Number.Literal), f.Spells low high line ∧
          low.value ≤ high.value ∧ ks = [⟨1, f.name, ⟨low.value, high.value⟩⟩]) ∧
      (∀ (f f' : KeepForm) (low high low' high' : Number.Literal), f.Spells low high line →
        f'.Spells low' high' line → f = f' ∧ low = low' ∧ high = high') ∧
      ((¬∃ (f : KeepForm) (low high : Number.Literal), f.Spells low high line ∧
          low.value ≤ high.value) →
        ∃ cause : Cause, keeps line = .error (cause.fault 1 line))) :=
  ⟨fun hkind => ⟨fun _ => guesses_of_line_eq_ok hline hkind, fun _ _ _ _ => GuessForm.Spells.unique,
      exists_cause_of_guess_line hline hkind⟩,
    fun hkind => ⟨fun _ => keeps_of_line_eq_ok hline hkind,
      fun _ _ _ _ _ _ => KeepForm.Spells.unique, exists_cause_of_keep_line hline hkind⟩⟩

end

/-- A guess with an exponent and a bound with a sign and a point are read. -/
theorem directive_of_line_exponent :
    ('\n' ∉ ("guess 1e3 for x" : Text) ∧ kind? "guess 1e3 for x" = some .guess ∧
      guesses "guess 1e3 for x" =
        .ok [⟨1, "x", Number.Literal.value ⟨[], "1", none, some ⟨'e', [], "3"⟩⟩⟩]) ∧
    ('\n' ∉ ("keep x on [-1, .5]" : Text) ∧ kind? "keep x on [-1, .5]" = some .keep ∧
      keeps "keep x on [-1, .5]" =
        .ok [⟨1, "x", ⟨Number.Literal.value ⟨"-", "1", none, none⟩,
          Number.Literal.value ⟨[], [], some "5", none⟩⟩⟩]) := by
  have hguess : GuessForm.Spells ⟨[], "guess", " ", "1e3", " ", "for", " ", "x", []⟩
      ⟨[], "1", none, some ⟨'e', [], "3"⟩⟩ "guess 1e3 for x" := by
    refine ⟨(accepts_of_readParts? (t := "guess 1e3 for x") (by decide)).1, rfl, ?_, rfl⟩
    refine ⟨by decide, by simp, by simp, by simp, ?_⟩
    rintro e ⟨⟩
    exact ⟨.inl rfl, by decide, by simp, by simp⟩
  have hkeep : KeepForm.Spells ⟨[], "keep", " ", "x", " ", "on", " ", [], "-1", [], " ", ".5", [], []⟩
      ⟨"-", "1", none, none⟩ ⟨[], [], some "5", none⟩ "keep x on [-1, .5]" := by
    refine ⟨(accepts_of_readParts? (t := "keep x on [-1, .5]") (by decide)).1, rfl, ?_, rfl, ?_, rfl⟩
    · exact ⟨by decide, by simp, by simp, by simp, by simp⟩
    · exact ⟨by decide, by simp, by simp, by simp, by simp⟩
  have hguessKind : kind? "guess 1e3 for x" = some .guess := by decide
  have hkeepKind : kind? "keep x on [-1, .5]" = some .keep := by decide
  exact ⟨⟨by decide, hguessKind,
      (((directive_of_line (by decide)).1 hguessKind).1 _).mpr ⟨_, _, hguess, rfl⟩⟩,
    ⟨by decide, hkeepKind,
      (((directive_of_line (by decide)).2 hkeepKind).1 _).mpr ⟨_, _, _, hkeep, by decide +kernel, rfl⟩⟩⟩

/-! ## The kind of a line with a form -/

theorem startsInWord_of_dropBlanks? {t rest : Text} (h : dropBlanks? t = some rest) :
    startsInWord t = false := by
  cases t with
  | nil => cases h
  | cons c t =>
    rw [dropBlanks?] at h
    split at h
    · next hblank => exact isWordCharacter_of_isBlank hblank
    · cases h

/-- A word with blanks behind it that opens a line is its first word. -/
theorem openingWord_of_dropWord? {line word t rest : Text} (hword : word ∈ openings)
    (hdrop : dropWord? word (trimStart line) = some t) (hgap : dropBlanks? t = some rest) :
    (openingWord line).map foldCase = word :=
  (dropWord?_opening_iff _ hword).mp ⟨t, hdrop, startsInWord_of_dropBlanks? hgap⟩

theorem openingWord_of_guessParts? {line : Text} (h : (guessParts? line).isSome = true) :
    (openingWord line).map foldCase = ("guess" : Text) := by
  obtain ⟨parts, hparts⟩ := Option.isSome_iff_exists.mp h
  obtain ⟨t, hdrop, hparts⟩ := Option.bind_eq_some_iff.mp hparts
  obtain ⟨rest, hgap, -⟩ := Option.bind_eq_some_iff.mp hparts
  exact openingWord_of_dropWord? (by decide) hdrop hgap

theorem openingWord_of_keepParts? {line : Text} (h : (keepParts? line).isSome = true) :
    (openingWord line).map foldCase = ("keep" : Text) := by
  obtain ⟨parts, hparts⟩ := Option.isSome_iff_exists.mp h
  obtain ⟨t, hdrop, hparts⟩ := Option.bind_eq_some_iff.mp hparts
  obtain ⟨rest, hgap, -⟩ := Option.bind_eq_some_iff.mp hparts
  exact openingWord_of_dropWord? (by decide) hdrop hgap

/-- Of the two letters beyond ASCII one can stand in the word of a guess. -/
theorem map_toLower_eq_guess_iff {word : Text} (h : word.map foldCase = ("guess" : Text)) :
    word.map Char.toLower = ("guess" : Text) ↔ '\u017f' ∉ word := by
  constructor
  · intro hlower hmem
    have : '\u017f'.toLower ∈ ("guess" : Text) := hlower ▸ List.mem_map_of_mem hmem
    exact absurd this (by decide)
  · intro hmem
    rw [← h]
    refine List.map_congr_left fun c hc => (foldCase_of_ne ?_ ?_).symm
    · rintro rfl
      exact hmem hc
    · rintro rfl
      have : foldCase '\u212a' ∈ ("guess" : Text) := h ▸ List.mem_map_of_mem hc
      exact absurd this (by decide)

/-- A line with the form of a bound is a bound. A line with the form of a guess is a guess if
there is no long s in its first word, and otherwise it is refused as a bound. -/
theorem kind?_of_parts (line : Text) :
    ((guessParts? line).isSome = true →
      (kind? line = some .guess ↔ '\u017f' ∉ openingWord line) ∧
      ('\u017f' ∈ openingWord line →
        kind? line = some .keep ∧ ∀ n, readKeep n line = .error (Cause.fault .keepForm n line))) ∧
    ((keepParts? line).isSome = true → kind? line = some .keep) := by
  refine ⟨fun h => ?_, fun h => ?_⟩
  · have hword := openingWord_of_guessParts? h
    have hlower := map_toLower_eq_guess_iff hword
    rw [kind?_eq, kindOfWord?, if_pos hword]
    refine ⟨?_, fun hmem => ⟨?_, fun n => ?_⟩⟩
    · rw [← hlower]
      split <;> simp_all
    · rw [if_neg fun heq => hlower.mp heq hmem]
    · have hnone : keepParts? line = none := by
        rw [← Option.not_isSome_iff_eq_none]
        intro hkeep
        exact absurd (hword.symm.trans (openingWord_of_keepParts? hkeep)) (by decide)
      rw [readKeep, hnone]
  · have hword := openingWord_of_keepParts? h
    rw [kind?_eq, kindOfWord?, hword]
    rfl

/-- Both kinds in capital letters, the bound with the Kelvin sign. -/
theorem kind?_of_parts_capital :
    ((guessParts? "GUESS 5 for x").isSome = true ∧ kind? "GUESS 5 for x" = some .guess) ∧
      (keepParts? "\u212aEEP x on [0, 5]").isSome = true ∧
      kind? "\u212aEEP x on [0, 5]" = some .keep := by
  have hguess : (guessParts? "GUESS 5 for x").isSome = true := by decide
  have hkeep : (keepParts? "\u212aEEP x on [0, 5]").isSome = true := by decide
  exact ⟨⟨hguess, ((kind?_of_parts _).1 hguess).1.mpr (by decide)⟩, hkeep,
    (kind?_of_parts _).2 hkeep⟩

/-- With a long s a guess is not taken for one. -/
theorem not_kind?_of_parts_long :
    guessParts? "gue\u017f\u017f 5 for x" = some (("5" : Text), ("x" : Text)) ∧
      kind? "gue\u017f\u017f 5 for x" = some .keep ∧
      keepParts? "gue\u017f\u017f 5 for x" = none ∧
      ¬ ∀ line : Text, (guessParts? line).isSome = true → kind? line = some .guess := by
  have hparts : guessParts? "gue\u017f\u017f 5 for x" = some (("5" : Text), ("x" : Text)) := by decide
  have hkind : kind? "gue\u017f\u017f 5 for x" = some .keep := by decide
  refine ⟨hparts, hkind, by decide, fun h => ?_⟩
  have hguess := h "gue\u017f\u017f 5 for x" (by rw [hparts]; rfl)
  rw [hkind] at hguess
  cases hguess

end Equate.Directive
