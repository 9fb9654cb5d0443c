import Equate.Directive.Extraction
import Equate.Proofs.Directive.Keyword
import Equate.Proofs.Number.Literal

/-!
# Directive patterns as lists of parts

A pattern is a list of parts: blanks, words, marks, numbers and names. A part takes as much
of a text as it can, and where no part that follows can begin with what the part could go on
with, this finds every way to divide a text among the parts, of which there is at most one.
The two directive patterns are of this kind.
-/
namespace Equate

namespace Directive
open Text

/-- A part of a pattern. -/
inductive Part where
  | blanks
  | gap
  | word (letters : Text)
  | mark (c : Char)
  | number
  | name
  deriving DecidableEq, Repr

namespace Part

/-- The texts that a part stands for. -/
inductive Accepts : Part → Text → Prop where
  | blanks {t : Text} (h : ∀ c ∈ t, isBlank c = true) : Accepts blanks t
  | gap {t : Text} (hne : t ≠ []) (h : ∀ c ∈ t, isBlank c = true) : Accepts gap t
  | word {letters t : Text} (h : t.map foldCase = letters) : Accepts (word letters) t
  | mark (c : Char) : Accepts (mark c) [c]
  | number {l : Number.Literal} (h : l.WellFormed isDecimalDigit) : Accepts number l.text
  | name {c : Char} {t : Text} (hstart : isNameStart c = true)
      (hcontinue : ∀ d ∈ t, isNameContinue d = true) : Accepts name (c :: t)

@[simp] theorem accepts_blanks_iff {t : Text} : blanks.Accepts t ↔ ∀ c ∈ t, isBlank c = true :=
  ⟨fun | .blanks h => h, .blanks⟩

@[simp] theorem accepts_gap_iff {t : Text} :
    gap.Accepts t ↔ t ≠ [] ∧ ∀ c ∈ t, isBlank c = true :=
  ⟨fun | .gap hne h => ⟨hne, h⟩, fun h => .gap h.1 h.2⟩

@[simp] theorem accepts_word_iff {letters t : Text} :
    (word letters).Accepts t ↔ t.map foldCase = letters :=
  ⟨fun | .word h => h, .word⟩

@[simp] theorem accepts_mark_iff {c : Char} {t : Text} : (mark c).Accepts t ↔ t = [c] :=
  ⟨fun | .mark c => rfl, fun h => h ▸ .mark c⟩

@[simp] theorem accepts_number_iff {t : Text} :
    number.Accepts t ↔ ∃ l : Number.Literal, l.WellFormed isDecimalDigit ∧ l.text = t :=
  ⟨fun | .number h => ⟨_, h, rfl⟩, fun ⟨_, h, heq⟩ => heq ▸ .number h⟩

@[simp] theorem accepts_name_iff {t : Text} :
    name.Accepts t ↔
      ∃ c rest, t = c :: rest ∧ isNameStart c = true ∧ ∀ d ∈ rest, isNameContinue d = true :=
  ⟨fun | .name hstart hcontinue => ⟨_, _, rfl, hstart, hcontinue⟩,
    fun ⟨_, _, heq, hstart, hcontinue⟩ => heq ▸ .name hstart hcontinue⟩

/-- What a part takes from the front of a text, and the rest. -/
def read? : Part → Text → Option (Text × Text)
  | blanks, t => some (t.takeWhile isBlank, trimStart t)
  | gap, t => (dropBlanks? t).map fun rest => (t.takeWhile isBlank, rest)
  | word letters, t => (dropWord? letters t).map fun rest => (t.take letters.length, rest)
  | mark c, t => (dropChar? c t).map fun rest => ([c], rest)
  | number, t => splitNumber? t
  | name, t => splitName? t

/-- The characters that a text of the part can begin with. -/
def opens : Part → Char → Bool
  | blanks, c => isBlank c
  | gap, c => isBlank c
  | word letters, c => letters.head? == some (foldCase c)
  | mark d, c => c == d
  | number, c => isDecimalDigit c || c == '.' || c == '+' || c == '-'
  | name, c => isNameStart c

/-- The characters that a part would take as well if they stood behind its text. -/
def goesOn : Part → Char → Bool
  | blanks, c => isBlank c
  | gap, c => isBlank c
  | word _, _ => false
  | mark _, _ => false
  | number, c => isDecimalDigit c || c == '.' || c == 'e' || c == 'E'
  | name, c => isNameContinue c

/-- The characters that a text of the part can hold. -/
def admits : Part → Char → Bool
  | blanks, c => isBlank c
  | gap, c => isBlank c
  | word letters, c => letters.contains (foldCase c)
  | mark d, c => c == d
  | number, c => isDecimalDigit c || Number.marks.contains c
  | name, c => isNameContinue c

/-- The parts that stand for the empty text too. -/
def optional : Part → Bool
  | blanks => true
  | word letters => letters.isEmpty
  | _ => false

theorem dropBlanks?_eq_some_iff {t rest : Text} :
    dropBlanks? t = some rest ↔ t.takeWhile isBlank ≠ [] ∧ trimStart t = rest := by
  cases t with
  | nil => simp [dropBlanks?]
  | cons c t =>
    simp only [dropBlanks?, trimStart, List.takeWhile_cons, List.dropWhile_cons]
    split <;> simp

theorem dropChar?_eq_some_iff {c : Char} {t rest : Text} : dropChar? c t = some rest ↔ t = c :: rest := by
  cases t with
  | nil => simp [dropChar?]
  | cons d t =>
    rw [dropChar?]
    split
    · next h => simp [h]
    · next h => simp [h]

/-- What a part takes is a text of it. -/
theorem accepts_of_read? {p : Part} {t u rest : Text} (h : p.read? t = some (u, rest)) :
    p.Accepts u ∧ t = u ++ rest := by
  cases p with
  | blanks =>
    cases h
    exact ⟨.blanks (List.all_eq_true.mp List.all_takeWhile), (takeWhile_append_trimStart t).symm⟩
  | gap =>
    obtain ⟨rest, hrest, h⟩ := Option.map_eq_some_iff.mp h
    cases h
    obtain ⟨hne, rfl⟩ := dropBlanks?_eq_some_iff.mp hrest
    exact ⟨.gap hne (List.all_eq_true.mp List.all_takeWhile), (takeWhile_append_trimStart t).symm⟩
  | word letters =>
    obtain ⟨rest, hrest, h⟩ := Option.map_eq_some_iff.mp h
    cases h
    obtain ⟨front, rfl, rfl⟩ := dropWord?_eq_some_iff.mp hrest
    rw [List.length_map, List.take_left]
    exact ⟨.word rfl, rfl⟩
  | mark c =>
    obtain ⟨rest, hrest, h⟩ := Option.map_eq_some_iff.mp h
    cases h
    exact ⟨.mark c, dropChar?_eq_some_iff.mp hrest⟩
  | number =>
    obtain ⟨l, hl, rfl, ht⟩ := Number.exists_literal_of_splitNumber? h
    exact ⟨.number hl, ht⟩
  | name =>
    cases t with
    | nil => cases h
    | cons c t =>
      rw [read?, splitName?] at h
      split at h
      · next hstart =>
        cases h
        exact ⟨.name hstart (List.all_eq_true.mp List.all_takeWhile),
          congrArg (c :: ·) List.takeWhile_append_dropWhile.symm⟩
      · cases h

/-- A text of a part is taken as a whole where the part cannot go on. -/
theorem read?_append {p : Part} {u rest : Text} (h : p.Accepts u)
    (hrest : ∀ c more, rest = c :: more → p.goesOn c = false) :
    p.read? (u ++ rest) = some (u, rest) := by
  cases h with
  | blanks h =>
    obtain ⟨htake, hdrop⟩ := cut_append h hrest
    rw [read?, trimStart, htake, hdrop]
  | gap hne h =>
    obtain ⟨htake, hdrop⟩ := cut_append h hrest
    rw [read?, dropBlanks?_eq_some_iff.mpr ⟨by rwa [htake], hdrop⟩, htake, Option.map_some]
  | word h =>
    rw [read?, dropWord?_eq_some_iff.mpr ⟨u, rfl, h⟩, Option.map_some, ← h, List.length_map,
      List.take_left]
  | mark c => rw [read?, List.singleton_append, dropChar?_eq_some_iff.mpr rfl, Option.map_some]
  | number h =>
    refine Number.Literal.splitNumber?_text Number.isDecimalDigit_marks h fun c more heq => ?_
    simpa [goesOn, and_assoc] using hrest c more heq
  | name hstart hcontinue =>
    obtain ⟨htake, hdrop⟩ := cut_append hcontinue hrest
    rw [read?, List.cons_append, splitName?, if_pos hstart, htake, hdrop]

theorem Accepts.opens {p : Part} {c : Char} {u : Text} (h : p.Accepts (c :: u)) : p.opens c = true := by
  generalize ht : c :: u = t at h
  cases h with
  | blanks h => exact h c (ht ▸ List.mem_cons_self)
  | gap hne h => exact h c (ht ▸ List.mem_cons_self)
  | word h =>
    rw [← h, ← ht]
    exact beq_self_eq_true _
  | mark d =>
    cases ht
    exact beq_self_eq_true _
  | number h =>
    obtain ⟨d, rest, heq, hd⟩ := h.exists_first
    obtain ⟨rfl, -⟩ := List.cons.inj (ht.trans heq)
    simpa [Part.opens, or_assoc] using hd
  | name hstart hcontinue =>
    cases ht
    exact hstart

theorem Accepts.optional {p : Part} (h : p.Accepts []) : p.optional = true := by
  generalize ht : ([] : Text) = t at h
  cases h with
  | blanks h => rfl
  | gap hne h => exact absurd ht.symm hne
  | word h =>
    rw [← h, ← ht]
    rfl
  | mark d => cases ht
  | number h =>
    obtain ⟨d, rest, heq, -⟩ := h.exists_first
    cases ht.trans heq
  | name hstart hcontinue => cases ht

theorem Accepts.admits {p : Part} {u : Text} (h : p.Accepts u) {c : Char} (hc : c ∈ u) :
    p.admits c = true := by
  cases h with
  | blanks h => exact h c hc
  | gap hne h => exact h c hc
  | word h =>
    rw [Part.admits, ← h, List.contains_iff_mem]
    exact List.mem_map_of_mem hc
  | mark d =>
    rw [List.mem_singleton.mp hc]
    exact beq_self_eq_true d
  | number h =>
    rw [Part.admits, Bool.or_eq_true, List.contains_iff_mem]
    exact h.mem_text hc
  | name hstart hcontinue =>
    rcases List.mem_cons.mp hc with rfl | hc
    · rw [Part.admits, isNameContinue, hstart, Bool.true_or]
    · exact hcontinue c hc

end Part

/-! ## Patterns -/

/-- What the parts of a pattern take from a text, if nothing is left. -/
def readParts? : List Part → Text → Option (List Text)
  | [], t => if t = [] then some [] else none
  | p :: ps, t => (p.read? t).bind fun found => (readParts? ps found.2).map (found.1 :: ·)

/-- The characters that a text of a pattern can begin with. -/
def opens : List Part → Char → Bool
  | [], _ => false
  | p :: ps, c => p.opens c || (p.optional && opens ps c)

/-- Every part ends before what can follow it. -/
def Separated : List Part → Prop
  | [] => True
  | p :: ps => (∀ c, opens ps c = true → p.goesOn c = false) ∧ Separated ps

theorem accepts_of_readParts? {ps : List Part} {t : Text} {us : List Text}
    (h : readParts? ps t = some us) : List.Forall₂ Part.Accepts ps us ∧ us.flatten = t := by
  induction ps generalizing t us with
  | nil =>
    rw [readParts?] at h
    split at h
    · next ht =>
      cases h
      exact ⟨.nil, ht.symm⟩
    · cases h
  | cons p ps ih =>
    obtain ⟨⟨u, rest⟩, hread, h⟩ := Option.bind_eq_some_iff.mp h
    obtain ⟨us, hus, rfl⟩ := Option.map_eq_some_iff.mp h
    obtain ⟨hu, rfl⟩ := Part.accepts_of_read? hread
    obtain ⟨hall, rfl⟩ := ih hus
    exact ⟨.cons hu hall, List.flatten_cons⟩

theorem opens_of_accepts {ps : List Part} {us : List Text} (h : List.Forall₂ Part.Accepts ps us) {c : Char}
    {more : Text} (heq : us.flatten = c :: more) : opens ps c = true := by
  induction h with
  | nil => cases heq
  | @cons p u ps us hu _ ih =>
    rw [List.flatten_cons] at heq
    rw [opens, Bool.or_eq_true, Bool.and_eq_true]
    cases u with
    | nil => exact .inr ⟨hu.optional, ih heq⟩
    | cons d u =>
      cases heq
      exact .inl hu.opens

/-- Of a pattern whose parts are separated every division of a text is found. -/
theorem readParts?_eq_some_iff {ps : List Part} (hps : Separated ps) {t : Text} {us : List Text} :
    readParts? ps t = some us ↔ List.Forall₂ Part.Accepts ps us ∧ us.flatten = t := by
  refine ⟨accepts_of_readParts?, ?_⟩
  rintro ⟨hall, rfl⟩
  induction hall with
  | nil => rfl
  | cons hu hus ih =>
    obtain ⟨hstop, hps⟩ := hps
    have hread := Part.read?_append hu fun c more heq => hstop c (opens_of_accepts hus heq)
    rw [List.flatten_cons]
    exact Option.bind_eq_some_iff.mpr ⟨_, hread, Option.map_eq_some_iff.mpr ⟨_, ih hps, rfl⟩⟩

/-- A text is divided among separated parts in one way at most. -/
theorem eq_of_flatten_eq {ps : List Part} (hps : Separated ps) {us vs : List Text}
    (hus : List.Forall₂ Part.Accepts ps us) (hvs : List.Forall₂ Part.Accepts ps vs)
    (h : us.flatten = vs.flatten) : us = vs :=
  Option.some.inj (((readParts?_eq_some_iff hps).mpr ⟨hus, h⟩).symm.trans
    ((readParts?_eq_some_iff hps).mpr ⟨hvs, rfl⟩))

/-- What no part admits is not in the text. -/
theorem not_mem_of_accepts {ps : List Part} {us : List Text} (h : List.Forall₂ Part.Accepts ps us)
    {c : Char} (hc : ∀ p ∈ ps, p.admits c = false) : c ∉ us.flatten := by
  induction h with
  | nil => exact List.not_mem_nil
  | cons hu _ ih =>
    obtain ⟨hp, hps⟩ := List.forall_mem_cons.mp hc
    rw [List.flatten_cons, List.mem_append, not_or]
    refine ⟨fun hmem => ?_, ih hps⟩
    rw [hu.admits hmem] at hp
    cases hp

/-! ## The two patterns -/

/-- The pattern of a guess. -/
def guessPattern : List Part :=
  [.blanks, .word "guess", .gap, .number, .gap, .word "for", .gap, .name, .blanks]

/-- The pattern of a bound. -/
def keepPattern : List Part :=
  [.blanks, .word "keep", .gap, .name, .gap, .word "on", .gap, .mark '[', .blanks, .number, .blanks,
    .mark ',', .blanks, .number, .blanks, .mark ']', .blanks]

/-- The parts of the patterns that stand for something else than blanks. -/
def solidParts : List Part :=
  [.word "guess", .word "keep", .word "for", .word "on", .mark '[', .mark ',', .mark ']', .number, .name]

/-- A blank neither begins one of them nor goes on with it. -/
theorem solidParts_of_isBlank {c : Char} (h : isBlank c = true) :
    ∀ p ∈ solidParts, p.opens c = false ∧ p.goesOn c = false := by
  have hall := all_of_isBlank
    (p := fun c => solidParts.all fun p => !p.opens c && !p.goesOn c) (by decide +kernel) h
  intro p hp
  simpa using List.all_eq_true.mp hall p hp

section
variable {p : Part} (hp : p ∈ solidParts)
include hp

theorem isBlank_of_opens (ps : List Part) (c : Char) (h : opens (p :: ps) c = true) :
    isBlank c = false := by
  have hoptional : ∀ p ∈ solidParts, p.optional = false := by decide
  rw [opens, hoptional p hp, Bool.false_and, Bool.or_false] at h
  rw [← Bool.not_eq_true]
  intro hblank
  rw [(solidParts_of_isBlank hblank p hp).1] at h
  cases h

theorem goesOn_of_opens_gap (ps : List Part) (c : Char) (h : opens (.gap :: ps) c = true) :
    p.goesOn c = false :=
  (solidParts_of_isBlank (by simpa [opens, Part.opens, Part.optional] using h) p hp).2

theorem goesOn_of_opens_mark {d : Char} (hd : p.goesOn d = false) (ps : List Part) (c : Char)
    (h : opens (.blanks :: .mark d :: ps) c = true) : p.goesOn c = false := by
  have hc : isBlank c = true ∨ c = d := by simpa [opens, Part.opens, Part.optional] using h
  rcases hc with hblank | rfl
  · exact (solidParts_of_isBlank hblank p hp).2
  · exact hd

end

theorem separated_guessPattern : Separated guessPattern :=
  ⟨isBlank_of_opens (by decide) _, fun _ _ => rfl, isBlank_of_opens (by decide) _,
    goesOn_of_opens_gap (by decide) _, isBlank_of_opens (by decide) _, fun _ _ => rfl,
    isBlank_of_opens (by decide) _,
    fun c h => (solidParts_of_isBlank (by simpa [opens, Part.opens] using h) .name (by decide)).2,
    nofun, trivial⟩

theorem separated_keepPattern : Separated keepPattern :=
  ⟨isBlank_of_opens (by decide) _, fun _ _ => rfl, isBlank_of_opens (by decide) _,
    goesOn_of_opens_gap (by decide) _, isBlank_of_opens (by decide) _, fun _ _ => rfl,
    isBlank_of_opens (by decide) _, fun _ _ => rfl, isBlank_of_opens (by decide) _,
    goesOn_of_opens_mark (by decide) (by decide) _, isBlank_of_opens (by decide) _, fun _ _ => rfl,
    isBlank_of_opens (by decide) _, goesOn_of_opens_mark (by decide) (by decide) _,
    isBlank_of_opens (by decide) _, fun _ _ => rfl, nofun, trivial⟩

theorem isBlankText_iff {t : Text} : isBlankText t = true ↔ trimStart t = [] := by
  rw [isBlankText, trimStart, List.all_eq_true, List.dropWhile_eq_nil_iff]

theorem map_readParts?_nil {β : Type} (t : Text) (f : List Text → β) :
    (readParts? [] (trimStart t)).map f = if isBlankText t = true then some (f []) else none := by
  simp only [readParts?, isBlankText_iff]
  split <;> rfl

theorem map_readParts?_cons {β : Type} (p : Part) (ps : List Part) (t : Text) (f : List Text → β) :
    (readParts? (p :: ps) t).map f =
      (p.read? t).bind fun found => (readParts? ps found.2).map fun us => f (found.1 :: us) := by
  simp only [readParts?, Option.map_bind, Option.map_map, Function.comp_def]

theorem guessParts?_eq (line : Text) :
    guessParts? line = (readParts? guessPattern line).map fun us => (us.getD 3 [], us.getD 7 []) := by
  simp only [guessParts?, guessPattern, map_readParts?_cons, Part.read?, Option.bind_eq_bind,
    Option.bind_some, Option.bind_map, Function.comp_def, map_readParts?_nil, List.getD_cons_zero,
    List.getD_cons_succ]

theorem keepParts?_eq (line : Text) :
    keepParts? line =
      (readParts? keepPattern line).map fun us => (us.getD 3 [], us.getD 9 [], us.getD 13 []) := by
  simp only [keepParts?, keepPattern, map_readParts?_cons, Part.read?, Option.bind_eq_bind,
    Option.bind_some, Option.bind_map, Function.comp_def, map_readParts?_nil, List.getD_cons_zero,
    List.getD_cons_succ]

/-- The texts of a guess. -/
structure GuessForm where
  indent : Text
  keyword : Text
  beforeNumber : Text
  number : Text
  beforeFor : Text
  preposition : Text
  beforeName : Text
  name : Text
  trail : Text

namespace GuessForm

/-- The texts as they follow each other. -/
def parts (f : GuessForm) : List Text :=
  [f.indent, f.keyword, f.beforeNumber, f.number, f.beforeFor, f.preposition, f.beforeName, f.name,
    f.trail]

/-- The line that the texts make. -/
def text (f : GuessForm) : Text := f.parts.flatten

/-- Each text is one of its part of the pattern. -/
def Matches (f : GuessForm) : Prop := List.Forall₂ Part.Accepts guessPattern f.parts

theorem matches_iff {f : GuessForm} :
    f.Matches ↔ Part.blanks.Accepts f.indent ∧ (Part.word "guess").Accepts f.keyword ∧
      Part.gap.Accepts f.beforeNumber ∧ Part.number.Accepts f.number ∧
      Part.gap.Accepts f.beforeFor ∧ (Part.word "for").Accepts f.preposition ∧
      Part.gap.Accepts f.beforeName ∧ Part.name.Accepts f.name ∧ Part.blanks.Accepts f.trail := by
  simp only [Matches, guessPattern, parts, List.forall₂_cons, List.forall₂_nil_left_iff, and_true]

theorem exists_parts {us : List Text} (h : us.length = 9) : ∃ f : GuessForm, f.parts = us :=
  match us, h with
  | [indent, keyword, beforeNumber, number, beforeFor, preposition, beforeName, name, trail], _ =>
    ⟨⟨indent, keyword, beforeNumber, number, beforeFor, preposition, beforeName, name, trail⟩, rfl⟩

theorem Matches.eq_of_text {f f' : GuessForm} (h : f.Matches) (h' : f'.Matches)
    (htext : f.text = f'.text) : f = f' := by
  have hparts := eq_of_flatten_eq separated_guessPattern h h' htext
  simp only [parts, List.cons.injEq, and_true] at hparts
  cases f
  cases f'
  simpa using hparts

end GuessForm

/-- The texts of a bound. -/
structure KeepForm where
  indent : Text
  keyword : Text
  beforeName : Text
  name : Text
  beforeOn : Text
  preposition : Text
  beforeBracket : Text
  beforeLow : Text
  low : Text
  beforeComma : Text
  beforeHigh : Text
  high : Text
  beforeEnd : Text
  trail : Text

namespace KeepForm

/-- The texts as they follow each other, with the marks between them. -/
def parts (f : KeepForm) : List Text :=
  [f.indent, f.keyword, f.beforeName, f.name, f.beforeOn, f.preposition, f.beforeBracket, ['['],
    f.beforeLow, f.low, f.beforeComma, [','], f.beforeHigh, f.high, f.beforeEnd, [']'], f.trail]

/-- The line that the texts make. -/
def text (f : KeepForm) : Text := f.parts.flatten

/-- Each text is one of its part of the pattern. -/
def Matches (f : KeepForm) : Prop := List.Forall₂ Part.Accepts keepPattern f.parts

theorem matches_iff {f : KeepForm} :
    f.Matches ↔ Part.blanks.Accepts f.indent ∧ (Part.word "keep").Accepts f.keyword ∧
      Part.gap.Accepts f.beforeName ∧ Part.name.Accepts f.name ∧
      Part.gap.Accepts f.beforeOn ∧ (Part.word "on").Accepts f.preposition ∧
      Part.gap.Accepts f.beforeBracket ∧ Part.blanks.Accepts f.beforeLow ∧
      Part.number.Accepts f.low ∧ Part.blanks.Accepts f.beforeComma ∧
      Part.blanks.Accepts f.beforeHigh ∧ Part.number.Accepts f.high ∧
      Part.blanks.Accepts f.beforeEnd ∧ Part.blanks.Accepts f.trail := by
  simp only [Matches, keepPattern, parts, List.forall₂_cons, List.forall₂_nil_left_iff, and_true,
    Part.accepts_mark_iff, true_and]

theorem exists_parts {us : List Text} (h : List.Forall₂ Part.Accepts keepPattern us) :
    ∃ f : KeepForm, f.parts = us := by
  match us, h.length_eq with
  | [indent, keyword, beforeName, name, beforeOn, preposition, beforeBracket, bracket, beforeLow, low,
      beforeComma, comma, beforeHigh, high, beforeEnd, ending, trail], _ =>
    simp only [keepPattern, List.forall₂_cons] at h
    obtain ⟨-, -, -, -, -, -, -, hbracket, -, -, -, hcomma, -, -, -, hending, -⟩ := h
    rw [Part.accepts_mark_iff] at hbracket hcomma hending
    subst hbracket hcomma hending
    exact ⟨⟨indent, keyword, beforeName, name, beforeOn, preposition, beforeBracket, beforeLow, low,
      beforeComma, beforeHigh, high, beforeEnd, trail⟩, rfl⟩

theorem Matches.eq_of_text {f f' : KeepForm} (h : f.Matches) (h' : f'.Matches)
    (htext : f.text = f'.text) : f = f' := by
  have hparts := eq_of_flatten_eq separated_keepPattern h h' htext
  simp only [parts, List.cons.injEq, and_true, true_and] at hparts
  cases f
  cases f'
  simpa using hparts

end KeepForm

/-- A guess is what its pattern says. -/
theorem guessParts?_eq_some_iff {line number name : Text} :
    guessParts? line = some (number, name) ↔
      ∃ f : GuessForm, f.Matches ∧ f.text = line ∧ f.number = number ∧ f.name = name := by
  rw [guessParts?_eq, Option.map_eq_some_iff]
  constructor
  · rintro ⟨us, hus, h⟩
    obtain ⟨hall, htext⟩ := accepts_of_readParts? hus
    obtain ⟨f, rfl⟩ := GuessForm.exists_parts hall.length_eq.symm
    obtain ⟨hnumber, hname⟩ := Prod.mk.inj h
    exact ⟨f, hall, htext, hnumber, hname⟩
  · rintro ⟨f, hall, htext, rfl, rfl⟩
    exact ⟨f.parts, (readParts?_eq_some_iff separated_guessPattern).mpr ⟨hall, htext⟩, rfl⟩

/-- So is a bound. -/
theorem keepParts?_eq_some_iff {line name low high : Text} :
    keepParts? line = some (name, low, high) ↔
      ∃ f : KeepForm, f.Matches ∧ f.text = line ∧ f.name = name ∧ f.low = low ∧ f.high = high := by
  rw [keepParts?_eq, Option.map_eq_some_iff]
  constructor
  · rintro ⟨us, hus, h⟩
    obtain ⟨hall, htext⟩ := accepts_of_readParts? hus
    obtain ⟨f, rfl⟩ := KeepForm.exists_parts hall
    obtain ⟨hname, h⟩ := Prod.mk.inj h
    obtain ⟨hlow, hhigh⟩ := Prod.mk.inj h
    exact ⟨f, hall, htext, hname, hlow, hhigh⟩
  · rintro ⟨f, hall, htext, rfl, rfl, rfl⟩
    exact ⟨f.parts, (readParts?_eq_some_iff separated_keepPattern).mpr ⟨hall, htext⟩, rfl⟩

/-- There is no opening parenthesis in a guess. -/
theorem open_not_mem_of_guessParts? {line : Text} {parts : Text × Text}
    (h : guessParts? line = some parts) : '(' ∉ line := by
  obtain ⟨f, hf, rfl, -, -⟩ := guessParts?_eq_some_iff.mp h
  exact not_mem_of_accepts hf (by decide)

/-- Nor is there one in a bound. -/
theorem open_not_mem_of_keepParts? {line : Text} {parts : Text × Text × Text}
    (h : keepParts? line = some parts) : '(' ∉ line := by
  obtain ⟨f, hf, rfl, -, -, -⟩ := keepParts?_eq_some_iff.mp h
  exact not_mem_of_accepts hf (by decide)

end Directive
end Equate
