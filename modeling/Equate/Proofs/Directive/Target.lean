import Equate.Proofs.Directive.Grammar
import Equate.Proofs.Problem.LineByLine

/-!
# What directives are about

The name that a line is about is found by looking for it, without reading the line as a
directive: behind the last `for` of a guess, behind the first word of a bound. Of a line that
is read as a directive this is the name that is read. So no directive is about a parameter once
the definitions of a text have been taken out of it.
-/
namespace Equate.Directive
open Text Success

/-! ## Targets of guesses -/

theorem isWordCharacter_of_mem_for {preposition : Text} (h : preposition.map foldCase = ("for" : Text))
    {c : Char} (hc : c ∈ preposition) : isWordCharacter c = true := by
  have hletters : ("for" : Text).all Name.isStart = true := by decide
  have hmem : foldCase c ∈ ("for" : Text) := h ▸ List.mem_map_of_mem hc
  exact isWordCharacter_of_foldCase (List.all_eq_true.mp hletters _ hmem)

theorem dropBlanks?_append {gap t : Text} (hne : gap ≠ []) (hgap : ∀ c ∈ gap, isBlank c = true)
    (ht : ∀ c more, t = c :: more → isBlank c = false) : dropBlanks? (gap ++ t) = some t := by
  obtain ⟨htake, hdrop⟩ := cut_append hgap ht
  exact Part.dropBlanks?_eq_some_iff.mpr ⟨by rwa [htake], hdrop⟩

section
variable {trail : Text} (htrail : ∀ c ∈ trail, isBlank c = true)
include htrail

/-- Where nothing but blanks follows the first word, no name does. -/
theorem nameAfterFor?_of_trail {v : Text} (hv : ∀ c ∈ v, isBlank c = false) :
    nameAfterFor? (v ++ trail) = none := by
  by_contra hsome
  obtain ⟨name, h⟩ := Option.ne_none_iff_exists'.mp hsome
  obtain ⟨t, hfor, h⟩ := Option.bind_eq_some_iff.mp h
  obtain ⟨u, hgap, h⟩ := Option.bind_eq_some_iff.mp h
  obtain ⟨⟨found, rest⟩, hname, -⟩ := Option.bind_eq_some_iff.mp h
  obtain ⟨front, heq, hfront⟩ := dropWord?_eq_some_iff.mp hfor
  obtain ⟨hne, hrest⟩ := Part.dropBlanks?_eq_some_iff.mp hgap
  -- Both ways to cut the text end its solid part at the same place.
  have hcut := (cut_append (p := fun c => !isBlank c) (w := v) (t := trail) (fun c hc => by simp [hv c hc])
    fun c more hmore => by simp [htrail c (hmore ▸ List.mem_cons_self)]).2
  have hcut' := (cut_append (p := fun c => !isBlank c) (w := front) (t := t)
    (fun c hc => by simp [isBlank_of_isWordCharacter (isWordCharacter_of_mem_for hfront hc)])
    fun c more hmore => by
      rw [hmore, List.takeWhile_cons] at hne
      split at hne
      · next hblank => simp [hblank]
      · exact absurd rfl hne).2
  obtain rfl : t = trail := by rw [← hcut', ← heq, hcut]
  have hnil : trimStart t = [] := List.dropWhile_eq_nil_iff.mpr htrail
  rw [← hrest, hnil] at hname
  cases hname

theorem lastTarget?_of_trail {v : Text} (hv : ∀ c ∈ v, isBlank c = false) (inWord : Bool) :
    lastTarget? inWord (v ++ trail) = none := by
  induction v generalizing inWord with
  | nil =>
    rw [List.nil_append]
    induction trail generalizing inWord with
    | nil => rfl
    | cons c trail ih =>
      have hnone := nameAfterFor?_of_trail htrail (v := []) nofun
      rw [lastTarget?, ih (List.forall_mem_cons.mp htrail).2]
      simpa using fun _ => hnone
  | cons c v ih =>
    have hnone := nameAfterFor?_of_trail htrail hv
    rw [List.cons_append] at hnone ⊢
    rw [lastTarget?, ih (List.forall_mem_cons.mp hv).2]
    simpa using fun _ => hnone

end

theorem nameAfterFor?_of_isBlank {c : Char} (hc : isBlank c = true) (t : Text) :
    nameAfterFor? (c :: t) = none := by
  have hfold : foldCase c ≠ 'f' := by
    intro heq
    have hword := isWordCharacter_of_foldCase (c := c) (by rw [heq]; decide)
    rw [isBlank_of_isWordCharacter hword] at hc
    cases hc
  rw [nameAfterFor?, show dropWord? "for" (c :: t) = none from if_neg hfold]
  rfl

theorem lastTarget?_blanks {gap t : Text} (hgap : ∀ c ∈ gap, isBlank c = true)
    (h : lastTarget? false t = none) : lastTarget? false (gap ++ t) = none := by
  induction gap with
  | nil => exact h
  | cons c gap ih =>
    obtain ⟨hc, hgap⟩ := List.forall_mem_cons.mp hgap
    rw [List.cons_append, lastTarget?, isWordCharacter_of_isBlank hc, ih hgap,
      nameAfterFor?_of_isBlank hc]
    simp

theorem lastTarget?_word {word t : Text} (hword : ∀ c ∈ word, isWordCharacter c = true)
    (h : lastTarget? true t = none) : lastTarget? true (word ++ t) = none := by
  induction word with
  | nil => exact h
  | cons c word ih =>
    obtain ⟨hc, hword⟩ := List.forall_mem_cons.mp hword
    rw [List.cons_append, lastTarget?, hc, ih hword]
    simp

theorem isBlank_of_mem_name {name : Text} (h : Part.name.Accepts name) {c : Char} (hc : c ∈ name) :
    isBlank c = false := by
  obtain ⟨d, rest, rfl, hstart, hcontinue⟩ := Part.accepts_name_iff.mp h
  rw [← Bool.not_eq_true]
  intro hblank
  obtain ⟨hopens, hgoes⟩ := solidParts_of_isBlank hblank .name (by decide)
  rcases List.mem_cons.mp hc with rfl | hc
  · exact Bool.false_ne_true (hopens.symm.trans hstart)
  · exact Bool.false_ne_true (hgoes.symm.trans (hcontinue c hc))

section
variable {preposition gap name trail : Text} (hpreposition : preposition.map foldCase = ("for" : Text))
variable (hgap : Part.gap.Accepts gap) (hname : Part.name.Accepts name)
variable (htrail : ∀ c ∈ trail, isBlank c = true)
include hpreposition hgap hname htrail

theorem nameAfterFor?_name : nameAfterFor? (preposition ++ (gap ++ (name ++ trail))) = some name := by
  obtain ⟨hne, hblanks⟩ := Part.accepts_gap_iff.mp hgap
  have hfor : dropWord? "for" (preposition ++ (gap ++ (name ++ trail))) =
      some (gap ++ (name ++ trail)) := dropWord?_eq_some_iff.mpr ⟨preposition, rfl, hpreposition⟩
  have hdrop : dropBlanks? (gap ++ (name ++ trail)) = some (name ++ trail) := by
    refine dropBlanks?_append hne hblanks fun c more heq => ?_
    obtain ⟨d, rest, rfl, -, -⟩ := Part.accepts_name_iff.mp hname
    cases heq
    exact isBlank_of_mem_name hname List.mem_cons_self
  have hsplit : splitName? (name ++ trail) = some (name, trail) :=
    Part.read?_append hname fun c more heq =>
      (solidParts_of_isBlank (htrail c (heq ▸ List.mem_cons_self)) .name (by decide)).2
  exact Option.bind_eq_some_iff.mpr ⟨_, hfor, Option.bind_eq_some_iff.mpr ⟨_, hdrop,
    Option.bind_eq_some_iff.mpr ⟨_, hsplit, rfl⟩⟩⟩

/-- The word in front of the name is the last one that a name follows. -/
theorem lastTarget?_preposition :
    lastTarget? false (preposition ++ (gap ++ (name ++ trail))) = some name := by
  have hafter := nameAfterFor?_name hpreposition hgap hname htrail
  have hword := fun d (hd : d ∈ preposition) => isWordCharacter_of_mem_for hpreposition hd
  cases preposition with
  | nil => cases hpreposition
  | cons c word =>
    obtain ⟨hc, hword⟩ := List.forall_mem_cons.mp hword
    have hrest : lastTarget? true (word ++ (gap ++ (name ++ trail))) = none := by
      refine lastTarget?_word hword ?_
      obtain ⟨hne, hblanks⟩ := Part.accepts_gap_iff.mp hgap
      obtain ⟨b, gap, rfl⟩ := List.exists_cons_of_ne_nil hne
      obtain ⟨hb, hblanks⟩ := List.forall_mem_cons.mp hblanks
      have hnone := lastTarget?_of_trail htrail (fun c => isBlank_of_mem_name hname) false
      rw [List.cons_append, lastTarget?, isWordCharacter_of_isBlank hb, lastTarget?_blanks hblanks hnone]
      simp
    rw [List.cons_append] at hafter ⊢
    rw [lastTarget?, hc, hrest, hafter]
    simp

end

/-- The last target stays the last with more in front of it. -/
theorem lastTarget?_append {t name : Text} (h : ∀ inWord, lastTarget? inWord t = some name)
    {front : Text} (hfront : '\n' ∉ front) (inWord : Bool) :
    lastTarget? inWord (front ++ t) = some name := by
  induction front generalizing inWord with
  | nil => exact h inWord
  | cons c front ih =>
    obtain ⟨hc, hfront⟩ := List.ne_and_not_mem_of_not_mem_cons hfront
    rw [List.cons_append, lastTarget?, ih hfront, if_neg hc.symm]

/-- What stands behind the first word of a guess. -/
def GuessForm.tail (f : GuessForm) : Text :=
  f.beforeNumber ++ (f.number ++ (f.beforeFor ++ (f.preposition ++ (f.beforeName ++
    (f.name ++ f.trail)))))

theorem lastTarget?_tail {f : GuessForm} (hf : f.Matches) (hline : '\n' ∉ f.text) :
    lastTarget? true f.tail = some f.name := by
  obtain ⟨-, -, -, -, hgap, hpreposition, hnameGap, hname, htrail⟩ := GuessForm.matches_iff.mp hf
  obtain ⟨hne, hblanks⟩ := Part.accepts_gap_iff.mp hgap
  have hlast := lastTarget?_preposition (Part.accepts_word_iff.mp hpreposition) hnameGap hname
    (Part.accepts_blanks_iff.mp htrail)
  have hnewline : '\n' ∉ f.beforeNumber ∧ '\n' ∉ f.number ∧ '\n' ∉ f.beforeFor := by
    simp only [GuessForm.text, GuessForm.parts, List.flatten_cons, List.mem_append, not_or] at hline
    exact ⟨hline.2.2.1, hline.2.2.2.1, hline.2.2.2.2.1⟩
  -- The last blank in front of the word is where the search starts anew.
  obtain ⟨before, b, heq⟩ := (List.eq_nil_or_concat f.beforeFor).resolve_left hne
  rw [List.concat_eq_append] at heq
  rw [heq] at hblanks hnewline
  have hb : isBlank b = true := hblanks b (by simp)
  have hstart : ∀ inWord, lastTarget? inWord (b :: (f.preposition ++ (f.beforeName ++
      (f.name ++ f.trail)))) = some f.name := by
    intro inWord
    have hne : b ≠ '\n' := by
      rintro rfl
      exact hnewline.2.2 (by simp)
    rw [lastTarget?, isWordCharacter_of_isBlank hb, hlast, if_neg hne]
  have hfront : '\n' ∉ f.beforeNumber ++ (f.number ++ before) := by
    simp only [List.mem_append, not_or] at hnewline ⊢
    exact ⟨hnewline.1, hnewline.2.1, hnewline.2.2.1⟩
  have h := lastTarget?_append hstart hfront true
  rw [GuessForm.tail, heq]
  simpa only [List.append_assoc, List.singleton_append] using h

theorem trimStart_text {f : GuessForm} (hf : f.Matches) :
    trimStart f.text = f.keyword ++ f.tail ∧ f.keyword.map foldCase = ("guess" : Text) := by
  obtain ⟨hindent, hkeyword, -⟩ := GuessForm.matches_iff.mp hf
  rw [Part.accepts_blanks_iff] at hindent
  rw [Part.accepts_word_iff] at hkeyword
  have hopening : f.keyword.map foldCase ∈ openings := by
    rw [hkeyword]
    decide
  refine ⟨?_, hkeyword⟩
  rw [← trimStart_append_of_folded hopening hindent]
  simp [GuessForm.text, GuessForm.parts, GuessForm.tail]

/-- A guess is about the name in it. -/
theorem target?_of_guessParts? {line number name : Text} (hline : '\n' ∉ line)
    (hkind : kind? line = some .guess) (h : guessParts? line = some (number, name)) :
    target? line = some name := by
  obtain ⟨f, hf, rfl, -, rfl⟩ := guessParts?_eq_some_iff.mp h
  obtain ⟨htext, hkeyword⟩ := trimStart_text hf
  have hdrop : dropWord? "guess" (trimStart f.text) = some f.tail :=
    dropWord?_eq_some_iff.mpr ⟨f.keyword, htext, hkeyword⟩
  unfold target?
  rw [hkind]
  show (dropWord? "guess" (trimStart f.text)).bind _ = _
  rw [hdrop]
  exact lastTarget?_tail hf hline

/-- So is a bound. -/
theorem target?_of_keepParts? {line name low high : Text} (hkind : kind? line = some .keep)
    (h : keepParts? line = some (name, low, high)) : target? line = some name := by
  simp only [keepParts?, Option.bind_eq_bind, Option.bind_eq_some_iff] at h
  obtain ⟨t, hdrop, u, hgap, ⟨found, rest⟩, hname, _, -, _, -, _, -, _, -, _, -, _, -, _, -, _, -, h⟩ := h
  obtain ⟨-, h⟩ := Option.ite_none_right_eq_some.mp h
  cases h
  unfold target?
  rw [hkind]
  show (dropWord? "keep" (trimStart line)).bind _ = _
  exact Option.bind_eq_some_iff.mpr ⟨t, hdrop, Option.bind_eq_some_iff.mpr ⟨u, hgap,
    Option.bind_eq_some_iff.mpr ⟨_, hname, rfl⟩⟩⟩

/-! ## Lines that are read -/

/-- A line is read as a directive for a name. -/
def Concerns (line name : Text) : Prop :=
  (∃ gs, guesses line = .ok gs ∧ name ∈ gs.map Guess.name) ∨
    ∃ ks, keeps line = .ok ks ∧ name ∈ ks.map Keep.name

section
variable {line name : Text} (hline : '\n' ∉ line)
include hline

theorem kind?_of_mem_linesOfKind {kind : Kind} {x : Text × Nat} (hx : x ∈ linesOfKind kind line) :
    x.1 = line ∧ kind? line = some kind := by
  obtain ⟨hmem, hkind⟩ := List.mem_filter.mp hx
  rw [numberedLines, lines_of_newline_not_mem hline] at hmem
  split at hmem
  · cases hmem
  · rw [List.zipIdx_singleton, List.mem_singleton] at hmem
    subst hmem
    exact ⟨rfl, by simpa using hkind⟩

/-- A line that is read as a directive for a name is about that name. -/
theorem target?_of_line (h : Concerns line name) : target? line = some name := by
  rcases h with ⟨gs, hgs, hname⟩ | ⟨ks, hks, hname⟩
  · obtain ⟨g, hg, rfl⟩ := List.mem_map.mp hname
    obtain ⟨x, hx, hread⟩ := exists_of_mem_mapM hgs hg
    obtain ⟨hself, hkind⟩ := kind?_of_mem_linesOfKind hline hx
    obtain ⟨number, name, value, hparts, -, rfl⟩ := readGuess_eq_ok.mp hread
    rw [hself] at hparts
    exact target?_of_guessParts? hline hkind hparts
  · obtain ⟨k, hk, rfl⟩ := List.mem_map.mp hname
    obtain ⟨x, hx, hread⟩ := exists_of_mem_mapM hks hk
    obtain ⟨hself, hkind⟩ := kind?_of_mem_linesOfKind hline hx
    obtain ⟨name, lowText, highText, low, high, hparts, -, -, -, rfl⟩ := readKeep_eq_ok.mp hread
    rw [hself] at hparts
    exact target?_of_keepParts? hkind hparts

end

/-- A line that has passed the check is about no parameter. -/
theorem contains_of_checkLine {s : Scope} {n : Nat} {line name : Text}
    (hcheck : s.checkLine n line = .ok ()) (htarget : target? line = some name) :
    s.contains name = false := by
  have hkind : (kind? line).isSome = true := by
    obtain ⟨kind, hkind, -⟩ := Option.bind_eq_some_iff.mp htarget
    rw [hkind]
    rfl
  rw [Scope.checkLine, if_pos hkind] at hcheck
  exact Problem.checkDirective_eq_ok.mp hcheck name htarget

/-- The name of a directive is found in every line that is read as one, and after the definitions
have been taken out of a text none of the lines that are left is read as a directive for one of
the parameters. -/
theorem target?_of_concerns :
    (∀ line name : Text, '\n' ∉ line → Concerns line name → target? line = some name) ∧
      ∀ (t out : Text) (s : Scope), Scope.extract t = .ok (out, s) →
        ∀ line ∈ lines (blank ((Scope.definitions t).map Definition.line) t),
          ∀ name, Concerns line name → s.contains name = false := by
  refine ⟨fun line name hline => target?_of_line hline, fun t out s h line hmem name hname => ?_⟩
  obtain ⟨scope, -, h⟩ := bind_eq_ok.mp h
  obtain ⟨⟨⟩, hcheck, h⟩ := bind_eq_ok.mp h
  obtain ⟨-, rfl⟩ := Prod.mk.inj (Except.ok.inj h)
  rw [← List.zipIdx_map_fst 1 (lines _)] at hmem
  obtain ⟨⟨line, n⟩, hx, rfl⟩ := List.mem_map.mp hmem
  have hline := newline_not_mem_of_mem_lines (List.fst_mem_of_mem_zipIdx hx)
  exact contains_of_checkLine (forM_eq_ok.mp hcheck (line, n) hx) (target?_of_line hline hname)

/-- A guess for a variable with the name of the word in front of it, and a bound beside a parameter. -/
theorem target?_of_concerns_fall :
    (Concerns "guess 5 for for" "for" ∧ target? "guess 5 for for" = some "for".toList) ∧
      ∃ out s, Scope.extract "g: 9.8\nkeep t on [0, 5]" = .ok (out, s) ∧ s.contains "g" = true ∧
        Concerns "keep t on [0, 5]" "t" ∧ s.contains "t" = false := by
  have hguess : Concerns "guess 5 for for" "for" :=
    .inl ⟨[⟨1, "for", 5⟩], eq_ok_of_toOption (by decide +kernel), by decide⟩
  have hkeep : Concerns "keep t on [0, 5]" "t" :=
    .inr ⟨[⟨1, "t", ⟨0, 5⟩⟩], eq_ok_of_toOption (by decide +kernel), by decide⟩
  have hscope : Scope.ofDefinitions (Scope.definitions "g: 9.8\nkeep t on [0, 5]") =
      .ok (Scope.empty.push ⟨"g", 9.8, "9.8", 1⟩) :=
    Scope.ofDefinitions_num (by decide) (by decide +kernel) (eq_ok_of_toOption (by decide +kernel))
      (by decide +kernel)
  have hcheck : ∀ x ∈ numberedLines "g: 9.8\nkeep t on [0, 5]", Problem.defines x.1 = false →
      ((Scope.empty.push ⟨"g", 9.8, "9.8", 1⟩).checkLine x.2 x.1).toOption = some () := by
    decide +kernel
  have hextract := Problem.extract_eq_ok.mpr
    ⟨_, hscope, fun line n hx hdefines => eq_ok_of_toOption (hcheck (line, n) hx hdefines), rfl⟩
  exact ⟨⟨hguess, target?_of_concerns.1 _ _ (by decide) hguess⟩, _, _, hextract, by decide +kernel, hkeep,
    target?_of_concerns.2 _ _ _ hextract _ (by decide) _ hkeep⟩

end Equate.Directive
