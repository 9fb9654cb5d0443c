import Equate.Proofs.Directive.Form
import Equate.Proofs.Problem.LineByLine

/-!
# Directives that come through

Which lines are directives is asked twice, before and after names are replaced. A line that is
one at first and is read at all gives one guess or one bound, the one that it gives as it is
written. But if a parameter's name stands in its first word, which takes a letter beyond ASCII
in that word, it is prose afterwards and gives none.
-/
namespace Equate
open Text Success

theorem Text.count_filter_numberedLines {t line : Text} {n : Nat} (h : (line, n) ∈ numberedLines t)
    (p : Text → Bool) :
    (((numberedLines t).filter fun x => p x.1).map Prod.snd).count n = if p line then 1 else 0 := by
  have hnodup : (((numberedLines t).filter fun x => p x.1).map Prod.snd).Nodup := by
    refine List.Nodup.sublist (List.filter_sublist.map Prod.snd) ?_
    rw [numberedLines, List.zipIdx_map_snd]
    exact List.nodup_range'
  split
  · next hp => exact List.count_eq_one_of_mem hnodup (List.mem_map.mpr ⟨_, List.mem_filter.mpr ⟨h, hp⟩, rfl⟩)
  · next hp =>
    refine List.count_eq_zero.mpr fun hmem => hp ?_
    obtain ⟨⟨line', m⟩, hx, rfl⟩ := List.mem_map.mp hmem
    obtain ⟨hx, hp'⟩ := List.mem_filter.mp hx
    exact eq_of_mem_numberedLines hx h ▸ hp'

namespace Problem

/-- None of the names stands in the word that the line opens with. -/
def Unbroken (names : List Text) (line : Text) : Prop :=
  ∀ name glued, .name name glued ∈ Name.piecesOf (Directive.openingWord line) → name ∉ names

/-- What the line gives is among the guesses and the bounds that have been read. -/
def Entered (gs : List Directive.Guess) (ks : List Directive.Keep) (line : Text) (n : Nat) :
    Directive.Kind → Prop
  | .guess => ∃ g ∈ gs, Directive.readGuess n line = .ok g
  | .keep => ∃ k ∈ ks, Directive.readKeep n line = .ok k

/-! ## One line -/

section
variable {s : Scope} (hvalid : s.Valid) {line : Text} {kind : Directive.Kind}
  (hkind : Directive.kind? line = some kind)
include hvalid

theorem exists_cons_of_valueText (word v : Text) (h : (s.value? word).map Scope.valueText = some v) :
    ∃ more, v = '(' :: more := by
  obtain ⟨body, rfl, -⟩ := hvalid.isGroup word v h
  exact ⟨_, rfl⟩

include hkind

theorem kind?_substitute_of_unbroken (h : Unbroken (s.parameters.map Parameter.name) line) :
    Directive.kind? (s.substitute line) = some kind :=
  Directive.kind?_substitute_of_kept hkind fun name glued hname =>
    Option.map_eq_none_iff.mpr (hvalid.value?_eq_none.mpr (h name glued hname))

theorem kind?_substitute_of_not_unbroken (h : ¬Unbroken (s.parameters.map Parameter.name) line) :
    Directive.kind? (s.substitute line) = none ∧
      ('\u017f' ∈ Directive.openingWord line ∨ '\u212a' ∈ Directive.openingWord line) := by
  simp only [Unbroken, not_forall, not_not] at h
  obtain ⟨name, glued, hname, hparameter⟩ := h
  have hsome : (s.value? name).map Scope.valueText ≠ none := fun hnone =>
    hvalid.value?_eq_none.mp (Option.map_eq_none_iff.mp hnone) hparameter
  refine ⟨Directive.kind?_substitute_of_replaced hkind hname hsome (exists_cons_of_valueText hvalid),
    Directive.mem_openingWord_of_replaced (r := fun name => (s.value? name).map Scope.valueText)
      hkind hname hsome fun word hword => ?_⟩
  have hkeywords : ∀ word ∈ Directive.openings, word ∈ Name.keywords := by decide
  rw [hvalid.value?_eq_none_of_keyword (hkeywords _ hword), Option.map_none]

end

/-! ## Whole sources -/

/-- What has been read of a line has no parenthesis in it. -/
theorem Entered.open_not_mem {gs : List Directive.Guess} {ks : List Directive.Keep} {line : Text}
    {n : Nat} {kind : Directive.Kind} (h : Entered gs ks line n kind) : '(' ∉ line := by
  cases kind with
  | guess =>
    obtain ⟨g, -, hg⟩ := h
    obtain ⟨number, name, value, hparts, -⟩ := Directive.readGuess_eq_ok.mp hg
    exact Directive.open_not_mem_of_guessParts? hparts
  | keep =>
    obtain ⟨k, -, hk⟩ := h
    obtain ⟨name, lowText, highText, low, high, hparts, -⟩ := Directive.readKeep_eq_ok.mp hk
    exact Directive.open_not_mem_of_keepParts? hparts

section
variable {text : Text} {s : Scope} {r : Readings} (h : Compiles (lines text) s r)
  {line : Text} {n : Nat} (hx : (line, n) ∈ numberedLines text)
include h hx

/-- A line gives one guess or one bound if it opens with a directive after names are replaced. -/
theorem Compiles.count_directives :
    (r.guesses.map Directive.Guess.line ++ r.keeps.map Directive.Keep.line).count n =
      if (Directive.kind? (rewritten s line)).isSome then 1 else 0 := by
  have hguesses : r.guesses.map Directive.Guess.line = ((numberedLines text).filter fun x =>
      Directive.kind? (rewritten s x.1) == some .guess).map Prod.snd :=
    map_of_mapM_eq_ok (fun _ _ => Directive.line_of_readGuess) h.read.guesses
  have hkeeps : r.keeps.map Directive.Keep.line = ((numberedLines text).filter fun x =>
      Directive.kind? (rewritten s x.1) == some .keep).map Prod.snd :=
    map_of_mapM_eq_ok (fun _ _ => Directive.line_of_readKeep) h.read.keeps
  rw [List.count_append, hguesses, hkeeps,
    count_filter_numberedLines hx fun line => Directive.kind? (rewritten s line) == some .guess,
    count_filter_numberedLines hx fun line => Directive.kind? (rewritten s line) == some .keep]
  rcases Directive.kind? (rewritten s line) with _ | _ | _ <;> rfl

theorem Compiles.entered {kind : Directive.Kind}
    (hkind : Directive.kind? (rewritten s line) = some kind) :
    Entered r.guesses r.keeps (rewritten s line) n kind := by
  have hmem : (line, n) ∈ (numberedLines text).filter fun x =>
      Directive.kind? (rewritten s x.1) == some kind :=
    List.mem_filter.mpr ⟨hx, beq_iff_eq.mpr hkind⟩
  cases kind with
  | guess => exact exists_mem_mapM (x := (line, n)) h.read.guesses hmem
  | keep => exact exists_mem_mapM (x := (line, n)) h.read.keeps hmem

/-- Since it is read, it has no value in it and is still what it was. -/
theorem Compiles.substitute_eq_self {kind : Directive.Kind} (hdefines : defines line = false)
    (hkind : Directive.kind? (s.substitute line) = some kind) :
    s.substitute line = line ∧ Entered r.guesses r.keeps line n kind := by
  rw [← rewritten_of_not_defines hdefines] at hkind
  have hentered := h.entered hx hkind
  rw [rewritten_of_not_defines hdefines] at hentered
  have hvalid : s.Valid := (Scope.reachable_ofDefinitions h.scope).valid
  have hself : s.substitute line = line :=
    Name.substitute_eq_self_of_not_mem (exists_cons_of_valueText hvalid) hentered.open_not_mem
  rw [hself] at hentered
  exact ⟨hself, hentered⟩

end

/-- Every line that opens with a directive gives one guess or one bound, the one that it gives
as it is written, exactly if no parameter's name stands in its first word. Otherwise it gives
none, and that word is not written in ASCII. -/
theorem directive_entered_iff {units : Unit.Table} {source : Text} {p : Problem}
    {warnings : List Warning} (h : ofSource units source = .ok (p, warnings)) :
    ∃ text left s gs ks, Conversion.resolve units.conversion source = .ok text ∧
      Scope.extract text = .ok (left, s) ∧ Directive.guesses left = .ok gs ∧
      Directive.keeps left = .ok ks ∧ p.parameters = s.parameters ∧
      ∀ line n kind, (line, n) ∈ numberedLines text → ':' ∉ line → Directive.kind? line = some kind →
        (Unbroken (p.parameters.map Parameter.name) line ↔
          (gs.map Directive.Guess.line ++ ks.map Directive.Keep.line).count n = 1) ∧
        (Unbroken (p.parameters.map Parameter.name) line →
          s.substitute line = line ∧ Entered gs ks line n kind) ∧
        (¬Unbroken (p.parameters.map Parameter.name) line →
          Directive.kind? (s.substitute line) = none ∧
          (gs.map Directive.Guess.line ++ ks.map Directive.Keep.line).count n = 0 ∧
          ('\u017f' ∈ Directive.openingWord line ∨ '\u212a' ∈ Directive.openingWord line)) := by
  obtain ⟨text, s, r, htext, hcompiles, heq⟩ := ofSource_eq_ok.mp h
  cases heq
  have hvalid : s.Valid := (Scope.reachable_ofDefinitions hcompiles.scope).valid
  refine ⟨text, leftText s text, s, r.guesses, r.keeps, htext,
    extract_eq_ok.mpr ⟨s, hcompiles.scope, hcompiles.checked, rfl⟩,
    (guesses_leftText s text).trans hcompiles.read.guesses,
    (keeps_leftText s text).trans hcompiles.read.keeps, rfl, fun line n kind hx hcolon hkind => ?_⟩
  have hdefines : defines line = false := by simpa [defines] using hcolon
  have hcount := hcompiles.count_directives hx
  rw [rewritten_of_not_defines hdefines] at hcount
  by_cases hunbroken : Unbroken (s.parameters.map Parameter.name) line
  · have hkept := kind?_substitute_of_unbroken hvalid hkind hunbroken
    rw [hkept] at hcount
    exact ⟨iff_of_true hunbroken hcount, fun _ => hcompiles.substitute_eq_self hx hdefines hkept,
      fun hbroken => absurd hunbroken hbroken⟩
  · obtain ⟨hlost, hletter⟩ := kind?_substitute_of_not_unbroken hvalid hkind hunbroken
    rw [hlost] at hcount
    exact ⟨iff_of_false hunbroken (hcount ▸ Nat.zero_ne_one), fun h => absurd h hunbroken,
      fun _ => ⟨hlost, hcount, hletter⟩⟩

/-- For instance the bound of a fall. -/
theorem directive_entered_fall :
    ∃ p warnings left s gs ks,
      ofSource ⟨[]⟩ "g: 9.8\nkeep t on [0, 5]\ng * t = u" = .ok (p, warnings) ∧
      Scope.extract "g: 9.8\nkeep t on [0, 5]\ng * t = u" = .ok (left, s) ∧
      Directive.guesses left = .ok gs ∧ Directive.keeps left = .ok ks ∧
      (gs.map Directive.Guess.line ++ ks.map Directive.Keep.line).count 2 = 1 ∧
      Entered gs ks "keep t on [0, 5]" 2 .keep := by
  have htags : (Conversion.resolve (Unit.Table.mk []).conversion
      "g: 9.8\nkeep t on [0, 5]\ng * t = u").toOption =
        some "g: 9.8\nkeep t on [0, 5]\ng * t = u" := by
    decide +kernel
  obtain ⟨text, left, s, gs, ks, htext, hextract, hgs, hks, -, hlines⟩ :=
    directive_entered_iff ofSource_fall
  cases htext.symm.trans (eq_ok_of_toOption htags)
  obtain ⟨hiff, hkept, -⟩ := hlines "keep t on [0, 5]" 2 .keep (by decide +kernel) (by decide)
    (by decide +kernel)
  have hunbroken : Unbroken [("g" : Text)] "keep t on [0, 5]" := by
    have hpieces : Name.piecesOf (Directive.openingWord "keep t on [0, 5]") = [.name "keep" false] := by
      decide +kernel
    intro name glued hname
    rw [hpieces] at hname
    cases List.mem_singleton.mp hname
    decide
  exact ⟨_, _, left, s, gs, ks, ofSource_fall, hextract, hgs, hks, hiff.mp hunbroken, (hkept hunbroken).2⟩

/-- With the Kelvin sign for its first letter a bound is lost, if the other letters of its word
are the name of a parameter. -/
theorem directive_lost_kelvin :
    ∃ p warnings left s,
      ofSource ⟨[]⟩ "eep: 1\n\u212aeep x on [0, 5]\nx = 2" = .ok (p, warnings) ∧
      (("\u212aeep x on [0, 5]" : Text), 2) ∈ numberedLines "eep: 1\n\u212aeep x on [0, 5]\nx = 2" ∧
      ':' ∉ ("\u212aeep x on [0, 5]" : Text) ∧
      Directive.kind? "\u212aeep x on [0, 5]" = some .keep ∧
      Scope.extract "eep: 1\n\u212aeep x on [0, 5]\nx = 2" = .ok (left, s) ∧
      s.substitute "\u212aeep x on [0, 5]" = "\u212a(1) x on [0, 5]" ∧
      Directive.guesses left = .ok [] ∧ Directive.keeps left = .ok [] ∧ p.bounds.toList = [] := by
  have hscope : Scope.ofDefinitions [⟨1, "eep: 1", "eep", "1"⟩] =
      .ok (Scope.empty.push ⟨"eep", 1, "1", 1⟩) :=
    Scope.ofDefinitions_num (by decide) (by decide +kernel) (eq_ok_of_toOption (by decide +kernel))
      (by decide +kernel)
  have htags : (Conversion.resolve (Unit.Table.mk []).conversion
      "eep: 1\n\u212aeep x on [0, 5]\nx = 2").toOption =
        some "eep: 1\n\u212aeep x on [0, 5]\nx = 2" := by
    decide +kernel
  have hcheck : ∀ x ∈ numberedLines "eep: 1\n\u212aeep x on [0, 5]\nx = 2", defines x.1 = false →
      ((Scope.empty.push ⟨"eep", 1, "1", 1⟩).checkLine x.2 x.1).toOption = some () := by
    decide +kernel
  have h := ofSource_of_toOption "eep: 1\n\u212aeep x on [0, 5]\nx = 2" ⟨[], [], ["x = 2"]⟩
    htags hscope hcheck (by decide +kernel) (by decide +kernel) (by decide +kernel)
  refine ⟨_, _, _, _, h, by decide +kernel, by decide, by decide +kernel,
    extract_eq_ok.mpr ⟨_, hscope, fun line n hx hdefines => eq_ok_of_toOption (hcheck (line, n) hx hdefines),
      rfl⟩, by decide +kernel, ?_, ?_, rfl⟩
  · rw [guesses_leftText]
    exact eq_ok_of_toOption (by decide +kernel)
  · rw [keeps_leftText]
    exact eq_ok_of_toOption (by decide +kernel)

end Problem
end Equate
