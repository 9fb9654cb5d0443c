import Equate.Proofs.Problem.DirectiveLines
import Equate.Proofs.Problem.WellFormed

/-!
# The guesses and bounds that count

Guesses and bounds are put into maps as they are read, one after another, and the names that no
equation has are taken out again, with a warning for each. What is left for a variable is what the
last line for it says. All guesses of a text are read, and of its bounds all but those that cease to
be directives when a parameter's name is replaced in their first word.
-/
namespace Equate
open Text Success

namespace Problem

/-- What the directives of a text say, from the top to the bottom: all of its guesses, and the bounds
with none of the names in their first word. -/
structure Given (names : List Text) (text : Text) (gs : List Directive.Guess)
    (ks : List Directive.Keep) : Prop where
  guess : ∀ g, g ∈ gs ↔ ∃ line, (line, g.line) ∈ numberedLines text ∧ ':' ∉ line ∧
    Directive.kind? line = some .guess ∧ Directive.readGuess g.line line = .ok g
  keep : ∀ k, k ∈ ks ↔ ∃ line, (line, k.line) ∈ numberedLines text ∧ ':' ∉ line ∧
    Directive.kind? line = some .keep ∧ Unbroken names line ∧ Directive.readKeep k.line line = .ok k
  readable : ∀ line n kind, (line, n) ∈ numberedLines text → ':' ∉ line →
    Directive.kind? line = some kind → (kind = .keep → Unbroken names line) → Entered gs ks line n kind
  guessOrder : gs.Pairwise fun a b => a.line < b.line
  keepOrder : ks.Pairwise fun a b => a.line < b.line

/-- The last of the guesses and bounds for a variable are its own. Without a guess it starts at one.
Other names have neither, and there is one warning for each of these names that has a guess and
then one for each that has a bound, in the order of the names. -/
structure LastWritten (gs : List Directive.Guess) (ks : List Directive.Keep) (p : Problem)
    (warnings : List Warning) : Prop where
  guess : ∀ name ∈ p.unknowns, p.guesses[name]? =
    some (((gs.filter fun g => g.name == name).getLast?.map Directive.Guess.value).getD 1)
  bound : ∀ name ∈ p.unknowns, p.bounds[name]? =
    (ks.filter fun k => k.name == name).getLast?.map Directive.Keep.bound
  others : ∀ name, name ∉ p.unknowns → p.guesses[name]? = none ∧ p.bounds[name]? = none
  warned : ∃ ns ms : List Text, warnings = ns.map .unusedGuess ++ ms.map .unusedBound ∧
    ns.Pairwise (· < ·) ∧ ms.Pairwise (· < ·) ∧
    (∀ name, name ∈ ns ↔ name ∉ p.unknowns ∧ name ∈ gs.map Directive.Guess.name) ∧
    ∀ name, name ∈ ms ↔ name ∉ p.unknowns ∧ name ∈ ks.map Directive.Keep.name

/-! ## Names without a variable -/

section
variable {α : Type} {m : NameMap α} {unknowns : List Text}

theorem mem_unused {name : Text} : name ∈ unused m unknowns ↔ name ∉ unknowns ∧ name ∈ m := by
  rw [unused, List.mem_filter, Std.ExtTreeMap.mem_keys, and_comm, Bool.not_eq_true',
    ← Bool.not_eq_true, List.contains_iff_mem]

theorem pairwise_unused : (unused m unknowns).Pairwise (· < ·) :=
  (NameMap.pairwise_keys m).filter _

end

/-! ## The lines of directives -/

/-- The word of a guess has no place for a parameter. -/
theorem unbroken_of_guess {s : Scope} (hvalid : s.Valid) {line : Text}
    (hkind : Directive.kind? line = some .guess) :
    Unbroken (s.parameters.map Parameter.name) line := by
  refine Classical.byContradiction fun hbroken => ?_
  rcases (kind?_substitute_of_not_unbroken hvalid hkind hbroken).2 with hletter | hletter
  · exact (Directive.ne_of_mem_openingWord hkind hletter).1 rfl
  · exact (Directive.ne_of_mem_openingWord hkind hletter).2 rfl

/-- Directives that are read one line after another are in the order of the lines. -/
theorem pairwise_line_of_mapM {α : Type} {text : Text} {f : Text × Nat → Except Fault α} {p : Text × Nat → Bool}
    {ys : List α} {line : α → Nat} (hline : ∀ x y, f x = .ok y → line y = x.2)
    (hm : ((numberedLines text).filter p).mapM f = .ok ys) : ys.Pairwise fun a b => line a < line b := by
  have hlines : ys.map line = ((numberedLines text).filter p).map Prod.snd :=
    map_of_mapM_eq_ok hline hm
  have hnumbers : ((numberedLines text).map Prod.snd).Pairwise (· < ·) := by
    rw [numberedLines, List.zipIdx_map_snd]
    exact List.pairwise_lt_range'
  rw [← List.pairwise_map (R := (· < ·)), hlines]
  exact hnumbers.sublist (List.filter_sublist.map Prod.snd)

section
variable {text : Text} {s : Scope} {r : Readings} (h : Compiles (lines text) s r)
include h

/-- A line that a directive is read from opened with it before names were replaced, and it has not
changed since. -/
theorem Compiles.line_of_kind {line : Text} {n : Nat} {kind : Directive.Kind}
    (hx : (line, n) ∈ numberedLines text) (hkind : Directive.kind? (rewritten s line) = some kind) :
    ':' ∉ line ∧ Directive.kind? line = some kind ∧
      Unbroken (s.parameters.map Parameter.name) line ∧ rewritten s line = line := by
  cases hdefines : defines line with
  | true =>
    rw [rewritten_of_defines hdefines] at hkind
    cases hkind
  | false =>
    have hkept := hkind
    rw [rewritten_of_not_defines hdefines] at hkept
    have hself := (h.substitute_eq_self hx hdefines hkept).1
    rw [hself] at hkept
    refine ⟨defines_eq_false_iff.mp hdefines, hkept, ?_, by rw [rewritten_of_not_defines hdefines, hself]⟩
    refine Classical.byContradiction fun hbroken => ?_
    have hlost := (kind?_substitute_of_not_unbroken h.valid hkept hbroken).1
    rw [hself, hkept] at hlost
    cases hlost

theorem Compiles.entered_of_unbroken {line : Text} {n : Nat} {kind : Directive.Kind}
    (hx : (line, n) ∈ numberedLines text) (hcolon : ':' ∉ line)
    (hkind : Directive.kind? line = some kind)
    (hunbroken : Unbroken (s.parameters.map Parameter.name) line) :
    rewritten s line = line ∧ Entered r.guesses r.keeps line n kind := by
  have hdefines : defines line = false := defines_eq_false_iff.mpr hcolon
  rw [rewritten_of_not_defines hdefines]
  exact h.substitute_eq_self hx hdefines (kind?_substitute_of_unbroken h.valid hkind hunbroken)

/-- Of the directives of one kind those are read that stand on a line that opens with their word and
has no parameter's name in it. -/
theorem Compiles.mem_iff_of_kind {α : Type} (kind : Directive.Kind)
    (read : Nat → Text → Except Fault α) {ys : List α} {number : α → Nat}
    (hnumber : ∀ {n line y}, read n line = .ok y → number y = n)
    (hm : ((numberedLines text).filter fun x => Directive.kind? (rewritten s x.1) == some kind).mapM
      (fun x => read x.2 (rewritten s x.1)) = .ok ys) (y : α) :
    y ∈ ys ↔ ∃ line, (line, number y) ∈ numberedLines text ∧ ':' ∉ line ∧
      Directive.kind? line = some kind ∧ Unbroken (s.parameters.map Parameter.name) line ∧
      read (number y) line = .ok y := by
  constructor
  · intro hy
    obtain ⟨⟨line, n⟩, hx, hread⟩ := exists_of_mem_mapM hm hy
    obtain ⟨hx, hkind⟩ := List.mem_filter.mp hx
    obtain ⟨hcolon, hkept, hunbroken, hself⟩ := h.line_of_kind hx (beq_iff_eq.mp hkind)
    obtain rfl := hnumber hread
    exact ⟨line, hx, hcolon, hkept, hunbroken, hself ▸ hread⟩
  · rintro ⟨line, hx, hcolon, hkind, hunbroken, hread⟩
    have hself := (h.entered_of_unbroken hx hcolon hkind hunbroken).1
    have hmem : (line, number y) ∈ (numberedLines text).filter fun x =>
        Directive.kind? (rewritten s x.1) == some kind :=
      List.mem_filter.mpr ⟨hx, beq_iff_eq.mpr (hself.symm ▸ hkind)⟩
    obtain ⟨y', hy', hread'⟩ := exists_mem_mapM hm hmem
    rw [hself] at hread'
    cases hread.symm.trans hread'
    exact hy'

theorem Compiles.given : Given (s.parameters.map Parameter.name) text r.guesses r.keeps where
  guess g := by
    rw [h.mem_iff_of_kind .guess Directive.readGuess Directive.line_of_readGuess h.read.guesses]
    exact exists_congr fun line => and_congr_right fun _ => and_congr_right fun _ =>
      and_congr_right fun hkind => and_iff_right (unbroken_of_guess h.valid hkind)
  keep := h.mem_iff_of_kind .keep Directive.readKeep Directive.line_of_readKeep h.read.keeps
  readable line n kind hx hcolon hkind hkeep := by
    refine (h.entered_of_unbroken hx hcolon hkind ?_).2
    cases kind with
    | guess => exact unbroken_of_guess h.valid hkind
    | keep => exact hkeep rfl
  guessOrder := pairwise_line_of_mapM (fun _ _ => Directive.line_of_readGuess) h.read.guesses
  keepOrder := pairwise_line_of_mapM (fun _ _ => Directive.line_of_readKeep) h.read.keeps

/-! ## The maps -/

theorem Compiles.lastWritten :
    LastWritten r.guesses r.keeps (r.collect s).1 (r.collect s).2 where
  guess name hname := by
    rw [Readings.collect, getElem?_guesses_collect hname, NameMap.getElem?_ofEntries_map]
    cases (r.guesses.filter fun g => g.name == name).getLast? <;> rfl
  bound name hname := by
    rw [Readings.collect, getElem?_bounds_collect_of_mem hname, NameMap.getElem?_ofEntries_map]
  others name hname := by
    constructor
    · exact Std.ExtTreeMap.getElem?_eq_none fun hmem => hname ((h.wellFormed.guessed name).mp hmem)
    · rw [Option.eq_none_iff_forall_ne_some]
      exact fun b hb => hname (h.wellFormed.bounded name b hb).1
  warned := by
    refine ⟨_, _, rfl, pairwise_unused, pairwise_unused, fun name => ?_, fun name => ?_⟩
    · rw [mem_unused, NameMap.mem_ofEntries_map]
      rfl
    · rw [mem_unused, NameMap.mem_ofEntries_map]
      rfl

end

/-- The system of a source has for each variable the guess and the bound that its directives give
last. These are all of its guesses and those of its bounds that open with no parameter's name in
their first word, which takes a letter beyond ASCII. -/
theorem lastWritten_ofSource {units : Unit.Table} {source : Text} {p : Problem}
    {warnings : List Warning} (h : ofSource units source = .ok (p, warnings)) :
    ∃ text left s gs ks, Conversion.resolve units.conversion source = .ok text ∧
      Scope.extract text = .ok (left, s) ∧ Directive.guesses left = .ok gs ∧
      Directive.keeps left = .ok ks ∧ p.parameters = s.parameters ∧
      Given (p.parameters.map Parameter.name) text gs ks ∧ LastWritten gs ks p warnings ∧
      ∀ line kind, Directive.kind? line = some kind →
        ¬ Unbroken (p.parameters.map Parameter.name) line →
        kind = .keep ∧
          ('\u017f' ∈ Directive.openingWord line ∨ '\u212a' ∈ Directive.openingWord line) := by
  obtain ⟨text, s, r, htext, hcompiles, heq⟩ := ofSource_eq_ok.mp h
  obtain rfl : p = (r.collect s).1 := congrArg Prod.fst heq
  obtain rfl : warnings = (r.collect s).2 := congrArg Prod.snd heq
  refine ⟨text, leftText s text, s, r.guesses, r.keeps, htext,
    extract_eq_ok.mpr ⟨s, hcompiles.scope, hcompiles.checked, rfl⟩,
    (guesses_leftText s text).trans hcompiles.read.guesses,
    (keeps_leftText s text).trans hcompiles.read.keeps, rfl, hcompiles.given, hcompiles.lastWritten,
    fun line kind hkind hbroken => ⟨?_, ?_⟩⟩
  · cases kind with
    | guess => exact absurd (unbroken_of_guess hcompiles.valid hkind) hbroken
    | keep => rfl
  · exact (kind?_substitute_of_not_unbroken hcompiles.valid hkind hbroken).2

/-- For instance with a guess that is replaced, a variable without a guess and a guess for a name that
is no variable. -/
theorem lastWritten_ofSource_replaced :
    ∃ p warnings gs ks,
      ofSource ⟨[]⟩ "guess 2 for x\nkeep y on [0, 1]\nguess 3 for x\nguess 4 for z\nx = y" =
        .ok (p, warnings) ∧
      LastWritten gs ks p warnings ∧ p.unknowns = [("x" : Text), ("y" : Text)] ∧
      p.guesses[("x" : Text)]? = some 3 ∧ p.guesses[("y" : Text)]? = some 1 ∧
      p.bounds[("y" : Text)]? = some ⟨0, 1⟩ ∧ warnings = [.unusedGuess "z"] := by
  have htags : (Conversion.resolve (Unit.Table.mk []).conversion
      "guess 2 for x\nkeep y on [0, 1]\nguess 3 for x\nguess 4 for z\nx = y").toOption =
        some "guess 2 for x\nkeep y on [0, 1]\nguess 3 for x\nguess 4 for z\nx = y" := by
    decide +kernel
  have h := ofSource_of_toOption
    "guess 2 for x\nkeep y on [0, 1]\nguess 3 for x\nguess 4 for z\nx = y"
    ⟨[⟨1, "x", 2⟩, ⟨3, "x", 3⟩, ⟨4, "z", 4⟩], [⟨2, "y", ⟨0, 1⟩⟩], ["x = y"]⟩ htags rfl
    (by decide +kernel) (by decide +kernel) (by decide +kernel) (by decide +kernel)
  obtain ⟨text, left, s, gs, ks, -, -, -, -, -, -, hlast, -⟩ := lastWritten_ofSource h
  exact ⟨_, _, gs, ks, h, hlast, by decide +kernel, by decide +kernel, by decide +kernel,
    by decide +kernel, by decide +kernel⟩

/-- With the Kelvin sign for its first letter the last bound is not the one that counts, if the other
letters of its word are the name of a parameter. -/
theorem not_lastWritten_kelvin :
    ∃ p warnings,
      ofSource ⟨[]⟩ "eep: 1\nkeep x on [0, 9]\n\u212aeep x on [0, 5]\nx = 2" = .ok (p, warnings) ∧
      Directive.keeps "eep: 1\nkeep x on [0, 9]\n\u212aeep x on [0, 5]\nx = 2" =
        .ok [⟨2, "x", ⟨0, 9⟩⟩, ⟨3, "x", ⟨0, 5⟩⟩] ∧
      p.unknowns = [("x" : Text)] ∧ p.bounds[("x" : Text)]? = some ⟨0, 9⟩ := by
  have hscope : Scope.ofDefinitions [⟨1, "eep: 1", "eep", "1"⟩] =
      .ok (Scope.empty.push ⟨"eep", 1, "1", 1⟩) :=
    Scope.ofDefinitions_num (by decide) (by decide +kernel) (eq_ok_of_toOption (by decide +kernel))
      (by decide +kernel)
  have htags : (Conversion.resolve (Unit.Table.mk []).conversion
      "eep: 1\nkeep x on [0, 9]\n\u212aeep x on [0, 5]\nx = 2").toOption =
        some "eep: 1\nkeep x on [0, 9]\n\u212aeep x on [0, 5]\nx = 2" := by
    decide +kernel
  have h := ofSource_of_toOption "eep: 1\nkeep x on [0, 9]\n\u212aeep x on [0, 5]\nx = 2"
    ⟨[], [⟨2, "x", ⟨0, 9⟩⟩], ["x = 2"]⟩ htags hscope (by decide +kernel) (by decide +kernel)
    (by decide +kernel) (by decide +kernel)
  exact ⟨_, _, h, eq_ok_of_toOption (by decide +kernel), by decide +kernel, by decide +kernel⟩

end Problem
end Equate
