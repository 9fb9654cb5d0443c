import Equate.Directive.Extraction
import Equate.Proofs.Success
import Equate.Proofs.Text.Lines

/-!
# Directives that are read

What a line must look like for a guess or a bound to be read from it, and which lines of
a text the directives account for: exactly those that open with one.
-/
namespace Equate.Directive
open Text Success

theorem readNumber_eq_ok {n : Nat} {line literal : Text} {x : Float} :
    readNumber n line literal = .ok x ↔ Number.readSigned? literal = some x := by
  unfold readNumber
  cases Number.readSigned? literal <;> simp

theorem readGuess_eq_ok {n : Nat} {line : Text} {g : Guess} :
    readGuess n line = .ok g ↔ ∃ number name value,
      guessParts? line = some (number, name) ∧ Number.readSigned? number = some value ∧
        g = ⟨n, name, value⟩ := by
  unfold readGuess
  cases guessParts? line with
  | none => simp
  | some parts =>
    obtain ⟨number, name⟩ := parts
    simp only [bind_eq_ok, readNumber_eq_ok, Option.some.injEq, Prod.mk.injEq]
    constructor
    · rintro ⟨value, hvalue, h⟩
      exact ⟨number, name, value, ⟨rfl, rfl⟩, hvalue, (Except.ok.inj h).symm⟩
    · rintro ⟨_, _, value, ⟨rfl, rfl⟩, hvalue, rfl⟩
      exact ⟨value, hvalue, rfl⟩

theorem readKeep_eq_ok {n : Nat} {line : Text} {k : Keep} :
    readKeep n line = .ok k ↔ ∃ name lowText highText low high,
      keepParts? line = some (name, lowText, highText) ∧
        Number.readSigned? lowText = some low ∧ Number.readSigned? highText = some high ∧
        low ≤ high ∧ k = ⟨n, name, ⟨low, high⟩⟩ := by
  unfold readKeep
  cases keepParts? line with
  | none => simp
  | some parts =>
    obtain ⟨name, lowText, highText⟩ := parts
    simp only [bind_eq_ok, readNumber_eq_ok, Option.some.injEq, Prod.mk.injEq]
    constructor
    · rintro ⟨low, hlow, high, hhigh, h⟩
      refine ⟨name, lowText, highText, low, high, ⟨rfl, rfl, rfl⟩, hlow, hhigh, ?_⟩
      split at h
      · cases h
      · next bound hbound =>
        obtain ⟨hle, rfl⟩ := Bound.ofEnds?_eq_some_iff.mp hbound
        exact ⟨hle, (Except.ok.inj h).symm⟩
    · rintro ⟨_, _, _, low, high, ⟨rfl, rfl, rfl⟩, hlow, hhigh, hle, rfl⟩
      refine ⟨low, hlow, high, hhigh, ?_⟩
      rw [Bound.ofEnds?_eq_some_iff.mpr ⟨hle, rfl⟩]

theorem line_of_readGuess {n : Nat} {line : Text} {g : Guess} (h : readGuess n line = .ok g) :
    g.line = n := by
  obtain ⟨number, name, value, -, -, rfl⟩ := readGuess_eq_ok.mp h
  rfl

theorem line_of_readKeep {n : Nat} {line : Text} {k : Keep} (h : readKeep n line = .ok k) :
    k.line = n := by
  obtain ⟨name, lowText, highText, low, high, -, -, -, -, rfl⟩ := readKeep_eq_ok.mp h
  rfl

section
variable {n : Nat} {line : Text} {e : Fault}

theorem readNumber_eq_error {literal : Text} (h : readNumber n line literal = .error e) :
    ∃ cause : Cause, e = cause.fault n line := by
  unfold readNumber at h
  split at h
  · exact ⟨.number literal, (Except.error.inj h).symm⟩
  · cases h

/-- A guess that is refused is so for a cause in its line. -/
theorem readGuess_eq_error (h : readGuess n line = .error e) :
    ∃ cause : Cause, e = cause.fault n line := by
  unfold readGuess at h
  split at h
  · exact ⟨.guessForm, (Except.error.inj h).symm⟩
  · rcases bind_eq_error.mp h with h | ⟨value, -, h⟩
    · exact readNumber_eq_error h
    · cases h

/-- So is a bound. -/
theorem readKeep_eq_error (h : readKeep n line = .error e) :
    ∃ cause : Cause, e = cause.fault n line := by
  unfold readKeep at h
  split at h
  · exact ⟨.keepForm, (Except.error.inj h).symm⟩
  · rcases bind_eq_error.mp h with h | ⟨low, -, h⟩
    · exact readNumber_eq_error h
    rcases bind_eq_error.mp h with h | ⟨high, -, h⟩
    · exact readNumber_eq_error h
    · split at h
      · exact ⟨.inverted low high, (Except.error.inj h).symm⟩
      · cases h

end

/-- A line that opens with the word of a directive. -/
def directs (line : Text) : Bool := (kind? line).isSome

theorem mem_map_snd_linesOfKind {kind : Kind} {t : Text} {n : Nat} :
    n ∈ (linesOfKind kind t).map Prod.snd ↔
      ∃ line, (line, n) ∈ numberedLines t ∧ kind? line = some kind := by
  simp [linesOfKind]

theorem map_line_guesses {t : Text} {gs : List Guess} (h : guesses t = .ok gs) :
    gs.map Guess.line = (linesOfKind .guess t).map Prod.snd :=
  map_of_mapM_eq_ok (fun _ _ => line_of_readGuess) h

theorem map_line_keeps {t : Text} {ks : List Keep} (h : keeps t = .ok ks) :
    ks.map Keep.line = (linesOfKind .keep t).map Prod.snd :=
  map_of_mapM_eq_ok (fun _ _ => line_of_readKeep) h

/-- The lines with a guess or a bound are those that open with a directive. -/
theorem mem_directives_line {t : Text} {gs : List Guess} {ks : List Keep}
    (hgs : guesses t = .ok gs) (hks : keeps t = .ok ks) {n : Nat} :
    n ∈ gs.map Guess.line ++ ks.map Keep.line ↔
      ∃ line, (line, n) ∈ numberedLines t ∧ directs line := by
  rw [List.mem_append, map_line_guesses hgs, map_line_keeps hks, mem_map_snd_linesOfKind,
    mem_map_snd_linesOfKind, ← exists_or]
  refine exists_congr fun line => ?_
  rw [← and_or_left]
  refine and_congr_right fun _ => ?_
  unfold directs
  rcases kind? line with _ | _ | _ <;> simp

end Equate.Directive
