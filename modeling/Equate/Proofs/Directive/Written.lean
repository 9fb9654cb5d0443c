import Equate.Proofs.Conversion.Tagless
import Equate.Proofs.Directive.Target
import Equate.Proofs.Number.RoundTrip

/-!
# Directives written and read back

A guess and a bound are written as the lines that give them, with their numbers in plain
form. Each pattern reads its own line back, and no other pass takes anything out of it: the
words of the line are reserved, the numbers have no letters, so what can be replaced in it
is at most the name that it is about.
-/
namespace Equate.Directive
open Text

/-- The line that gives a guess. -/
def guessLine (name : Text) (value : Float) : Text :=
  "guess " ++ (Number.plain value ++ (" for " ++ name))

/-- The line that gives a bound. -/
def keepLine (name : Text) (b : Bound) : Text :=
  "keep " ++ (name ++ (" on [" ++ (Number.plain b.low ++ (", " ++ (Number.plain b.high ++ "]")))))

/-- A guess with single blanks between its parts. -/
def GuessForm.spaced (number name : Text) : GuessForm :=
  ⟨[], "guess", " ", number, " ", "for", " ", name, []⟩

theorem GuessForm.text_spaced (number name : Text) :
    (spaced number name).text = "guess " ++ (number ++ (" for " ++ name)) := by
  simp only [text, parts, spaced, List.flatten_cons, List.flatten_nil, List.append_nil, List.nil_append]
  rfl

/-! ## Numbers and names -/

theorem accepts_plain {x : Float} (hx : x.isFinite = true) : Part.number.Accepts (Number.plain x) := by
  obtain ⟨l, hl, htext⟩ := Number.exists_literal_plain hx
  exact Part.accepts_number_iff.mpr ⟨l, hl.decimal, htext⟩

theorem isNameStart_of_isStart {c : Char} (h : Name.isStart c = true) : isNameStart c = true := by
  have hascii : c.toNat < 128 := by
    rw [Name.isStart_iff_toNat] at h
    omega
  have hall : ∀ n < 128, Name.isStart (Char.ofNat n) = true → isNameStart (Char.ofNat n) = true := by
    decide +kernel
  have hc := hall c.toNat hascii
  rw [Char.ofNat_toNat] at hc
  exact hc h

theorem isNameContinue_of_isContinue {c : Char} (h : Name.isContinue c = true) :
    isNameContinue c = true := by
  rw [Name.isContinue_eq, Bool.or_eq_true] at h
  rw [isNameContinue, Bool.or_eq_true]
  exact h.imp_left isNameStart_of_isStart

theorem isBlank_of_isContinue {c : Char} (h : Name.isContinue c = true) : isBlank c = false :=
  isBlank_of_isWordCharacter (Bool.or_eq_true _ _ |>.mpr (.inl h))

section
variable {name : Text} (hname : Name.isIdentifier name = true)
include hname

theorem accepts_identifier : Part.name.Accepts name := by
  obtain ⟨c, name, rfl, hc, hrest⟩ := Name.exists_of_isIdentifier hname
  exact .name (isNameStart_of_isStart hc) fun d hd => isNameContinue_of_isContinue (hrest d hd)

/-! ## Lines read back -/

theorem GuessForm.matches_spaced {number : Text} (hnumber : Part.number.Accepts number) :
    (spaced number name).Matches := by
  have hgap : Part.gap.Accepts " " := .gap (by decide) (List.forall_mem_singleton.mpr (by decide))
  exact matches_iff.mpr ⟨.blanks nofun, .word rfl, hgap, hnumber, hgap, .word rfl, hgap,
    accepts_identifier hname, .blanks nofun⟩

theorem guessParts?_guessLine {x : Float} (hx : x.isFinite = true) :
    guessParts? (guessLine name x) = some (Number.plain x, name) :=
  guessParts?_eq_some_iff.mpr ⟨GuessForm.spaced (Number.plain x) name,
    GuessForm.matches_spaced hname (accepts_plain hx), GuessForm.text_spaced _ _, rfl, rfl⟩

theorem keepParts?_keepLine {b : Bound} (hlow : b.low.isFinite = true) (hhigh : b.high.isFinite = true) :
    keepParts? (keepLine name b) = some (name, Number.plain b.low, Number.plain b.high) := by
  refine keepParts?_eq_some_iff.mpr ⟨⟨[], "keep", " ", name, " ", "on", " ", [], Number.plain b.low, [],
    " ", Number.plain b.high, [], []⟩, ?_, ?_, rfl, rfl, rfl⟩
  · have hblank : ∀ c ∈ (" " : Text), isBlank c = true := List.forall_mem_singleton.mpr (by decide)
    have hgap : Part.gap.Accepts " " := .gap (by decide) hblank
    exact KeepForm.matches_iff.mpr ⟨.blanks nofun, .word rfl, hgap, accepts_identifier hname,
      hgap, .word rfl, hgap, .blanks nofun, accepts_plain hlow, .blanks nofun, .blanks hblank,
      accepts_plain hhigh, .blanks nofun, .blanks nofun⟩
  · simp only [KeepForm.text, KeepForm.parts, List.flatten_cons, List.flatten_nil, List.append_nil,
      List.nil_append]
    rfl

theorem readGuess_guessLine {x : Float} (hx : x.isFinite = true) (n : Nat) :
    readGuess n (guessLine name x) = .ok ⟨n, name, x⟩ :=
  readGuess_eq_ok.mpr ⟨_, name, x, guessParts?_guessLine hname hx, Number.readSigned?_plain hx, rfl⟩

theorem readKeep_keepLine {b : Bound} (hlow : b.low.isFinite = true) (hhigh : b.high.isFinite = true)
    (hle : b.low ≤ b.high) (n : Nat) : readKeep n (keepLine name b) = .ok ⟨n, name, b⟩ :=
  readKeep_eq_ok.mpr ⟨name, _, _, b.low, b.high, keepParts?_keepLine hname hlow hhigh,
    Number.readSigned?_plain hlow, Number.readSigned?_plain hhigh, hle, rfl⟩

end

/-! ## What the lines open with -/

theorem kind?_guessLine (name : Text) (x : Float) : kind? (guessLine name x) = some .guess := rfl

theorem kind?_keepLine (name : Text) (b : Bound) : kind? (keepLine name b) = some .keep := rfl

/-! ## What else is in the lines -/

/-- A character of a directive as it is written. -/
def isWritten (c : Char) : Bool := Name.isContinue c || (" .-[]," : Text).contains c

theorem isWritten_of_mem_plain {x : Float} (hx : x.isFinite = true) {c : Char}
    (h : c ∈ Number.plain x) : isWritten c = true := by
  have hc := Number.isPlainChar_of_mem_plain ((Number.isFinite_iff x).mp hx) h
  unfold Number.isPlainChar at hc
  simp only [Bool.or_eq_true, beq_iff_eq] at hc
  rcases hc with (hc | rfl) | rfl
  · rw [isWritten, Name.isContinue_eq, hc, Bool.or_true, Bool.true_or]
  · decide
  · decide

theorem all_isWritten_append {a b : Text} (ha : a.all isWritten = true) (hb : b.all isWritten = true) :
    (a ++ b).all isWritten = true := by
  rw [List.all_append, ha, hb, Bool.and_true]

theorem all_isWritten_plain {x : Float} (hx : x.isFinite = true) :
    (Number.plain x).all isWritten = true :=
  List.all_eq_true.mpr fun _ => isWritten_of_mem_plain hx

section
variable {name : Text} (hname : Name.isIdentifier name = true)
include hname

theorem all_isWritten_name : name.all isWritten = true := List.all_eq_true.mpr fun c hc => by
  rw [isWritten, Name.isContinue_of_isIdentifier hname hc, Bool.true_or]

theorem all_guessLine {x : Float} (hx : x.isFinite = true) : (guessLine name x).all isWritten = true := by
  have htail : (" for " ++ name : Text).all isWritten = true :=
    all_isWritten_append (by decide) (all_isWritten_name hname)
  exact all_isWritten_append (by decide) (all_isWritten_append (all_isWritten_plain hx) htail)

theorem all_keepLine {b : Bound} (hlow : b.low.isFinite = true) (hhigh : b.high.isFinite = true) :
    (keepLine name b).all isWritten = true := by
  have hends : (Number.plain b.low ++ (", " ++ (Number.plain b.high ++ "]")) : Text).all isWritten =
      true :=
    all_isWritten_append (all_isWritten_plain hlow) (all_isWritten_append (by decide)
      (all_isWritten_append (all_isWritten_plain hhigh) (by decide)))
  exact all_isWritten_append (by decide) (all_isWritten_append (all_isWritten_name hname)
    (all_isWritten_append (by decide) hends))

/-! ## What the lines are about -/

theorem target?_guessLine {x : Float} (hx : x.isFinite = true) :
    target? (guessLine name x) = some name := by
  refine target?_of_guessParts? (fun hmem => ?_) (kind?_guessLine name x) (guessParts?_guessLine hname hx)
  exact absurd (List.all_eq_true.mp (all_guessLine hname hx) _ hmem) (by decide)

theorem target?_keepLine {b : Bound} (hlow : b.low.isFinite = true) (hhigh : b.high.isFinite = true) :
    target? (keepLine name b) = some name :=
  target?_of_keepParts? (kind?_keepLine name b) (keepParts?_keepLine hname hlow hhigh)

end

/-! ## Replacing names in the lines -/

section
variable {r : Text → Option Text}

/-- A text in which nothing is replaced, word for word. -/
theorem substitute_append_word {word t : Text} (hword : Name.isIdentifier word = true)
    (hnone : r word = none) (ht : Name.substitute r t = t) :
    Name.substitute r (word ++ ' ' :: t) = word ++ ' ' :: t := by
  have hblank : Name.substitute r (' ' :: t) = ' ' :: t := by
    rw [Name.substitute_cons (by decide) (by decide), ht]
  rw [Name.substitute_append_word hword, hnone, Option.getD_none, hblank]
  intro c rest heq
  cases (List.cons.inj heq).1
  decide

theorem substitute_append_text {v t : Text} (hv : ∀ c ∈ v, Name.isStart c = false)
    (ht : Name.substitute r t = t) : Name.substitute r (v ++ ' ' :: t) = v ++ ' ' :: t := by
  rw [Name.substitute_append_separator r (by decide) (by decide), ht, Name.substitute_of_not_isStart hv]

theorem isStart_of_mem_plain {x : Float} (hx : x.isFinite = true) {c : Char}
    (h : c ∈ Number.plain x) : Name.isStart c = false :=
  Scope.isStart_of_isPlainChar (Number.isPlainChar_of_mem_plain ((Number.isFinite_iff x).mp hx) h)

variable {name : Text} (hname : Name.isIdentifier name = true)
  (hwords : ∀ word ∈ Name.keywords, r word = none) (hnone : r name = none)
include hname hwords hnone

theorem substitute_guessLine {x : Float} (hx : x.isFinite = true) :
    Name.substitute r (guessLine name x) = guessLine name x := by
  have hlast : Name.substitute r name = name := by
    have h := Name.substitute_append_word (r := r) (t := []) hname nofun
    rwa [hnone, Option.getD_none, Name.substitute_nil, List.append_nil] at h
  have hfor : Name.substitute r ("for" ++ ' ' :: name) = "for" ++ ' ' :: name :=
    substitute_append_word (by decide) (hwords _ (by decide)) hlast
  have hnumber := substitute_append_text (fun c => isStart_of_mem_plain hx) hfor
  have hguess : Name.substitute r ("guess" ++ ' ' :: _) = _ :=
    substitute_append_word (by decide) (hwords _ (by decide)) hnumber
  exact hguess

theorem substitute_keepLine {b : Bound} (hlow : b.low.isFinite = true) (hhigh : b.high.isFinite = true) :
    Name.substitute r (keepLine name b) = keepLine name b := by
  have hend : Name.substitute r (Number.plain b.high ++ "]") = Number.plain b.high ++ "]" := by
    refine Name.substitute_of_not_isStart fun c hc => ?_
    rcases List.mem_append.mp hc with hc | hc
    · exact isStart_of_mem_plain hhigh hc
    · rw [List.mem_singleton.mp hc]
      decide
  have hstart : ∀ c ∈ '[' :: (Number.plain b.low ++ ","), Name.isStart c = false := by
    intro c hc
    rcases List.mem_cons.mp hc with rfl | hc
    · decide
    · rcases List.mem_append.mp hc with hc | hc
      · exact isStart_of_mem_plain hlow hc
      · rw [List.mem_singleton.mp hc]
        decide
  have hends := substitute_append_text hstart hend
  have hon : Name.substitute r ("on" ++ ' ' :: _) = _ :=
    substitute_append_word (by decide) (hwords _ (by decide)) hends
  have htarget := substitute_append_word hname hnone hon
  have hkeep : Name.substitute r ("keep" ++ ' ' :: _) = _ :=
    substitute_append_word (by decide) (hwords _ (by decide)) htarget
  have hline : keepLine name b = "keep" ++ ' ' :: (name ++ ' ' :: ("on" ++ ' ' ::
      ('[' :: (Number.plain b.low ++ ",") ++ ' ' :: (Number.plain b.high ++ "]")))) := by
    simp only [List.append_assoc, List.cons_append]
    rfl
  rw [hline]
  exact hkeep

end

end Equate.Directive
