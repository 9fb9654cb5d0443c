import Equate.Proofs.Directive.Form

/-!
# Directive patterns and carriage returns

A carriage return at the end of a line is a blank, and no pattern looks at the blanks
there: what a line is read as, and what it is about, does not change when one is added.
A line with the form of a directive ends in blanks, and one more of them leaves its other
texts as they are. The readers that look for a name alone hand the carriage return on to
what they leave.
-/
namespace Equate

namespace Text

/-- Either nothing but blanks is there, or the carriage return stays at the end. -/
theorem trimStart_append_return (t : Text) :
    trimStart (t ++ ['\r']) = trimStart t ++ ['\r'] ∨
      trimStart (t ++ ['\r']) = [] ∧ trimStart t = [] := by
  unfold trimStart
  induction t with
  | nil => exact .inr ⟨by decide, rfl⟩
  | cons c t ih =>
    rw [List.cons_append, List.dropWhile_cons, List.dropWhile_cons]
    split
    · exact ih
    · exact .inl rfl

theorem trimEnd_append_return (t : Text) : trimEnd (t ++ ['\r']) = trimEnd t := by
  simp [trimEnd, show isBlank '\r' = true from by decide]

theorem trim_append_return (t : Text) : trim (t ++ ['\r']) = trim t := by
  unfold trim
  rcases trimStart_append_return t with h | ⟨h, h'⟩
  · rw [h, trimEnd_append_return]
  · rw [h, h']

theorem dropBlanks?_append_return (t : Text) :
    dropBlanks? (t ++ ['\r']) = (dropBlanks? t).map (· ++ ['\r']) ∨
      dropBlanks? (t ++ ['\r']) = some [] ∧ (dropBlanks? t = none ∨ dropBlanks? t = some []) := by
  cases t with
  | nil => exact .inr ⟨by decide, .inl rfl⟩
  | cons c t =>
    rw [List.cons_append, dropBlanks?, dropBlanks?]
    split
    · rcases trimStart_append_return t with h | ⟨h, h'⟩
      · exact .inl (congrArg some h)
      · exact .inr ⟨congrArg some h, .inr (congrArg some h')⟩
    · exact .inl rfl

end Text

namespace Directive
open Text

/-- A reader of something at the front hands a carriage return at the end on, and has
nothing to read in an empty text. -/
structure HandsOn {α : Type} (f : Text → Option α) (push : α → α) : Prop where
  nil : f [] = none
  append : ∀ t, f (t ++ ['\r']) = (f t).map push

namespace HandsOn
variable {α β : Type} {f : Text → Option α} {push : α → α} {k : α → Option β}

theorem bind (hf : HandsOn f push) (hk : ∀ a, k (push a) = k a) (t : Text) :
    (f (t ++ ['\r'])).bind k = (f t).bind k := by
  rw [hf.append]
  cases f t with
  | none => rfl
  | some a => exact hk a

theorem bind_trimStart (hf : HandsOn f push) (hk : ∀ a, k (push a) = k a) (t : Text) :
    (f (trimStart (t ++ ['\r']))).bind k = (f (trimStart t)).bind k := by
  rcases trimStart_append_return t with h | ⟨h, h'⟩
  · rw [h, hf.bind hk]
  · rw [h, h']

/-- Behind blanks that must be there. A text that ends with them leaves nothing to read,
with or without the carriage return. -/
theorem bind_blanks (hf : HandsOn f push) (hk : ∀ a, k (push a) = k a) (t : Text) :
    ((dropBlanks? (t ++ ['\r'])).bind fun t => (f t).bind k) =
      (dropBlanks? t).bind fun t => (f t).bind k := by
  rcases dropBlanks?_append_return t with h | ⟨h, h' | h'⟩
  · rw [h]
    cases dropBlanks? t with
    | none => rfl
    | some rest => exact hf.bind hk rest
  · rw [h, h', Option.bind_some, hf.nil]
    rfl
  · rw [h, h']

end HandsOn

theorem handsOn_dropWord? {word : Text} (hne : word ≠ []) (h : '\r' ∉ word) :
    HandsOn (dropWord? word) (· ++ ['\r']) := by
  refine ⟨?_, fun t => ?_⟩
  · obtain ⟨w, word, rfl⟩ := List.exists_cons_of_ne_nil hne
    rfl
  clear hne
  induction word generalizing t with
  | nil => rfl
  | cons w word ih =>
    obtain ⟨hw, hword⟩ := List.ne_and_not_mem_of_not_mem_cons h
    cases t with
    | nil =>
      have hne : foldCase '\r' ≠ w := hw
      simp [dropWord?, hne]
    | cons c t =>
      rw [List.cons_append, dropWord?, dropWord?]
      split
      · exact ih hword t
      · rfl

theorem handsOn_splitName? : HandsOn splitName? (Prod.map id (· ++ ['\r'])) := by
  refine ⟨rfl, fun t => ?_⟩
  have hstop : isNameContinue '\r' = false := by decide
  cases t with
  | nil => decide
  | cons c t =>
    rw [List.cons_append, splitName?, splitName?]
    split
    · rw [takeWhile_append_stop hstop, dropWhile_append_stop hstop]
      rfl
    · rfl

/-! ## Whole patterns -/

/-- Behind a text without one a carriage return at the end is the end of what follows. -/
theorem exists_of_append_return {front u trail line : Text} (hne : u ≠ []) (hu : '\r' ∉ u)
    (h : front ++ (u ++ trail) = line ++ ['\r']) :
    ∃ t, trail = t ++ ['\r'] ∧ front ++ (u ++ t) = line := by
  rcases List.eq_nil_or_concat trail with rfl | ⟨t, c, rfl⟩
  · obtain ⟨v, c, rfl⟩ := (List.eq_nil_or_concat u).resolve_left hne
    rw [List.append_nil, List.concat_eq_append, ← List.append_assoc] at h
    obtain ⟨-, hc⟩ := List.append_inj' h rfl
    cases hc
    simp at hu
  · rw [List.concat_eq_append, ← List.append_assoc, ← List.append_assoc] at h
    obtain ⟨hline, hc⟩ := List.append_inj' h rfl
    cases hc
    exact ⟨t, List.concat_eq_append, by rw [← hline, List.append_assoc]⟩

theorem forall_isBlank_append_return {t : Text} :
    (∀ c ∈ t ++ ['\r'], isBlank c = true) ↔ ∀ c ∈ t, isBlank c = true := by
  rw [List.forall_mem_append, List.forall_mem_singleton]
  exact and_iff_left (by decide)

/-- A guess with a carriage return more at its end. -/
def GuessForm.withReturn (f : GuessForm) : GuessForm := { f with trail := f.trail ++ ['\r'] }

/-- A bound with a carriage return more at its end. -/
def KeepForm.withReturn (f : KeepForm) : KeepForm := { f with trail := f.trail ++ ['\r'] }

theorem GuessForm.matches_withReturn_iff {f : GuessForm} : f.withReturn.Matches ↔ f.Matches := by
  simp only [matches_iff, withReturn, Part.accepts_blanks_iff, forall_isBlank_append_return]

theorem KeepForm.matches_withReturn_iff {f : KeepForm} : f.withReturn.Matches ↔ f.Matches := by
  simp only [matches_iff, withReturn, Part.accepts_blanks_iff, forall_isBlank_append_return]

theorem GuessForm.text_withReturn (f : GuessForm) : f.withReturn.text = f.text ++ ['\r'] := by
  simp [text, parts, withReturn]

theorem KeepForm.text_withReturn (f : KeepForm) : f.withReturn.text = f.text ++ ['\r'] := by
  simp [text, parts, withReturn]

/-- A guess that ends with a carriage return has it among the blanks behind its name. -/
theorem GuessForm.Matches.exists_withReturn {f : GuessForm} (hf : f.Matches) {line : Text}
    (h : f.text = line ++ ['\r']) : ∃ f' : GuessForm, f = f'.withReturn ∧ f'.text = line := by
  obtain ⟨-, -, -, -, -, -, -, hname, -⟩ := matches_iff.mp hf
  have hne : f.name ≠ [] := fun heq => Bool.false_ne_true (heq ▸ hname).optional
  have hreturn : '\r' ∉ f.name := fun hmem => absurd (hname.admits hmem) (by decide)
  have hcut : ∀ f : GuessForm, f.text = (f.parts.take 7).flatten ++ (f.name ++ f.trail) := by
    simp [text, parts]
  obtain ⟨t, htrail, hline⟩ := exists_of_append_return hne hreturn ((hcut f).symm.trans h)
  exact ⟨{ f with trail := t }, by rw [withReturn, ← htrail], (hcut _).trans hline⟩

/-- In a bound it stands behind the bracket. -/
theorem KeepForm.exists_withReturn {f : KeepForm} {line : Text} (h : f.text = line ++ ['\r']) :
    ∃ f' : KeepForm, f = f'.withReturn ∧ f'.text = line := by
  have hcut : ∀ f : KeepForm, f.text = (f.parts.take 15).flatten ++ ([']'] ++ f.trail) := by
    simp [text, parts]
  obtain ⟨t, htrail, hline⟩ := exists_of_append_return (List.cons_ne_nil _ _) (by decide)
    ((hcut f).symm.trans h)
  exact ⟨{ f with trail := t }, by rw [withReturn, ← htrail], (hcut _).trans hline⟩

theorem guessParts?_append_return (line : Text) :
    guessParts? (line ++ ['\r']) = guessParts? line := by
  refine Option.ext fun ⟨number, name⟩ => ?_
  rw [guessParts?_eq_some_iff, guessParts?_eq_some_iff]
  constructor
  · rintro ⟨f, hf, htext, hfound⟩
    obtain ⟨f, rfl, hline⟩ := hf.exists_withReturn htext
    exact ⟨f, GuessForm.matches_withReturn_iff.mp hf, hline, hfound⟩
  · rintro ⟨f, hf, rfl, hfound⟩
    exact ⟨f.withReturn, GuessForm.matches_withReturn_iff.mpr hf, f.text_withReturn, hfound⟩

theorem keepParts?_append_return (line : Text) :
    keepParts? (line ++ ['\r']) = keepParts? line := by
  refine Option.ext fun ⟨name, low, high⟩ => ?_
  rw [keepParts?_eq_some_iff, keepParts?_eq_some_iff]
  constructor
  · rintro ⟨f, hf, htext, hfound⟩
    obtain ⟨f, rfl, hline⟩ := KeepForm.exists_withReturn htext
    exact ⟨f, KeepForm.matches_withReturn_iff.mp hf, hline, hfound⟩
  · rintro ⟨f, hf, rfl, hfound⟩
    exact ⟨f.withReturn, KeepForm.matches_withReturn_iff.mpr hf, f.text_withReturn, hfound⟩

/-! ## The kind and the name of a line -/

theorem kind?_append_return (line : Text) : kind? (line ++ ['\r']) = kind? line := by
  rw [← kind?_trim, trim_append_return, kind?_trim]

theorem nameAfterFor?_append_return (t : Text) :
    nameAfterFor? (t ++ ['\r']) = nameAfterFor? t := by
  unfold nameAfterFor?
  refine (handsOn_dropWord? (by decide) (by decide)).bind (fun t => ?_) t
  exact handsOn_splitName?.bind_blanks (fun ⟨_, _⟩ => rfl) t

theorem lastTarget?_append_return (inWord : Bool) (t : Text) :
    lastTarget? inWord (t ++ ['\r']) = lastTarget? inWord t := by
  induction t generalizing inWord with
  | nil => cases inWord <;> decide
  | cons c t ih =>
    have hname := nameAfterFor?_append_return (c :: t)
    rw [List.cons_append] at hname ⊢
    simp only [lastTarget?, hname, ih]

theorem target?_append_return (line : Text) : target? (line ++ ['\r']) = target? line := by
  unfold target?
  rw [kind?_append_return]
  refine Option.bind_congr fun kind _ => ?_
  cases kind with
  | guess =>
    exact (handsOn_dropWord? (by decide) (by decide)).bind_trimStart
      (lastTarget?_append_return true) line
  | keep =>
    refine (handsOn_dropWord? (by decide) (by decide)).bind_trimStart (fun t => ?_) line
    exact handsOn_splitName?.bind_blanks (fun ⟨_, _⟩ => rfl) t

end Directive
end Equate
