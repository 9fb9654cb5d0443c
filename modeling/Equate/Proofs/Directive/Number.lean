import Equate.Proofs.Directive.Written
import Equate.Proofs.Expr.Spelling

/-!
# Numbers in directives and in expressions

A directive takes its numbers by a pattern. An expression takes all digits and points that follow
each other, with an exponent if there is one, and reads them afterwards. Both come to the same: in
ASCII and without a sign the texts that the pattern matches are those that an expression reads as
one number, and a guess gives its variable the number that the expression has.
-/
namespace Equate

namespace Expr
open Text Success

/-- A text is read as one number that takes all of it. -/
def ReadsNumber (t : Text) (x : Float) : Prop :=
  (splitLiteral t).1 = t ∧ tokens 0 t = .ok [(0, .num x)]

theorem isExponent_text {e : Number.Exponent} (h : e.WellFormed Char.isDigit) : IsExponent e.text := by
  rw [Number.Exponent.text]
  rcases Number.mem_signs_iff.mp h.sign with hsign | hsign | hsign
  · rw [hsign]
    exact .unsigned h.mark h.nonempty h.digits
  · rw [hsign]
    exact .signed h.mark (.inl rfl) h.nonempty h.digits
  · rw [hsign]
    exact .signed h.mark (.inr rfl) h.nonempty h.digits

/-- A literal without a sign is a run of digits and points, and perhaps an exponent. -/
theorem isLiteral_text {l : Number.Literal} (h : l.WellFormed Char.isDigit) (hsign : l.sign = []) :
    IsLiteral l.text := by
  refine ⟨l.whole ++ Number.Literal.fractionText l.fraction,
    Number.Literal.exponentText l.exponent, ?_, ?_, ?_, ?_⟩
  · rw [Number.Literal.text, hsign, List.nil_append]
  · rcases h.nonempty with hne | ⟨digits, hfraction, -⟩
    · exact List.append_ne_nil_of_left_ne_nil hne _
    · rw [hfraction]
      exact List.append_ne_nil_of_right_ne_nil _ (List.cons_ne_nil _ _)
  · have hdigit : ∀ {c : Char}, c.isDigit = true → isNumeric c = true := fun hc => by
      rw [isNumeric, hc, Bool.true_or]
    rw [List.forall_mem_append]
    refine ⟨fun c hc => hdigit (h.whole c hc), ?_⟩
    cases hfraction : l.fraction with
    | none => exact fun c hc => absurd hc List.not_mem_nil
    | some digits =>
      exact List.forall_mem_cons.mpr ⟨rfl, fun c hc => hdigit (h.fraction digits hfraction c hc)⟩
  · cases hexponent : l.exponent with
    | none => exact .inl rfl
    | some e => exact .inr (isExponent_text (h.exponent e hexponent))

/-- A literal without a sign denotes what is read behind the sign. -/
theorem readLiteral?_text {l : Number.Literal} (h : l.WellFormed Char.isDigit) (hsign : l.sign = []) :
    Number.readLiteral? l.text = some l.value := by
  rw [Number.readLiteral?, Number.Literal.text, hsign, List.nil_append, Number.Literal.read?_text h,
    Option.map_some, Decimal.toFloat_eq, Number.Literal.value, hsign]
  rfl

theorem splitLiteral_ne_of_isGap {c : Char} (h : isGap c = true) (rest : Text) :
    (splitLiteral (c :: rest)).1 ≠ c :: rest := by
  have hnone : isNumeric c = false ∧ ¬(c = 'e' ∨ c = 'E') := by
    simp only [isGap, Bool.or_eq_true, beq_iff_eq] at h
    rcases h with (rfl | rfl) | rfl <;> decide
  simp [splitLiteral, Number.splitExponent, hnone.1, hnone.2]

/-- The token that takes all of a text is a number if the text is read as one. -/
theorem readLiteral?_of_readsNumber {t : Text} {x : Float} (h : ReadsNumber t x) :
    Number.readLiteral? t = some x := by
  obtain ⟨hall, htokens⟩ := h
  cases t with
  | nil =>
    rw [tokens] at htokens
    cases htokens
  | cons c rest =>
    rw [tokens] at htokens
    split at htokens
    · next hgap => exact absurd hall (splitLiteral_ne_of_isGap hgap rest)
    · split at htokens
      · dsimp only at htokens
        rw [hall] at htokens
        split at htokens
        · cases htokens
        · next value hvalue =>
          obtain ⟨more, -, heq⟩ := bind_eq_ok.mp htokens
          cases heq
          exact hvalue
      · split at htokens
        · obtain ⟨more, -, heq⟩ := bind_eq_ok.mp htokens
          cases heq
        · split at htokens
          · cases htokens
          · next token hsign =>
            obtain ⟨more, -, heq⟩ := bind_eq_ok.mp htokens
            cases heq
            cases (isStart_of_sign? hsign).2.2.1

/-- The texts that are read as one number are the literals without a sign. -/
theorem readsNumber_iff {t : Text} {x : Float} :
    ReadsNumber t x ↔
      ∃ l : Number.Literal, l.WellFormed Char.isDigit ∧ l.sign = [] ∧ l.text = t ∧ l.value = x := by
  constructor
  · intro h
    have hread := readLiteral?_of_readsNumber h
    obtain ⟨d, hd, -⟩ := Option.map_eq_some_iff.mp hread
    obtain ⟨l, hl, hsign, rfl⟩ := Number.exists_literal_of_read? hd
    exact ⟨l, hl, hsign, rfl, Option.some.inj ((readLiteral?_text hl hsign).symm.trans hread)⟩
  · rintro ⟨l, hl, hsign, rfl, rfl⟩
    have hliteral := isLiteral_text hl hsign
    have hcut := splitLiteral_append_of_parts parts_nil hliteral
    have htokens := tokens_literal 0 hliteral (readLiteral?_text hl hsign) hcut
    rw [List.append_nil] at hcut htokens
    refine ⟨by rw [hcut], htokens.trans ?_⟩
    rw [tokens]
    rfl

end Expr

namespace Directive
open Text

/-- The number of a pattern is cut off as a whole exactly if the pattern matches it. -/
theorem splitNumber?_eq_self_iff {t : Text} : splitNumber? t = some (t, []) ↔ Part.number.Accepts t := by
  rw [Part.accepts_number_iff]
  constructor
  · intro h
    obtain ⟨l, hl, htext, -⟩ := Number.exists_literal_of_splitNumber? h
    exact ⟨l, hl, htext⟩
  · rintro ⟨l, hl, rfl⟩
    have hend : Number.Parts isDecimalDigit [] := nofun
    have hcut := Number.Literal.splitNumber?_text Number.isDecimalDigit_marks hl hend
    rwa [List.append_nil] at hcut

/-- A guess of a number that expressions read gives its variable the number that they read. -/
theorem guesses_of_readsNumber {t : Text} {x : Float} (h : Expr.ReadsNumber t x) {name : Text}
    (hname : Name.isIdentifier name = true) :
    guesses ("guess " ++ (t ++ (" for " ++ name))) = .ok [⟨1, name, x⟩] := by
  obtain ⟨l, hl, -, rfl, rfl⟩ := Expr.readsNumber_iff.mp h
  have hline : '\n' ∉ ("guess " ++ (l.text ++ (" for " ++ name)) : Text) := by
    have hnumber : '\n' ∉ l.text := fun hmem => by
      rcases hl.mem_text hmem with hdigit | hmark
      · cases hdigit
      · exact absurd hmark (by decide)
    have hword : '\n' ∉ name := Name.not_mem_of_isIdentifier hname rfl
    simp only [List.mem_append, not_or]
    exact ⟨by decide, hnumber, by decide, hword⟩
  refine (guesses_of_line_eq_ok hline rfl).mpr ⟨GuessForm.spaced l.text name, l, ?_, rfl⟩
  have hform := GuessForm.matches_spaced hname (Part.accepts_number_iff.mpr ⟨l, hl.decimal, rfl⟩)
  exact ⟨hform, GuessForm.text_spaced _ _, hl, rfl⟩

section
variable {t : Text} (hascii : ∀ c ∈ t, c.toNat < 128) (hsign : t.head? ≠ some '+' ∧ t.head? ≠ some '-')
include hascii hsign

/-- In ASCII the pattern without a sign matches what expressions read as one number. -/
theorem accepts_number_iff_readsNumber : Part.number.Accepts t ↔ ∃ x, Expr.ReadsNumber t x := by
  simp only [Part.accepts_number_iff, Expr.readsNumber_iff]
  constructor
  · rintro ⟨l, hl, rfl⟩
    have hnone : l.sign = [] := by
      rcases Number.mem_signs_iff.mp hl.sign with hl | hl | hl
      · exact hl
      · exact absurd (by rw [Number.Literal.text, hl]; rfl) hsign.1
      · exact absurd (by rw [Number.Literal.text, hl]; rfl) hsign.2
    exact ⟨_, l, hl.ofAscii hascii, hnone, rfl, rfl⟩
  · rintro ⟨x, l, hl, -, rfl, -⟩
    exact ⟨l, hl.decimal, rfl⟩

/-- In ASCII a number without a sign means the same in directives and in expressions: the number of
a pattern is what expressions read as one number, and a guess takes the value that they read. -/
theorem number_iff_readsNumber :
    (Part.number.Accepts t ↔ ∃ x, Expr.ReadsNumber t x) ∧
      (splitNumber? t = some (t, []) ↔ ∃ x, Expr.ReadsNumber t x) ∧
      ∀ x, Expr.ReadsNumber t x → ∀ name, Name.isIdentifier name = true →
        guesses ("guess " ++ (t ++ (" for " ++ name))) = .ok [⟨1, name, x⟩] := by
  have haccepts := accepts_number_iff_readsNumber hascii hsign
  exact ⟨haccepts, splitNumber?_eq_self_iff.trans haccepts,
    fun _ h _ hname => guesses_of_readsNumber h hname⟩

end

/-- A number with a point in front and a signed exponent is one number; with no digit behind the mark
of the exponent it is none. -/
theorem number_iff_readsNumber_exponent :
    (∃ x, Expr.ReadsNumber ".5e+3" x ∧ guesses "guess .5e+3 for x" = .ok [⟨1, "x", x⟩]) ∧
      ¬∃ x, Expr.ReadsNumber ".5e+" x := by
  have hascii : ∀ c ∈ (".5e+3" : Text), c.toNat < 128 := by
    show ∀ c ∈ ['.', '5', 'e', '+', '3'], c.toNat < 128
    simp only [List.forall_mem_cons]
    exact ⟨by decide, by decide, by decide, by decide, by decide, nofun⟩
  have hascii' : ∀ c ∈ (".5e+" : Text), c.toNat < 128 := fun c hc =>
    hascii c ((by decide : (".5e+" : Text) ⊆ ".5e+3") hc)
  obtain ⟨⟨haccepts, -⟩, -, hvalue⟩ := number_iff_readsNumber hascii (by decide)
  obtain ⟨-, hsplit, -⟩ := number_iff_readsNumber hascii' (by decide)
  constructor
  · obtain ⟨x, hx⟩ := haccepts (splitNumber?_eq_self_iff.mp (by decide))
    exact ⟨x, hx, hvalue x hx "x" (by decide)⟩
  · exact fun h => absurd (hsplit.mpr h) (by decide)

end Directive
end Equate
