import Equate.Number.Decimal
import Equate.Proofs.Number.Overflow
import Equate.Proofs.Number.Written
import Equate.Text.DecimalDigit

/-!
# Signed literals and their parts

A signed literal is digits with a point behind or among them, or a point with digits behind it, and
perhaps a sign in front and an exponent at the end. Cutting a number off the front of a text finds
exactly such a literal, in the digits of whatever script it asks for. The reader of numbers asks for
those of ASCII, and then takes the number nearest to what the parts denote.
-/
namespace Equate

namespace Number
open Text

/-- The signs that may stand in front of digits. -/
def signs : List Text := [[], ['+'], ['-']]

/-- What else may stand in a number beside its digits. -/
def marks : List Char := ['.', 'e', 'E', '+', '-']

theorem mem_signs_iff {sign : Text} : sign ∈ signs ↔ sign = [] ∨ sign = ['+'] ∨ sign = ['-'] := by
  simp [signs]

theorem signs_subset_marks : ∀ sign ∈ signs, sign ⊆ marks := by decide

/-- A complete exponent in its parts. -/
@[ext]
structure Exponent where
  mark : Char
  sign : Text
  digits : Text

/-- The exponent as written. -/
def Exponent.text (e : Exponent) : Text := e.mark :: (e.sign ++ e.digits)

/-- The parts that a complete exponent can have. -/
structure Exponent.WellFormed (isDigit : Char → Bool) (e : Exponent) : Prop where
  mark : e.mark = 'e' ∨ e.mark = 'E'
  sign : e.sign ∈ signs
  nonempty : e.digits ≠ []
  digits : ∀ c ∈ e.digits, isDigit c = true

/-- A signed literal in its parts. The fraction is there if a point is. -/
@[ext]
structure Literal where
  sign : Text
  whole : Text
  fraction : Option Text
  exponent : Option Exponent

namespace Literal

/-- A point with the digits behind it. -/
def fractionText : Option Text → Text
  | none => []
  | some digits => '.' :: digits

/-- An exponent, if there is one. -/
def exponentText : Option Exponent → Text
  | none => []
  | some e => e.text

/-- The literal as written. -/
def text (l : Literal) : Text :=
  l.sign ++ (l.whole ++ fractionText l.fraction) ++ exponentText l.exponent

/-- The parts that a literal can have: there is a digit in front of the exponent. -/
structure WellFormed (isDigit : Char → Bool) (l : Literal) : Prop where
  sign : l.sign ∈ signs
  whole : ∀ c ∈ l.whole, isDigit c = true
  fraction : ∀ digits, l.fraction = some digits → ∀ c ∈ digits, isDigit c = true
  nonempty : l.whole ≠ [] ∨ ∃ digits, l.fraction = some digits ∧ digits ≠ []
  exponent : ∀ e, l.exponent = some e → e.WellFormed isDigit

/-- The power of ten that the exponent names. -/
def power (l : Literal) : Int :=
  match l.exponent with
  | none => 0
  | some e => if e.sign = ['-'] then -digitsValue e.digits else digitsValue e.digits

/-- The decimal that the literal denotes, without its sign. -/
def decimal (l : Literal) : Decimal :=
  ⟨digitsValue (l.whole ++ l.fraction.getD []), l.power - (l.fraction.getD []).length⟩

/-- The binary64 number nearest to what the literal denotes. -/
def value (l : Literal) : Float :=
  withSign (decide (l.sign = ['-']))
    (nearest (l.decimal.digits * 10 ^ l.decimal.exponent.toNat) (10 ^ (-l.decimal.exponent).toNat))

end Literal

/-! ## What is cut off -/

section
variable {isDigit : Char → Bool}

theorem splitSign_mem_signs (t : Text) : (splitSign t).1 ∈ signs := by
  unfold splitSign signs
  split <;> simp

theorem exists_exponent_of_splitExponent (isDigit : Char → Bool) (t : Text) :
    ∃ e : Option Exponent, (splitExponent isDigit t).1 = Literal.exponentText e ∧
      ∀ x, e = some x → x.WellFormed isDigit := by
  cases t with
  | nil => exact ⟨none, rfl, nofun⟩
  | cons mark rest =>
    rw [splitExponent]
    dsimp only
    split
    · next hmark =>
      split
      · exact ⟨none, rfl, nofun⟩
      · next hne =>
        refine ⟨some ⟨mark, (splitSign rest).1, (splitSign rest).2.takeWhile isDigit⟩, rfl, ?_⟩
        rintro e ⟨⟩
        exact ⟨hmark, splitSign_mem_signs rest, hne, List.all_eq_true.mp List.all_takeWhile⟩
    · exact ⟨none, rfl, nofun⟩

theorem exists_mantissa_of_splitMantissa? {t mantissa rest : Text}
    (h : splitMantissa? isDigit t = some (mantissa, rest)) :
    ∃ whole fraction, mantissa = whole ++ Literal.fractionText fraction ∧ t = mantissa ++ rest ∧
      (∀ c ∈ whole, isDigit c = true) ∧
      (∀ digits, fraction = some digits → ∀ c ∈ digits, isDigit c = true) ∧
      (whole ≠ [] ∨ ∃ digits, fraction = some digits ∧ digits ≠ []) := by
  have hcut := List.takeWhile_append_dropWhile (p := isDigit) (l := t)
  have hwhole : ∀ c ∈ t.takeWhile isDigit, isDigit c = true := List.all_eq_true.mp List.all_takeWhile
  by_cases hpoint : ∃ more, t.dropWhile isDigit = '.' :: more
  · obtain ⟨more, hmore⟩ := hpoint
    rw [splitMantissa?_point hmore] at h
    split at h
    · cases h
    · next hne =>
      cases h
      refine ⟨t.takeWhile isDigit, some (more.takeWhile isDigit), rfl, ?_, hwhole, ?_, ?_⟩
      · rw [List.append_assoc, List.cons_append, List.takeWhile_append_dropWhile, ← hmore, hcut]
      · rintro digits ⟨⟩
        exact List.all_eq_true.mp List.all_takeWhile
      · rcases not_and_or.mp hne with hne | hne
        · exact .inl hne
        · exact .inr ⟨_, rfl, hne⟩
  · rw [splitMantissa?_whole fun more hmore => hpoint ⟨more, hmore⟩] at h
    split at h
    · cases h
    · next hne =>
      cases h
      exact ⟨_, none, (List.append_nil _).symm, hcut.symm, hwhole, nofun, .inl hne⟩

theorem splitNumber?_eq (t : Text) :
    splitNumber? isDigit t = (splitMantissa? isDigit (splitSign t).2).map fun found =>
      ((splitSign t).1 ++ found.1 ++ (splitExponent isDigit found.2).1,
        (splitExponent isDigit found.2).2) := by
  unfold splitNumber?
  dsimp only
  cases splitMantissa? isDigit (splitSign t).2 <;> rfl

/-- What is cut off the front of a text is a literal. -/
theorem exists_literal_of_splitNumber? {t number rest : Text}
    (h : splitNumber? isDigit t = some (number, rest)) :
    ∃ l : Literal, l.WellFormed isDigit ∧ l.text = number ∧ t = number ++ rest := by
  rw [splitNumber?_eq] at h
  obtain ⟨⟨mantissa, tail⟩, hmantissa, h⟩ := Option.map_eq_some_iff.mp h
  obtain ⟨rfl, rfl⟩ := Prod.mk.inj h
  obtain ⟨whole, fraction, rfl, hcut, hwhole, hfraction, hne⟩ :=
    exists_mantissa_of_splitMantissa? hmantissa
  obtain ⟨exponent, htext, hexponent⟩ := exists_exponent_of_splitExponent isDigit tail
  have htail := splitExponent_append isDigit tail
  refine ⟨⟨(splitSign t).1, whole, fraction, exponent⟩,
    ⟨splitSign_mem_signs t, hwhole, hfraction, hne, hexponent⟩, ?_, ?_⟩
  · rw [Literal.text, htext]
  · rw [List.append_assoc, htail, List.append_assoc, ← hcut, splitSign_append]

/-! ## Literals are cut off as a whole -/

/-- A text that goes on with nothing of a number in front of it. -/
def Parts (isDigit : Char → Bool) (t : Text) : Prop :=
  ∀ c rest, t = c :: rest → isDigit c = false ∧ c ≠ '.' ∧ c ≠ 'e' ∧ c ≠ 'E'

theorem splitSign_append_of_signs {sign t : Text} (hsign : sign ∈ signs)
    (ht : ∀ c rest, t = c :: rest → c ≠ '+' ∧ c ≠ '-') : splitSign (sign ++ t) = (sign, t) := by
  rcases mem_signs_iff.mp hsign with rfl | rfl | rfl
  · have h := splitSign_append_of_stop ht []
    exact h
  · rfl
  · rfl

theorem readSign_append_of_signs {sign t : Text} (hsign : sign ∈ signs)
    (ht : ∀ c rest, t = c :: rest → c ≠ '+' ∧ c ≠ '-') :
    readSign (sign ++ t) = (decide (sign = ['-']), t) := by
  rcases mem_signs_iff.mp hsign with rfl | rfl | rfl
  · rw [List.nil_append]
    unfold readSign
    split
    · next rest => exact absurd rfl (ht '-' rest rfl).2
    · next rest => exact absurd rfl (ht '+' rest rfl).1
    · rfl
  · rfl
  · rfl

variable (hmarks : ∀ c ∈ marks, isDigit c = false)
include hmarks

theorem not_sign_of_isDigit {c : Char} (h : isDigit c = true) : c ≠ '+' ∧ c ≠ '-' := by
  constructor <;> rintro rfl <;> rw [hmarks _ (by decide)] at h <;> cases h

theorem not_sign_of_digits {digits t : Text} (hne : digits ≠ [])
    (hdigits : ∀ c ∈ digits, isDigit c = true) :
    ∀ c rest, digits ++ t = c :: rest → c ≠ '+' ∧ c ≠ '-' := by
  obtain ⟨d, digits, rfl⟩ := List.exists_cons_of_ne_nil hne
  rintro c rest ⟨⟩
  exact not_sign_of_isDigit hmarks (hdigits d List.mem_cons_self)

namespace Literal

omit hmarks in
/-- A literal begins with a sign, a digit or a point. -/
theorem WellFormed.exists_first {l : Literal} (h : l.WellFormed isDigit) :
    ∃ c rest, l.text = c :: rest ∧ (isDigit c = true ∨ c = '.' ∨ c = '+' ∨ c = '-') := by
  unfold text
  rcases mem_signs_iff.mp h.sign with hsign | hsign | hsign
  · rw [hsign, List.nil_append]
    cases hwhole : l.whole with
    | cons d digits => exact ⟨d, _, rfl, .inl (h.whole d (hwhole ▸ List.mem_cons_self))⟩
    | nil =>
      obtain ⟨digits, hfraction, -⟩ := h.nonempty.resolve_left (absurd hwhole)
      rw [hfraction]
      exact ⟨'.', _, rfl, .inr (.inl rfl)⟩
  · rw [hsign]
    exact ⟨'+', _, rfl, .inr (.inr (.inl rfl))⟩
  · rw [hsign]
    exact ⟨'-', _, rfl, .inr (.inr (.inr rfl))⟩

omit hmarks in
/-- There is nothing in a literal but digits and marks. -/
theorem WellFormed.mem_text {l : Literal} (h : l.WellFormed isDigit) {c : Char} (hc : c ∈ l.text) :
    isDigit c = true ∨ c ∈ marks := by
  simp only [text, List.mem_append] at hc
  rcases hc with (hc | hc | hc) | hc
  · exact .inr (signs_subset_marks _ h.sign hc)
  · exact .inl (h.whole c hc)
  · cases hfraction : l.fraction with
    | none =>
      rw [hfraction] at hc
      cases hc
    | some digits =>
      rw [hfraction] at hc
      rcases List.mem_cons.mp hc with rfl | hc
      · exact .inr (by decide)
      · exact .inl (h.fraction digits hfraction c hc)
  · cases hexponent : l.exponent with
    | none =>
      rw [hexponent] at hc
      cases hc
    | some e =>
      have he := h.exponent e hexponent
      rw [hexponent] at hc
      rcases List.mem_cons.mp hc with rfl | hc
      · rcases he.mark with hmark | hmark <;> exact .inr (by rw [hmark]; decide)
      · rcases List.mem_append.mp hc with hc | hc
        · exact .inr (signs_subset_marks _ he.sign hc)
        · exact .inl (he.digits c hc)

theorem splitExponent_text {exponent : Option Exponent}
    (h : ∀ e, exponent = some e → e.WellFormed isDigit) {rest : Text} (hrest : Parts isDigit rest) :
    splitExponent isDigit (exponentText exponent ++ rest) = (exponentText exponent, rest) := by
  cases exponent with
  | none =>
    cases rest with
    | nil => rfl
    | cons c rest =>
      obtain ⟨-, -, hsmall, hlarge⟩ := hrest c rest rfl
      exact if_neg (not_or.mpr ⟨hsmall, hlarge⟩)
  | some e =>
    have he := h e rfl
    obtain ⟨htake, hdrop⟩ := cut_append he.digits fun c more heq => (hrest c more heq).1
    have hsign := splitSign_append_of_signs he.sign
      (not_sign_of_digits hmarks (t := rest) he.nonempty he.digits)
    rw [exponentText, Exponent.text, List.cons_append, splitExponent, if_pos he.mark,
      List.append_assoc, hsign]
    dsimp only
    rw [htake, hdrop, if_neg he.nonempty]
    rfl

theorem parts_exponentText {exponent : Option Exponent}
    (h : ∀ e, exponent = some e → e.WellFormed isDigit) (rest : Text) (hrest : Parts isDigit rest) :
    ∀ c more, exponentText exponent ++ rest = c :: more → isDigit c = false ∧ c ≠ '.' := by
  cases exponent with
  | none => exact fun c more heq => ⟨(hrest c more heq).1, (hrest c more heq).2.1⟩
  | some e =>
    rintro c more ⟨⟩
    rcases (h e rfl).mark with hmark | hmark <;> rw [hmark] <;> exact ⟨hmarks _ (by decide), by decide⟩

theorem splitMantissa?_text {whole : Text} {fraction : Option Text}
    (hwhole : ∀ c ∈ whole, isDigit c = true)
    (hfraction : ∀ digits, fraction = some digits → ∀ c ∈ digits, isDigit c = true)
    (hne : whole ≠ [] ∨ ∃ digits, fraction = some digits ∧ digits ≠ []) {tail : Text}
    (htail : ∀ c more, tail = c :: more → isDigit c = false ∧ c ≠ '.') :
    splitMantissa? isDigit (whole ++ fractionText fraction ++ tail) =
      some (whole ++ fractionText fraction, tail) := by
  have hstop : ∀ c more, tail = c :: more → isDigit c = false := fun c more heq => (htail c more heq).1
  cases fraction with
  | none =>
    have hwholene : whole ≠ [] := hne.resolve_right fun ⟨_, heq, _⟩ => by cases heq
    obtain ⟨htake, hdrop⟩ := cut_append hwhole hstop
    rw [fractionText, List.append_nil, splitMantissa?_whole, htake, hdrop, if_neg hwholene]
    rw [hdrop]
    exact fun more heq => (htail '.' more heq).2 rfl
  | some digits =>
    obtain ⟨htake, hdrop⟩ := cut_append (t := '.' :: (digits ++ tail)) hwhole fun c more heq => by
      cases heq
      exact hmarks '.' (by decide)
    obtain ⟨htake', hdrop'⟩ := cut_append (hfraction digits rfl) hstop
    have hnonempty : ¬(whole = [] ∧ digits = []) := by
      rintro ⟨rfl, rfl⟩
      rcases hne with hne | ⟨_, heq, hne⟩
      · exact hne rfl
      · cases heq
        exact hne rfl
    rw [fractionText, List.append_assoc, List.cons_append, splitMantissa?_point hdrop, htake, htake',
      hdrop', if_neg hnonempty]

theorem WellFormed.not_sign {l : Literal} (h : l.WellFormed isDigit) (t : Text) :
    ∀ c rest, l.whole ++ fractionText l.fraction ++ t = c :: rest → c ≠ '+' ∧ c ≠ '-' := by
  intro c rest heq
  cases hwhole : l.whole with
  | cons d digits =>
    rw [hwhole] at heq
    cases heq
    exact not_sign_of_isDigit hmarks (h.whole _ (hwhole ▸ List.mem_cons_self))
  | nil =>
    obtain ⟨digits, hfraction, -⟩ := h.nonempty.resolve_left (absurd hwhole)
    rw [hwhole, hfraction] at heq
    cases heq
    decide

/-- A literal in front of a text that cannot go on with it is cut off as a whole. -/
theorem splitNumber?_text {l : Literal} (h : l.WellFormed isDigit) {rest : Text}
    (hrest : Parts isDigit rest) : splitNumber? isDigit (l.text ++ rest) = some (l.text, rest) := by
  have hmantissa := splitMantissa?_text hmarks h.whole h.fraction h.nonempty
    (parts_exponentText hmarks h.exponent rest hrest)
  have hexponent := splitExponent_text hmarks h.exponent hrest
  have hsign := splitSign_append_of_signs h.sign
    (h.not_sign hmarks (exponentText l.exponent ++ rest))
  rw [text, List.append_assoc, List.append_assoc, splitNumber?_eq, hsign]
  dsimp only
  rw [hmantissa, Option.map_some]
  dsimp only
  rw [hexponent, List.append_assoc]

/-! ### The parts of a literal are determined -/

theorem eq_of_exponentText {e e' : Option Exponent} (he : ∀ x, e = some x → x.WellFormed isDigit)
    (he' : ∀ x, e' = some x → x.WellFormed isDigit) (h : exponentText e = exponentText e') : e = e' := by
  cases e with
  | none =>
    cases e' with
    | none => rfl
    | some x' => cases h
  | some x =>
    cases e' with
    | none => cases h
    | some x' =>
      obtain ⟨hmark, hrest⟩ := List.cons.inj h
      have hx := splitSign_append_of_signs (he x rfl).sign
        (not_sign_of_digits hmarks (t := []) (he x rfl).nonempty (he x rfl).digits)
      have hx' := splitSign_append_of_signs (he' x' rfl).sign
        (not_sign_of_digits hmarks (t := []) (he' x' rfl).nonempty (he' x' rfl).digits)
      rw [List.append_nil] at hx hx'
      obtain ⟨hsign, hdigits⟩ := Prod.mk.inj ((hrest ▸ hx).symm.trans hx')
      exact congrArg some (Exponent.ext hmark hsign hdigits)

omit hmarks in
theorem eq_of_fractionText {fraction fraction' : Option Text}
    (h : fractionText fraction = fractionText fraction') : fraction = fraction' := by
  cases fraction with
  | none =>
    cases fraction' with
    | none => rfl
    | some digits => cases h
  | some digits =>
    cases fraction' with
    | none => cases h
    | some digits' => exact congrArg some (List.cons.inj h).2

/-- Where the parts of a literal are cut. -/
theorem WellFormed.cut {l : Literal} (h : l.WellFormed isDigit) :
    splitSign l.text = (l.sign, l.whole ++ fractionText l.fraction ++ exponentText l.exponent) ∧
      splitMantissa? isDigit (l.whole ++ fractionText l.fraction ++ exponentText l.exponent) =
        some (l.whole ++ fractionText l.fraction, exponentText l.exponent) ∧
      (l.whole ++ fractionText l.fraction).takeWhile isDigit = l.whole ∧
      (l.whole ++ fractionText l.fraction).dropWhile isDigit = fractionText l.fraction := by
  have hexponent := parts_exponentText hmarks h.exponent [] nofun
  rw [List.append_nil] at hexponent
  refine ⟨?_, splitMantissa?_text hmarks h.whole h.fraction h.nonempty hexponent,
    cut_append h.whole fun c more heq => ?_⟩
  · rw [text, List.append_assoc]
    exact splitSign_append_of_signs h.sign (h.not_sign hmarks (exponentText l.exponent))
  · cases hfraction : l.fraction with
    | none =>
      rw [hfraction] at heq
      cases heq
    | some digits =>
      rw [hfraction] at heq
      cases heq
      exact hmarks '.' (by decide)

/-- A text is a literal in one way at most. -/
theorem WellFormed.eq_of_text {l l' : Literal} (hl : l.WellFormed isDigit) (hl' : l'.WellFormed isDigit)
    (h : l.text = l'.text) : l = l' := by
  obtain ⟨hsign, hmantissa, htake, hdrop⟩ := hl.cut hmarks
  obtain ⟨hsign', hmantissa', htake', hdrop'⟩ := hl'.cut hmarks
  obtain ⟨heqSign, heqRest⟩ := Prod.mk.inj ((h ▸ hsign).symm.trans hsign')
  obtain ⟨heqMantissa, heqExponent⟩ :=
    Prod.mk.inj (Option.some.inj ((heqRest ▸ hmantissa).symm.trans hmantissa'))
  have hwhole : l.whole = l'.whole := by rw [← htake, heqMantissa, htake']
  have hfraction : fractionText l.fraction = fractionText l'.fraction := by
    rw [← hdrop, heqMantissa, hdrop']
  exact Literal.ext heqSign hwhole (eq_of_fractionText hfraction)
    (eq_of_exponentText hmarks hl.exponent hl'.exponent heqExponent)

end Literal
end

/-! ## What a literal is read as -/

end Number

namespace Decimal
open Text

theorem read?_of_point {t rest : Text} (h : t.dropWhile Char.isDigit = '.' :: rest) :
    read? t =
      if t.takeWhile Char.isDigit = [] ∧ rest.takeWhile Char.isDigit = [] then none
      else (readExponent? (rest.dropWhile Char.isDigit)).map fun e =>
        ⟨digitsValue (t.takeWhile Char.isDigit ++ rest.takeWhile Char.isDigit),
          e - (rest.takeWhile Char.isDigit).length⟩ := by
  simp only [read?, h]

theorem read?_of_whole {t : Text} (h : ∀ rest, t.dropWhile Char.isDigit ≠ '.' :: rest) :
    read? t =
      if t.takeWhile Char.isDigit = [] then none
      else (readExponent? (t.dropWhile Char.isDigit)).map fun e =>
        ⟨digitsValue (t.takeWhile Char.isDigit), e⟩ := by
  unfold read?
  dsimp only
  split
  · next hrest => exact absurd hrest (h _)
  · simp

end Decimal

namespace Number
open Text

theorem isDigit_marks : ∀ c ∈ marks, c.isDigit = false := by
  simp only [marks, List.forall_mem_cons]
  exact ⟨by decide, by decide, by decide, by decide, by decide, nofun⟩

theorem isDecimalDigit_marks : ∀ c ∈ marks, isDecimalDigit c = false := by
  simp only [marks, List.forall_mem_cons]
  exact ⟨by decide, by decide, by decide, by decide, by decide, nofun⟩

namespace Literal

theorem readExponent?_text {l : Literal} (h : ∀ e, l.exponent = some e → e.WellFormed Char.isDigit) :
    Decimal.readExponent? (exponentText l.exponent) = some l.power := by
  unfold power
  cases hexponent : l.exponent with
  | none => rfl
  | some e =>
    obtain ⟨hmark, hsign, hne, hdigits⟩ := h e hexponent
    have hread := readSign_append_of_signs hsign (not_sign_of_digits isDigit_marks (t := []) hne hdigits)
    rw [List.append_nil] at hread
    rw [exponentText, Exponent.text, Decimal.readExponent?, if_pos hmark, hread]
    dsimp only
    rw [if_pos ⟨hne, List.all_eq_true.mpr hdigits⟩]
    simp only [decide_eq_true_eq]

/-- Behind its sign a literal is read as the decimal that it denotes. -/
theorem read?_text {l : Literal} (h : l.WellFormed Char.isDigit) :
    Decimal.read? (l.whole ++ fractionText l.fraction ++ exponentText l.exponent) = some l.decimal := by
  have hexponent := readExponent?_text h.exponent
  have hstop := parts_exponentText isDigit_marks h.exponent [] nofun
  rw [List.append_nil] at hstop
  have hdigit : ∀ c more, exponentText l.exponent = c :: more → c.isDigit = false :=
    fun c more heq => (hstop c more heq).1
  unfold decimal
  cases hfraction : l.fraction with
  | none =>
    have hne : l.whole ≠ [] := h.nonempty.resolve_right fun ⟨_, heq, _⟩ => by
      rw [hfraction] at heq
      cases heq
    obtain ⟨htake, hdrop⟩ := cut_append h.whole hdigit
    rw [fractionText, List.append_nil, Decimal.read?_of_whole, htake, hdrop, if_neg hne, hexponent]
    · simp
    · rw [hdrop]
      exact fun more heq => (hstop '.' more heq).2 rfl
  | some digits =>
    obtain ⟨htake, hdrop⟩ := cut_append (t := '.' :: (digits ++ exponentText l.exponent)) h.whole
      fun c more heq => by
        cases heq
        decide
    obtain ⟨htake', hdrop'⟩ := cut_append (h.fraction digits hfraction) hdigit
    have hne : ¬(l.whole = [] ∧ digits = []) := by
      rintro ⟨hwhole, rfl⟩
      obtain ⟨_, heq, hne⟩ := h.nonempty.resolve_left (absurd hwhole)
      rw [hfraction] at heq
      cases heq
      exact hne rfl
    rw [fractionText, List.append_assoc, List.cons_append, Decimal.read?_of_point hdrop, htake, htake',
      hdrop', if_neg hne, hexponent]
    rfl

/-- A literal in the digits of ASCII is read as the number nearest to what it denotes. -/
theorem readSigned?_text {l : Literal} (h : l.WellFormed Char.isDigit) :
    readSigned? l.text = some l.value := by
  have hsign := readSign_append_of_signs h.sign (h.not_sign isDigit_marks (exponentText l.exponent))
  rw [readSigned?, text, List.append_assoc, hsign]
  dsimp only
  rw [readLiteral?, read?_text h, Option.map_some, Option.map_some, Decimal.toFloat_eq, value]

end Literal

/-! ## Only the digits of ASCII are read -/

theorem toNat_lt_of_isDigit {c : Char} (h : c.isDigit = true) : c.toNat < 128 := by
  have : 48 ≤ c.toNat ∧ c.toNat ≤ 57 := by
    simpa [Char.isDigit, Char.le_def, UInt32.le_iff_toNat_le] using h
  omega

theorem isDigit_of_isDecimalDigit {c : Char} (h : isDecimalDigit c = true) (hc : c.toNat < 128) :
    c.isDigit = true := by
  simpa [isDecimalDigit, Nat.not_le.mpr hc] using h

theorem exists_sign_of_readSign (t : Text) : ∃ sign ∈ signs, t = sign ++ (readSign t).2 := by
  unfold readSign signs
  split
  · exact ⟨['-'], by simp, rfl⟩
  · exact ⟨['+'], by simp, rfl⟩
  · exact ⟨[], by simp, rfl⟩

theorem exists_exponent_of_readExponent? {t : Text} {e : Int} (h : Decimal.readExponent? t = some e) :
    ∃ x : Option Exponent, Literal.exponentText x = t ∧ ∀ y, x = some y → y.WellFormed Char.isDigit := by
  cases t with
  | nil => exact ⟨none, rfl, nofun⟩
  | cons mark rest =>
    rw [Decimal.readExponent?] at h
    split at h
    · next hmark =>
      dsimp only at h
      split at h
      · next hdigits =>
        obtain ⟨sign, hsign, hrest⟩ := exists_sign_of_readSign rest
        refine ⟨some ⟨mark, sign, (readSign rest).2⟩, congrArg (mark :: ·) hrest.symm, ?_⟩
        rintro y ⟨⟩
        exact ⟨hmark, hsign, hdigits.1, List.all_eq_true.mp hdigits.2⟩
      · cases h
    · cases h

/-- What is read without a sign is a literal without one. -/
theorem exists_literal_of_read? {t : Text} {d : Decimal} (h : Decimal.read? t = some d) :
    ∃ l : Literal, l.WellFormed Char.isDigit ∧ l.sign = [] ∧ l.text = t := by
  have hdigits : ∀ u : Text, ∀ c ∈ u.takeWhile Char.isDigit, c.isDigit = true := fun u =>
    List.all_eq_true.mp List.all_takeWhile
  have hcut := List.takeWhile_append_dropWhile (p := Char.isDigit) (l := t)
  by_cases hpoint : ∃ rest, t.dropWhile Char.isDigit = '.' :: rest
  · obtain ⟨rest, hrest⟩ := hpoint
    rw [Decimal.read?_of_point hrest] at h
    split at h
    · cases h
    · next hne =>
      obtain ⟨e, he, -⟩ := Option.map_eq_some_iff.mp h
      obtain ⟨exponent, htext, hexponent⟩ := exists_exponent_of_readExponent? he
      refine ⟨⟨[], t.takeWhile Char.isDigit, some (rest.takeWhile Char.isDigit), exponent⟩,
        ⟨List.mem_cons_self, hdigits t, ?_, ?_, hexponent⟩, rfl, ?_⟩
      · rintro digits ⟨⟩
        exact hdigits rest
      · exact (not_and_or.mp hne).imp_right fun hne => ⟨_, rfl, hne⟩
      · rw [Literal.text, htext, List.nil_append, Literal.fractionText, List.append_assoc,
          List.cons_append, List.takeWhile_append_dropWhile, ← hrest, hcut]
  · rw [Decimal.read?_of_whole fun rest hrest => hpoint ⟨rest, hrest⟩] at h
    split at h
    · cases h
    · next hne =>
      obtain ⟨e, he, -⟩ := Option.map_eq_some_iff.mp h
      obtain ⟨exponent, htext, hexponent⟩ := exists_exponent_of_readExponent? he
      refine ⟨⟨[], t.takeWhile Char.isDigit, none, exponent⟩,
        ⟨List.mem_cons_self, hdigits t, nofun, .inl hne, hexponent⟩, rfl, ?_⟩
      rw [Literal.text, htext, List.nil_append, Literal.fractionText, List.append_nil, hcut]

theorem toNat_lt_of_mem_marks : ∀ c ∈ marks, c.toNat < 128 := by
  simp only [marks, List.forall_mem_cons]
  exact ⟨by decide, by decide, by decide, by decide, by decide, nofun⟩

theorem Literal.WellFormed.toNat_lt {l : Literal} (h : l.WellFormed Char.isDigit) :
    ∀ c ∈ l.text, c.toNat < 128 :=
  fun c hc => (h.mem_text hc).elim toNat_lt_of_isDigit (toNat_lt_of_mem_marks c)

theorem toNat_lt_of_readSigned? {t : Text} {x : Float} (h : readSigned? t = some x) :
    ∀ c ∈ t, c.toNat < 128 := by
  obtain ⟨sign, hsign, hrest⟩ := exists_sign_of_readSign t
  rw [readSigned?] at h
  obtain ⟨y, hy, -⟩ := Option.map_eq_some_iff.mp h
  obtain ⟨d, hd, -⟩ := Option.map_eq_some_iff.mp hy
  obtain ⟨l, hl, -, htext⟩ := exists_literal_of_read? hd
  have hmarks : ∀ c ∈ sign, c.toNat < 128 := fun c hc =>
    toNat_lt_of_mem_marks c (signs_subset_marks sign hsign hc)
  rw [hrest, List.forall_mem_append]
  exact ⟨hmarks, htext ▸ hl.toNat_lt⟩

theorem Exponent.WellFormed.ofAscii {e : Exponent} (h : e.WellFormed isDecimalDigit)
    (hascii : ∀ c ∈ e.text, c.toNat < 128) : e.WellFormed Char.isDigit where
  mark := h.mark
  sign := h.sign
  nonempty := h.nonempty
  digits c hc := isDigit_of_isDecimalDigit (h.digits c hc)
    (hascii c (List.mem_cons_of_mem _ (List.mem_append_right _ hc)))

namespace Literal

theorem WellFormed.ofAscii {l : Literal} (h : l.WellFormed isDecimalDigit)
    (hascii : ∀ c ∈ l.text, c.toNat < 128) : l.WellFormed Char.isDigit := by
  simp only [text, List.forall_mem_append] at hascii
  obtain ⟨⟨-, hwhole, hfraction⟩, hexponent⟩ := hascii
  constructor
  case sign => exact h.sign
  case whole => exact fun c hc => isDigit_of_isDecimalDigit (h.whole c hc) (hwhole c hc)
  case nonempty => exact h.nonempty
  case fraction =>
    intro digits heq c hc
    rw [heq] at hfraction
    exact isDigit_of_isDecimalDigit (h.fraction digits heq c hc)
      (hfraction c (List.mem_cons_of_mem _ hc))
  case exponent =>
    intro e heq
    rw [heq] at hexponent
    exact (h.exponent e heq).ofAscii hexponent

theorem WellFormed.decimal {l : Literal} (h : l.WellFormed Char.isDigit) :
    l.WellFormed isDecimalDigit where
  sign := h.sign
  whole c hc := isDecimalDigit_of_isDigit (h.whole c hc)
  fraction digits heq c hc := isDecimalDigit_of_isDigit (h.fraction digits heq c hc)
  nonempty := h.nonempty
  exponent e heq :=
    { h.exponent e heq with
      digits := fun c hc => isDecimalDigit_of_isDigit ((h.exponent e heq).digits c hc) }

end Literal

/-- Of the literals in the digits of any script those of ASCII denote numbers. -/
theorem readSigned?_eq_some_iff {number : Text} {x : Float}
    (h : ∃ l : Literal, l.WellFormed isDecimalDigit ∧ l.text = number) :
    readSigned? number = some x ↔
      ∃ l : Literal, l.WellFormed Char.isDigit ∧ l.text = number ∧ l.value = x := by
  constructor
  · intro hread
    obtain ⟨l, hl, rfl⟩ := h
    have hascii := hl.ofAscii (toNat_lt_of_readSigned? hread)
    exact ⟨l, hascii, rfl, Option.some.inj ((Literal.readSigned?_text hascii).symm.trans hread)⟩
  · rintro ⟨l, hl, rfl, rfl⟩
    exact Literal.readSigned?_text hl

end Number
end Equate
