import Equate.Proofs.Expr.Grammar
import Equate.Proofs.Name.Pieces
import Equate.Proofs.Number.Written
import Mathlib.Data.List.Chain

/-!
# How tokens are spelled

No expression has two operands side by side. So behind a number or a name in an
expression the text cannot go on with a letter, a digit or a point, and it can be cut
there without looking at what follows. `Spells` cuts it in this way: it names no offsets,
each token is spelled on its own, and the tokens of a text with operands apart are those
it spells.
-/
namespace Equate.Expr
open Success Text

/-! ## Operands apart -/

/-- A number or a name. -/
def Token.isOperand : Token → Bool
  | .num _ => true
  | .name _ => true
  | _ => false

/-- No operand stands directly behind another. -/
def Apart (us : List Token) : Prop := us.IsChain fun u v => u.isOperand = true → v.isOperand = false

/-- Of two tokens side by side one is a sign, in front of an operand or behind one. -/
def Token.Joined (u v : Token) : Prop :=
  u ∈ [.plus, .minus, .times, .over, .openParen] ∨ v ∈ [.plus, .minus, .times, .over, .closeParen]

theorem joined_cons {u : Token} {us : List Token} (h : us.IsChain Token.Joined)
    (hu : u ∈ [.plus, .minus, .times, .over, .openParen]) : (u :: us).IsChain Token.Joined :=
  List.isChain_cons.mpr ⟨fun _ _ => .inl hu, h⟩

theorem joined_append {us vs : List Token} (hus : us.IsChain Token.Joined)
    (hvs : vs.IsChain Token.Joined)
    (h : ∀ v ∈ vs.head?, v ∈ [.plus, .minus, .times, .over, .closeParen]) :
    (us ++ vs).IsChain Token.Joined :=
  List.isChain_append.mpr ⟨hus, hvs, fun _ _ v hv => .inr (h v hv)⟩

/-- Signs join the operands in everything that derives. -/
theorem Derives.joined {p : Place} {us : List Token} {e : Expr} (h : Derives p us e) :
    us.IsChain Token.Joined := by
  have hsums : ∀ {a e : Expr} {vs : List Token}, Derives (.sums a) vs e →
      ∀ v ∈ vs.head?, v ∈ [.plus, .minus, .times, .over, .closeParen] := by
    intro a e vs h v hv
    rcases derives_sums_starts h with rfl | ⟨more, rfl | rfl⟩ <;> cases hv <;> simp
  have hproducts : ∀ {a e : Expr} {vs : List Token}, Derives (.products a) vs e →
      ∀ v ∈ vs.head?, v ∈ [.plus, .minus, .times, .over, .closeParen] := by
    intro a e vs h v hv
    rcases derives_products_starts h with rfl | ⟨more, rfl | rfl⟩ <;> cases hv <;> simp
  induction h with
  | expr _ h ihus ihvs => exact joined_append ihus ihvs (hsums h)
  | sumsEnd => exact .nil
  | plus _ h ihus ihvs => exact joined_cons (joined_append ihus ihvs (hsums h)) (by simp)
  | minus _ h ihus ihvs => exact joined_cons (joined_append ihus ihvs (hsums h)) (by simp)
  | term _ h ihus ihvs => exact joined_append ihus ihvs (hproducts h)
  | productsEnd => exact .nil
  | times _ h ihus ihvs => exact joined_cons (joined_append ihus ihvs (hproducts h)) (by simp)
  | dividedBy _ h ihus ihvs => exact joined_cons (joined_append ihus ihvs (hproducts h)) (by simp)
  | negative _ ih => exact joined_cons ih (by simp)
  | positive _ ih => exact joined_cons ih (by simp)
  | unary _ ih => exact ih
  | num => exact .singleton _
  | name => exact .singleton _
  | group _ ih =>
    exact joined_cons (joined_append ih (.singleton _) fun v hv => by cases hv; simp) (by simp)

theorem Derives.apart {p : Place} {us : List Token} {e : Expr} (h : Derives p us e) : Apart us := by
  refine h.joined.imp fun u v huv hoperand => ?_
  rcases huv with hu | hv
  · rw [(by decide : ∀ u ∈ [Token.plus, .minus, .times, .over, .openParen], u.isOperand = false) u hu]
      at hoperand
    cases hoperand
  · exact (by decide : ∀ v ∈ [Token.plus, .minus, .times, .over, .closeParen], v.isOperand = false) v hv

/-! ## Where an operand ends -/

/-- A text that goes on with no operand in front of it. -/
def Parts (t : Text) : Prop := ∀ c rest, t = c :: rest → Name.isContinue c = false ∧ c ≠ '.'

theorem parts_nil : Parts [] := fun _ _ h => nomatch h

theorem parts_cons {c : Char} (hc : Name.isContinue c = false) (hpoint : c ≠ '.') (rest : Text) :
    Parts (c :: rest) := by
  rintro d more h
  cases h
  exact ⟨hc, hpoint⟩

section
variable {t : Text} (h : Parts t) {c : Char} {rest : Text}
include h

theorem Parts.isContinue (ht : t = c :: rest) : Name.isContinue c = false := (h c rest ht).1

theorem Parts.isStart (ht : t = c :: rest) : Name.isStart c = false :=
  Name.isStart_of_isContinue (h.isContinue ht)

theorem Parts.isDigit (ht : t = c :: rest) : c.isDigit = false :=
  Name.isDigit_of_isContinue (h.isContinue ht)

theorem Parts.isNumeric (ht : t = c :: rest) : isNumeric c = false := by
  simp [Expr.isNumeric, h.isDigit ht, (h c rest ht).2]

end

/-! ## Literals -/

/-- A mark with digits behind it, between them perhaps a sign. -/
inductive IsExponent : Text → Prop
  | unsigned {mark : Char} {digits : Text} : mark = 'e' ∨ mark = 'E' → digits ≠ [] →
      (∀ d ∈ digits, d.isDigit = true) → IsExponent (mark :: digits)
  | signed {mark sign : Char} {digits : Text} : mark = 'e' ∨ mark = 'E' → sign = '+' ∨ sign = '-' →
      digits ≠ [] → (∀ d ∈ digits, d.isDigit = true) → IsExponent (mark :: sign :: digits)

/-- A run of digits and points, and perhaps an exponent. -/
def IsLiteral (l : Text) : Prop :=
  ∃ run tail, l = run ++ tail ∧ run ≠ [] ∧ (∀ c ∈ run, isNumeric c = true) ∧
    (tail = [] ∨ IsExponent tail)

theorem isStart_of_mark {mark : Char} (h : mark = 'e' ∨ mark = 'E') : Name.isStart mark = true := by
  rcases h with rfl | rfl <;> decide

theorem isContinue_of_sign {sign : Char} (h : sign = '+' ∨ sign = '-') :
    Name.isContinue sign = false := by
  rcases h with rfl | rfl <;> decide

theorem isNumeric_of_isStart {c : Char} (h : Name.isStart c = true) : isNumeric c = false := by
  have hpoint : c ≠ '.' := by
    rintro rfl
    exact absurd h (by decide)
  simp [isNumeric, Name.isDigit_of_isStart h, hpoint]

theorem isGap_of_isStart {c : Char} (h : Name.isStart c = true) : isGap c = false := by
  simp only [isGap, Bool.or_eq_false_iff, beq_eq_false_iff_ne]
  refine ⟨⟨?_, ?_⟩, ?_⟩ <;> rintro rfl <;> exact absurd h (by decide)

theorem isGap_of_isNumeric {c : Char} (h : isNumeric c = true) : isGap c = false := by
  simp only [isGap, Bool.or_eq_false_iff, beq_eq_false_iff_ne]
  refine ⟨⟨?_, ?_⟩, ?_⟩ <;> rintro rfl <;> exact absurd h (by decide)

theorem isStart_of_isGap {c : Char} (h : isGap c = true) :
    Name.isStart c = false ∧ Name.endsNumber c = false ∧ isBlank c = true := by
  simp only [isGap, Bool.or_eq_true, beq_iff_eq] at h
  rcases h with (rfl | rfl) | rfl <;> decide

theorem isStart_of_sign? {c : Char} {token : Token} (h : sign? c = some token) :
    Name.isStart c = false ∧ Name.endsNumber c = false ∧ token.isOperand = false ∧
      isBlank c = false ∧ (c = '(' → token = .openParen) := by
  unfold sign? at h
  split at h
  all_goals first | (cases h; decide) | cases h

theorem isNumeric_of_sign? {c : Char} {token : Token} (h : sign? c = some token) :
    isNumeric c = false := (isStart_of_sign? h).2.1

theorem exists_cons_of_isLiteral {l : Text} (h : IsLiteral l) :
    ∃ c rest, l = c :: rest ∧ isNumeric c = true := by
  obtain ⟨run, tail, rfl, hne, hrun, -⟩ := h
  obtain ⟨c, run, rfl⟩ := List.exists_cons_of_ne_nil hne
  exact ⟨c, run ++ tail, rfl, hrun c List.mem_cons_self⟩

/-- The run of a literal ends where its exponent starts. -/
theorem exists_cons_of_isExponent {tail : Text} (h : IsExponent tail) :
    ∃ mark rest, tail = mark :: rest ∧ isNumeric mark = false := by
  cases h with
  | unsigned hmark => exact ⟨_, _, rfl, isNumeric_of_isStart (isStart_of_mark hmark)⟩
  | signed hmark => exact ⟨_, _, rfl, isNumeric_of_isStart (isStart_of_mark hmark)⟩

/-- What is cut off as an exponent is one. -/
theorem isExponent_splitExponent (t : Text) :
    (Number.splitExponent Char.isDigit t).1 = [] ∨
      IsExponent (Number.splitExponent Char.isDigit t).1 := by
  cases t with
  | nil => exact .inl rfl
  | cons mark rest =>
    rw [Number.splitExponent]
    split
    · next hmark =>
      have hdigits : ∀ (t : Text), ∀ d ∈ t.takeWhile Char.isDigit, d.isDigit = true :=
        fun t d hd => List.all_eq_true.mp List.all_takeWhile d hd
      dsimp only
      split
      · exact .inl rfl
      · next hne =>
        refine .inr ?_
        unfold Number.splitSign at hne ⊢
        split at hne
        · exact .signed hmark (.inl rfl) hne (hdigits _)
        · exact .signed hmark (.inr rfl) hne (hdigits _)
        · exact .unsigned hmark hne (hdigits _)
    · exact .inl rfl

/-- Where one stands at the front of a text, it is cut off with the digits behind it. -/
theorem splitExponent_append {tail : Text} (h : IsExponent tail) (rest : Text) :
    Number.splitExponent Char.isDigit (tail ++ rest) =
      (tail ++ rest.takeWhile Char.isDigit, rest.dropWhile Char.isDigit) := by
  obtain ⟨mark, sign, digits, rfl, hmark, hsign, hne, hdigits⟩ : ∃ mark sign digits,
      tail = mark :: (sign ++ digits) ∧ (mark = 'e' ∨ mark = 'E') ∧
        Number.splitSign (sign ++ digits ++ rest) = (sign, digits ++ rest) ∧ digits ≠ [] ∧
        ∀ d ∈ digits, d.isDigit = true := by
    cases h with
    | @unsigned mark digits hmark hne hdigits =>
      refine ⟨mark, [], digits, rfl, hmark, ?_, hne, hdigits⟩
      obtain ⟨d, more, rfl⟩ := List.exists_cons_of_ne_nil hne
      exact Number.splitSign_of_isDigit (hdigits d List.mem_cons_self) _
    | @signed mark sign digits hmark hsign hne hdigits =>
      refine ⟨mark, [sign], digits, rfl, hmark, ?_, hne, hdigits⟩
      rcases hsign with rfl | rfl <;> rfl
  rw [List.cons_append, Number.splitExponent, if_pos hmark, hsign]
  dsimp only
  rw [List.takeWhile_append_of_pos hdigits, List.dropWhile_append_of_pos hdigits,
    if_neg (List.append_ne_nil_of_left_ne_nil hne _), List.cons_append, List.cons_append,
    List.append_assoc]

theorem splitExponent_append_ne_nil {tail : Text} (h : IsExponent tail) (rest : Text) :
    (Number.splitExponent Char.isDigit (tail ++ rest)).1 ≠ [] := by
  rw [splitExponent_append h]
  cases h <;> exact List.cons_ne_nil _ _

theorem isLiteral_splitLiteral {c : Char} (h : isNumeric c) (rest : Text) :
    IsLiteral (splitLiteral (c :: rest)).1 := by
  refine ⟨(c :: rest).takeWhile isNumeric, _, rfl, ?_,
    fun d hd => List.all_eq_true.mp List.all_takeWhile d hd, isExponent_splitExponent _⟩
  rw [List.takeWhile_cons, if_pos h]
  exact List.cons_ne_nil _ _

section
variable {t : Text} (ht : Parts t)
include ht

/-- An exponent ends with its digits. -/
theorem splitExponent_append_of_parts {tail : Text} (h : tail = [] ∨ IsExponent tail) :
    Number.splitExponent Char.isDigit (tail ++ t) = (tail, t) := by
  rcases h with rfl | h
  · rw [List.nil_append]
    cases t with
    | nil => rfl
    | cons c rest =>
      have hmark : ¬(c = 'e' ∨ c = 'E') := fun hmark =>
        absurd (ht.isStart rfl) (by rw [isStart_of_mark hmark]; exact Bool.noConfusion)
      rw [Number.splitExponent, if_neg hmark]
  · have hcut := cut_append (List.forall_mem_nil _) fun c rest heq => ht.isDigit heq
    rw [List.nil_append] at hcut
    rw [splitExponent_append h, hcut.1, hcut.2, List.append_nil]

/-- A literal is cut off where the text parts. -/
theorem splitLiteral_append_of_parts {l : Text} (hl : IsLiteral l) :
    splitLiteral (l ++ t) = (l, t) := by
  obtain ⟨run, tail, rfl, -, hrun, htail⟩ := hl
  have hcut := cut_append (t := tail ++ t) hrun fun c rest heq => by
    rcases htail with rfl | htail
    · exact ht.isNumeric heq
    · obtain ⟨mark, others, rfl, hmark⟩ := exists_cons_of_isExponent htail
      exact (List.cons.inj heq).1 ▸ hmark
  rw [splitLiteral, List.append_assoc, hcut.1, hcut.2, splitExponent_append_of_parts ht htail]

end

/-! ## One token at a time -/

section Steps
variable {t : Text} (offset : Nat)

theorem tokens_gap {c : Char} (hc : isGap c = true) :
    tokens offset (c :: t) = tokens (offset + c.utf8Size) t := by
  rw [tokens, if_pos hc]

theorem tokens_literal {l : Text} {value : Float} (hl : IsLiteral l)
    (hvalue : Number.readLiteral? l = some value) (hcut : splitLiteral (l ++ t) = (l, t)) :
    tokens offset (l ++ t) =
      tokens (offset + byteCount l) t >>= fun more => .ok ((offset, .num value) :: more) := by
  obtain ⟨c, l, rfl, hc⟩ := exists_cons_of_isLiteral hl
  rw [List.cons_append] at hcut ⊢
  rw [tokens, if_neg (by rw [isGap_of_isNumeric hc]; exact Bool.false_ne_true), dif_pos hc, hcut]
  dsimp only
  rw [hvalue]

theorem tokens_word {w : Text} (hw : Name.isIdentifier w = true)
    (ht : ∀ c rest, t = c :: rest → Name.isContinue c = false) :
    tokens offset (w ++ t) =
      tokens (offset + byteCount w) t >>= fun more => .ok ((offset, .name w) :: more) := by
  obtain ⟨c, w, rfl, hc, hw⟩ := Name.exists_of_isIdentifier hw
  have hcut := cut_append hw ht
  rw [List.cons_append, tokens, if_neg (by rw [isGap_of_isStart hc]; exact Bool.false_ne_true),
    dif_neg (by rw [isNumeric_of_isStart hc]; exact Bool.false_ne_true), if_pos hc, hcut.1, hcut.2]

theorem tokens_sign {c : Char} {token : Token} (hc : sign? c = some token) :
    tokens offset (c :: t) =
      tokens (offset + c.utf8Size) t >>= fun more => .ok ((offset, token) :: more) := by
  obtain ⟨hstart, -, -, hblank, -⟩ := isStart_of_sign? hc
  have hgap : ¬isGap c = true := fun h =>
    absurd (hblank.symm.trans (isStart_of_isGap h).2.2) Bool.false_ne_true
  rw [tokens, if_neg hgap, dif_neg (by rw [isNumeric_of_sign? hc]; exact Bool.false_ne_true),
    if_neg (by rw [hstart]; exact Bool.false_ne_true), hc]

end Steps

/-! ## Spelling -/

/-- A text cut into its tokens. -/
inductive Spells : Text → List Token → Prop
  | nil : Spells [] []
  | gap {c : Char} {t : Text} {us : List Token} : isGap c = true → Spells t us → Spells (c :: t) us
  | num {l t : Text} {us : List Token} {value : Float} : IsLiteral l →
      Number.readLiteral? l = some value → Parts t → Spells t us → Spells (l ++ t) (.num value :: us)
  | name {w t : Text} {us : List Token} : Name.isIdentifier w = true → Parts t → Spells t us →
      Spells (w ++ t) (.name w :: us)
  | sign {c : Char} {t : Text} {us : List Token} {token : Token} : sign? c = some token →
      Spells t us → Spells (c :: t) (token :: us)

/-- A text whose first token is no operand. -/
theorem parts_of_tokens {offset : Nat} {t : Text} {ts : List Placed} (h : tokens offset t = .ok ts)
    (hts : ∀ u ∈ (ts.map Prod.snd).head?, u.isOperand = false) : Parts t := by
  rintro c rest rfl
  rw [tokens] at h
  split at h
  · next hgap =>
    simp only [isGap, Bool.or_eq_true, beq_iff_eq] at hgap
    rcases hgap with (rfl | rfl) | rfl <;> decide
  · split at h
    · dsimp only at h
      split at h
      · cases h
      · obtain ⟨more, -, h⟩ := bind_eq_ok.mp h
        cases h
        exact absurd (hts _ rfl) Bool.noConfusion
    · next hnumeric =>
      split at h
      · obtain ⟨more, -, h⟩ := bind_eq_ok.mp h
        cases h
        exact absurd (hts _ rfl) Bool.noConfusion
      · next hstart =>
        simp only [isNumeric, Bool.or_eq_true, beq_iff_eq, not_or, Bool.not_eq_true] at hnumeric
        exact ⟨by rw [Name.isContinue_eq, hnumeric.1, Bool.or_false]; simpa using hstart, hnumeric.2⟩

/-- A text with operands apart spells its tokens. -/
theorem spells_of_tokens {offset : Nat} {t : Text} {ts : List Placed}
    (h : tokens offset t = .ok ts) (hts : Apart (ts.map Prod.snd)) : Spells t (ts.map Prod.snd) := by
  fun_induction tokens offset t generalizing ts with
  | case1 => cases h; exact .nil
  | case2 offset c rest hgap ih => exact .gap hgap (ih h hts)
  | case3 => cases h
  | case4 offset c rest _ hnumeric =>
    rename_i literal value hvalue ih
    obtain ⟨more, hmore, h⟩ := bind_eq_ok.mp h
    cases h
    obtain ⟨hfirst, happart⟩ := List.isChain_cons.mp hts
    have hparts := parts_of_tokens hmore fun u hu => hfirst u hu rfl
    have := Spells.num (isLiteral_splitLiteral hnumeric rest) hvalue hparts (ih hmore happart)
    rwa [splitLiteral_append] at this
  | case5 offset c rest _ _ hstart =>
    rename_i word ih
    obtain ⟨more, hmore, h⟩ := bind_eq_ok.mp h
    cases h
    obtain ⟨hfirst, happart⟩ := List.isChain_cons.mp hts
    have hparts := parts_of_tokens hmore fun u hu => hfirst u hu rfl
    have := Spells.name (Name.isIdentifier_takeWhile hstart rest) hparts (ih hmore happart)
    rwa [show word ++ rest.dropWhile Name.isContinue = c :: rest from
      congrArg (c :: ·) List.takeWhile_append_dropWhile] at this
  | case6 => cases h
  | case7 offset c rest _ _ _ token htoken ih =>
    obtain ⟨more, hmore, h⟩ := bind_eq_ok.mp h
    cases h
    exact .sign htoken (ih hmore (List.isChain_cons.mp hts).2)

/-- What a text spells are its tokens. -/
theorem tokens_of_spells {t : Text} {us : List Token} (h : Spells t us) (offset : Nat) :
    ∃ ts, tokens offset t = .ok ts ∧ ts.map Prod.snd = us := by
  induction h generalizing offset with
  | nil => exact ⟨[], by rw [tokens], rfl⟩
  | gap hc _ ih =>
    rw [tokens_gap offset hc]
    exact ih _
  | @num l t us value hl hvalue ht _ ih =>
    obtain ⟨ts, hts, rfl⟩ := ih (offset + byteCount l)
    exact ⟨(offset, .num value) :: ts, by
      rw [tokens_literal offset hl hvalue (splitLiteral_append_of_parts ht hl), hts]; rfl, rfl⟩
  | @name w t us hw ht _ ih =>
    obtain ⟨ts, hts, rfl⟩ := ih (offset + byteCount w)
    exact ⟨(offset, .name w) :: ts, by
      rw [tokens_word offset hw (fun _ _ => ht.isContinue), hts]; rfl, rfl⟩
  | @sign c t us token hc _ ih =>
    obtain ⟨ts, hts, rfl⟩ := ih (offset + c.utf8Size)
    exact ⟨(offset, token) :: ts, by rw [tokens_sign offset hc, hts]; rfl, rfl⟩

/-- A text denotes an expression if it spells tokens that derive it. -/
theorem parse_eq_ok_iff_spells {t : Text} {e : Expr} :
    parse t = .ok e ↔ ∃ us, Spells t us ∧ Derives .expr us e := by
  rw [parse_eq_ok]
  constructor
  · rintro ⟨ts, hts, h⟩
    exact ⟨_, spells_of_tokens hts h.apart, h⟩
  · rintro ⟨us, hus, h⟩
    obtain ⟨ts, hts, rfl⟩ := tokens_of_spells hus 0
    exact ⟨ts, hts, h⟩

end Equate.Expr
