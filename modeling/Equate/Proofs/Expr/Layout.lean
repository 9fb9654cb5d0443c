import Equate.Proofs.Expr.Spelling
import Equate.Proofs.Text.Part

/-!
# Where tokens stand

Any text is cut into lexemes from the left, each as long as it can be, with gaps between them.
`Lexes` says how far a text has been cut, at which byte every token stands and at which byte the
rest of the text starts. It looks at what follows a lexeme, so operands may stand side by side. A
text is cut to its end, or up to a place where it is `Stuck`: there stands a character that no
lexeme starts with, or a literal that is not a number. The tokens of a text are those that it is
cut into, and the failures are the places where it is stuck.
-/
namespace Equate.Expr
open Success Text

/-! ## Lexemes -/

/-- The smallest parts of a text that count: literals, names and signs. A literal need not be a
number. -/
def IsLexeme (l : Text) : Prop :=
  IsLiteral l ∨ Name.isIdentifier l = true ∨ ∃ c token, sign? c = some token ∧ l = [c]

/-- A lexeme that cannot be made longer by what follows it. -/
def Longest (l t : Text) : Prop := ∀ more after, t = more ++ after → IsLexeme (l ++ more) → more = []

/-- A token and the lexeme it stands for. -/
inductive Token.WrittenAs : Token → Text → Prop
  | num {l : Text} {value : Float} : IsLiteral l → Number.readLiteral? l = some value →
      Token.WrittenAs (.num value) l
  | name {w : Text} : Name.isIdentifier w = true → Token.WrittenAs (.name w) w
  | sign {c : Char} {token : Token} : sign? c = some token → Token.WrittenAs token [c]

theorem Token.WrittenAs.isLexeme {token : Token} {l : Text} (h : token.WrittenAs l) :
    IsLexeme l := by
  cases h with
  | num hl => exact .inl hl
  | name hw => exact .inr (.inl hw)
  | sign hc => exact .inr (.inr ⟨_, _, hc, rfl⟩)

theorem ne_nil_of_isLexeme {l : Text} (h : IsLexeme l) : l ≠ [] := by
  rintro rfl
  rcases h with hliteral | hword | ⟨c, token, -, heq⟩
  · obtain ⟨c, rest, heq, -⟩ := exists_cons_of_isLiteral hliteral
    cases heq
  · cases hword
  · cases heq

section
variable {c : Char} {rest : Text} (h : IsLexeme (c :: rest))
include h

/-- The first character of a lexeme tells its kind. -/
theorem kind_of_isLexeme :
    isNumeric c = true ∧ IsLiteral (c :: rest) ∨
      Name.isStart c = true ∧ Name.isIdentifier (c :: rest) = true ∨
      (∃ token, sign? c = some token) ∧ rest = [] := by
  rcases h with hliteral | hword | ⟨d, token, hsign, heq⟩
  · obtain ⟨d, more, heq, hd⟩ := exists_cons_of_isLiteral hliteral
    exact .inl ⟨(List.cons.inj heq).1 ▸ hd, hliteral⟩
  · exact .inr (.inl ⟨(Bool.and_eq_true_iff.mp hword).1, hword⟩)
  · obtain ⟨rfl, rfl⟩ := List.cons.inj heq
    exact .inr (.inr ⟨⟨token, hsign⟩, rfl⟩)

theorem isLiteral_of_isLexeme (hc : isNumeric c = true) : IsLiteral (c :: rest) := by
  rcases kind_of_isLexeme h with ⟨-, hliteral⟩ | ⟨hstart, -⟩ | ⟨⟨token, hsign⟩, -⟩
  · exact hliteral
  · exact absurd (hc.symm.trans (isNumeric_of_isStart hstart)) Bool.noConfusion
  · exact absurd (hc.symm.trans (isNumeric_of_sign? hsign)) Bool.noConfusion

theorem isIdentifier_of_isLexeme (hc : Name.isStart c = true) :
    Name.isIdentifier (c :: rest) = true := by
  rcases kind_of_isLexeme h with ⟨hnumeric, -⟩ | ⟨-, hword⟩ | ⟨⟨token, hsign⟩, -⟩
  · exact absurd (hnumeric.symm.trans (isNumeric_of_isStart hc)) Bool.noConfusion
  · exact hword
  · exact absurd (hc.symm.trans (isStart_of_sign? hsign).1) Bool.noConfusion

theorem eq_nil_of_isLexeme {token : Token} (hc : sign? c = some token) : rest = [] := by
  rcases kind_of_isLexeme h with ⟨hnumeric, -⟩ | ⟨hstart, -⟩ | ⟨-, hrest⟩
  · exact absurd (hnumeric.symm.trans (isNumeric_of_sign? hc)) Bool.noConfusion
  · exact absurd (hstart.symm.trans (isStart_of_sign? hc).1) Bool.noConfusion
  · exact hrest

end

/-! ## The longest ones -/

/-- What is cut off at the front of a text is at least any literal that stands there. -/
theorem isPrefix_splitLiteral {l : Text} (h : IsLiteral l) (t : Text) :
    l <+: (splitLiteral (l ++ t)).1 := by
  obtain ⟨run, tail, rfl, -, hrun, htail⟩ := h
  rw [splitLiteral, List.append_assoc, List.takeWhile_append_of_pos hrun,
    List.dropWhile_append_of_pos hrun]
  rcases htail with rfl | htail
  · rw [List.append_nil, List.nil_append]
    exact (List.prefix_append run _).trans (List.prefix_append _ _)
  · obtain ⟨mark, others, rfl, hmark⟩ := exists_cons_of_isExponent htail
    -- The run ends at the mark, and the exponent is cut off with all its digits.
    have hstop : (mark :: others ++ t).takeWhile isNumeric = [] ∧
        (mark :: others ++ t).dropWhile isNumeric = mark :: others ++ t := by
      rw [List.cons_append, List.takeWhile_cons, List.dropWhile_cons, hmark]
      exact ⟨rfl, rfl⟩
    rw [hstop.1, hstop.2, splitExponent_append htail, List.append_nil]
    exact (List.prefix_append_right_inj run).mpr (List.prefix_append _ _)

theorem longest_literal_iff {l t : Text} (h : IsLiteral l) :
    Longest l t ↔ splitLiteral (l ++ t) = (l, t) := by
  obtain ⟨c, l, rfl, hc⟩ := exists_cons_of_isLiteral h
  constructor
  · intro hlongest
    obtain ⟨more, hmore⟩ := isPrefix_splitLiteral h t
    have hcut := splitLiteral_append (c :: l ++ t)
    rw [← hmore, List.append_assoc] at hcut
    have hrest := List.append_cancel_left hcut
    obtain rfl := hlongest more _ hrest.symm (.inl (hmore ▸ isLiteral_splitLiteral hc (l ++ t)))
    rw [List.append_nil] at hmore
    exact Prod.ext hmore.symm hrest
  · rintro hcut more after rfl hlexeme
    rw [List.cons_append] at hlexeme
    have hwhole := isPrefix_splitLiteral (isLiteral_of_isLexeme hlexeme hc) after
    rw [← List.cons_append, List.append_assoc, hcut] at hwhole
    have hlength : (c :: l ++ more).length ≤ (c :: l).length := hwhole.length_le
    rw [List.length_append] at hlength
    exact List.eq_nil_of_length_eq_zero (by omega)

theorem longest_splitLiteral {c : Char} (hc : isNumeric c = true) (rest : Text) :
    Longest (splitLiteral (c :: rest)).1 (splitLiteral (c :: rest)).2 :=
  (longest_literal_iff (isLiteral_splitLiteral hc rest)).mpr (by rw [splitLiteral_append])

theorem longest_word_iff {w t : Text} (h : Name.isIdentifier w = true) :
    Longest w t ↔ ∀ c rest, t = c :: rest → Name.isContinue c = false := by
  obtain ⟨c, w, rfl, hc, hw⟩ := Name.exists_of_isIdentifier h
  constructor
  · rintro hlongest d rest rfl
    rw [← Bool.not_eq_true]
    intro hd
    have hword : Name.isIdentifier (c :: w ++ [d]) = true := by
      rw [List.cons_append, Name.isIdentifier, hc, Bool.true_and, List.all_eq_true]
      exact List.forall_mem_append.mpr ⟨hw, List.forall_mem_singleton.mpr hd⟩
    exact absurd (hlongest [d] rest rfl (.inr (.inl hword))) (List.cons_ne_nil _ _)
  · rintro hstop more after rfl hlexeme
    have hword := isIdentifier_of_isLexeme hlexeme hc
    cases more with
    | nil => rfl
    | cons d more =>
      have hd := Name.isContinue_of_isIdentifier hword
        (List.mem_cons_of_mem c (List.mem_append_right w List.mem_cons_self))
      exact absurd (hd.symm.trans (hstop d _ rfl)) Bool.noConfusion

theorem longest_sign {c : Char} {token : Token} (h : sign? c = some token) (t : Text) :
    Longest [c] t :=
  fun _ _ _ hlexeme => eq_nil_of_isLexeme hlexeme h

/-! ## Cutting a text -/

/-- From a byte on a text has been cut into tokens up to another byte, and the rest is left. -/
inductive Lexes : Nat → Text → List Placed → Nat → Text → Prop
  | done {offset : Nat} {t : Text} : Lexes offset t [] offset t
  | gap {offset stop : Nat} {c : Char} {t rest : Text} {ts : List Placed} : isGap c = true →
      Lexes (offset + c.utf8Size) t ts stop rest → Lexes offset (c :: t) ts stop rest
  | token {offset stop : Nat} {token : Token} {l t rest : Text} {ts : List Placed} :
      token.WrittenAs l → Longest l t → Lexes (offset + byteCount l) t ts stop rest →
      Lexes offset (l ++ t) ((offset, token) :: ts) stop rest

/-- A text that starts at a byte does not go on with a token. -/
inductive Stuck : Nat → Text → EvalError → Prop
  | character {offset : Nat} {c : Char} {after : Text} : isGap c = false →
      (∀ l, IsLexeme l → l.head? ≠ some c) →
      Stuck offset (c :: after) (.unexpectedChar c (offset + 1))
  | number {offset : Nat} {l after : Text} : IsLiteral l → Longest l after →
      Number.readLiteral? l = none → Stuck offset (l ++ after) (.invalidNumber l)

theorem tokens_lexeme (offset : Nat) {token : Token} {l t : Text} (h : token.WrittenAs l)
    (hlongest : Longest l t) :
    tokens offset (l ++ t) =
      tokens (offset + byteCount l) t >>= fun more => .ok ((offset, token) :: more) := by
  cases h with
  | num hl hvalue => exact tokens_literal offset hl hvalue ((longest_literal_iff hl).mp hlongest)
  | name hw => exact tokens_word offset hw ((longest_word_iff hw).mp hlongest)
  | sign hc => exact tokens_sign offset hc

theorem Stuck.tokens_eq {offset : Nat} {t : Text} {e : EvalError} (h : Stuck offset t e) :
    tokens offset t = .error e := by
  cases h with
  | @character c after hgap hnone =>
    have hnumeric : ¬isNumeric c = true := fun hc =>
      hnone [c] (.inl ⟨[c], [], rfl, by simp, by simpa using hc, .inl rfl⟩) rfl
    have hstart : ¬Name.isStart c = true := fun hc =>
      hnone [c] (.inr (.inl (by simpa [Name.isIdentifier] using hc))) rfl
    have hsign : sign? c = none := by
      cases hc : sign? c with
      | none => rfl
      | some token => exact absurd rfl (hnone [c] (.inr (.inr ⟨c, token, hc, rfl⟩)))
    rw [tokens, if_neg (by simp [hgap]), dif_neg hnumeric, if_neg hstart, hsign]
  | @number l after hl hlongest hnone =>
    have hcut := (longest_literal_iff hl).mp hlongest
    obtain ⟨c, l, rfl, hc⟩ := exists_cons_of_isLiteral hl
    rw [List.cons_append] at hcut ⊢
    rw [tokens, if_neg (by rw [isGap_of_isNumeric hc]; exact Bool.false_ne_true), dif_pos hc, hcut]
    dsimp only
    rw [hnone]

section
variable {offset stop : Nat} {t rest : Text} {ts : List Placed} (h : Lexes offset t ts stop rest)
include h

/-- What has been cut comes in front of what is still to be cut. -/
theorem Lexes.tokens_eq :
    tokens offset t = tokens stop rest >>= fun more => .ok (ts ++ more) := by
  induction h with
  | @done offset t => cases tokens offset t <;> rfl
  | gap hc _ ih => rw [tokens_gap _ hc, ih]
  | @token offset stop token l t rest ts hl hlongest _ ih =>
    rw [tokens_lexeme offset hl hlongest, ih]
    cases tokens stop rest <;> rfl

theorem Lexes.exists_append : ∃ before, t = before ++ rest ∧ stop = offset + byteCount before := by
  induction h with
  | done => exact ⟨[], rfl, rfl⟩
  | @gap offset stop c t rest ts hc _ ih =>
    obtain ⟨before, rfl, rfl⟩ := ih
    exact ⟨c :: before, rfl, Nat.add_assoc _ _ _⟩
  | @token offset stop token l t rest ts hl _ _ ih =>
    obtain ⟨before, rfl, rfl⟩ := ih
    exact ⟨l ++ before, (List.append_assoc _ _ _).symm, by rw [byteCount_append, Nat.add_assoc]⟩

/-- Every token is written at its byte, as long as it can be. -/
theorem Lexes.exists_of_mem {x : Placed} (hx : x ∈ ts) : ∃ before l after,
    t = before ++ (l ++ after) ∧ x.1 = offset + byteCount before ∧ x.2.WrittenAs l ∧
      Longest l after := by
  induction h with
  | done => exact absurd hx List.not_mem_nil
  | @gap offset stop c t rest ts hc _ ih =>
    obtain ⟨before, l, after, rfl, hat, hrest⟩ := ih hx
    exact ⟨c :: before, l, after, rfl, by rw [hat, byteCount_cons, Nat.add_assoc], hrest⟩
  | @token offset stop token l t rest ts hl hlongest _ ih =>
    rcases List.mem_cons.mp hx with rfl | hx
    · exact ⟨[], l, t, rfl, rfl, hl, hlongest⟩
    · obtain ⟨before, m, after, rfl, hat, hrest⟩ := ih hx
      exact ⟨l ++ before, m, after, (List.append_assoc _ _ _).symm,
        by rw [hat, byteCount_append, Nat.add_assoc], hrest⟩

theorem Lexes.pairwise : ts.Pairwise fun x y => x.1 < y.1 := by
  induction h with
  | done => exact .nil
  | gap _ _ ih => exact ih
  | @token offset stop token l t rest ts hl _ hmore ih =>
    refine List.pairwise_cons.mpr ⟨fun y hy => ?_, ih⟩
    obtain ⟨before, m, after, -, hat, -⟩ := hmore.exists_of_mem hy
    have := byteCount_pos (ne_nil_of_isLexeme hl.isLexeme)
    rw [hat]
    omega

end

/-- Every text is cut to its end or up to a place where it is stuck. -/
theorem exists_lexes (offset : Nat) (t : Text) :
    ∃ ts stop rest, Lexes offset t ts stop rest ∧ (rest = [] ∨ ∃ e, Stuck stop rest e) := by
  fun_induction tokens offset t with
  | case1 offset => exact ⟨[], offset, [], .done, .inl rfl⟩
  | case2 offset c rest hgap ih =>
    obtain ⟨ts, stop, rest, h, hrest⟩ := ih
    exact ⟨ts, stop, rest, .gap hgap h, hrest⟩
  | case3 offset c rest _ hnumeric literal hnone =>
    have hstuck : Stuck offset _ _ := .number (isLiteral_splitLiteral hnumeric rest)
      (longest_splitLiteral hnumeric rest) hnone
    rw [splitLiteral_append] at hstuck
    exact ⟨[], offset, c :: rest, .done, .inr ⟨_, hstuck⟩⟩
  | case4 offset c rest _ hnumeric literal value hvalue ih =>
    obtain ⟨ts, stop, behind, h, hrest⟩ := ih
    have hlexes := Lexes.token (.num (isLiteral_splitLiteral hnumeric rest) hvalue)
      (longest_splitLiteral hnumeric rest) h
    rw [splitLiteral_append] at hlexes
    exact ⟨_, stop, behind, hlexes, hrest⟩
  | case5 offset c rest _ _ hstart word ih =>
    obtain ⟨ts, stop, behind, h, hrest⟩ := ih
    have hword : Name.isIdentifier word = true := Name.isIdentifier_takeWhile hstart rest
    have hlongest := (longest_word_iff hword).mpr fun _ _ => eq_false_of_dropWhile (l := rest)
    have hlexes := Lexes.token (.name hword) hlongest h
    rw [List.cons_append, List.takeWhile_append_dropWhile] at hlexes
    exact ⟨_, stop, behind, hlexes, hrest⟩
  | case6 offset c rest hgap hnumeric hstart hsign =>
    refine ⟨[], offset, c :: rest, .done, .inr ⟨_, .character (by simpa using hgap) ?_⟩⟩
    rintro l hl hhead
    obtain ⟨more, rfl⟩ := List.head?_eq_some_iff.mp hhead
    rcases kind_of_isLexeme hl with ⟨hc, -⟩ | ⟨hc, -⟩ | ⟨⟨token, hc⟩, -⟩
    · exact hnumeric hc
    · exact hstart hc
    · rw [hsign] at hc
      cases hc
  | case7 offset c rest _ _ _ token htoken ih =>
    obtain ⟨ts, stop, behind, h, hrest⟩ := ih
    exact ⟨_, stop, behind, .token (l := [c]) (.sign htoken) (longest_sign htoken rest) h, hrest⟩

/-! ## What the tokens say about the text -/

theorem tokens_eq_ok_iff {offset : Nat} {t : Text} {ts : List Placed} :
    tokens offset t = .ok ts ↔ Lexes offset t ts (offset + byteCount t) [] := by
  constructor
  · intro hts
    obtain ⟨us, stop, rest, h, rfl | ⟨e, hstuck⟩⟩ := exists_lexes offset t
    · obtain ⟨before, rfl, rfl⟩ := h.exists_append
      rw [h.tokens_eq, tokens, ok_bind, List.append_nil] at hts
      rw [List.append_nil] at h ⊢
      exact Except.ok.inj hts ▸ h
    · rw [h.tokens_eq, hstuck.tokens_eq] at hts
      cases hts
  · intro h
    rw [h.tokens_eq, tokens, ok_bind, List.append_nil]

theorem tokens_eq_error_iff {offset : Nat} {t : Text} {e : EvalError} :
    tokens offset t = .error e ↔
      ∃ ts stop rest, Lexes offset t ts stop rest ∧ Stuck stop rest e := by
  constructor
  · intro he
    obtain ⟨ts, stop, rest, h, rfl | ⟨e', hstuck⟩⟩ := exists_lexes offset t
    · rw [h.tokens_eq, tokens] at he
      cases he
    · rw [h.tokens_eq, hstuck.tokens_eq] at he
      exact ⟨ts, stop, rest, h, Except.error.inj he ▸ hstuck⟩
  · rintro ⟨ts, stop, rest, h, hstuck⟩
    rw [h.tokens_eq, hstuck.tokens_eq]
    rfl

/-- A text has tokens if it can be cut to its end into longest lexemes with gaps between them. Else
all of it is cut up to a character that no lexeme starts with, which is named with its column, or
up to a literal that is not a number, and what is named is what is read there. All tokens can be
cut out of the text at their bytes, which come in order, and so can the rest. -/
theorem tokens_lossless (t : Text) :
    (∀ ts, tokens 0 t = .ok ts ↔ Lexes 0 t ts (byteCount t) []) ∧
    (∀ e, tokens 0 t = .error e ↔ ∃ ts stop rest, Lexes 0 t ts stop rest ∧ Stuck stop rest e) ∧
    (∀ l, tokens 0 t = .error (.invalidNumber l) → ∃ ts stop after,
      Lexes 0 t ts stop (l ++ after) ∧ splitLiteral (l ++ after) = (l, after)) ∧
    ∀ ts stop rest, Lexes 0 t ts stop rest →
      slice? t stop (byteCount t) = some rest ∧
      ts.Pairwise (fun x y => x.1 < y.1) ∧
      ∀ x ∈ ts, ∃ l, x.2.WrittenAs l ∧ slice? t x.1 (x.1 + byteCount l) = some l := by
  refine ⟨fun ts => ?_, fun e => tokens_eq_error_iff, fun l hl => ?_, fun ts stop rest h => ?_⟩
  · rw [tokens_eq_ok_iff, Nat.zero_add]
  · obtain ⟨ts, stop, rest, h, hstuck⟩ := tokens_eq_error_iff.mp hl
    cases hstuck with
    | number hl hlongest => exact ⟨ts, stop, _, h, (longest_literal_iff hl).mp hlongest⟩
  · refine ⟨?_, h.pairwise, fun x hx => ?_⟩
    · obtain ⟨before, rfl, rfl⟩ := h.exists_append
      have hslice := slice?_append before rest []
      rwa [List.append_nil, ← byteCount_append, ← Nat.zero_add (byteCount before)] at hslice
    · obtain ⟨before, l, after, rfl, hat, hl, -⟩ := h.exists_of_mem hx
      refine ⟨l, hl, ?_⟩
      rw [hat, Nat.zero_add]
      exact slice?_append before l after

/-- For instance in front of an exponent without digits, behind a sign and behind a number. -/
theorem tokens_lossless_incomplete :
    Lexes 0 "2e+x" [(0, .num 2), (1, .name "e"), (2, .plus), (3, .name "x")] 4 [] ∧
      (∃ l, (Token.name "e").WrittenAs l ∧ slice? "2e+x" 1 (1 + byteCount l) = some l) ∧
      (∃ ts stop rest, Lexes 0 "(é" ts stop rest ∧ Stuck stop rest (.unexpectedChar 'é' 2)) ∧
      ∃ ts stop after, Lexes 0 "1 1.2.3e" ts stop (("1.2.3" : Text) ++ after) ∧
        splitLiteral (("1.2.3" : Text) ++ after) = (("1.2.3" : Text), after) := by
  have htokens : tokens 0 "2e+x" =
      .ok [(0, .num 2), (1, .name "e"), (2, .plus), (3, .name "x")] :=
    eq_ok_of_toOption (by decide +kernel)
  have hlexes := ((tokens_lossless "2e+x").1 _).mp htokens
  obtain ⟨-, -, hslices⟩ := (tokens_lossless "2e+x").2.2.2 _ _ _ hlexes
  refine ⟨hlexes, hslices (1, .name "e") (by simp), ?_, ?_⟩
  · exact ((tokens_lossless "(é").2.1 _).mp (by decide +kernel)
  · exact (tokens_lossless "1 1.2.3e").2.2.1 "1.2.3" (by decide +kernel)

end Equate.Expr
