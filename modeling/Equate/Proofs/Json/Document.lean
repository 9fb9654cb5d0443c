import Equate.Json.Parser
import Equate.Json.Printer
import Equate.Proofs.Json.Numeral
import Equate.Proofs.Json.Quoted

/-!
# Documents are read as they are written

The compact text of a document is cut into the tokens of its parts, one part after
another, and these tokens are read as the document again. Both are inductions on the
document: what stands behind a part is arbitrary, as long as no number goes on into it.
-/
namespace Equate.Json
open Text

/-- Documents whose numbers and strings have the form of such. -/
inductive WellFormed : Json → Prop where
  | null : WellFormed .null
  | bool (b : Bool) : WellFormed (.bool b)
  | number {n : Numeral} (h : n.WellFormed) : WellFormed (.number n)
  | string {s : Text} (h : IsQuoted s) : WellFormed (.string s)
  | array {items : List Json} (h : ∀ item ∈ items, WellFormed item) : WellFormed (.array items)
  | object {members : List (Text × Json)} (hkeys : ∀ m ∈ members, IsQuoted m.1)
      (h : ∀ m ∈ members, WellFormed m.2) : WellFormed (.object members)

mutual

/-- The tokens of a document. -/
def tokensOf : Json → List Token
  | .null => [.null]
  | .bool b => [.bool b]
  | .number n => [.number n]
  | .string s => [.string s]
  | .array items => .openBracket :: tokensOfItems items ++ [.closeBracket]
  | .object members => .openBrace :: tokensOfMembers members ++ [.closeBrace]

/-- The tokens of items, with commas between them. -/
def tokensOfItems : List Json → List Token
  | [] => []
  | [item] => tokensOf item
  | item :: rest => tokensOf item ++ .comma :: tokensOfItems rest

/-- The tokens of members, with commas between them. -/
def tokensOfMembers : List (Text × Json) → List Token
  | [] => []
  | [(key, value)] => .string key :: .colon :: tokensOf value
  | (key, value) :: rest =>
    .string key :: .colon :: tokensOf value ++ .comma :: tokensOfMembers rest

end

/-! ## Tokens -/

theorem tokens?_of_token? {t after : Text} {token : Token} (h : token? t = some (token, after))
    (hspace : ∀ c rest, t = c :: rest → isSpace c = false) :
    tokens? t = (tokens? after).map (token :: ·) := by
  cases t with
  | nil => exact absurd (token?_shorter h) (Nat.not_lt_zero _)
  | cons c rest =>
    rw [tokens?, hspace c rest rfl, if_neg Bool.false_ne_true]
    split
    · next hnone => cases hnone.symm.trans h
    · next hsome => cases hsome.symm.trans h; rfl

/-- One token in front of the others. -/
theorem tokens?_cons {c : Char} {t after : Text} {token : Token}
    (h : token? (c :: t) = some (token, after)) (hc : isSpace c = false) :
    tokens? (c :: t) = (tokens? after).map (token :: ·) := by
  apply tokens?_of_token? h
  intro d rest heq
  rw [← (List.cons.inj heq).1]
  exact hc

theorem token?_number {c : Char} {t : Text} (h : c.isDigit = true ∨ c = '-') :
    token? (c :: t) = (Numeral.read? (c :: t)).map fun (n, rest) => (.number n, rest) := by
  have hne : ∀ d : Char, d.isDigit = false → d ≠ '-' → c ≠ d := by
    rintro d hd hminus rfl
    rcases h with h | h
    · rw [hd] at h
      cases h
    · exact hminus h
  unfold token?
  split
  case h_11 => rfl
  all_goals
    next heq => exact absurd (List.cons.inj heq).1 (hne _ (by decide) (by decide))

theorem exists_cons_text {n : Numeral} (h : n.WellFormed) :
    ∃ c t, n.text = c :: t ∧ (c.isDigit = true ∨ c = '-') := by
  obtain ⟨c, rest, hwhole, hc⟩ := h.whole.exists_cons
  rw [Numeral.text_eq, hwhole]
  cases n.negative with
  | true => exact ⟨'-', _, rfl, .inr rfl⟩
  | false => exact ⟨c, _, rfl, .inl hc⟩

theorem tokens?_number {n : Numeral} (h : n.WellFormed) {rest : Text} (hrest : Ends rest) :
    tokens? (n.text ++ rest) = (tokens? rest).map (.number n :: ·) := by
  obtain ⟨c, t, htext, hc⟩ := exists_cons_text h
  have hread := Numeral.read?_text h hrest
  rw [htext, List.cons_append] at hread ⊢
  apply tokens?_cons
  · rw [token?_number hc, hread]
    rfl
  · have hspaces : ∀ d : Char, isSpace d = true → d.isDigit = false ∧ d ≠ '-' := by
      intro d hd
      have hcases : d = ' ' ∨ d = '\t' ∨ d = '\n' ∨ d = '\r' := by
        simpa [isSpace, or_assoc] using hd
      rcases hcases with rfl | rfl | rfl | rfl <;> decide
    rw [← Bool.not_eq_true]
    intro hspace
    obtain ⟨hdigit, hminus⟩ := hspaces c hspace
    rcases hc with hc | hc
    · rw [hdigit] at hc
      cases hc
    · exact hminus hc

theorem tokens?_inQuotes {s : Text} (h : IsQuoted s) (rest : Text) :
    tokens? (inQuotes s ++ rest) = (tokens? rest).map (.string s :: ·) := by
  have hread : token? ('"' :: (s ++ '"' :: rest)) = some (.string s, rest) := by
    rw [token?, h rest]
    rfl
  rw [inQuotes, List.cons_append, List.cons_append, List.append_assoc]
  exact tokens?_cons hread (by decide)

theorem ends_cons {c : Char} {t : Text}
    (h : c.isDigit = false ∧ c ≠ '.' ∧ c ≠ 'e' ∧ c ≠ 'E') : Ends (c :: t) := by
  intro d rest heq
  rw [← (List.cons.inj heq).1]
  exact h

/-- The text in front is cut into these tokens, whatever stands behind. -/
def CutsInto (t : Text) (ts : List Token) : Prop :=
  ∀ rest, Ends rest → tokens? (t ++ rest) = (tokens? rest).map (ts ++ ·)

theorem CutsInto.append {a b : Text} {ts us : List Token} (ha : CutsInto a ts) (hb : CutsInto b us)
    (hends : ∀ rest, Ends (b ++ rest)) : CutsInto (a ++ b) (ts ++ us) := by
  intro rest hrest
  rw [List.append_assoc, ha _ (hends rest), hb rest hrest, Option.map_map]
  congr 1
  funext vs
  exact (List.append_assoc ts us vs).symm

theorem CutsInto.cons {c : Char} {a : Text} {token : Token} {ts : List Token}
    (hc : isSpace c = false) (htoken : ∀ t, token? (c :: t) = some (token, t)) (ha : CutsInto a ts) :
    CutsInto (c :: a) (token :: ts) := by
  intro rest hrest
  rw [List.cons_append, tokens?_cons (htoken _) hc, ha rest hrest, Option.map_map]
  rfl

theorem cutsInto_nil : CutsInto [] [] := fun rest _ => by
  rw [List.nil_append]
  cases tokens? rest <;> rfl

theorem cutsInto_inQuotes {s : Text} (h : IsQuoted s) : CutsInto (inQuotes s) [.string s] :=
  fun rest _ => tokens?_inQuotes h rest

theorem cutsInto_items {items : List Json}
    (h : ∀ item ∈ items, CutsInto (compact item) (tokensOf item)) :
    CutsInto (compactItems items) (tokensOfItems items) := by
  induction items with
  | nil => exact cutsInto_nil
  | cons item items ih =>
    obtain ⟨hitem, hitems⟩ := List.forall_mem_cons.mp h
    cases items with
    | nil => exact hitem
    | cons next items =>
      refine hitem.append ((ih hitems).cons (by decide) fun _ => rfl) fun rest => ?_
      exact ends_cons (by decide)

theorem cutsInto_member {key : Text} {value : Json} (hkey : IsQuoted key)
    (hvalue : CutsInto (compact value) (tokensOf value)) :
    CutsInto (inQuotes key ++ ':' :: compact value) (.string key :: .colon :: tokensOf value) := by
  refine (cutsInto_inQuotes hkey).append (hvalue.cons (by decide) fun _ => rfl) fun rest => ?_
  exact ends_cons (by decide)

theorem cutsInto_members {members : List (Text × Json)} (hkeys : ∀ m ∈ members, IsQuoted m.1)
    (h : ∀ m ∈ members, CutsInto (compact m.2) (tokensOf m.2)) :
    CutsInto (compactMembers members) (tokensOfMembers members) := by
  induction members with
  | nil => exact cutsInto_nil
  | cons m members ih =>
    obtain ⟨hkey, hkeys⟩ := List.forall_mem_cons.mp hkeys
    obtain ⟨hvalue, h⟩ := List.forall_mem_cons.mp h
    have hmember := cutsInto_member hkey hvalue
    cases members with
    | nil => exact hmember
    | cons next members =>
      refine hmember.append ((ih hkeys h).cons (by decide) fun _ => rfl) fun rest => ?_
      exact ends_cons (by decide)

/-- The compact text of a document is cut into its tokens. -/
theorem WellFormed.cutsInto {d : Json} (h : WellFormed d) : CutsInto (compact d) (tokensOf d) := by
  induction h with
  | null => exact fun rest _ => tokens?_cons rfl (by decide)
  | bool b => cases b <;> exact fun rest _ => tokens?_cons rfl (by decide)
  | number hn => exact fun rest => tokens?_number hn
  | string hs => exact cutsInto_inQuotes hs
  | array _ ih =>
    refine ((cutsInto_items ih).append (cutsInto_nil.cons (c := ']') (by decide) fun _ => rfl)
      fun rest => ends_cons (by decide)).cons (by decide) fun _ => rfl
  | object hkeys _ ih =>
    refine ((cutsInto_members hkeys ih).append (cutsInto_nil.cons (by decide) fun _ => rfl)
      fun rest => ends_cons (by decide)).cons (by decide) fun _ => rfl

theorem WellFormed.tokens?_compact {d : Json} (h : WellFormed d) :
    tokens? (compact d) = some (tokensOf d) := by
  have hcut := h.cutsInto [] ends_nil
  rw [List.append_nil] at hcut
  rw [hcut, tokens?, Option.map_some, List.append_nil]

/-! ## Values -/

/-- The tokens in front are read as the document, whatever stands behind. -/
def ReadsAs (ts : List Token) (d : Json) : Prop :=
  ∀ rest, ∃ h, value? (ts ++ rest) = some (d, ⟨rest, h⟩)

theorem exists_cons_tokensOf (d : Json) :
    ∃ token ts, tokensOf d = token :: ts ∧ token ≠ .closeBracket := by
  cases d <;> exact ⟨_, _, rfl, nofun⟩

theorem items?_tokensOfItems {items : List Json} (hne : items ≠ [])
    (h : ∀ item ∈ items, ReadsAs (tokensOf item) item) (rest : List Token) :
    ∃ hrest, items? (tokensOfItems items ++ .closeBracket :: rest) = some (items, ⟨rest, hrest⟩) := by
  induction items with
  | nil => exact absurd rfl hne
  | cons item items ih =>
    obtain ⟨hitem, hitems⟩ := List.forall_mem_cons.mp h
    cases items with
    | nil =>
      obtain ⟨hlt, hvalue⟩ := hitem (.closeBracket :: rest)
      rw [show tokensOfItems [item] = tokensOf item from rfl]
      refine ⟨Nat.lt_of_succ_lt hlt, ?_⟩
      rw [items?, hvalue]
    | cons next items =>
      obtain ⟨hlt', hnext⟩ := ih (List.cons_ne_nil _ _) hitems
      have htokens : tokensOfItems (item :: next :: items) ++ .closeBracket :: rest =
          tokensOf item ++ .comma :: (tokensOfItems (next :: items) ++ .closeBracket :: rest) := by
        rw [show tokensOfItems (item :: next :: items) =
          tokensOf item ++ .comma :: tokensOfItems (next :: items) from rfl, List.append_assoc,
          List.cons_append]
      obtain ⟨hlt, hvalue⟩ := hitem (.comma :: (tokensOfItems (next :: items) ++ .closeBracket :: rest))
      rw [htokens]
      refine ⟨Nat.lt_trans hlt' (Nat.lt_of_succ_lt hlt), ?_⟩
      rw [items?, hvalue]
      dsimp only
      rw [hnext]

theorem members?_tokensOfMembers {members : List (Text × Json)} (hne : members ≠ [])
    (h : ∀ m ∈ members, ReadsAs (tokensOf m.2) m.2) (rest : List Token) :
    ∃ hrest, members? (tokensOfMembers members ++ .closeBrace :: rest) =
      some (members, ⟨rest, hrest⟩) := by
  induction members with
  | nil => exact absurd rfl hne
  | cons m members ih =>
    obtain ⟨key, d⟩ := m
    obtain ⟨hmember, hmembers⟩ := List.forall_mem_cons.mp h
    cases members with
    | nil =>
      obtain ⟨hlt, hvalue⟩ := hmember (.closeBrace :: rest)
      have htokens : tokensOfMembers [(key, d)] ++ .closeBrace :: rest =
          .string key :: .colon :: (tokensOf d ++ .closeBrace :: rest) := rfl
      rw [htokens]
      simp only [List.length_cons] at hlt ⊢
      refine ⟨by omega, ?_⟩
      rw [members?, hvalue]
    | cons next members =>
      obtain ⟨hlt', hnext⟩ := ih (List.cons_ne_nil _ _) hmembers
      have htokens : tokensOfMembers ((key, d) :: next :: members) ++ .closeBrace :: rest =
          .string key :: .colon ::
            (tokensOf d ++ .comma :: (tokensOfMembers (next :: members) ++ .closeBrace :: rest)) := by
        rw [show tokensOfMembers ((key, d) :: next :: members) = .string key :: .colon ::
          tokensOf d ++ .comma :: tokensOfMembers (next :: members) from rfl]
        simp only [List.append_assoc, List.cons_append]
      obtain ⟨hlt, hvalue⟩ := hmember
        (.comma :: (tokensOfMembers (next :: members) ++ .closeBrace :: rest))
      rw [htokens]
      simp only [List.length_cons] at hlt ⊢
      refine ⟨by omega, ?_⟩
      rw [members?, hvalue]
      dsimp only
      rw [hnext]

theorem value?_openBracket {token : Token} {ts : List Token} (h : token ≠ .closeBracket)
    {items : List Json} {rest : List Token} {hlt : rest.length < (token :: ts).length}
    (hitems : items? (token :: ts) = some (items, ⟨rest, hlt⟩)) :
    value? (.openBracket :: token :: ts) =
      some (.array items, ⟨rest, Nat.lt_trans hlt (Nat.lt_succ_self _)⟩) := by
  rw [value?]
  · rw [hitems]
  · intro after heq
    exact h (List.cons.inj heq).1

theorem value?_openBrace {token : Token} {ts : List Token} (h : token ≠ .closeBrace)
    {members : List (Text × Json)} {rest : List Token} {hlt : rest.length < (token :: ts).length}
    (hmembers : members? (token :: ts) = some (members, ⟨rest, hlt⟩)) :
    value? (.openBrace :: token :: ts) =
      some (.object members, ⟨rest, Nat.lt_trans hlt (Nat.lt_succ_self _)⟩) := by
  rw [value?]
  · rw [hmembers]
  · intro after heq
    exact h (List.cons.inj heq).1

theorem exists_cons_tokensOfItems {items : List Json} (hne : items ≠ []) :
    ∃ token ts, tokensOfItems items = token :: ts ∧ token ≠ .closeBracket := by
  obtain ⟨item, items, rfl⟩ := List.exists_cons_of_ne_nil hne
  obtain ⟨token, ts, hitem, htoken⟩ := exists_cons_tokensOf item
  cases items with
  | nil => exact ⟨token, ts, hitem, htoken⟩
  | cons next items =>
    refine ⟨token, ts ++ .comma :: tokensOfItems (next :: items), ?_, htoken⟩
    rw [show tokensOfItems (item :: next :: items) =
      tokensOf item ++ .comma :: tokensOfItems (next :: items) from rfl, hitem, List.cons_append]

theorem exists_cons_tokensOfMembers {members : List (Text × Json)} (hne : members ≠ []) :
    ∃ token ts, tokensOfMembers members = token :: ts ∧ token ≠ .closeBrace := by
  obtain ⟨⟨key, d⟩, members, rfl⟩ := List.exists_cons_of_ne_nil hne
  cases members <;> exact ⟨.string key, _, rfl, nofun⟩

/-- The tokens of a document are read as the document. -/
theorem readsAs_tokensOf {d : Json} (h : WellFormed d) : ReadsAs (tokensOf d) d := by
  induction h with
  | null => exact fun rest => ⟨by simp [tokensOf], by simp [tokensOf, value?]⟩
  | bool b => exact fun rest => ⟨by simp [tokensOf], by simp [tokensOf, value?]⟩
  | number hn => exact fun rest => ⟨by simp [tokensOf], by simp [tokensOf, value?]⟩
  | string hs => exact fun rest => ⟨by simp [tokensOf], by simp [tokensOf, value?]⟩
  | @array items _ ih =>
    intro rest
    by_cases hne : items = []
    · subst hne
      exact ⟨by simp [tokensOf, tokensOfItems], by simp [tokensOf, tokensOfItems, value?]⟩
    · have hread := items?_tokensOfItems hne ih rest
      obtain ⟨token, ts, htokens, hbracket⟩ := exists_cons_tokensOfItems hne
      have hall : tokensOf (.array items) ++ rest =
          .openBracket :: token :: (ts ++ .closeBracket :: rest) := by
        rw [tokensOf, htokens]
        simp only [List.append_assoc, List.cons_append, List.nil_append]
      rw [htokens, List.cons_append] at hread
      obtain ⟨hlt, hitems⟩ := hread
      rw [hall]
      exact ⟨_, value?_openBracket hbracket hitems⟩
  | @object members _ _ ih =>
    intro rest
    by_cases hne : members = []
    · subst hne
      exact ⟨by simp [tokensOf, tokensOfMembers], by simp [tokensOf, tokensOfMembers, value?]⟩
    · have hread := members?_tokensOfMembers hne ih rest
      obtain ⟨token, ts, htokens, hbrace⟩ := exists_cons_tokensOfMembers hne
      have hall : tokensOf (.object members) ++ rest =
          .openBrace :: token :: (ts ++ .closeBrace :: rest) := by
        rw [tokensOf, htokens]
        simp only [List.append_assoc, List.cons_append, List.nil_append]
      rw [htokens, List.cons_append] at hread
      obtain ⟨hlt, hmembers⟩ := hread
      rw [hall]
      exact ⟨_, value?_openBrace hbrace hmembers⟩

/-- A text with the tokens of a document is read as the document. -/
theorem WellFormed.parse?_of_tokens? {d : Json} (h : WellFormed d) {t : Text}
    (htokens : tokens? t = some (tokensOf d)) : parse? t = some d := by
  have hread := readsAs_tokensOf h []
  rw [List.append_nil] at hread
  obtain ⟨hlt, hvalue⟩ := hread
  rw [parse?, htokens]
  dsimp only
  rw [hvalue]

/-- The compact text of a document is read as the document. -/
theorem WellFormed.parse?_compact {d : Json} (h : WellFormed d) : parse? (compact d) = some d :=
  h.parse?_of_tokens? h.tokens?_compact

end Equate.Json
