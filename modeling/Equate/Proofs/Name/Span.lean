import Equate.Proofs.Name.Glued
import Mathlib.Data.List.TakeWhile

/-!
# Where the names of a text stand

The names of a text are told by the bytes they take up. A name is as long as it can be on both
sides, and whether it counts as one is seen from the character in front of it and the two behind
it; so a line feed separates the names on its sides, and what stands on one line has no part in
the names of another. To replace names is to cut the text at these bytes. No cut misses a
character, and a name that gives way to itself leaves no trace.
-/
namespace Equate.Name
open Text

/-- The bytes that a name takes up, from its first one to the one behind it. -/
structure Span where
  start : Nat
  stop : Nat
  deriving DecidableEq, Repr

/-- The same bytes, counted from further in front. -/
def Span.shift (n : Nat) (s : Span) : Span := ⟨n + s.start, n + s.stop⟩

/-- The spans of the names among pieces that start at a byte. -/
def locate (offset : Nat) : List Piece → List Span
  | [] => []
  | .name word _ :: rest =>
    ⟨offset, offset + byteCount word⟩ :: locate (offset + byteCount word) rest
  | piece :: rest => locate (offset + byteCount piece.text) rest

/-- The spans of the names of a text, in its order. -/
def spans (t : Text) : List Span := locate 0 (piecesOf t)

/-! ## Counting bytes -/

/-- Behind pieces the bytes are counted on. -/
theorem locate_append (offset : Nat) (ps qs : List Piece) :
    locate offset (ps ++ qs) =
      locate offset ps ++ locate (offset + byteCount (ps.flatMap Piece.text)) qs := by
  induction ps generalizing offset with
  | nil => rfl
  | cons piece ps ih =>
    rw [List.cons_append, List.flatMap_cons, byteCount_append, ← Nat.add_assoc]
    cases piece with
    | name word glued => rw [locate, ih, locate]; rfl
    | _ => rw [locate, ih, locate] <;> exact fun _ _ h => Piece.noConfusion h

theorem locate_add (n offset : Nat) (ps : List Piece) :
    locate (n + offset) ps = (locate offset ps).map (Span.shift n) := by
  induction ps generalizing offset with
  | nil => rfl
  | cons piece ps ih =>
    cases piece with
    | name word glued =>
      rw [locate, locate, List.map_cons, Nat.add_assoc, ih]
      rfl
    | _ => rw [locate, locate, Nat.add_assoc, ih] <;> exact fun _ _ h => Piece.noConfusion h

theorem le_start_of_mem_locate {offset : Nat} {ps : List Piece} {s : Span}
    (h : s ∈ locate offset ps) : offset ≤ s.start := by
  induction ps generalizing offset with
  | nil => exact absurd h List.not_mem_nil
  | cons piece ps ih =>
    cases piece with
    | name word glued =>
      rcases List.mem_cons.mp h with rfl | h
      · exact Nat.le_refl _
      · exact Nat.le_of_add_right_le (ih h)
    | _ => exact Nat.le_of_add_right_le (ih h)

/-- Names follow each other. -/
theorem pairwise_locate (offset : Nat) (ps : List Piece) :
    (locate offset ps).Pairwise fun s s' => s.stop ≤ s'.start := by
  induction ps generalizing offset with
  | nil => exact .nil
  | cons piece ps ih =>
    cases piece with
    | name word glued => exact .cons (fun s hs => le_start_of_mem_locate hs) (ih _)
    | _ => exact ih _

/-- A character that neither belongs to a name nor signs an exponent nor ends a number divides the
spans of a text. -/
theorem spans_append_separator {c : Char} (h : Separates c) (hnumber : endsNumber c = false)
    (a b : Text) :
    spans (a ++ c :: b) = spans a ++ (spans b).map (Span.shift (byteCount a + c.utf8Size)) := by
  have htext : (piecesOf a).flatMap Piece.text = a := flatMap_text_pieces false a
  have hcut : piecesOf (a ++ c :: b) = piecesOf a ++ .other c :: piecesOf b := by
    rw [piecesOf, pieces_append_separator h, hnumber, piecesOf, piecesOf]
  have hone : byteCount (Piece.other c).text = c.utf8Size := rfl
  rw [spans, hcut, locate_append, htext, locate, hone, Nat.zero_add, spans, spans, ← locate_add]
  · rfl
  · exact fun _ _ h => Piece.noConfusion h

/-! ## Which names there are -/

/-- No name reaches the end of a text: the characters of names that it ends with are digits. -/
def NoneAtEnd (t : Text) : Prop :=
  ∀ front run, t = front ++ run → (∀ c ∈ run, isContinue c = true) → ∀ c ∈ run, isStart c = false

/-- Whether a number can end where a text ends. For an empty text that is said by what stands in
front of it. -/
def numberEnds (afterNumber : Bool) (t : Text) : Bool := (t.getLast?.map endsNumber).getD afterNumber

/-- A name stands at the bytes of a span: a word with nothing of a name on either side of it, which
is not the exponent of a number in front of it. -/
def Span.StandsIn (s : Span) (t : Text) : Prop :=
  ∃ before word after, t = before ++ (word ++ after) ∧ isIdentifier word = true ∧
    NoneAtEnd before ∧ (∀ c rest, after = c :: rest → isContinue c = false) ∧
    (numberEnds false before && isExponentTail word after) = false ∧
    s.start = byteCount before ∧ s.stop = s.start + byteCount word

theorem noneAtEnd_nil : NoneAtEnd [] := by
  intro front run heq _ c hc
  obtain ⟨-, rfl⟩ := List.append_eq_nil_iff.mp heq.symm
  exact absurd hc List.not_mem_nil

theorem NoneAtEnd.of_append {front t : Text} (h : NoneAtEnd (front ++ t)) : NoneAtEnd t := by
  intro before run heq
  exact h (front ++ before) run (by rw [heq, List.append_assoc])

/-- A name at the front of such a text ends before the text does. -/
theorem NoneAtEnd.exists_cons_dropWhile {c : Char} {rest : Text} (h : NoneAtEnd (c :: rest))
    (hc : isStart c = true) : ∃ d more, rest.dropWhile isContinue = d :: more := by
  apply List.exists_cons_of_ne_nil
  intro hnil
  have hrun : ∀ d ∈ c :: rest, isContinue d = true :=
    List.forall_mem_cons.mpr ⟨isContinue_of_isStart hc, List.dropWhile_eq_nil_iff.mp hnil⟩
  exact absurd ((h [] _ rfl hrun c List.mem_cons_self).symm.trans hc) Bool.false_ne_true

theorem noneAtEnd_concat {t : Text} {c : Char} (hc : isStart c = false)
    (h : isContinue c = true → NoneAtEnd t) : NoneAtEnd (t ++ [c]) := by
  intro front run heq hrun d hd
  rcases List.eq_nil_or_concat run with rfl | ⟨run, e, rfl⟩
  · exact absurd hd List.not_mem_nil
  · rw [List.concat_eq_append] at heq hrun hd
    rw [← List.append_assoc] at heq
    obtain ⟨rfl, he⟩ := List.append_inj' heq rfl
    obtain rfl := List.singleton_inj.mp he
    obtain ⟨hrun, hcontinue⟩ := List.forall_mem_append.mp hrun
    rcases List.mem_append.mp hd with hd | hd
    · exact h (hcontinue c List.mem_cons_self) front run rfl hrun d hd
    · rw [List.mem_singleton.mp hd]
      exact hc

@[simp] theorem numberEnds_nil (b : Bool) : numberEnds b [] = b := rfl

theorem numberEnds_append (b : Bool) (s t : Text) :
    numberEnds b (s ++ t) = numberEnds (numberEnds b s) t := by
  unfold numberEnds
  rw [List.getLast?_append]
  cases t.getLast? <;> rfl

theorem numberEnds_cons (b : Bool) (c : Char) (t : Text) :
    numberEnds b (c :: t) = numberEnds (endsNumber c) t :=
  numberEnds_append b [c] t

/-- What is found stands in the text. The front is what has been read, and a name can only go on
there if none reaches its end. -/
theorem standsIn_of_mem_locate {front t : Text} {b : Bool} {s : Span}
    (hfront : ∀ c rest, t = c :: rest → isContinue c = true →
      NoneAtEnd front ∧ b = numberEnds false front)
    (h : s ∈ locate (byteCount front) (pieces b t)) : s.StandsIn (front ++ t) := by
  fun_induction pieces b t generalizing front with
  | case1 => exact absurd h List.not_mem_nil
  | case2 b c rest hc word after =>
    rename_i ih
    have hcut : c :: rest = word ++ after := by
      rw [List.cons_append, List.takeWhile_append_dropWhile]
    have hstop : ∀ d more, after = d :: more → isContinue d = false := fun d more heq =>
      eq_false_of_dropWhile heq
    obtain ⟨hnone, hnumber⟩ := hfront c rest rfl (isContinue_of_isStart hc)
    have hbehind : s ∈ locate (byteCount front + byteCount word) (pieces false after) →
        s.StandsIn (front ++ (c :: rest)) := by
      intro hs
      rw [hcut, ← List.append_assoc]
      rw [← byteCount_append] at hs
      refine ih (fun d more heq hd => ?_) hs
      exact absurd ((hstop d more heq).symm.trans hd) Bool.false_ne_true
    split at h
    · exact hbehind h
    · next hexponent =>
      rcases List.mem_cons.mp h with rfl | h
      · have hplain : (numberEnds false front && isExponentTail word after) = false := by
          rw [← hnumber]
          simpa using hexponent
        exact ⟨front, word, after, by rw [hcut], isIdentifier_takeWhile hc rest, hnone, hstop,
          hplain, rfl, rfl⟩
      · exact hbehind h
  | case3 b c rest hc ih =>
    rw [List.append_cons]
    have hone : byteCount (front ++ [c]) = byteCount front + byteCount (Piece.other c).text :=
      byteCount_append front [c]
    rw [locate, ← hone] at h
    · refine ih (fun d more heq hd => ⟨?_, ?_⟩) h
      · exact noneAtEnd_concat (by simpa using hc) fun hcontinue => (hfront c rest rfl hcontinue).1
      · rw [numberEnds_append, numberEnds_cons, numberEnds_nil]
    · exact fun _ _ h => Piece.noConfusion h

/-- Where no name reaches the end of a text, the pieces of a longer one are cut there. -/
theorem exists_pieces_append {before : Text} (h : NoneAtEnd before) (b : Bool) (t : Text) :
    ∃ ps, pieces b (before ++ t) = ps ++ pieces (numberEnds b before) t ∧
      ps.flatMap Piece.text = before := by
  fun_induction pieces b before with
  | case1 b => exact ⟨[], rfl, rfl⟩
  | case2 b d more hd word after ih =>
    have hcut : d :: more = word ++ after := by
      rw [List.cons_append, List.takeWhile_append_dropWhile]
    obtain ⟨ps, hps, htext⟩ := ih (NoneAtEnd.of_append (hcut ▸ h))
    obtain ⟨e, others, hafter⟩ := h.exists_cons_dropWhile hd
    have hends : numberEnds b (d :: more) = numberEnds false after := by
      rw [hcut, numberEnds_append]
      simp only [after, hafter, numberEnds_cons]
    -- What follows does not change the name at the front, as that ends before the text does.
    have hmore : more ++ t = more.takeWhile isContinue ++ (after ++ t) := by
      rw [← List.append_assoc, List.takeWhile_append_dropWhile]
    have hwhole := cut_append (t := after ++ t)
      (List.all_eq_true.mp (List.all_takeWhile (p := isContinue) (l := more))) fun x y heq => by
        simp only [after, hafter] at heq
        exact (List.cons.inj heq).1 ▸ eq_false_of_dropWhile hafter
    rw [List.cons_append, pieces_start hd, hmore, hwhole.1, hwhole.2, hps, hends]
    refine ⟨_ :: ps, rfl, ?_⟩
    rw [List.flatMap_cons, htext, hcut]
    congr 1
    split <;> rfl
  | case3 b d more hd ih =>
    have hmore : NoneAtEnd ([d] ++ more) := h
    obtain ⟨ps, hps, htext⟩ := ih hmore.of_append
    rw [List.cons_append, pieces_other (by simpa using hd), hps, numberEnds_cons]
    exact ⟨.other d :: ps, rfl, by rw [List.flatMap_cons, htext]; rfl⟩

/-- The names that are found are those that stand in the text. -/
theorem mem_spans_iff {t : Text} {s : Span} : s ∈ spans t ↔ s.StandsIn t := by
  constructor
  · intro h
    have hstands : s.StandsIn ([] ++ t) :=
      standsIn_of_mem_locate (fun _ _ _ _ => ⟨noneAtEnd_nil, rfl⟩) h
    exact hstands
  · rintro ⟨before, word, after, rfl, hword, hnone, hstop, hexponent, hstart, hend⟩
    obtain ⟨c, word, rfl, hc, hrest⟩ := exists_of_isIdentifier hword
    obtain ⟨ps, hps, htext⟩ := exists_pieces_append hnone false (c :: word ++ after)
    have hcut := cut_append hrest hstop
    have hs : s = ⟨byteCount before, byteCount before + byteCount (c :: word)⟩ := by
      rw [← hstart, ← hend]
    rw [spans, piecesOf, hps, locate_append, htext, Nat.zero_add, List.cons_append, pieces_start hc,
      hcut.1, hcut.2, hexponent, hs]
    exact List.mem_append_right _ List.mem_cons_self

/-- A name has at least one byte and can be cut out. -/
theorem slice?_of_mem_spans {t : Text} {s : Span} (h : s ∈ spans t) :
    s.start < s.stop ∧ ∃ word, isIdentifier word = true ∧ slice? t s.start s.stop = some word := by
  obtain ⟨before, word, after, rfl, hword, -, -, -, hstart, hstop⟩ := mem_spans_iff.mp h
  refine ⟨?_, word, hword, ?_⟩
  · have := byteCount_pos (t := word) (by rintro rfl; cases hword)
    omega
  · rw [hstop, hstart]
    exact slice?_append before word after

/-! ## Replacing names between bytes -/

/-- The text from a byte on, with the names at the spans replaced for which there is a replacement.
There is none if a cut fails. -/
def replaceAt? (r : Text → Option Text) (t : Text) (start : Nat) : List Span → Option Text
  | [] => slice? t start (byteCount t)
  | s :: more => do
    let word ← slice? t s.start s.stop
    match r word with
    | none => replaceAt? r t start more
    | some value => do
      let kept ← slice? t start s.start
      let behind ← replaceAt? r t s.stop more
      return kept ++ value ++ behind

/-- What has been read since the last replacement is copied when the next one comes. -/
theorem replaceAt?_locate (r : Text → Option Text) (ps : List Piece) (front kept : Text) :
    replaceAt? r (front ++ (kept ++ ps.flatMap Piece.text)) (byteCount front)
        (locate (byteCount front + byteCount kept) ps) =
      some (kept ++ ps.flatMap (replaced r)) := by
  induction ps generalizing front kept with
  | nil =>
    have h := slice?_append front kept []
    simpa [locate, replaceAt?] using h
  | cons piece ps ih =>
    have hpass : ∀ text, kept ++ (text ++ ps.flatMap Piece.text) =
        kept ++ text ++ ps.flatMap Piece.text := fun text => (List.append_assoc _ _ _).symm
    have hcount : ∀ text, byteCount front + byteCount kept + byteCount text =
        byteCount front + byteCount (kept ++ text) := fun text => by
      rw [byteCount_append, Nat.add_assoc]
    rw [List.flatMap_cons, List.flatMap_cons]
    cases piece with
    | name word glued =>
      have hword : slice? (front ++ (kept ++ (word ++ ps.flatMap Piece.text)))
          (byteCount front + byteCount kept) (byteCount front + byteCount kept + byteCount word) =
          some word := by
        have h := slice?_append (front ++ kept) word (ps.flatMap Piece.text)
        rwa [byteCount_append, List.append_assoc] at h
      rw [locate, replaceAt?]
      simp only [Piece.text, hword, Option.bind_eq_bind, Option.bind_some]
      cases hr : r word with
      | none =>
        dsimp only
        rw [hpass, hcount, ih, replaced, hr, List.append_assoc]
        rfl
      | some value =>
        have hkept := slice?_append front kept (word ++ ps.flatMap Piece.text)
        have hbehind := ih (front ++ kept ++ word) []
        simp only [byteCount_append, byteCount_nil, Nat.add_zero, List.nil_append,
          List.append_assoc, ← Nat.add_assoc] at hbehind
        dsimp only
        rw [hkept, hbehind, replaced, hr]
        simp
    | _ =>
      rw [locate, hcount, hpass, ih, List.append_assoc]
      · rfl
      · exact fun _ _ h => Piece.noConfusion h

/-- Cutting at the spans of the names replaces them. -/
theorem replaceAt?_spans (r : Text → Option Text) (t : Text) :
    replaceAt? r t 0 (spans t) = some (substitute r t) := by
  have h := replaceAt?_locate r (piecesOf t) [] []
  have htext : (piecesOf t).flatMap Piece.text = t := flatMap_text_pieces false t
  rw [htext] at h
  exact h

/-- Names that give way to themselves leave the text as it is. -/
theorem substitute_self (t : Text) : substitute some t = t := by
  have hkept : replaced some = Piece.text := by
    funext piece
    cases piece <;> rfl
  rw [substitute_eq_flatMap, hkept]
  exact flatMap_text_pieces false t

/-- The names of two texts with a line feed between them are those of the first and those of the
second, and they are replaced in each on its own. In every text the spans of the names can be cut
out, they are not empty and follow each other, and they are where a name stands; to replace names
is to cut at them, and names that give way to themselves leave the text as it is. -/
theorem spans_substitute_exact :
    (∀ (r : Text → Option Text) (a b : Text),
      substitute r (a ++ '\n' :: b) = substitute r a ++ '\n' :: substitute r b) ∧
    (∀ a b : Text, spans (a ++ '\n' :: b) = spans a ++ (spans b).map (Span.shift (byteCount a + 1))) ∧
    ∀ t : Text,
      (∀ s ∈ spans t, s.start < s.stop ∧
        ∃ word, isIdentifier word = true ∧ slice? t s.start s.stop = some word) ∧
      (spans t).Pairwise (fun s s' => s.stop ≤ s'.start) ∧
      (∀ s, s ∈ spans t ↔ s.StandsIn t) ∧
      (∀ r, replaceAt? r t 0 (spans t) = some (substitute r t)) ∧
      substitute some t = t := by
  refine ⟨fun r a b => substitute_append_separator r (by decide) (by decide) a b,
    fun a b => spans_append_separator (by decide) (by decide) a b, fun t => ?_⟩
  exact ⟨fun s => slice?_of_mem_spans, pairwise_locate _ _, fun s => mem_spans_iff,
    fun r => replaceAt?_spans r t, substitute_self t⟩

/-- For instance behind a character of two bytes and in front of an exponent: the `e` at the end of
the first line signs none, whatever the second line starts with. -/
theorem spans_substitute_exact_twoLines :
    spans ("é x = 2e" ++ '\n' :: "+5 y1 - 1e5") = [⟨3, 4⟩, ⟨8, 9⟩] ++ [⟨13, 15⟩] ∧
      (⟨13, 15⟩ : Span).StandsIn ("é x = 2e" ++ '\n' :: "+5 y1 - 1e5") ∧
      replaceAt? (fun _ => some "(1)") "é x = 2e" 0 [⟨3, 4⟩, ⟨8, 9⟩] = some "é (1) = 2(1)" := by
  have hfirst : spans "é x = 2e" = [⟨3, 4⟩, ⟨8, 9⟩] := by decide +kernel
  have hspans : spans ("é x = 2e" ++ '\n' :: "+5 y1 - 1e5") = [⟨3, 4⟩, ⟨8, 9⟩] ++ [⟨13, 15⟩] := by
    rw [spans_substitute_exact.2.1, hfirst]
    decide +kernel
  obtain ⟨-, -, hstands, -⟩ := spans_substitute_exact.2.2 ("é x = 2e" ++ '\n' :: "+5 y1 - 1e5")
  obtain ⟨-, -, -, hreplaced, -⟩ := spans_substitute_exact.2.2 "é x = 2e"
  refine ⟨hspans, (hstands _).mp (by rw [hspans]; decide), ?_⟩
  rw [← hfirst, hreplaced]
  decide +kernel

end Equate.Name
