import Equate.Proofs.Text.Lines
import Equate.Text.Blank
import Equate.Text.WordCharacter

/-!
# Parts of a text

What is cut off at the ends of a text, the lines it is taken apart into, what stands between
two of its bytes and what stands in it somewhere. A part that starts with a certain character
and holds no other of a kind is not made by rewriting that brings only characters of that kind
along.
-/
namespace Equate.Text

/-! ## Blanks around a text -/

theorem trimStart_eq_append (t : Text) :
    ∃ blanks, (∀ c ∈ blanks, isBlank c = true) ∧ trimStart t = trim t ++ blanks := by
  refine ⟨((trimStart t).reverse.takeWhile isBlank).reverse, ?_, ?_⟩
  · intro c hc
    exact List.all_eq_true.mp List.all_takeWhile c (List.mem_reverse.mp hc)
  · rw [trim, trimEnd, ← List.reverse_append, List.takeWhile_append_dropWhile, List.reverse_reverse]

theorem takeWhile_append_trimStart (t : Text) : t.takeWhile isBlank ++ trimStart t = t :=
  List.takeWhile_append_dropWhile

/-- A text is what is left of it with blanks on both sides. -/
theorem exists_trim (t : Text) : ∃ left right, (∀ c ∈ left, isBlank c = true) ∧
    (∀ c ∈ right, isBlank c = true) ∧ t = left ++ trim t ++ right := by
  obtain ⟨right, hright, h⟩ := trimStart_eq_append t
  refine ⟨t.takeWhile isBlank, right, List.all_eq_true.mp List.all_takeWhile, hright, ?_⟩
  rw [List.append_assoc, ← h, trimStart, List.takeWhile_append_dropWhile]

theorem trim_isInfix (t : Text) : trim t <:+: t := by
  obtain ⟨left, right, -, -, h⟩ := exists_trim t
  exact ⟨left, right, h.symm⟩

theorem isBlank_of_trim_eq_cons {t rest : Text} {c : Char} (h : trim t = c :: rest) :
    isBlank c = false := by
  -- The first character is that of the text without blanks at the front.
  have hprefix : trim t <+: trimStart t := by
    rw [trim, trimEnd, ← List.reverse_suffix, List.reverse_reverse]
    exact List.dropWhile_suffix isBlank
  obtain ⟨more, hmore⟩ := hprefix
  rw [h, List.cons_append] at hmore
  exact eq_false_of_dropWhile hmore.symm

theorem isBlank_of_getLast?_trim {t : Text} {c : Char} (h : (trim t).getLast? = some c) :
    isBlank c = false := by
  rw [trim, trimEnd, List.getLast?_reverse] at h
  obtain ⟨rest, hrest⟩ := List.head?_eq_some_iff.mp h
  exact eq_false_of_dropWhile hrest

theorem trimStart_eq_self {t : Text} (hfirst : ∀ c rest, t = c :: rest → isBlank c = false) :
    trimStart t = t := by
  cases t with
  | nil => rfl
  | cons c rest => rw [trimStart, List.dropWhile_cons, hfirst c rest rfl]; rfl

/-- A text without blanks at its ends stays as it is. -/
theorem trim_eq_self {t : Text} (hfirst : ∀ c rest, t = c :: rest → isBlank c = false)
    (hlast : ∀ c, t.getLast? = some c → isBlank c = false) : trim t = t := by
  rw [trim, trimStart_eq_self hfirst, trimEnd]
  cases hr : t.reverse with
  | nil => rw [List.reverse_eq_nil_iff.mp hr]; rfl
  | cons c rest =>
    have hc : isBlank c = false := by
      apply hlast c
      rw [← List.head?_reverse, hr, List.head?_cons]
    rw [List.dropWhile_cons, hc]
    exact hr ▸ List.reverse_reverse t

theorem trim_trim (t : Text) : trim (trim t) = trim t :=
  trim_eq_self (fun _ _ => isBlank_of_trim_eq_cons) fun _ => isBlank_of_getLast?_trim

/-- The codes of the blanks. -/
def blankCodes : List Nat :=
  [9, 10, 11, 12, 13, 0x20, 0x85, 0xA0, 0x1680, 0x2000, 0x2001, 0x2002, 0x2003, 0x2004, 0x2005,
    0x2006, 0x2007, 0x2008, 0x2009, 0x200A, 0x2028, 0x2029, 0x202F, 0x205F, 0x3000]

theorem toNat_mem_blankCodes {c : Char} (h : isBlank c = true) : c.toNat ∈ blankCodes := by
  simp only [isBlank, Bool.or_eq_true, Bool.and_eq_true, decide_eq_true_eq, beq_iff_eq] at h
  simp only [blankCodes, List.mem_cons, List.not_mem_nil, or_false]
  omega

/-- What can be checked for each blank holds of all of them. -/
theorem all_of_isBlank {p : Char → Bool} (hall : (blankCodes.map Char.ofNat).all p = true) {c : Char}
    (h : isBlank c = true) : p c = true := by
  refine List.all_eq_true.mp hall c (List.mem_map.mpr ⟨c.toNat, toNat_mem_blankCodes h, ?_⟩)
  exact Char.ofNat_toNat c

/-- No blank is part of a word. -/
theorem isWordCharacter_of_isBlank {c : Char} (h : isBlank c = true) : isWordCharacter c = false := by
  rw [← Bool.not_eq_true']
  exact all_of_isBlank (p := fun c => !isWordCharacter c) (by decide +kernel) h

theorem isBlank_of_isWordCharacter {c : Char} (h : isWordCharacter c = true) : isBlank c = false := by
  rw [← Bool.not_eq_true]
  intro hblank
  exact absurd ((isWordCharacter_of_isBlank hblank).symm.trans h) Bool.false_ne_true

/-! ## Lines put together -/

/-- Lines that could be lines of a text are the lines of the text that they make. -/
theorem lines_unlines {ls : List Text}
    (h : ∀ a ∈ ls, a ≠ [] ∧ '\n' ∉ a ∧ a.getLast? ≠ some '\r') : lines (unlines ls) = ls := by
  induction ls with
  | nil => rfl
  | cons a ls ih =>
    obtain ⟨⟨hne, hnewline, hreturn⟩, hls⟩ := List.forall_mem_cons.mp h
    cases ls with
    | nil =>
      have hone : unlines [a] = a := by simp [unlines, List.intercalate]
      rw [hone, lines_of_newline_not_mem hnewline, if_neg hne]
    | cons b ls =>
      rw [unlines_cons_cons, lines_append_newline hnewline, withoutReturn_of_getLast? hreturn, ih hls]

/-! ## Parts between separators -/

theorem splitAt?_of_not_mem {c : Char} {t : Text} (h : c ∉ t) : splitAt? c t = none := by
  induction t with
  | nil => rfl
  | cons d t ih =>
    obtain ⟨hd, ht⟩ := List.ne_and_not_mem_of_not_mem_cons h
    rw [splitAt?, if_neg hd.symm, ih ht]
    rfl

theorem splitAt?_append {c : Char} {a : Text} (h : c ∉ a) (b : Text) :
    splitAt? c (a ++ c :: b) = some (a, b) := by
  induction a with
  | nil => rw [List.nil_append, splitAt?, if_pos rfl]
  | cons d a ih =>
    obtain ⟨hd, ha⟩ := List.ne_and_not_mem_of_not_mem_cons h
    rw [List.cons_append, splitAt?, if_neg hd.symm, ih ha]
    rfl

theorem splitAt?_append_return {c : Char} (hc : c ≠ '\r') (t : Text) :
    splitAt? c (t ++ ['\r']) = (splitAt? c t).map (Prod.map id (· ++ ['\r'])) := by
  induction t with
  | nil => simp [splitAt?, hc.symm]
  | cons d t ih =>
    rw [List.cons_append, splitAt?, splitAt?, ih]
    split
    · rfl
    · rw [Option.map_map, Option.map_map]
      rfl

theorem eq_append_of_splitAt? {c : Char} {t a b : Text} (h : splitAt? c t = some (a, b)) :
    t = a ++ c :: b := by
  induction t generalizing a with
  | nil => cases h
  | cons d t ih =>
    rw [splitAt?] at h
    split at h
    · next hd =>
      cases h
      rw [hd, List.nil_append]
    · obtain ⟨⟨a', b'⟩, hparts, heq⟩ := Option.map_eq_some_iff.mp h
      cases heq
      rw [ih hparts, List.cons_append]

theorem not_mem_of_splitAt? {c : Char} {t a b : Text} (h : splitAt? c t = some (a, b)) : c ∉ a := by
  induction t generalizing a with
  | nil => cases h
  | cons d t ih =>
    rw [splitAt?] at h
    split at h
    · cases h
      exact List.not_mem_nil
    · next hd =>
      obtain ⟨⟨a', b'⟩, hparts, heq⟩ := Option.map_eq_some_iff.mp h
      cases heq
      exact List.not_mem_cons_of_ne_of_not_mem (Ne.symm hd) (ih hparts)

theorem splitOn_ne_nil (c : Char) (t : Text) : splitOn c t ≠ [] := by
  cases t with
  | nil => exact List.cons_ne_nil _ _
  | cons d t =>
    rw [splitOn]
    split
    · exact List.cons_ne_nil _ _
    · split <;> exact List.cons_ne_nil _ _

/-- The parts with the separator between each two are the text. -/
theorem joinWith_splitOn (c : Char) (t : Text) : joinWith [c] (splitOn c t) = t := by
  induction t with
  | nil => rfl
  | cons d t ih =>
    obtain ⟨part, more, hparts⟩ := List.exists_cons_of_ne_nil (splitOn_ne_nil c t)
    rw [hparts] at ih
    rw [splitOn, hparts]
    split
    · next hd =>
      rw [hd, joinWith, List.intercalate_cons_cons, ← joinWith, ih]
      rfl
    · rw [← ih]
      cases more <;> rfl

theorem not_mem_of_mem_splitOn {c : Char} {t part : Text} (h : part ∈ splitOn c t) : c ∉ part := by
  induction t generalizing part with
  | nil =>
    rw [List.mem_singleton.mp h]
    exact List.not_mem_nil
  | cons d t ih =>
    obtain ⟨first, more, hparts⟩ := List.exists_cons_of_ne_nil (splitOn_ne_nil c t)
    rw [hparts] at ih
    rw [splitOn, hparts] at h
    split at h
    · rcases List.mem_cons.mp h with rfl | h
      · exact List.not_mem_nil
      · exact ih h
    · next hd =>
      rcases List.mem_cons.mp h with rfl | h
      · intro hmem
        rcases List.mem_cons.mp hmem with rfl | hmem
        · exact hd rfl
        · exact ih List.mem_cons_self hmem
      · exact ih (List.mem_cons_of_mem first h)

theorem splitOn_of_not_mem {c : Char} {t : Text} (h : c ∉ t) : splitOn c t = [t] := by
  induction t with
  | nil => rfl
  | cons d t ih =>
    obtain ⟨hd, ht⟩ := List.ne_and_not_mem_of_not_mem_cons h
    rw [splitOn, if_neg hd.symm, ih ht]

/-- The first part ends at the first separator. -/
theorem splitOn_append {c : Char} {a : Text} (h : c ∉ a) (b : Text) :
    splitOn c (a ++ c :: b) = a :: splitOn c b := by
  induction a with
  | nil => rw [List.nil_append, splitOn, if_pos rfl]
  | cons d a ih =>
    obtain ⟨hd, ha⟩ := List.ne_and_not_mem_of_not_mem_cons h
    rw [List.cons_append, splitOn, if_neg hd.symm, ih ha]

/-- Parts without the separator are the parts of the text that they make. -/
theorem splitOn_joinWith {c : Char} {parts : List Text} (hne : parts ≠ [])
    (hparts : ∀ part ∈ parts, c ∉ part) : splitOn c (joinWith [c] parts) = parts := by
  induction parts with
  | nil => exact absurd rfl hne
  | cons part parts ih =>
    obtain ⟨hpart, hparts⟩ := List.forall_mem_cons.mp hparts
    cases parts with
    | nil =>
      have hone : joinWith [c] [part] = part := by simp [joinWith]
      rw [hone, splitOn_of_not_mem hpart]
    | cons part' parts =>
      rw [joinWith, List.intercalate_cons_cons, List.append_assoc, List.singleton_append,
        splitOn_append hpart, ← joinWith, ih (List.cons_ne_nil _ _) hparts]

/-- A text starts with the separator if its first part is empty and not the only one. -/
theorem head?_eq_some_iff_of_splitOn {c : Char} {t part : Text} {front more : List Text}
    (h : splitOn c t = front ++ part :: more) (hpart : part ≠ []) :
    t.head? = some c ↔ front.head? = some [] := by
  cases t with
  | nil =>
    cases front with
    | nil => exact absurd (List.cons.inj h).1.symm hpart
    | cons first front =>
      have hnil := (List.cons.inj h).2
      cases front <;> cases hnil
  | cons d t =>
    rw [List.head?_cons, Option.some.injEq]
    rw [splitOn] at h
    split at h
    · next hd =>
      cases front with
      | nil => exact absurd (List.cons.inj h).1.symm hpart
      | cons first front =>
        rw [List.head?_cons, ← (List.cons.inj h).1]
        exact ⟨fun _ => rfl, fun _ => hd⟩
    · next hd =>
      refine ⟨fun heq => absurd heq hd, fun hfirst => ?_⟩
      obtain ⟨front', rfl⟩ := List.head?_eq_some_iff.mp hfirst
      split at h <;> cases (List.cons.inj h).1

/-! ## Between two bytes -/

theorem byteCount_pos {t : Text} (h : t ≠ []) : 0 < byteCount t := by
  obtain ⟨c, rest, rfl⟩ := List.exists_cons_of_ne_nil h
  exact Nat.lt_of_lt_of_le c.utf8Size_pos (Nat.le_add_right _ _)

/-- The text in front of a byte and the text from there on. There are none if the byte lies behind
the end of the text or within a character. -/
def splitAtByte? : Nat → Text → Option (Text × Text)
  | 0, t => some ([], t)
  | _ + 1, [] => none
  | n + 1, c :: rest =>
    if c.utf8Size ≤ n + 1 then
      (splitAtByte? (n + 1 - c.utf8Size) rest).map fun (before, after) => (c :: before, after)
    else none

theorem splitAtByte?_eq_some_iff {n : Nat} {t before after : Text} :
    splitAtByte? n t = some (before, after) ↔ t = before ++ after ∧ n = byteCount before := by
  fun_induction splitAtByte? n t generalizing before with
  | case1 t =>
    cases before with
    | nil => simp [eq_comm]
    | cons c before =>
      have hpos := c.utf8Size_pos
      simp only [Option.some.injEq, Prod.mk.injEq, byteCount_cons]
      constructor
      · rintro ⟨hnil, -⟩
        cases hnil
      · rintro ⟨-, hzero⟩
        omega
  | case2 n =>
    cases before <;> simp
  | case3 n c rest hle ih =>
    have hpos := c.utf8Size_pos
    cases before with
    | nil => simp
    | cons d before =>
      rw [Option.map_eq_some_iff]
      constructor
      · rintro ⟨⟨front, back⟩, hsplit, heq⟩
        cases heq
        obtain ⟨rfl, hn⟩ := ih.mp hsplit
        refine ⟨rfl, ?_⟩
        rw [byteCount_cons]
        omega
      · rintro ⟨heq, hn⟩
        obtain ⟨rfl, rfl⟩ := List.cons.inj heq
        rw [byteCount_cons] at hn
        exact ⟨(before, after), ih.mpr ⟨rfl, by omega⟩, rfl⟩
  | case4 n c rest hlt =>
    refine iff_of_false (fun h => nomatch h) ?_
    rintro ⟨heq, hn⟩
    cases before with
    | nil => cases hn
    | cons d before =>
      obtain ⟨rfl, -⟩ := List.cons.inj heq
      rw [byteCount_cons] at hn
      omega

/-- The part of a text between two bytes. There is none if one of them lies behind the end of the
text or within a character. -/
def slice? (t : Text) (start stop : Nat) : Option Text :=
  if start ≤ stop then do
    let (_, rest) ← splitAtByte? start t
    let (part, _) ← splitAtByte? (stop - start) rest
    return part
  else none

theorem slice?_eq_some_iff {t part : Text} {start stop : Nat} :
    slice? t start stop = some part ↔ ∃ before after, t = before ++ (part ++ after) ∧
      start = byteCount before ∧ stop = start + byteCount part := by
  unfold slice?
  constructor
  · intro h
    split at h
    · next hle =>
      obtain ⟨⟨before, rest⟩, hbefore, h⟩ := Option.bind_eq_some_iff.mp h
      obtain ⟨⟨middle, after⟩, hpart, h⟩ := Option.bind_eq_some_iff.mp h
      obtain rfl := Option.some.inj h
      obtain ⟨rfl, hstart⟩ := splitAtByte?_eq_some_iff.mp hbefore
      obtain ⟨rfl, hstop⟩ := splitAtByte?_eq_some_iff.mp hpart
      exact ⟨before, after, rfl, hstart, by omega⟩
    · cases h
  · rintro ⟨before, after, rfl, rfl, rfl⟩
    rw [if_pos (Nat.le_add_right _ _), Nat.add_sub_cancel_left,
      splitAtByte?_eq_some_iff.mpr ⟨rfl, rfl⟩]
    show (splitAtByte? (byteCount part) (part ++ after)).bind (fun x => some x.1) = some part
    rw [splitAtByte?_eq_some_iff.mpr ⟨rfl, rfl⟩]
    rfl

/-- A part of a text is what stands between the bytes at its ends. -/
theorem slice?_append (before part after : Text) :
    slice? (before ++ (part ++ after)) (byteCount before) (byteCount before + byteCount part) =
      some part :=
  slice?_eq_some_iff.mpr ⟨before, after, rfl, rfl, rfl⟩

/-! ## What stands in a text -/

theorem infix_of_mem_lines {t line : Text} (h : line ∈ lines t) : line <:+: t := by
  induction t using newline_induction with
  | last a ha =>
    rw [lines_of_newline_not_mem ha] at h
    split at h
    · exact absurd h List.not_mem_nil
    · obtain rfl := List.mem_singleton.mp h
      exact List.infix_rfl
  | line a b ha ih =>
    rw [lines_append_newline ha] at h
    rcases List.mem_cons.mp h with rfl | h
    · have hcut : withoutReturn a <+: a := by
        unfold withoutReturn
        split
        · exact List.dropLast_prefix a
        · exact List.prefix_rfl
      exact hcut.isInfix.trans (List.prefix_append a _).isInfix
    · exact (ih h).trans ((List.suffix_cons _ b).trans (List.suffix_append a _)).isInfix

/-- A part does not begin where its first character does not stand. -/
theorem infix_of_infix_append {d : Char} {body w t : Text} (hd : d ∉ w)
    (h : d :: body <:+: w ++ t) : d :: body <:+: t := by
  induction w with
  | nil => exact h
  | cons c w ih =>
    obtain ⟨hc, hw⟩ := List.ne_and_not_mem_of_not_mem_cons hd
    rcases List.infix_cons_iff.mp h with h | h
    · exact absurd (List.cons_prefix_cons.mp h).1 hc
    · exact ih hw h

section Rewriting
variable {σ : Type} {old new : σ → Text} {u : Text}

/-- Where parts give way to texts that start with a character from outside `u`, a `u` at the
front stood there before. -/
theorem prefix_append_flatMap {xs : List σ}
    (hnew : ∀ x ∈ xs, new x = old x ∨ ∃ c rest, new x = c :: rest ∧ c ∉ u) {w : Text}
    (h : u <+: w ++ xs.flatMap new) : u <+: w ++ xs.flatMap old := by
  induction xs generalizing w with
  | nil => exact h
  | cons x xs ih =>
    obtain ⟨hx, hxs⟩ := List.forall_mem_cons.mp hnew
    rw [List.flatMap_cons, ← List.append_assoc] at h ⊢
    rcases hx with hx | ⟨c, rest, hx, hc⟩
    · rw [hx] at h
      exact ih hxs h
    · -- The new text starts behind the end of `u`, so that lies in `w`.
      have hw : u <+: w := by
        rcases List.prefix_or_prefix_of_prefix h
            ((List.prefix_append w (new x)).trans (List.prefix_append _ _)) with h' | ⟨v, hv⟩
        · exact h'
        · subst hv
          cases v with
          | nil => exact (List.append_nil _).symm ▸ List.prefix_rfl
          | cons d v =>
            rw [List.append_assoc, List.prefix_append_right_inj, hx, List.cons_append,
              List.cons_prefix_cons] at h
            exact absurd (by rw [h.1]; simp) hc
      exact hw.trans ((List.prefix_append w (old x)).trans (List.prefix_append _ _))

/-- The same anywhere in a text, if the new parts have no place for the first character. -/
theorem infix_of_infix_flatMap {xs : List σ} {d : Char} {body : Text} (hu : u = d :: body)
    (hnew : ∀ x ∈ xs, new x = old x ∨ d ∉ new x ∧ ∃ c rest, new x = c :: rest ∧ c ∉ u)
    (h : u <:+: xs.flatMap new) : u <:+: xs.flatMap old := by
  induction xs with
  | nil => exact h
  | cons x xs ih =>
    obtain ⟨hx, hxs⟩ := List.forall_mem_cons.mp hnew
    have hprefix : ∀ y ∈ xs, new y = old y ∨ ∃ c rest, new y = c :: rest ∧ c ∉ u :=
      fun y hy => (hxs y hy).imp_right And.right
    have hrest := ih hxs
    rw [List.flatMap_cons] at h ⊢
    rcases hx with hx | ⟨hd, -⟩
    · rw [hx] at h
      generalize old x = w at h ⊢
      induction w with
      | nil => exact hrest h
      | cons c w ihw =>
        rcases List.infix_cons_iff.mp h with h | h
        · exact (prefix_append_flatMap (w := c :: w) hprefix h).isInfix
        · exact List.infix_cons (ihw h)
    · subst hu
      exact (hrest (infix_of_infix_append hd h)).trans (List.suffix_append _ _).isInfix

end Rewriting

end Equate.Text
