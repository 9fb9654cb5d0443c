import Equate.Text.Basic

/-!
# Lines of a text, one at a time

Every text is either free of line feeds or a first line, a line feed and a shorter text.
The lemmas below follow this decomposition. A rewriting that works on each line on its
own commutes with taking the lines. Lines that are joined and taken again are the same
lines except for two things: a carriage return at the end of a line that is not the last
is lost, and so is one empty line at the very end. `Rejoined` says this much of two lists
of lines, and readers that do not see either difference read the same from both.
-/
namespace Equate.Text

/-- A run ends in front of the first character that does not belong to it. -/
theorem takeWhile_append_stop {p : Char → Bool} {c : Char} (h : p c = false) (t rest : Text) :
    (t ++ c :: rest).takeWhile p = t.takeWhile p := by
  induction t with
  | nil => simp [h]
  | cons d t ih => simp only [List.cons_append, List.takeWhile_cons, ih]

theorem dropWhile_append_stop {p : Char → Bool} {c : Char} (h : p c = false) (t rest : Text) :
    (t ++ c :: rest).dropWhile p = t.dropWhile p ++ c :: rest := by
  induction t with
  | nil => simp [h]
  | cons d t ih =>
    simp only [List.cons_append, List.dropWhile_cons, ih]
    split <;> rfl

/-- What stands behind a run does not belong to it. -/
theorem eq_false_of_dropWhile {α : Type} {p : α → Bool} {l rest : List α} {a : α}
    (h : l.dropWhile p = a :: rest) : p a = false := by
  have hfirst := List.head?_dropWhile_not p l
  rw [h] at hfirst
  simpa using hfirst

/-- What follows a text does not change how far a run in it reaches, if the run ends there. -/
theorem takeWhile_append_of_stop {p : Char → Bool} {rest : Text}
    (h : ∀ c more, rest = c :: more → p c = false) (t : Text) :
    (t ++ rest).takeWhile p = t.takeWhile p := by
  cases rest with
  | nil => rw [List.append_nil]
  | cons c more => exact takeWhile_append_stop (h c more rfl) t more

theorem dropWhile_append_of_stop {p : Char → Bool} {rest : Text}
    (h : ∀ c more, rest = c :: more → p c = false) (t : Text) :
    (t ++ rest).dropWhile p = t.dropWhile p ++ rest := by
  cases rest with
  | nil => rw [List.append_nil, List.append_nil]
  | cons c more => exact dropWhile_append_stop (h c more rfl) t more

/-- A run of characters of one kind is cut off where another character follows. -/
theorem cut_append {p : Char → Bool} {w t : Text} (hw : ∀ c ∈ w, p c)
    (ht : ∀ c rest, t = c :: rest → p c = false) :
    (w ++ t).takeWhile p = w ∧ (w ++ t).dropWhile p = t := by
  rw [List.takeWhile_append_of_pos hw, List.dropWhile_append_of_pos hw]
  cases t with
  | nil => exact ⟨List.append_nil w, rfl⟩
  | cons c rest =>
    have hc := ht c rest rfl
    rw [List.takeWhile_cons, List.dropWhile_cons, hc]
    exact ⟨List.append_nil w, rfl⟩

/-- A front part without a character lies in front of that character altogether. -/
theorem append_cons_eq_append {t m b after : Text} {c : Char} (hc : c ∉ m)
    (h : t ++ c :: b = m ++ after) : ∃ between, t = m ++ between ∧ after = between ++ c :: b := by
  rcases List.append_eq_append_iff.mp h with ⟨between, hm, hafter⟩ | ⟨between, ht, hafter⟩
  · cases between with
    | nil => exact ⟨[], by simpa using hm.symm, by simpa using hafter.symm⟩
    | cons d between =>
      have hd := (List.cons.inj hafter).1
      exact absurd (by rw [hm, hd]; simp) hc
  · exact ⟨between, ht, hafter⟩

/-- A line without the carriage return that it may end with. -/
def withoutReturn (line : Text) : Text :=
  if line.getLast? = some '\r' then line.dropLast else line

@[simp] theorem withoutReturn_nil : withoutReturn [] = [] := rfl

theorem withoutReturn_append_return (line : Text) : withoutReturn (line ++ ['\r']) = line := by
  simp [withoutReturn]

theorem withoutReturn_of_getLast? {line : Text} (h : line.getLast? ≠ some '\r') :
    withoutReturn line = line := if_neg h

/-- A line ends with a carriage return, which is cut off, or stays as it is. -/
theorem eq_withoutReturn (line : Text) :
    line = withoutReturn line ++ ['\r'] ∨
      line.getLast? ≠ some '\r' ∧ withoutReturn line = line := by
  by_cases h : line.getLast? = some '\r'
  · left
    obtain ⟨front, rfl⟩ := List.getLast?_eq_some_iff.mp h
    rw [withoutReturn_append_return]
  · exact .inr ⟨h, withoutReturn_of_getLast? h⟩

theorem withoutReturn_cons (c : Char) {line : Text} (h : line ≠ []) :
    withoutReturn (c :: line) = c :: withoutReturn line := by
  unfold withoutReturn
  rw [List.getLast?_cons_of_ne_nil h, List.dropLast_cons_of_ne_nil h]
  split <;> rfl

theorem not_mem_withoutReturn {c : Char} {line : Text} (h : c ∉ line) :
    c ∉ withoutReturn line := by
  unfold withoutReturn
  split
  · exact fun hc => h (List.dropLast_subset line hc)
  · exact h

/-- A text that has no line feed is one line, or none if it is empty. -/
theorem lines_of_newline_not_mem {a : Text} (h : '\n' ∉ a) :
    lines a = if a = [] then [] else [a] := by
  induction a with
  | nil => rfl
  | cons c a ih =>
    obtain ⟨hc, ha⟩ := List.ne_and_not_mem_of_not_mem_cons h
    have hrest : ∀ rest, a ≠ '\n' :: rest := by
      rintro rest rfl
      exact ha List.mem_cons_self
    rw [lines, ih ha]
    · by_cases hnil : a = [] <;> simp [hnil]
    · exact fun h => hc h.symm
    · exact fun _ _ => hrest _

/-- The first line ends at the first line feed. -/
theorem lines_append_newline {a : Text} (h : '\n' ∉ a) (b : Text) :
    lines (a ++ '\n' :: b) = withoutReturn a :: lines b := by
  induction a with
  | nil => rw [List.nil_append, lines, withoutReturn_nil]
  | cons c a ih =>
    obtain ⟨hc, ha⟩ := List.ne_and_not_mem_of_not_mem_cons h
    by_cases hnil : a = []
    · subst hnil
      by_cases hr : c = '\r'
      · subst hr
        rfl
      · rw [List.cons_append, List.nil_append, lines, lines]
        · rw [withoutReturn_of_getLast? (by simpa using hr)]
        · exact fun h => hc h.symm
        · exact fun _ h => absurd h hr
    · obtain ⟨d, a, rfl⟩ := List.exists_cons_of_ne_nil hnil
      have hd : d ≠ '\n' := fun e => ha (e ▸ List.mem_cons_self)
      rw [List.cons_append, lines, ih ha, withoutReturn_cons c hnil]
      · exact fun h => hc h.symm
      · intro rest _ h
        exact hd (List.cons.inj h).1

/-- Induction over the lines of a text. -/
theorem newline_induction {motive : Text → Prop} (last : ∀ a, '\n' ∉ a → motive a)
    (line : ∀ a b, '\n' ∉ a → motive b → motive (a ++ '\n' :: b)) (t : Text) : motive t := by
  induction hn : t.length using Nat.strongRecOn generalizing t with
  | ind n ih =>
    by_cases h : '\n' ∈ t
    · obtain ⟨a, b, rfl, ha⟩ := List.eq_append_cons_of_mem h
      refine line a b ha (ih b.length ?_ b rfl)
      simp only [← hn, List.length_append, List.length_cons]
      omega
    · exact last t h

/-- No line has a line feed. -/
theorem newline_not_mem_of_mem_lines {t line : Text} (h : line ∈ lines t) : '\n' ∉ line := by
  induction t using newline_induction with
  | last a ha =>
    rw [lines_of_newline_not_mem ha] at h
    split at h
    · exact absurd h List.not_mem_nil
    · rwa [List.mem_singleton.mp h]
  | line a b ha ih =>
    rw [lines_append_newline ha] at h
    rcases List.mem_cons.mp h with rfl | h
    · exact not_mem_withoutReturn ha
    · exact ih h

/-! ## Rewriting line by line -/

/-- A rewriting, possibly refusing, that treats every line on its own: line feeds and
carriage returns in front of them stay, and none of either is made. -/
structure Linewise {ε : Type} (f : Text → Except ε Text) : Prop where
  nil : f [] = .ok []
  newline : ∀ a b, '\n' ∉ a → f (a ++ '\n' :: b) = (do return (← f a) ++ '\n' :: (← f b))
  carriage : ∀ a, f (a ++ ['\r']) = (f a).map (· ++ ['\r'])
  stays : ∀ a b, '\n' ∉ a → f a = .ok b →
    '\n' ∉ b ∧ (b.getLast? = some '\r' → a.getLast? = some '\r') ∧ (b = [] → a = [])

/-- Parts of a text put in the place of others make no line end, if no part by itself
brings one along and none is empty. -/
theorem flatMap_stays {σ : Type} {old new : σ → Text} {xs : List σ}
    (hnew : ∀ x ∈ xs, '\n' ∉ old x → '\n' ∉ new x) (hne : ∀ x ∈ xs, new x ≠ [])
    (hlast : ∀ x ∈ xs, (new x).getLast? = some '\r' → (old x).getLast? = some '\r') :
    ('\n' ∉ xs.flatMap old → '\n' ∉ xs.flatMap new) ∧
      ((xs.flatMap new).getLast? = some '\r' → (xs.flatMap old).getLast? = some '\r') ∧
      (xs.flatMap new = [] → xs.flatMap old = []) := by
  induction xs with
  | nil => exact ⟨id, id, id⟩
  | cons x xs ih =>
    obtain ⟨hnewx, hnew⟩ := List.forall_mem_cons.mp hnew
    obtain ⟨hnex, hne⟩ := List.forall_mem_cons.mp hne
    obtain ⟨hlastx, hlast⟩ := List.forall_mem_cons.mp hlast
    obtain ⟨ihnew, ihlast, ihnil⟩ := ih hnew hne hlast
    rw [List.flatMap_cons, List.flatMap_cons]
    refine ⟨fun h => ?_, fun h => ?_, fun h => absurd (List.append_eq_nil_iff.mp h).1 hnex⟩
    · rw [List.mem_append, not_or] at h ⊢
      exact ⟨hnewx h.1, ihnew h.2⟩
    · rw [List.getLast?_append] at h ⊢
      cases hrest : (xs.flatMap new).getLast? with
      | none =>
        rw [hrest, Option.none_or] at h
        rw [ihnil (List.getLast?_eq_none_iff.mp hrest)]
        exact hlastx h
      | some d =>
        rw [hrest, Option.some_or] at h
        rw [ihlast (hrest.trans h), Option.some_or]

namespace Linewise
variable {ε : Type} {f : Text → Except ε Text}

theorem withoutReturn (hf : Linewise f) {a : Text} (ha : '\n' ∉ a) :
    f (withoutReturn a) = (f a).map Text.withoutReturn := by
  rcases eq_withoutReturn a with h | ⟨h, h'⟩
  · have hcut : f a = (f (Text.withoutReturn a)).map (· ++ ['\r']) := by
      rw [← hf.carriage, ← h]
    rw [hcut]
    cases f (Text.withoutReturn a) with
    | error e => rfl
    | ok b => exact congrArg Except.ok (withoutReturn_append_return b).symm
  · rw [h']
    cases hb : f a with
    | error e => rfl
    | ok b =>
      have hlast := (hf.stays a b ha hb).2.1
      exact congrArg Except.ok (withoutReturn_of_getLast? fun hr => h (hlast hr)).symm

/-- The lines of the rewritten text are the lines of the text, rewritten each on its own,
and the first line that is refused decides the refusal. -/
theorem map_lines (hf : Linewise f) (t : Text) : (f t).map lines = (lines t).mapM f := by
  induction t using newline_induction with
  | last a ha =>
    rw [lines_of_newline_not_mem ha]
    by_cases hnil : a = []
    · subst hnil
      rw [hf.nil]
      rfl
    · rw [if_neg hnil]
      cases hb : f a with
      | error e =>
        rewrite [List.mapM_cons, hb]
        rfl
      | ok b =>
        obtain ⟨hnew, -, hne⟩ := hf.stays a b ha hb
        simp only [List.mapM_cons, hb, List.mapM_nil]
        exact congrArg Except.ok ((lines_of_newline_not_mem hnew).trans (if_neg fun h => hnil (hne h)))
  | line a b ha ih =>
    rw [hf.newline a b ha, lines_append_newline ha, List.mapM_cons, ← ih, hf.withoutReturn ha]
    cases hx : f a with
    | error e => rfl
    | ok x =>
      cases hy : f b with
      | error e => rfl
      | ok y => exact congrArg Except.ok (lines_append_newline (hf.stays a x ha hx).1 y)

end Linewise

/-! ## Lines joined and taken again -/

/-- A reading of a line that does not see a carriage return at its end. -/
def IgnoresReturn {β : Type} (f : Text → β) : Prop := ∀ line, f (line ++ ['\r']) = f line

theorem IgnoresReturn.withoutReturn {β : Type} {f : Text → β} (hf : IgnoresReturn f)
    (line : Text) : f (withoutReturn line) = f line := by
  rcases eq_withoutReturn line with h | ⟨-, h⟩
  · calc
      f (Text.withoutReturn line) = f (Text.withoutReturn line ++ ['\r']) := (hf _).symm
      _ = f line := by rw [← h]
  · rw [h]

/-- The second list is the first with carriage returns missing at the ends of some lines,
and perhaps an empty line at the very end. -/
inductive Rejoined : List Text → List Text → Prop
  | nil : Rejoined [] []
  | dropped : Rejoined [[]] []
  | kept {ls ls' : List Text} (a : Text) : Rejoined ls ls' → Rejoined (a :: ls) (a :: ls')
  | cut {ls ls' : List Text} (a : Text) :
      Rejoined ls ls' → Rejoined (a :: ls) (withoutReturn a :: ls')

theorem Rejoined.refl (ls : List Text) : Rejoined ls ls := by
  induction ls with
  | nil => exact .nil
  | cons a ls ih => exact .kept a ih

theorem unlines_cons_cons (a b : Text) (ls : List Text) :
    unlines (a :: b :: ls) = a ++ '\n' :: unlines (b :: ls) := by
  simp [unlines, List.intercalate]

theorem rejoined_unlines {ls : List Text} (h : ∀ a ∈ ls, '\n' ∉ a) :
    Rejoined ls (lines (unlines ls)) := by
  induction ls with
  | nil => exact .nil
  | cons a ls ih =>
    have ha := h a List.mem_cons_self
    cases ls with
    | nil =>
      have hone : unlines [a] = a := by simp [unlines, List.intercalate]
      rw [hone, lines_of_newline_not_mem ha]
      split
      · next hnil =>
        subst hnil
        exact .dropped
      · exact .refl [a]
    | cons b ls =>
      rw [unlines_cons_cons, lines_append_newline ha]
      exact .cut a (ih fun c hc => h c (List.mem_cons_of_mem a hc))

/-- Nothing in the place of a line that a property picks out. -/
def emptied (p : Text → Bool) (line : Text) : Text := if p line then [] else line

theorem filterMap_zipIdx {α β : Type} (f : α → Option β) (xs : List α) (k : Nat) :
    (xs.zipIdx k).filterMap (fun x => f x.1) = xs.filterMap f := by
  conv => rhs; rw [← List.zipIdx_map_fst k xs, List.filterMap_map]
  rfl

/-- A number belongs to one line. -/
theorem eq_of_mem_numberedLines {t line line' : Text} {n : Nat} (h : (line, n) ∈ numberedLines t)
    (h' : (line', n) ∈ numberedLines t) : line = line' := by
  have hline := (List.mk_mem_zipIdx_iff_le_and_getElem?_sub.mp h).2
  have hline' := (List.mk_mem_zipIdx_iff_le_and_getElem?_sub.mp h').2
  exact Option.some.inj (hline.symm.trans hline')

theorem newline_not_mem_emptied {p : Text → Bool} {line : Text} (h : '\n' ∉ line) :
    '\n' ∉ emptied p line := by
  unfold emptied
  split
  · exact List.not_mem_nil
  · exact h

/-- Emptying lines by their numbers leaves the lines of a text with those emptied. -/
theorem rejoined_blank {p : Text → Bool} {numbers : List Nat} {t : Text}
    (h : ∀ n, n ∈ numbers ↔ ∃ line, (line, n) ∈ numberedLines t ∧ p line) :
    Rejoined ((lines t).map (emptied p)) (lines (blank numbers t)) := by
  have hcontains : ∀ line n, (line, n) ∈ numberedLines t → numbers.contains n = p line := by
    intro line n hx
    rw [Bool.eq_iff_iff, List.contains_iff_mem, h n]
    constructor
    · rintro ⟨line', hx', hp⟩
      rwa [eq_of_mem_numberedLines hx hx']
    · exact fun hp => ⟨line, hx, hp⟩
  have hmap : (lines t).map (emptied p) = (numberedLines t).map fun x =>
      if numbers.contains x.2 then [] else x.1 := by
    rw [← List.zipIdx_map_fst 1 (lines t), List.map_map]
    refine List.map_congr_left fun ⟨line, n⟩ hx => ?_
    exact congrArg (fun b : Bool => if b then [] else line) (hcontains line n hx).symm
  unfold blank
  split
  · next hnil =>
    subst hnil
    rw [hmap]
    simp only [List.contains_nil, Bool.false_eq_true, if_false]
    rw [numberedLines, List.zipIdx_map_fst]
    exact .refl _
  · rw [hmap]
    refine rejoined_unlines fun a ha => ?_
    obtain ⟨⟨line, n⟩, hx, rfl⟩ := List.mem_map.mp ha
    exact newline_not_mem_emptied (p := fun _ => numbers.contains n)
      (newline_not_mem_of_mem_lines (List.fst_mem_of_mem_zipIdx hx))

/-- Reading the lines that are left is reading those that neither property excludes. -/
theorem filter_emptied {p q : Text → Bool} (hnil : p [] = false) (xs : List (Text × Nat)) :
    (xs.filter fun x => p (emptied q x.1)).map (fun x => (emptied q x.1, x.2)) =
      xs.filter fun x => !q x.1 && p x.1 := by
  induction xs with
  | nil => rfl
  | cons x xs ih =>
    rw [List.filter_cons, List.filter_cons]
    cases hq : q x.1 with
    | true => simpa [emptied, hq, hnil] using ih
    | false => cases hp : p x.1 <;> simpa [emptied, hq, hp] using ih

namespace Rejoined
variable {ls ls' : List Text}

/-- A rewriting of lines that keeps a carriage return at the end keeps the relation. -/
theorem map (h : Rejoined ls ls') {f : Text → Text} (hnil : f [] = [])
    (hf : ∀ a ∈ ls, f (withoutReturn a) = withoutReturn (f a)) :
    Rejoined (ls.map f) (ls'.map f) := by
  induction h with
  | nil => exact .nil
  | dropped => simpa only [List.map_cons, List.map_nil, hnil] using Rejoined.dropped
  | kept a _ ih => exact .kept (f a) (ih fun b hb => hf b (List.mem_cons_of_mem a hb))
  | cut a _ ih =>
    rw [List.map_cons, List.map_cons, hf a List.mem_cons_self]
    exact .cut (f a) (ih fun b hb => hf b (List.mem_cons_of_mem a hb))

variable {ε α : Type}

/-- A reading of some of the numbered lines, empty ones never among them, that does not
see a carriage return at the end reads the same from both lists. -/
theorem mapM_filter (h : Rejoined ls ls') {p : Text → Bool} {f : Text → Nat → Except ε α}
    (hnil : p [] = false) (hp : IgnoresReturn p) (hf : ∀ n, IgnoresReturn (f · n)) (k : Nat) :
    ((ls'.zipIdx k).filter (fun x => p x.1)).mapM (fun x => f x.1 x.2) =
      ((ls.zipIdx k).filter (fun x => p x.1)).mapM (fun x => f x.1 x.2) := by
  induction h generalizing k with
  | nil => rfl
  | dropped => simp [hnil]
  | kept a _ ih =>
    simp only [List.zipIdx_cons, List.filter_cons]
    split
    · rw [List.mapM_cons, List.mapM_cons, ih]
    · exact ih (k + 1)
  | cut a _ ih =>
    simp only [List.zipIdx_cons, List.filter_cons, hp.withoutReturn a]
    split
    · rw [List.mapM_cons, List.mapM_cons, ih]
      exact congrArg (· >>= _) ((hf k).withoutReturn a)
    · exact ih (k + 1)

/-- The same for lines that are rewritten in between. -/
theorem mapM_filter_map {g : Text → Text} (h : Rejoined (ls.map g) ls') {p : Text → Bool}
    {f : Text → Nat → Except ε α} (hnil : p [] = false) (hp : IgnoresReturn p)
    (hf : ∀ n, IgnoresReturn (f · n)) (k : Nat) :
    ((ls'.zipIdx k).filter (fun x => p x.1)).mapM (fun x => f x.1 x.2) =
      ((ls.zipIdx k).filter (fun x => p (g x.1))).mapM (fun x => f (g x.1) x.2) := by
  rw [h.mapM_filter hnil hp hf, List.zipIdx_map, List.filter_map, List.mapM_map]
  rfl

/-- A check of all numbered lines that passes empty ones has the same outcome on both
lists if it does not see a carriage return at the end. -/
theorem forM (h : Rejoined ls ls') {f : Text → Nat → Except ε PUnit}
    (hnil : ∀ n, f [] n = .ok ()) (hf : ∀ n, IgnoresReturn (f · n)) (k : Nat) :
    (ls'.zipIdx k).forM (fun x => f x.1 x.2) = (ls.zipIdx k).forM (fun x => f x.1 x.2) := by
  induction h generalizing k with
  | nil => rfl
  | dropped =>
    rw [List.zipIdx_cons, List.forM, hnil]
    rfl
  | kept a _ ih => rw [List.zipIdx_cons, List.zipIdx_cons, List.forM, List.forM, ih]
  | cut a _ ih =>
    rw [List.zipIdx_cons, List.zipIdx_cons, List.forM, List.forM, ih]
    exact congrArg (· >>= _) ((hf k).withoutReturn a)

theorem forM_map {g : Text → Text} (h : Rejoined (ls.map g) ls') {f : Text → Nat → Except ε PUnit}
    (hnil : ∀ n, f [] n = .ok ()) (hf : ∀ n, IgnoresReturn (f · n)) (k : Nat) :
    (ls'.zipIdx k).forM (fun x => f x.1 x.2) = (ls.zipIdx k).forM fun x => f (g x.1) x.2 := by
  rw [h.forM hnil hf, List.zipIdx_map, List.forM_eq_forM, List.forM_map]
  rfl

/-- What some of the lines say, empty ones nothing. -/
theorem filterMap (h : Rejoined ls ls') {f : Text → Option α} (hnil : f [] = none)
    (hf : IgnoresReturn f) : ls'.filterMap f = ls.filterMap f := by
  induction h with
  | nil => rfl
  | dropped => rw [List.filterMap_cons_none hnil]
  | kept a _ ih => rw [List.filterMap_cons, List.filterMap_cons, ih]
  | cut a _ ih => rw [List.filterMap_cons, List.filterMap_cons, ih, hf.withoutReturn a]

/-- The same of numbered lines. -/
theorem filterMap_zipIdx (h : Rejoined ls ls') {f : Text → Nat → Option α}
    (hnil : ∀ n, f [] n = none) (hf : ∀ n, IgnoresReturn (f · n)) (k : Nat) :
    (ls'.zipIdx k).filterMap (fun x => f x.1 x.2) = (ls.zipIdx k).filterMap fun x => f x.1 x.2 := by
  induction h generalizing k with
  | nil => rfl
  | dropped =>
    rw [List.zipIdx_cons, List.filterMap_cons, hnil]
    rfl
  | kept a _ ih => rw [List.zipIdx_cons, List.zipIdx_cons, List.filterMap_cons, List.filterMap_cons, ih]
  | cut a _ ih =>
    have hcut : f (withoutReturn a) k = f a k := (hf k).withoutReturn a
    rw [List.zipIdx_cons, List.zipIdx_cons, List.filterMap_cons, List.filterMap_cons, hcut, ih]

theorem forall_mem (h : Rejoined ls ls') {P : Text → Prop} (hnil : P []) (hP : IgnoresReturn P) :
    (∀ line ∈ ls', P line) ↔ ∀ line ∈ ls, P line := by
  induction h with
  | nil => rfl
  | dropped => simpa using hnil
  | kept a _ ih => rw [List.forall_mem_cons, List.forall_mem_cons, ih]
  | cut a _ ih => rw [List.forall_mem_cons, List.forall_mem_cons, ih, hP.withoutReturn a]

/-- Such lines rewritten each on its own are such lines again, or the same one is refused; `k`
and `k'` are what is done with them afterwards. -/
theorem bind_mapM {β : Type} (h : Rejoined ls ls') {f : Text → Except ε Text} (hf : Linewise f)
    (hlines : ∀ line ∈ ls, '\n' ∉ line) (k k' : List Text → Except ε β)
    (hk : ∀ bs bs', Rejoined bs bs' → k' bs' = k bs) : (ls'.mapM f >>= k') = (ls.mapM f >>= k) := by
  induction h generalizing k k' with
  | nil => exact hk [] [] .nil
  | dropped =>
    rw [List.mapM_cons, hf.nil]
    exact hk [[]] [] .dropped
  | kept a _ ih =>
    rw [List.mapM_cons, List.mapM_cons, bind_assoc, bind_assoc]
    refine bind_congr fun b => ?_
    rw [bind_assoc, bind_assoc]
    exact ih (fun line hline => hlines line (List.mem_cons_of_mem a hline)) _ _
      fun bs bs' hbs => hk (b :: bs) (b :: bs') (.kept b hbs)
  | @cut ls ls' a _ ih =>
    rw [List.mapM_cons, List.mapM_cons, hf.withoutReturn (hlines a List.mem_cons_self)]
    cases f a with
    | error e => rfl
    | ok b =>
      show ((ls'.mapM f >>= fun bs => pure (withoutReturn b :: bs)) >>= k') =
        ((ls.mapM f >>= fun bs => pure (b :: bs)) >>= k)
      rw [bind_assoc, bind_assoc]
      exact ih (fun line hline => hlines line (List.mem_cons_of_mem a hline)) _ _
        fun bs bs' hbs => hk (b :: bs) (withoutReturn b :: bs') (.cut b hbs)

end Rejoined

/-! ## Line ends of two characters -/

/-- The text with a carriage return in front of every line feed. -/
def withReturns (t : Text) : Text := t.flatMap fun c => if c = '\n' then ['\r', '\n'] else [c]

theorem withReturns_of_newline_not_mem {a : Text} (h : '\n' ∉ a) : withReturns a = a := by
  induction a with
  | nil => rfl
  | cons c a ih =>
    obtain ⟨hc, ha⟩ := List.ne_and_not_mem_of_not_mem_cons h
    rw [withReturns, List.flatMap_cons, if_neg hc.symm, ← withReturns, ih ha]
    rfl

/-- The carriage return belongs to the line end. -/
theorem rejoined_withReturns (t : Text) : Rejoined (lines (withReturns t)) (lines t) := by
  induction t using newline_induction with
  | last a ha =>
    rw [withReturns_of_newline_not_mem ha]
    exact .refl _
  | line a b ha ih =>
    have hends : withReturns (a ++ '\n' :: b) = (a ++ ['\r']) ++ '\n' :: withReturns b := by
      calc
        _ = withReturns a ++ withReturns ('\n' :: b) := List.flatMap_append
        _ = a ++ ('\r' :: '\n' :: withReturns b) := by
          rw [withReturns_of_newline_not_mem ha]
          rfl
        _ = _ := by rw [List.append_assoc]; rfl
    rw [hends, lines_append_newline (by simpa using ha), withoutReturn_append_return,
      lines_append_newline ha]
    exact .cut a ih

end Equate.Text
