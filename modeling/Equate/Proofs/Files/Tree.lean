import Equate.Files.Basic
import Equate.Proofs.Success
import Equate.Proofs.Text.Part

/-!
# Ways through a tree of files

A path goes on through directories and links only, and only a directory can be gone through to an
entry. So two trees with the same directories and links have the same entry for a path to name,
whatever files they have.
-/
namespace Equate

namespace Entry

/-- A path can go on through the entry. -/
def Leads (e : Entry) : Prop := e = .directory ∨ ∃ target, e = .link target

theorem not_leads_file (content : Bytes) (runs : Bool) : ¬(file content runs).Leads := by
  rintro (h | ⟨target, h⟩) <;> cases h

end Entry

namespace Files
open Success

/-! ## Entries -/

theorem entry?_of_ne_nil (files : Files) {place : Place} (h : place ≠ []) :
    files.entry? place = files.entries[place]? := by
  cases place with
  | nil => exact absurd rfl h
  | cons name place => rfl

theorem entry?_empty (here : Place) {place : Place} (h : place ≠ []) :
    Files.entry? ⟨∅, here⟩ place = none := by
  rw [entry?_of_ne_nil _ h, Std.ExtTreeMap.getElem?_empty]

theorem entry?_put (files : Files) {place : Place} (h : place ≠ []) (e : Entry) :
    Files.entry? (files.put place e) place = some e := by
  rw [entry?_of_ne_nil _ h, put, Std.ExtTreeMap.getElem?_insert_self]

theorem entry?_put_of_ne (files : Files) {place p : Place} (h : p ≠ place) (e : Entry) :
    Files.entry? (files.put place e) p = files.entry? p := by
  cases p with
  | nil => rfl
  | cons name p =>
    exact (Std.ExtTreeMap.getElem?_insert ..).trans
      (if_neg fun heq => h (Std.LawfulEqCmp.eq_of_compare heq).symm)

theorem entry?_remove (files : Files) {place : Place} (h : place ≠ []) :
    Files.entry? (files.remove place) place = none := by
  rw [entry?_of_ne_nil _ h, remove, Std.ExtTreeMap.getElem?_erase_self]

theorem entry?_remove_of_ne (files : Files) {place p : Place} (h : p ≠ place) :
    Files.entry? (files.remove place) p = files.entry? p := by
  cases p with
  | nil => rfl
  | cons name p =>
    exact (Std.ExtTreeMap.getElem?_erase ..).trans
      (if_neg fun heq => h (Std.LawfulEqCmp.eq_of_compare heq).symm)

theorem Target.place_ne_nil (t : Target) : t.place ≠ [] := List.concat_ne_nil _ _

/-! ## Steps of a path -/

/-- The way that names lead, over so many links at most for each of them. -/
def walkWithin (files : Files) (links : Nat) (place : Place) (names : List Text) :
    Except Obstacle Place :=
  names.foldlM (fun p name => do files.follow links (← files.step p name)) place

theorem walkWithin_cons_eq_ok {files : Files} {links : Nat} {place q : Place} {name : Text}
    {names : List Text} :
    files.walkWithin links place (name :: names) = .ok q ↔
      ∃ stepped next, files.step place name = .ok stepped ∧ files.follow links stepped = .ok next ∧
        files.walkWithin links next names = .ok q := by
  rw [walkWithin, List.foldlM_cons, bind_eq_ok]
  constructor
  · rintro ⟨next, h, hrest⟩
    obtain ⟨stepped, hstep, hfollow⟩ := bind_eq_ok.mp h
    exact ⟨stepped, next, hstep, hfollow, hrest⟩
  · rintro ⟨stepped, next, hstep, hfollow, hrest⟩
    exact ⟨next, bind_eq_ok.mpr ⟨stepped, hstep, hfollow⟩, hrest⟩

theorem walkWithin_concat_eq_ok {files : Files} {links : Nat} {place q : Place} {name : Text}
    {names : List Text} :
    files.walkWithin links place (names ++ [name]) = .ok q ↔
      ∃ next stepped, files.walkWithin links place names = .ok next ∧
        files.step next name = .ok stepped ∧ files.follow links stepped = .ok q := by
  rw [walkWithin, List.foldlM_append, bind_eq_ok]
  refine exists_congr fun next => ?_
  rw [List.foldlM_cons, bind_eq_ok]
  constructor
  · rintro ⟨hnext, last, h, hlast⟩
    cases hlast
    obtain ⟨stepped, hstep, hfollow⟩ := bind_eq_ok.mp h
    exact ⟨stepped, hnext, hstep, hfollow⟩
  · rintro ⟨stepped, hnext, hstep, hfollow⟩
    exact ⟨hnext, q, bind_eq_ok.mpr ⟨stepped, hstep, hfollow⟩, rfl⟩

theorem follow_succ (files : Files) (links : Nat) (place : Place) :
    files.follow (links + 1) place =
      match files.entry? place with
      | some (.link target) => do
        files.walkWithin links (startFrom place.dropLast target) (← steps target)
      | _ => .ok place := by
  rw [follow]
  rfl

/-- What is no link is not followed. -/
theorem follow_of_not_link {files : Files} {place : Place}
    (h : ∀ target, files.entry? place ≠ some (.link target)) :
    files.follow linkLimit place = .ok place := by
  rw [linkLimit, follow_succ]
  split
  · next target heq => exact absurd heq (h target)
  · rfl

/-- Steps start from directories. -/
theorem entry?_of_step {files : Files} {place q : Place} {name : Text}
    (h : files.step place name = .ok q) : files.entry? place = some .directory := by
  unfold step at h
  split at h
  · next heq => exact heq
  · cases h
  · cases h

/-! ## The same ways -/

/-- Two trees have the same directories and links. -/
def SameWays (files files' : Files) : Prop :=
  ∀ p e, e.Leads → (files.entry? p = some e ↔ files'.entry? p = some e)

section
variable {files : Files} {place : Place} (h : ∀ e, files.entry? place = some e → ¬e.Leads)
include h

/-- Changes at a place that leads nowhere leave all ways as they are. -/
theorem sameWays_of_others {files' : Files} (h' : ∀ e, files'.entry? place = some e → ¬e.Leads)
    (hothers : ∀ p, p ≠ place → files'.entry? p = files.entry? p) : SameWays files files' := by
  intro p e he
  by_cases hp : p = place
  · subst hp
    exact ⟨fun heq => absurd he (h e heq), fun heq => absurd he (h' e heq)⟩
  · rw [hothers p hp]

theorem sameWays_put (hplace : place ≠ []) {e : Entry} (he : ¬e.Leads) :
    SameWays files (files.put place e) := by
  refine sameWays_of_others h (fun e' he' => ?_) fun p hp => entry?_put_of_ne files hp e
  rw [entry?_put files hplace] at he'
  exact Option.some.inj he' ▸ he

theorem sameWays_remove (hplace : place ≠ []) : SameWays files (files.remove place) := by
  refine sameWays_of_others h (fun e he => ?_) fun p hp => entry?_remove_of_ne files hp
  rw [entry?_remove files hplace] at he
  cases he

end

namespace SameWays
variable {files files' : Files} (h : SameWays files files')
include h

theorem symm : SameWays files' files := fun p e he => (h p e he).symm

theorem trans {files'' : Files} (h' : SameWays files' files'') : SameWays files files'' :=
  fun p e he => (h p e he).trans (h' p e he)

theorem directory {p : Place} (hp : files.entry? p = some .directory) :
    files'.entry? p = some .directory :=
  (h p _ (.inl rfl)).mp hp

theorem link {p : Place} {target : Text} (hp : files.entry? p = some (.link target)) :
    files'.entry? p = some (.link target) :=
  (h p _ (.inr ⟨target, rfl⟩)).mp hp

theorem step_eq_ok {p q : Place} {name : Text} (hstep : files.step p name = .ok q) {e : Entry}
    (hq : files.entry? q = some e) (he : e.Leads) : files'.step p name = .ok q := by
  have hp := entry?_of_step hstep
  rw [step, hp] at hstep
  rw [step, h.directory hp]
  dsimp only at hstep ⊢
  split at hstep
  · next hstays => rw [if_pos hstays, hstep]
  · next hstays =>
    rw [if_neg hstays]
    split at hstep
    · next hup => rw [if_pos hup, hstep]
    · next hup =>
      rw [if_neg hup]
      split at hstep
      · cases hstep
      · next hlong =>
        rw [if_neg hlong]
        split at hstep
        · cases hstep
          rw [if_pos (Option.isSome_iff_exists.mpr ⟨e, (h _ e he).mp hq⟩)]
        · cases hstep

omit h in
/-- What leads to a directory is one, or a link. -/
theorem leads_of_follow {links : Nat} {p q : Place} (hfollow : files.follow links p = .ok q)
    (hq : files.entry? q = some .directory) : ∃ e, files.entry? p = some e ∧ e.Leads := by
  cases links with
  | zero => cases hfollow
  | succ links =>
    rw [follow_succ] at hfollow
    split at hfollow
    · next target hp => exact ⟨_, hp, .inr ⟨target, rfl⟩⟩
    · cases hfollow
      exact ⟨_, hq, .inl rfl⟩

/-- A walk through the same ways, if the links on it lead the same way. -/
theorem walkWithin_eq_ok {links : Nat}
    (hfollow : ∀ p q, files.follow links p = .ok q → files.entry? q = some .directory →
      files'.follow links p = .ok q) {names : List Text} {p q : Place}
    (hwalk : files.walkWithin links p names = .ok q) (hq : files.entry? q = some .directory) :
    files'.walkWithin links p names = .ok q := by
  induction names generalizing p with
  | nil => exact hwalk
  | cons name names ih =>
    obtain ⟨stepped, next, hstep, hnext, hrest⟩ := walkWithin_cons_eq_ok.mp hwalk
    have hdirectory : files.entry? next = some .directory := by
      cases names with
      | nil =>
        cases hrest
        exact hq
      | cons name' names =>
        obtain ⟨_, _, hstep', -⟩ := walkWithin_cons_eq_ok.mp hrest
        exact entry?_of_step hstep'
    obtain ⟨e, hstepped, he⟩ := leads_of_follow hnext hdirectory
    exact walkWithin_cons_eq_ok.mpr ⟨stepped, next, h.step_eq_ok hstep hstepped he,
      hfollow _ _ hnext hdirectory, ih hrest⟩

theorem follow_eq_ok {links : Nat} {p q : Place} (hfollow : files.follow links p = .ok q)
    (hq : files.entry? q = some .directory) : files'.follow links p = .ok q := by
  induction links generalizing p q with
  | zero => cases hfollow
  | succ links ih =>
    rw [follow_succ] at hfollow ⊢
    split at hfollow
    · next target hp =>
      obtain ⟨names, hnames, hwalk⟩ := bind_eq_ok.mp hfollow
      rw [h.link hp]
      exact bind_eq_ok.mpr ⟨names, hnames, h.walkWithin_eq_ok (fun _ _ => ih) hwalk hq⟩
    · cases hfollow
      rw [h.directory hq]

/-- Trees with the same directories and links have the same ways to directories. -/
theorem walk_eq_ok {names : List Text} {p q : Place} (hwalk : files.walk p names = .ok q)
    (hq : files.entry? q = some .directory) : files'.walk p names = .ok q :=
  h.walkWithin_eq_ok (fun _ _ => h.follow_eq_ok) hwalk hq

end SameWays

/-! ## What a path names -/

theorem dropWhile_eq_cons {α : Type} {p : α → Bool} {l rest : List α} {a : α} :
    l.dropWhile p = a :: rest ↔
      ∃ front, l = front ++ a :: rest ∧ (∀ x ∈ front, p x = true) ∧ p a = false := by
  constructor
  · intro h
    refine ⟨l.takeWhile p, ?_, List.all_eq_true.mp List.all_takeWhile, Text.eq_false_of_dropWhile h⟩
    rw [← h, List.takeWhile_append_dropWhile]
  · rintro ⟨front, rfl, hfront, ha⟩
    rw [List.dropWhile_append_of_pos hfront, List.dropWhile_cons, if_neg (Bool.not_eq_true _ |>.mpr ha)]

theorem head?_reverse_eq_some_nil_iff {before more : List Text} {name : Text} (hname : name ≠ [])
    (hmore : ∀ last ∈ more, last = []) :
    (before ++ name :: more).reverse.head? = some [] ↔ more ≠ [] := by
  rw [List.reverse_append, List.reverse_cons, List.append_assoc, ← List.reverse_ne_nil_iff]
  cases h : more.reverse with
  | nil => simpa using hname
  | cons last front =>
    have hlast := hmore last (List.mem_reverse.mp (h ▸ List.mem_cons_self))
    simpa using hlast

/-- The target of a path is its last name that is not empty, in the directory that the names in
front of it lead to. -/
theorem targetFrom_eq_ok {files : Files} {start : Place} {path : Text} {t : Target} :
    files.targetFrom start path = .ok t ↔
      ∃ before more, steps path = .ok (before ++ t.name :: more) ∧ t.name ≠ [] ∧
        (∀ last ∈ more, last = []) ∧ t.slashed = decide (more ≠ []) ∧
        Text.byteCount t.name ≤ nameLimit ∧ files.walk (startFrom start path) before = .ok t.directory ∧
        files.entry? t.directory = some .directory := by
  unfold targetFrom
  rw [bind_eq_ok]
  constructor
  · rintro ⟨names, hnames, h⟩
    dsimp only at h
    split at h
    · cases h
    · next name before hname =>
      obtain ⟨more, hsplit, hempty, hne⟩ := dropWhile_eq_cons.mp hname
      obtain ⟨directory, hwalk, h⟩ := bind_eq_ok.mp h
      have hnamed : names = before.reverse ++ name :: more.reverse := by
        rw [← List.reverse_reverse names, hsplit, List.reverse_append, List.reverse_cons,
          List.append_assoc, List.singleton_append]
      have hproper : name ≠ [] := of_decide_eq_false hne
      have hmore : ∀ last ∈ more.reverse, last = [] := fun last hlast =>
        of_decide_eq_true (hempty last (List.mem_reverse.mp hlast))
      split at h
      · next hdirectory =>
        split at h
        · cases h
        · next hlong =>
          cases h
          refine ⟨before.reverse, more.reverse, hnamed ▸ hnames, hproper, hmore, ?_, Nat.not_lt.mp hlong,
            hwalk, hdirectory⟩
          rw [hnamed]
          exact decide_eq_decide.mpr (head?_reverse_eq_some_nil_iff hproper hmore)
      · cases h
  · rintro ⟨before, more, hnames, hne, hmore, hslashed, hlong, hwalk, hdirectory⟩
    have hname : (before ++ t.name :: more).reverse.dropWhile (· = []) = t.name :: before.reverse :=
      dropWhile_eq_cons.mpr ⟨more.reverse, by simp,
        fun last hlast => decide_eq_true (hmore last (List.mem_reverse.mp hlast)), decide_eq_false hne⟩
    refine ⟨_, hnames, ?_⟩
    dsimp only
    rw [hname]
    refine bind_eq_ok.mpr ⟨t.directory, by rwa [List.reverse_reverse], ?_⟩
    rw [hdirectory]
    dsimp only
    rw [if_neg (Nat.not_lt.mpr hlong), decide_eq_decide.mpr (head?_reverse_eq_some_nil_iff hne hmore),
      ← hslashed]

theorem SameWays.target_eq_ok {files files' : Files} (h : SameWays files files')
    (hhere : files'.here = files.here) {path : Text} {t : Target} (ht : files.target path = .ok t) :
    files'.target path = .ok t := by
  rw [target, targetFrom_eq_ok] at ht ⊢
  obtain ⟨before, more, hnames, hne, hmore, hslashed, hlong, hwalk, hdirectory⟩ := ht
  rw [hhere]
  exact ⟨before, more, hnames, hne, hmore, hslashed, hlong, h.walk_eq_ok hwalk hdirectory,
    h.directory hdirectory⟩

/-- A path names an entry: its last name is no dots, and no slash follows it. -/
structure Names (files : Files) (path : Text) (t : Target) : Prop where
  target : files.target path = .ok t
  slashed : t.slashed = false
  dots : t.isDots = false

theorem SameWays.names {files files' : Files} (h : SameWays files files') (hhere : files'.here = files.here)
    {path : Text} {t : Target} (ht : files.Names path t) : files'.Names path t :=
  ⟨h.target_eq_ok hhere ht.target, ht.slashed, ht.dots⟩

namespace Names
variable {files : Files} {path : Text} {t : Target} (h : files.Names path t)
include h

theorem unique {t' : Target} (h' : files.Names path t') : t = t' :=
  Except.ok.inj (h.target.symm.trans h'.target)

theorem ne_dots : t.name ≠ ['.'] ∧ t.name ≠ ['.', '.'] := by
  have hdots := h.dots
  simpa [Target.isDots] using hdots

/-- The last name of the path is that of the entry. -/
theorem exists_steps : ∃ before, steps path = .ok (before ++ [t.name]) ∧
    files.walk (startFrom files.here path) before = .ok t.directory := by
  obtain ⟨before, more, hnames, -, -, hslashed, -, hwalk, -⟩ := targetFrom_eq_ok.mp h.target
  have hnone : more = [] := Decidable.not_not.mp (of_decide_eq_false (hslashed.symm.trans h.slashed))
  rw [hnone] at hnames
  exact ⟨before, hnames, hwalk⟩

theorem step_eq {e : Entry} (he : files.entry? t.place = some e) :
    files.step t.directory t.name = .ok t.place := by
  obtain ⟨before, more, -, hne, -, -, hlong, -, hdirectory⟩ := targetFrom_eq_ok.mp h.target
  have hsome : (files.entry? (t.directory ++ [t.name])).isSome = true :=
    Option.isSome_iff_exists.mpr ⟨e, he⟩
  rw [step, hdirectory]
  dsimp only
  rw [if_neg (not_or.mpr ⟨hne, h.ne_dots.1⟩), if_neg h.ne_dots.2, if_neg (Nat.not_lt.mpr hlong),
    if_pos hsome]
  rfl

/-- The path leads to the entry that it names, if that is no link. -/
theorem place_eq {e : Entry} (he : files.entry? t.place = some e)
    (hlink : ∀ target, e ≠ .link target) : files.place path = .ok t.place := by
  obtain ⟨before, hnames, hwalk⟩ := h.exists_steps
  refine bind_eq_ok.mpr ⟨_, hnames, ?_⟩
  have hfollow : files.follow linkLimit t.place = .ok t.place :=
    follow_of_not_link fun target heq => hlink target (Option.some.inj (he.symm.trans heq))
  exact walkWithin_concat_eq_ok.mpr ⟨_, _, hwalk, h.step_eq he, hfollow⟩

/-- A file is read along the path that names it. -/
theorem read_eq {content : Bytes} {runs : Bool}
    (he : files.entry? t.place = some (.file content runs)) : files.read path = .ok content := by
  have hfind : files.find path = .ok (.file content runs) := by
    rw [find, h.place_eq he nofun]
    dsimp only [ok_bind]
    rw [he]
  rw [read, hfind]
  rfl

theorem entryItself_eq : files.entryItself path =
    match files.entry? t.place with
    | some e => .ok (t.place, e)
    | none => .error .missing := by
  rw [entryItself, h.target]
  dsimp only
  rw [h.slashed, h.dots, if_neg (by decide)]
  rfl

end Names

/-- The parent of a directory is one. -/
def Rooted (files : Files) : Prop :=
  ∀ p, files.entry? p = some .directory → files.entry? p.dropLast = some .directory

theorem SameWays.rooted {files files' : Files} (h : SameWays files files') (hrooted : files.Rooted) :
    files'.Rooted :=
  fun p hp => h.directory (hrooted p (h.symm.directory hp))

/-- A step that stays or goes up leads to a directory. -/
theorem Rooted.entry?_of_step {files : Files} (h : files.Rooted) {p q : Place} {name : Text}
    (hname : name = [] ∨ name = ['.'] ∨ name = ['.', '.']) (hstep : files.step p name = .ok q) :
    files.entry? q = some .directory := by
  have hp := Files.entry?_of_step hstep
  rw [step, hp] at hstep
  dsimp only at hstep
  split at hstep
  · cases hstep
    exact hp
  · next hstays =>
    rw [if_pos (or_assoc.mpr hname |>.resolve_left hstays)] at hstep
    cases hstep
    exact h p hp

theorem steps_ne_nil {path : Text} {names : List Text} (h : steps path = .ok names) : names ≠ [] := by
  unfold steps at h
  split at h
  · cases h
  · split at h
    · cases h
    · split at h
      · cases h
      · cases h
        exact Text.splitOn_ne_nil _ _

/-- What a path leads to is a directory or the entry that it names. -/
theorem Rooted.place_eq_ok {files : Files} (hrooted : files.Rooted) {path : Text} {q : Place}
    (h : files.place path = .ok q) :
    files.entry? q = some .directory ∨ ∃ t, files.Names path t := by
  obtain ⟨names, hnames, hwalk⟩ := bind_eq_ok.mp h
  obtain ⟨before, last, rfl⟩ : ∃ before last, names = before ++ [last] :=
    ⟨_, _, (List.dropLast_concat_getLast (steps_ne_nil hnames)).symm⟩
  obtain ⟨directory, stepped, hbefore, hstep, hfollow⟩ := walkWithin_concat_eq_ok.mp hwalk
  have hdirectory := Files.entry?_of_step hstep
  by_cases hlast : last = [] ∨ last = ['.'] ∨ last = ['.', '.']
  · left
    have hstepped := hrooted.entry?_of_step hlast hstep
    rw [follow_of_not_link fun target heq => by cases hstepped.symm.trans heq] at hfollow
    cases hfollow
    exact hstepped
  · right
    simp only [not_or] at hlast
    have hlong : Text.byteCount last ≤ nameLimit := by
      rw [step, hdirectory] at hstep
      dsimp only at hstep
      rw [if_neg (not_or.mpr ⟨hlast.1, hlast.2.1⟩), if_neg hlast.2.2] at hstep
      split at hstep
      · cases hstep
      · next hlong => exact Nat.not_lt.mp hlong
    refine ⟨⟨directory, last, false⟩, ?_, rfl, ?_⟩
    · exact targetFrom_eq_ok.mpr ⟨before, [], hnames, hlast.1, nofun, rfl, hlong, hbefore, hdirectory⟩
    · simp [Target.isDots, hlast.2]

/-- What stands at a path itself is a directory or the entry that it names. -/
theorem Rooted.entryItself_eq_ok {files : Files} (hrooted : files.Rooted) {path : Text} {q : Place}
    {e : Entry} (h : files.entryItself path = .ok (q, e)) :
    e = .directory ∨ ∃ t, files.Names path t ∧ q = t.place := by
  have hfound : ∀ {x : Except Obstacle Place}, (x >>= fun place => match files.entry? place with
      | some e => .ok (place, e)
      | none => .error .missing) = .ok (q, e) → x = .ok q ∧ files.entry? q = some e := by
    intro x hx
    obtain ⟨place, hplace, hx⟩ := bind_eq_ok.mp hx
    split at hx
    · next he =>
      cases hx
      exact ⟨hplace, he⟩
    · cases hx
  have hplaced : files.place path = .ok q → files.entry? q = some e →
      e = .directory ∨ ∃ t, files.Names path t := fun hplace he =>
    (hrooted.place_eq_ok hplace).imp_left fun hdirectory => Option.some.inj (he.symm.trans hdirectory)
  unfold entryItself at h
  split at h
  · next t ht =>
    split at h
    · next hnot =>
      obtain ⟨hplace, he⟩ := hfound h
      refine (hplaced hplace he).imp_right fun ⟨t', ht'⟩ => ?_
      cases ht.symm.trans ht'.target
      rw [ht'.slashed, ht'.dots] at hnot
      cases hnot
    · next hnot =>
      obtain ⟨hplace, -⟩ := hfound (x := .ok t.place) h
      rw [Bool.not_eq_true, Bool.or_eq_false_iff] at hnot
      exact .inr ⟨t, ⟨ht, hnot.1, hnot.2⟩, (Except.ok.inj hplace).symm⟩
  · next ht =>
    obtain ⟨hplace, he⟩ := hfound h
    refine (hplaced hplace he).imp_right fun ⟨t', ht'⟩ => ?_
    cases ht.symm.trans ht'.target

end Files
end Equate
