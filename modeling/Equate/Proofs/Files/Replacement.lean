import Equate.CommandLine.Run
import Equate.Proofs.Files.Tree

/-!
# What writing a result touches

A result goes to a staging file, which is then moved to the path that is asked for. The staging name
is another one in the same directory. So nothing else is touched, whether writing succeeds or breaks
off at any of its steps, but what has the staging name already does not survive it.
-/
namespace Equate

namespace Files
open Success Text

/-! ## The staging name -/

theorem mem_of_mem_stem {name : Text} {c : Char} (h : c ∈ stem name) : c ∈ name := by
  unfold stem at h
  split at h
  · next a before hcut =>
    split at h
    · exact h
    · rw [← List.mem_reverse, eq_append_of_splitAt? hcut]
      exact List.mem_append_right a (List.mem_cons_of_mem '.' (List.mem_reverse.mp h))
  · exact h

/-- No name is its own staging name. -/
theorem stem_append_ne (name : Text) : stem name ++ (".json.tmp" : Text) ≠ name := by
  intro h
  unfold stem at h
  split at h
  · next a before hcut =>
    split at h
    · exact absurd (List.append_right_eq_self.mp h) (by decide)
    · have hname := congrArg List.reverse (eq_append_of_splitAt? hcut)
      rw [List.reverse_reverse, List.reverse_append, List.reverse_cons, List.append_assoc, ← h] at hname
      -- Behind the last point of the name there would be another one.
      have hend : ".json.tmp".toList = '.' :: a.reverse := List.append_cancel_left hname
      have hpoint : '.' ∈ a.reverse := by
        rw [← (List.cons.inj hend).2]
        decide
      exact not_mem_of_splitAt? hcut (List.mem_reverse.mp hpoint)
  · exact absurd (List.append_right_eq_self.mp h) (by decide)

theorem steps_eq_ok {path : Text} {names : List Text} (h : steps path = .ok names) :
    names = splitOn '/' path := by
  unfold steps at h
  split at h
  · cases h
  · split at h
    · cases h
    · split at h <;> cases h
      rfl

section
variable {files : Files} {path : Text} {t s : Target}

/-- The staging file stands beside the target. -/
theorem Names.staging_eq (h : files.Names (stagingPath path) s) (ht : files.target path = .ok t)
    (hdots : t.isDots = false) :
    s.directory = t.directory ∧ s.name = stem t.name ++ (".json.tmp" : Text) := by
  obtain ⟨before, more, hnames, hne, hmore, -, -, hwalk, -⟩ := targetFrom_eq_ok.mp ht
  have hsplit := (steps_eq_ok hnames).symm
  have hproper : t.name ≠ ['.'] ∧ t.name ≠ ['.', '.'] := by simpa [Target.isDots] using hdots
  have hlast : (splitOn '/' path).reverse.dropWhile (fun name => name = [] || name = ['.']) =
      t.name :: before.reverse := by
    rw [hsplit]
    refine dropWhile_eq_cons.mpr ⟨more.reverse, by simp, fun name hname => ?_, ?_⟩
    · rw [decide_eq_true (hmore name (List.mem_reverse.mp hname)), Bool.true_or]
    · rw [decide_eq_false hne, decide_eq_false hproper.1, Bool.or_self]
  have hparts : splitOn '/' (stagingPath path) = before ++ [stem t.name ++ (".json.tmp" : Text)] := by
    rw [stagingPath, hlast]
    dsimp only
    rw [if_neg hproper.2, List.reverse_reverse]
    refine splitOn_joinWith (List.append_ne_nil_of_right_ne_nil _ (List.cons_ne_nil _ _)) ?_
    have hall : ∀ part ∈ before ++ t.name :: more, '/' ∉ part := fun part hpart =>
      not_mem_of_mem_splitOn (hsplit ▸ hpart)
    rw [List.forall_mem_append, List.forall_mem_cons] at hall
    refine List.forall_mem_append.mpr ⟨hall.1, List.forall_mem_singleton.mpr fun hmem => ?_⟩
    rcases List.mem_append.mp hmem with hmem | hmem
    · exact hall.2.1 (mem_of_mem_stem hmem)
    · exact absurd hmem (by decide)
  obtain ⟨before', hnames', hwalk'⟩ := h.exists_steps
  obtain ⟨rfl, hname⟩ := List.append_inj' ((steps_eq_ok hnames').trans hparts) rfl
  have hstart : startFrom files.here (stagingPath path) = startFrom files.here path := by
    have hstaged : stem t.name ++ (".json.tmp" : Text) ≠ [] :=
      List.append_ne_nil_of_right_ne_nil _ (by decide)
    unfold startFrom
    simp only [head?_eq_some_iff_of_splitOn hparts hstaged, head?_eq_some_iff_of_splitOn hsplit hne]
  rw [hstart] at hwalk'
  exact ⟨Except.ok.inj (hwalk'.symm.trans hwalk), (List.cons.inj hname).1⟩

/-- So its place is another one. -/
theorem Names.staging_ne (h : files.Names (stagingPath path) s) (ht : files.target path = .ok t) :
    s.place ≠ t.place := by
  intro heq
  have hname : s.name = t.name := (List.cons.inj (List.append_inj_right' heq rfl)).1
  cases hdots : t.isDots with
  | true =>
    have hs := h.dots
    rw [Target.isDots, hname] at hs
    cases hdots.symm.trans hs
  | false =>
    obtain ⟨-, hstaging⟩ := h.staging_eq ht hdots
    exact stem_append_ne t.name (hstaging.symm.trans hname)

end

/-! ## Writing along a path -/

/-- Nothing but a file stands at a place. -/
def Free (files : Files) (p : Place) : Prop :=
  ∀ e, files.entry? p = some e → ∃ content runs, e = .file content runs

/-- Nothing but a file or a directory stands at a place. -/
def Plain (files : Files) (p : Place) : Prop :=
  ∀ e, files.entry? p = some e → e = .directory ∨ ∃ content runs, e = .file content runs

theorem Plain.free {files : Files} {p : Place} (h : files.Plain p)
    (hdirectory : files.entry? p ≠ some .directory) : files.Free p := fun e he =>
  (h e he).resolve_left fun heq => hdirectory (heq ▸ he)

theorem Free.not_leads {files : Files} {p : Place} (h : files.Free p) :
    ∀ e, files.entry? p = some e → ¬e.Leads := by
  intro e he hleads
  obtain ⟨content, runs, rfl⟩ := h e he
  exact Entry.not_leads_file content runs hleads

/-- A file where nothing but a file stood leaves all ways as they are. -/
theorem Free.sameWays {files : Files} {p : Place} (h : files.Free p) (hp : p ≠ []) (content : Bytes)
    (runs : Bool) : SameWays files (files.put p (.file content runs)) :=
  sameWays_put h.not_leads hp (Entry.not_leads_file content runs)

theorem Free.setContent_eq {files : Files} {p : Place} (h : files.Free p) (content : Bytes) :
    ∃ runs, files.setContent p content = files.put p (.file content runs) := by
  cases he : files.entry? p with
  | none => exact ⟨false, by rw [setContent, he]⟩
  | some e =>
    obtain ⟨old, runs, rfl⟩ := h e he
    exact ⟨runs, by rw [setContent, he]⟩

/-- Where no link is followed, what is written along a path goes to the entry that it names. -/
theorem create_eq_ok {files after : Files} {path : Text} {content : Bytes}
    (hplain : ∀ t, files.Names path t → files.Plain t.place)
    (h : files.create path content = .ok after) :
    ∃ t runs, files.Names path t ∧ files.Free t.place ∧
      after = files.put t.place (.file content runs) := by
  obtain ⟨place, hplace, h⟩ := bind_eq_ok.mp h
  cases h
  rw [linkLimit, writePlace] at hplace
  obtain ⟨t, ht, hplace⟩ := bind_eq_ok.mp hplace
  split at hplace
  · cases hplace
  · next hnot =>
    rw [Bool.not_eq_true, Bool.or_eq_false_iff] at hnot
    have hnames : files.Names path t := ⟨ht, hnot.1, hnot.2⟩
    split at hplace
    · cases hplace
    · next target hlink =>
      rcases hplain t hnames _ hlink with heq | ⟨_, _, heq⟩ <;> cases heq
    · next hdirectory _ =>
      cases hplace
      have hfree := (hplain t hnames).free hdirectory
      obtain ⟨runs, hput⟩ := hfree.setContent_eq content
      exact ⟨t, runs, hnames, hfree, hput⟩

theorem move_eq_ok {files moved : Files} {source : Place} {path : Text}
    (h : files.move source path = .ok moved) :
    ∃ t e, files.Names path t ∧ files.entry? source = some e ∧
      files.entry? t.place ≠ some .directory ∧ moved = (files.remove source).put t.place e := by
  obtain ⟨t, ht, h⟩ := bind_eq_ok.mp h
  split at h
  · cases h
  · next hdots =>
    split at h
    · cases h
    · next hslashed =>
      split at h
      · cases h
      · next e he =>
        split at h
        · cases h
        · next hdirectory =>
          cases h
          exact ⟨t, e, ⟨ht, Bool.not_eq_true _ |>.mp hslashed, Bool.not_eq_true _ |>.mp hdots⟩, he,
            hdirectory, rfl⟩

/-! ## Taking the staging file away -/

section
variable {files : Files} {path : Text} {t : Target}

theorem Names.withoutFile_of_directory (h : files.Names path t)
    (hdirectory : files.entry? t.place = some .directory) : files.withoutFile path = files := by
  rw [withoutFile, h.entryItself_eq, hdirectory]

theorem Names.entry?_withoutFile (h : files.Names path t)
    (hdirectory : files.entry? t.place ≠ some .directory) :
    Files.entry? (files.withoutFile path) t.place = none := by
  rw [withoutFile, h.entryItself_eq]
  cases he : files.entry? t.place with
  | none => exact he
  | some e =>
    dsimp only
    split
    · next heq =>
      cases heq
      exact absurd he hdirectory
    · next heq =>
      cases heq
      exact entry?_remove files t.place_ne_nil
    · next heq => cases heq

/-- At most what the path names is taken away. -/
theorem Rooted.entry?_withoutFile_of_ne (hrooted : files.Rooted) {p : Place}
    (hp : ∀ t, files.Names path t → p ≠ t.place) :
    Files.entry? (files.withoutFile path) p = files.entry? p := by
  unfold withoutFile
  split
  · rfl
  · next place e hdirectory h =>
    obtain ⟨t, ht, rfl⟩ := (hrooted.entryItself_eq_ok h).resolve_left hdirectory
    exact entry?_remove_of_ne files (hp t ht)
  · rfl

end

/-! ## Writing as a whole -/

/-- The staging name of a path stands for a place. -/
def IsStaging (files : Files) (path : Text) (p : Place) : Prop :=
  ∃ s, files.Names (stagingPath path) s ∧ p = s.place

/-- After a file has been written as a whole, its place has the content, and nothing has the
staging name. -/
structure Replaced (before after : Files) (path : Text) (content : Bytes) (t : Target) : Prop where
  target : before.Names path t
  written : ∃ runs, after.entry? t.place = some (.file content runs)
  read : (∀ l, before.entry? t.place ≠ some (.link l)) → after.read path = .ok content
  staging : ∀ p, before.IsStaging path p → p ≠ t.place ∧ after.entry? p = none
  others : ∀ p, p ≠ t.place → ¬before.IsStaging path p → after.entry? p = before.entry? p

/-- After writing has been given up, every place is as it was; only a file that had the staging
name may be gone. -/
structure Kept (before after : Files) (path : Text) : Prop where
  target : ∀ t, before.target path = .ok t → after.entry? t.place = before.entry? t.place
  staging : ∀ p, before.IsStaging path p → after.entry? p = before.entry? p ∨
    after.entry? p = none ∧ ∃ content runs, before.entry? p = some (.file content runs)
  others : ∀ p, ¬before.IsStaging path p → after.entry? p = before.entry? p

/-- What is refused from outside while a file is written as a whole: the staging file, its content
behind so many bytes (or behind the last one, if it cannot be kept), or its way to the path. -/
inductive Trouble where
  | create (o : Obstacle)
  | write (count : Nat) (o : Obstacle)
  | move (o : Obstacle)

/-- Writing that is given up when the staging file has this content. -/
def giveUp (files : Files) (path : Text) (content : Bytes) (o : Obstacle) : Files × Option Obstacle :=
  match files.create (stagingPath path) content with
  | .error obstacle => (files.withoutFile (stagingPath path), some obstacle)
  | .ok staged => (staged.withoutFile (stagingPath path), some o)

/-- Writing a file as a whole, with trouble or without. -/
def replaceDespite (files : Files) (path : Text) (content : Bytes) :
    Option Trouble → Files × Option Obstacle
  | none => files.replace path content
  | some (.create o) => (files.withoutFile (stagingPath path), some o)
  | some (.write count o) => files.giveUp path (content.take count) o
  | some (.move o) => files.giveUp path content o

section
variable {files : Files} {path : Text}

theorem IsStaging.of_names {s : Target} (h : files.Names (stagingPath path) s) :
    files.IsStaging path s.place :=
  ⟨s, h, rfl⟩

theorem not_isStaging_of_target {t : Target} (h : files.target path = .ok t) :
    ¬files.IsStaging path t.place := fun ⟨_, hs, heq⟩ => hs.staging_ne h heq.symm

/-- The staging file, in its place, is moved to what the path names. -/
theorem replaced_of_move {s : Target} {content : Bytes} {runs : Bool} {staged moved : Files}
    (hs : files.Names (stagingPath path) s) (hways : SameWays files staged)
    (hhere : staged.here = files.here) (hstaged : staged.entry? s.place = some (.file content runs))
    (hothers : ∀ p, p ≠ s.place → staged.entry? p = files.entry? p)
    (h : staged.move s.place path = .ok moved) : ∃ t, Replaced files moved path content t := by
  obtain ⟨t, e, ht', he, hdirectory, rfl⟩ := move_eq_ok h
  obtain rfl : e = .file content runs := Option.some.inj (he.symm.trans hstaged)
  have ht := hways.symm.names hhere.symm ht'
  have hne := hs.staging_ne ht.target
  rw [hothers _ hne.symm] at hdirectory
  have hwritten := entry?_put (staged.remove s.place) t.place_ne_nil (.file content runs)
  refine ⟨t, ht, ⟨runs, hwritten⟩, fun hlink => ?_, ?_, fun p hp hstaging => ?_⟩
  · -- No path goes on through either place, so the path leads to the target as before.
    have hremoved : SameWays staged (staged.remove s.place) :=
      sameWays_remove (fun e he => Option.some.inj (hstaged.symm.trans he) ▸
        Entry.not_leads_file content runs) s.place_ne_nil
    have hput : SameWays (staged.remove s.place)
        ((staged.remove s.place).put t.place (.file content runs)) := by
      refine sameWays_put (fun e he => ?_) t.place_ne_nil (Entry.not_leads_file content runs)
      rw [entry?_remove_of_ne _ hne.symm, hothers _ hne.symm] at he
      rintro (rfl | ⟨l, rfl⟩)
      · exact hdirectory he
      · exact hlink l he
    exact (((hways.trans hremoved).trans hput).names hhere ht).read_eq hwritten
  · rintro _ ⟨s', hs', rfl⟩
    rw [← hs.unique hs', entry?_put_of_ne _ hne, entry?_remove _ s.place_ne_nil]
    exact ⟨hne, rfl⟩
  · have hps : p ≠ s.place := fun heq => hstaging (heq ▸ IsStaging.of_names hs)
    rw [entry?_put_of_ne _ hp, entry?_remove_of_ne _ hps, hothers p hps]

theorem giveUp_ne_none (content : Bytes) (o : Obstacle) : (files.giveUp path content o).2 ≠ none := by
  unfold giveUp
  split <;> nofun

variable (hrooted : files.Rooted) (hplain : ∀ p, files.IsStaging path p → files.Plain p)
include hrooted hplain

/-- A tree that differs from the first one at most in the file with the staging name. -/
theorem kept_withoutFile {staged : Files} (hways : SameWays files staged)
    (hhere : staged.here = files.here)
    (hothers : ∀ p, ¬files.IsStaging path p → staged.entry? p = files.entry? p) :
    Kept files (staged.withoutFile (stagingPath path)) path := by
  have hkept : ∀ p, ¬files.IsStaging path p →
      Files.entry? (staged.withoutFile (stagingPath path)) p = files.entry? p := fun p hp => by
    rw [(hways.rooted hrooted).entry?_withoutFile_of_ne, hothers p hp]
    rintro s hs rfl
    exact hp (.of_names (hways.symm.names hhere.symm hs))
  refine ⟨fun t ht => hkept _ (not_isStaging_of_target ht), ?_, hkept⟩
  rintro _ ⟨s, hs, rfl⟩
  have hs' := hways.names hhere hs
  -- A directory with the staging name stands in both trees and is not taken away.
  by_cases hdirectory : files.entry? s.place = some .directory
  · left
    rw [hs'.withoutFile_of_directory (hways.directory hdirectory), hways.directory hdirectory, hdirectory]
  · have hgone := hs'.entry?_withoutFile fun h => hdirectory (hways.symm.directory h)
    cases he : files.entry? s.place with
    | none => exact .inl hgone
    | some e =>
      obtain ⟨content, runs, rfl⟩ := (hplain _ (.of_names hs)).free hdirectory e he
      exact .inr ⟨hgone, content, runs, rfl⟩

theorem kept_of_create {content : Bytes} {staged : Files}
    (h : files.create (stagingPath path) content = .ok staged) :
    Kept files (staged.withoutFile (stagingPath path)) path := by
  obtain ⟨s, runs, hs, hfree, rfl⟩ := create_eq_ok (fun s hs => hplain _ (.of_names hs)) h
  refine kept_withoutFile hrooted hplain (hfree.sameWays s.place_ne_nil content runs) rfl fun p hp => ?_
  refine entry?_put_of_ne files (fun heq => ?_) _
  exact hp (heq ▸ IsStaging.of_names hs)

theorem kept_withoutFile_self : Kept files (files.withoutFile (stagingPath path)) path :=
  kept_withoutFile hrooted hplain (fun _ _ _ => Iff.rfl) rfl fun _ _ => rfl

theorem kept_giveUp (content : Bytes) (o : Obstacle) :
    Kept files (files.giveUp path content o).1 path := by
  unfold giveUp
  split
  · exact kept_withoutFile_self hrooted hplain
  · next staged h => exact kept_of_create hrooted hplain h

/-- Without trouble either the file is written as a whole, or the tree is kept. -/
theorem replace_spec (content : Bytes) :
    ((files.replace path content).2 = none →
      ∃ t, Replaced files (files.replace path content).1 path content t) ∧
    ((files.replace path content).2 ≠ none → Kept files (files.replace path content).1 path) := by
  unfold replace
  split
  · next o h => exact ⟨nofun, fun _ => kept_withoutFile_self hrooted hplain⟩
  · next staged h =>
    have hkept := kept_of_create hrooted hplain h
    obtain ⟨s, runs, hs, hfree, rfl⟩ := create_eq_ok (fun s hs => hplain _ (.of_names hs)) h
    have hways := hfree.sameWays s.place_ne_nil content runs
    have hs' := hways.names rfl hs
    have hstaged := entry?_put files s.place_ne_nil (.file content runs)
    rw [hs'.target]
    dsimp only
    cases hmove : (files.put s.place (.file content runs)).move s.place path with
    | error o =>
      refine ⟨nofun, fun _ => ?_⟩
      -- The entry that is taken away by its place is the one that the staging path names.
      rw [withoutFile, hs'.entryItself_eq, hstaged] at hkept
      exact hkept
    | ok moved =>
      refine ⟨fun _ => ?_, fun h => absurd rfl h⟩
      exact replaced_of_move hs hways rfl hstaged (fun p hp => entry?_put_of_ne files hp _) hmove

/-- With trouble writing fails, and the tree is kept then too. -/
theorem replaceDespite_spec (content : Bytes) (trouble : Option Trouble) :
    ((files.replaceDespite path content trouble).2 = none →
      trouble = none ∧ ∃ t, Replaced files (files.replaceDespite path content trouble).1 path content t) ∧
    ((files.replaceDespite path content trouble).2 ≠ none →
      Kept files (files.replaceDespite path content trouble).1 path) := by
  cases trouble with
  | none =>
    obtain ⟨hreplaced, hkept⟩ := replace_spec hrooted hplain content
    exact ⟨fun h => ⟨rfl, hreplaced h⟩, hkept⟩
  | some trouble =>
    cases trouble with
    | create o => exact ⟨nofun, fun _ => kept_withoutFile_self hrooted hplain⟩
    | write count o =>
      exact ⟨fun h => absurd h (giveUp_ne_none _ o), fun _ => kept_giveUp hrooted hplain _ o⟩
    | move o =>
      exact ⟨fun h => absurd h (giveUp_ne_none _ o), fun _ => kept_giveUp hrooted hplain _ o⟩

end

/-! ## Trees of files -/

theorem rooted_empty (here : Place) : Rooted ⟨∅, here⟩ := by
  intro p hp
  by_cases hroot : p = []
  · rw [hroot]
    rfl
  · cases (entry?_empty here hroot).symm.trans hp

theorem free_of_none {files : Files} {p : Place} (h : files.entry? p = none) : files.Free p :=
  fun _ he => nomatch h.symm.trans he

theorem Rooted.put {files : Files} (h : files.Rooted) {p : Place} (hfree : files.Free p) (hp : p ≠ [])
    (content : Bytes) (runs : Bool) : (files.put p (.file content runs)).Rooted :=
  (hfree.sameWays hp content runs).rooted h

theorem plain_empty (here p : Place) : Plain ⟨∅, here⟩ p := by
  intro e he
  by_cases hroot : p = []
  · rw [hroot] at he
    exact .inl (Option.some.inj he).symm
  · cases (entry?_empty here hroot).symm.trans he

theorem Plain.put {files : Files} {p : Place} (h : files.Plain p) {place : Place} (hplace : place ≠ [])
    (content : Bytes) (runs : Bool) : (files.put place (.file content runs)).Plain p := by
  intro e he
  by_cases hp : p = place
  · subst hp
    rw [entry?_put files hplace] at he
    exact .inr ⟨content, runs, (Option.some.inj he).symm⟩
  · rw [entry?_put_of_ne files hp] at he
    exact h e he

end Files

namespace CommandLine
open Files

/-- A result is written to a path, with trouble or without. -/
def deliverDespite (trouble : Option Trouble) (files : Files) (path content : Text) :
    Files × Except Failure Unit :=
  match files.replaceDespite path (Text.toBytes content) trouble with
  | (files, none) => (files, .ok ())
  | (files, some obstacle) => (files, .error (.file "write" path obstacle.message))

/-- Whatever the tree and the trouble, writing a document touches nothing but the target, which then
holds it, and the staging name. -/
theorem deliver_framed {files : Files} {path : Text} (hrooted : files.Rooted)
    (hplain : ∀ p, files.IsStaging path p → files.Plain p) (document : Json) :
    deliver files (some path) (printed document) = deliverDespite none files path (printed document) ∧
      ∀ trouble after result, deliverDespite trouble files path (printed document) = (after, result) →
        (result = .ok () →
          trouble = none ∧ ∃ t, Replaced files after path (Text.toBytes (printed document)) t) ∧
        (∀ f, result = .error f →
          (∃ obstacle : Obstacle, f = .file "write" path obstacle.message) ∧ Kept files after path) := by
  refine ⟨rfl, fun trouble after result h => ?_⟩
  have hspec := replaceDespite_spec hrooted hplain (Text.toBytes (printed document)) trouble
  unfold deliverDespite at h
  split at h
  · next files' heq =>
    cases h
    rw [heq] at hspec
    exact ⟨fun _ => hspec.1 rfl, nofun⟩
  · next files' obstacle heq =>
    cases h
    rw [heq] at hspec
    refine ⟨nofun, fun f hf => ?_⟩
    cases hf
    exact ⟨⟨obstacle, rfl⟩, hspec.2 nofun⟩

/-- A file of somebody else. -/
def mine : Entry := .file (Text.toBytes "mine\n") false

/-- A tree with an older result and a file that has the staging name. -/
def desk : Files :=
  ((⟨∅, []⟩ : Files).put ["out.json"] (.file (Text.toBytes "stale") false)).put ["out.json.tmp"] mine

/-- The same with a directory and a file that has the staging name of that. -/
def deskWithDrawer : Files := (desk.put ["drawer"] .directory).put ["drawer.json.tmp"] mine

/-- A solution with one value. -/
def answer : Json := .object [("x", .number ⟨false, "1", "0", none⟩)]

/-- The older result gives way to the new one. -/
theorem deliver_framed_desk :
    (deliver desk (some "out.json") (printed answer)).2 = .ok () ∧
      ∃ t, Replaced desk (deliver desk (some "out.json") (printed answer)).1 "out.json"
        (Text.toBytes (printed answer)) t := by
  have hrooted : desk.Rooted := by
    refine ((rooted_empty []).put (free_of_none ?_) (List.cons_ne_nil _ _) _ _).put (free_of_none ?_)
      (List.cons_ne_nil _ _) _ _
    · decide +kernel
    · decide +kernel
  have hplain : ∀ p, desk.IsStaging "out.json" p → desk.Plain p := fun p _ =>
    ((plain_empty [] p).put (List.cons_ne_nil _ _) _ _).put (List.cons_ne_nil _ _) _ _
  have hok : (deliver desk (some "out.json") (printed answer)).2 = .ok () := by rfl
  exact ⟨hok, (((deliver_framed hrooted hplain answer).2 none _ _ rfl).1 hok).2⟩

/-- A file that has the staging name is lost, whether the result is written or not. -/
theorem deliver_loses_staging :
    ((deliver desk (some "out.json") (printed answer)).2 = .ok () ∧
      desk.entry? ["out.json.tmp"] = some mine ∧
      Files.entry? (deliver desk (some "out.json") (printed answer)).1 ["out.json.tmp"] = none) ∧
    ((deliver deskWithDrawer (some "drawer") (printed answer)).2 =
        .error (.file "write" "drawer" Obstacle.isDirectory.message) ∧
      deskWithDrawer.entry? ["drawer.json.tmp"] = some mine ∧
      Files.entry? (deliver deskWithDrawer (some "drawer") (printed answer)).1
        ["drawer.json.tmp"] = none) := by
  refine ⟨⟨rfl, ?_, ?_⟩, rfl, ?_, ?_⟩
  · decide +kernel
  · decide +kernel
  · decide +kernel
  · decide +kernel

end CommandLine
end Equate
