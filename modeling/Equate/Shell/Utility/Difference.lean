import Std.Data.TreeMap
import Equate.Match.Notation
import Equate.Shell.Utility.Lines

/-!
# Comparing files

The lines of two files are matched with each other by a shortest sequence of changes,
which is found from both of its ends at once. Runs of changes are then moved to where
they meet others, or as far down as they can be.
-/
namespace Equate.Shell.Utility

/-! ## Changes between lists -/

/-- Two lists of things that are compared by numbers. -/
structure Pair where
  a : Array Nat
  b : Array Nat

/-- Things at two positions are equal. -/
def Pair.same (p : Pair) (x y : Int) : Bool :=
  match p.a[x.toNat]?, p.b[y.toNat]? with
  | some m, some n => m == n
  | _, _ => false

/-- A part of both lists. -/
structure Window where
  xoff : Int
  xlim : Int
  yoff : Int
  ylim : Int

/-- How far a search has come, by diagonals. -/
structure Front where
  reached : Std.TreeMap Int Int compare
  least : Int
  most : Int

/-- How far the search has come on a diagonal. -/
def Front.at? (f : Front) (d usual : Int) : Int := (f.reached[d]?).getD usual

/-- Equal things are passed downwards. -/
def Pair.slideDown (p : Pair) (w : Window) : Nat → Int → Int → Int
  | 0, x, _ => x
  | n + 1, x, y =>
    if x < w.xlim ∧ y < w.ylim ∧ p.same x y then p.slideDown w n (x + 1) (y + 1) else x

/-- Equal things are passed upwards. -/
def Pair.slideUp (p : Pair) (w : Window) : Nat → Int → Int → Int
  | 0, x, _ => x
  | n + 1, x, y =>
    if w.xoff < x ∧ w.yoff < y ∧ p.same (x - 1) (y - 1) then p.slideUp w n (x - 1) (y - 1) else x

/-- Far away. -/
def farAway : Int := 1000000000

/-- A front with one diagonal more at each end, as far as there are any. -/
def Front.widen (f : Front) (low high outside : Int) : Front :=
  let f := if low < f.least then
      { f with least := f.least - 1, reached := f.reached.insert (f.least - 2) outside }
    else { f with least := f.least + 1 }
  if f.most < high then
    { f with most := f.most + 1, reached := f.reached.insert (f.most + 2) outside }
  else { f with most := f.most - 1 }

/-- The diagonals of a front, the highest first. -/
def Front.diagonals (f : Front) : List Int :=
  (List.range (((f.most - f.least) / 2).toNat + 1)).filterMap fun (i : Nat) =>
    let d := f.most - 2 * (i : Int)
    if f.least ≤ d then some d else none

/-- A point on a shortest sequence of changes, where the searches from both ends meet. -/
def Pair.middle (p : Pair) (w : Window) : Nat → Front → Front → Int × Int
  | 0, _, _ => (w.xoff, w.yoff)
  | fuel + 1, forward, backward =>
    let low := w.xoff - w.ylim
    let high := w.xlim - w.yoff
    let odd := ((w.xoff - w.yoff) - (w.xlim - w.ylim)) % 2 ≠ 0
    let size := ((w.xlim - w.xoff) + (w.ylim - w.yoff)).toNat + 1
    let forward := forward.widen low high (-1)
    let (forward, met) := forward.diagonals.foldl (fun ((f, met) : Front × Option (Int × Int)) d =>
      if met.isSome then (f, met)
      else
        let below := f.at? (d - 1) (-1)
        let above := f.at? (d + 1) (-1)
        let start := if below < above then above else below + 1
        let x := p.slideDown w size start (start - d)
        let f := { f with reached := f.reached.insert d x }
        if odd ∧ backward.least ≤ d ∧ d ≤ backward.most ∧ backward.at? d farAway ≤ x then
          (f, some (x, x - d))
        else (f, none)) (forward, none)
    match met with
    | some found => found
    | none =>
      let backward := backward.widen low high farAway
      let (backward, met) := backward.diagonals.foldl
        (fun ((b, met) : Front × Option (Int × Int)) d =>
          if met.isSome then (b, met)
          else
            let below := b.at? (d - 1) farAway
            let above := b.at? (d + 1) farAway
            let start := if below < above then below else above - 1
            let x := p.slideUp w size start (start - d)
            let b := { b with reached := b.reached.insert d x }
            if ¬ odd ∧ forward.least ≤ d ∧ d ≤ forward.most ∧ x ≤ forward.at? d (-1) then
              (b, some (x, x - d))
            else (b, none)) (backward, none)
      match met with
      | some found => found
      | none => p.middle w fuel forward backward

/-- The positions that a shortest sequence of changes takes away from the first list, and
those that it adds from the second. -/
def Pair.changes (p : Pair) : Nat → Window → List Int × List Int
  | 0, _ => ([], [])
  | fuel + 1, w =>
    let size := ((w.xlim - w.xoff) + (w.ylim - w.yoff)).toNat + 1
    let x := p.slideDown w size w.xoff w.yoff
    let w := { w with xoff := x, yoff := w.yoff + (x - w.xoff) }
    let x := p.slideUp w size w.xlim w.ylim
    let w := { w with xlim := x, ylim := w.ylim - (w.xlim - x) }
    let span (a b : Int) : List Int := (List.range (b - a).toNat).map fun (i : Nat) => a + (i : Int)
    if w.xoff = w.xlim then ([], span w.yoff w.ylim)
    else if w.yoff = w.ylim then (span w.xoff w.xlim, [])
    else
      let f := w.xoff - w.yoff
      let b := w.xlim - w.ylim
      let (xmid, ymid) := p.middle w (size + 1)
        ⟨Std.TreeMap.empty.insert f w.xoff, f, f⟩ ⟨Std.TreeMap.empty.insert b w.xlim, b, b⟩
      let (a1, b1) := p.changes fuel { w with xlim := xmid, ylim := ymid }
      let (a2, b2) := p.changes fuel { w with xoff := xmid, yoff := ymid }
      (a1 ++ a2, b1 ++ b2)

/-! ## Moving runs of changes -/

/-- Which positions of a list change, and which of the other one. -/
structure Marks where
  changed : Array Bool
  other : Array Bool

/-- A run of changes: its first position, the one behind it, and the position in the other
list. -/
structure RunAt where
  marks : Marks
  start : Nat
  i : Nat
  j : Nat
  corresponding : Nat

/-- A mark; there are none outside. -/
def marked (a : Array Bool) (i : Nat) : Bool := a[i]?.getD false

/-- Behind a run of marks. -/
def skipMarked (a : Array Bool) : Nat → Nat → Nat
  | 0, i => i
  | n + 1, i => if marked a i then skipMarked a n (i + 1) else i

/-- In front of a run of marks that ends in front of a position. -/
def backMarked (a : Array Bool) : Nat → Nat → Nat
  | 0, i => i
  | n + 1, i => if 0 < i ∧ marked a (i - 1) then backMarked a n (i - 1) else i

/-- A run is moved up while the line in front of it is its last one. -/
def moveUp (lines : Array Nat) : Nat → RunAt → RunAt
  | 0, r => r
  | n + 1, r =>
    if 0 < r.start ∧ lines[r.start - 1]? = lines[r.i - 1]? then
      let changed := (r.marks.changed.setIfInBounds (r.start - 1) true).setIfInBounds (r.i - 1) false
      let start := backMarked changed changed.size (r.start - 1)
      let j := backMarked r.marks.other r.marks.other.size (r.j - 1)
      moveUp lines n { r with marks := { r.marks with changed }, start, i := r.i - 1, j }
    else r

/-- A run is moved down while the line behind it is its first one. -/
def moveDown (lines : Array Nat) : Nat → RunAt → RunAt
  | 0, r => r
  | n + 1, r =>
    if r.i < lines.size ∧ lines[r.start]? = lines[r.i]? then
      let changed := (r.marks.changed.setIfInBounds r.start false).setIfInBounds r.i true
      let i := skipMarked changed changed.size (r.i + 1)
      let j := skipMarked r.marks.other r.marks.other.size (r.j + 1)
      let corresponding := if j = r.j + 1 then r.corresponding else i
      moveDown lines n { r with marks := { r.marks with changed }, start := r.start + 1, i, j, corresponding }
    else r

/-- A run is moved back to where it meets a run in the other list. -/
def moveBack (lines : Array Nat) : Nat → RunAt → RunAt
  | 0, r => r
  | n + 1, r =>
    if r.corresponding < r.i ∧ 0 < r.start then
      let changed := (r.marks.changed.setIfInBounds (r.start - 1) true).setIfInBounds (r.i - 1) false
      let j := backMarked r.marks.other r.marks.other.size (r.j - 1)
      moveBack lines n { r with marks := { r.marks with changed }, start := r.start - 1, i := r.i - 1, j }
    else r

/-- A run is moved up and down until it does not grow any more. -/
def settle (lines : Array Nat) : Nat → RunAt → RunAt
  | 0, r => r
  | n + 1, r =>
    let length := r.i - r.start
    let r := moveUp lines lines.size r
    let meets := 0 < r.j && marked r.marks.other (r.j - 1)
    let r := { r with corresponding := if meets then r.i else lines.size }
    let r := moveDown lines lines.size r
    if r.i - r.start = length then r else settle lines n r

/-- All runs of a list are moved. -/
def moveRuns (lines : Array Nat) : Nat → Marks → (i j : Nat) → Marks
  | 0, m, _, _ => m
  | n + 1, m, i, j =>
    if lines.size ≤ i then m
    else if !marked m.changed i then
      moveRuns lines n m (i + 1) (skipMarked m.other m.other.size j + 1)
    else
      let last := skipMarked m.changed m.changed.size i
      let j := skipMarked m.other m.other.size j
      let r := settle lines (lines.size + 2) ⟨m, i, last, j, lines.size⟩
      let r := moveBack lines lines.size r
      moveRuns lines n r.marks r.i r.j

/-! ## Hunks -/

/-- A change: the lines from a position on, so many of each file. -/
structure Hunk where
  first : Nat
  removed : Nat
  second : Nat
  added : Nat

/-- The changes that marks say. -/
def hunks (a b : Array Bool) : Nat → (i j : Nat) → List Hunk
  | 0, _, _ => []
  | n + 1, i, j =>
    if marked a i || marked b j then
      let i' := skipMarked a a.size i
      let j' := skipMarked b b.size j
      ⟨i, i' - i, j, j' - j⟩ :: hunks a b n i' j'
    else if a.size ≤ i ∧ b.size ≤ j then []
    else hunks a b n (i + 1) (j + 1)

/-- The changes between two lists of lines, as they are compared. -/
def lineHunks (a b : List Octets) : List Hunk :=
  let (numbers, _) := (a ++ b).foldl (fun ((ns, known) : List Nat × Std.TreeMap Octets Nat compare) line =>
    match known[line]? with
    | some n => (n :: ns, known)
    | none => (known.size :: ns, known.insert line known.size)) ([], Std.TreeMap.empty)
  let numbers := numbers.reverse
  let x := (numbers.take a.length).toArray
  let y := (numbers.drop a.length).toArray
  -- Lines that the other file does not have are changes in any case.
  let inX := x.foldl (fun (s : Std.TreeMap Nat Unit compare) n => s.insert n ()) Std.TreeMap.empty
  let inY := y.foldl (fun (s : Std.TreeMap Nat Unit compare) n => s.insert n ()) Std.TreeMap.empty
  let keptX := (x.toList.zipIdx.filter fun (n, _) => inY.contains n).toArray
  let keptY := (y.toList.zipIdx.filter fun (n, _) => inX.contains n).toArray
  let p : Pair := ⟨keptX.map (·.1), keptY.map (·.1)⟩
  let (removed, added) := p.changes (2 * (keptX.size + keptY.size) + 4)
    ⟨0, keptX.size, 0, keptY.size⟩
  let mark (size : Nat) (kept : Array (Nat × Nat)) (changed : List Int) : Array Bool :=
    let start := kept.foldl (fun (m : Array Bool) (_, i) => m.setIfInBounds i false)
      (Array.replicate size true)
    changed.foldl (fun m k => match kept[k.toNat]? with
      | some (_, i) => m.setIfInBounds i true
      | none => m) start
  let a' := mark x.size keptX removed
  let b' := mark y.size keptY added
  let first := moveRuns x (x.size + 1) ⟨a', b'⟩ 0 0
  let second := moveRuns y (y.size + 1) ⟨first.other, first.changed⟩ 0 0
  hunks second.other second.changed (x.size + y.size + 2) 0 0

/-- A line of a difference, with what is said if it has no end. -/
def shownLine (front : String) (line : Octets) : Octets :=
  lit front ++ if line.getLast? = some '\n' then line
    else line ++ lit "\n\\ No newline at end of file\n"

/-- A range of lines: its first and last number. -/
def rangeText (first count : Nat) : Octets :=
  if count = 0 then Text.decimal first
  else if count = 1 then Text.decimal (first + 1)
  else Text.decimal (first + 1) ++ [','] ++ Text.decimal (first + count)

/-- A change in the usual form. -/
def Hunk.normal (a b : Array Octets) (h : Hunk) : Octets :=
  let letter := if h.removed = 0 then 'a' else if h.added = 0 then 'd' else 'c'
  rangeText h.first h.removed ++ [letter] ++ rangeText h.second h.added ++ ['\n'] ++
    ((a.extract h.first (h.first + h.removed)).toList.flatMap (shownLine "< ")) ++
    (if letter = 'c' then lit "---\n" else []) ++
    ((b.extract h.second (h.second + h.added)).toList.flatMap (shownLine "> "))

/-- A change as commands of an editor. -/
def Hunk.edit (b : Array Octets) (h : Hunk) : Octets :=
  let lines := (b.extract h.second (h.second + h.added)).toList
  let letter := if h.removed = 0 then 'a' else if h.added = 0 then 'd' else 'c'
  rangeText h.first h.removed ++ [letter, '\n'] ++
    if h.added = 0 then [] else lines.flatten ++ lit ".\n"

/-- Changes that are near each other, with so many lines around them. -/
def nearby (context : Nat) : List Hunk → List (List Hunk)
  | [] => []
  | h :: rest =>
    match nearby context rest with
    | (g :: more) :: groups =>
      if g.first ≤ h.first + h.removed + 2 * context then (h :: g :: more) :: groups
      else [h] :: (g :: more) :: groups
    | groups => [h] :: groups

/-- The ranges that a group of changes covers with the lines around it. -/
def coverage (context sizeA sizeB : Nat) (group : List Hunk) : Nat × Nat × Nat × Nat :=
  match group.head?, group.getLast? with
  | some h, some l =>
    let before := min context (min h.first h.second)
    let lastA := min sizeA (l.first + l.removed + context)
    let lastB := min sizeB (l.second + l.added + context)
    (h.first - before, lastA, h.second - before, lastB)
  | _, _ => (0, 0, 0, 0)

/-- A range in the form with a start and a count. -/
def unifiedRange (first last : Nat) : Octets :=
  if last = first + 1 then Text.decimal (first + 1)
  else if last = first then Text.decimal first ++ lit ",0"
  else Text.decimal (first + 1) ++ [','] ++ Text.decimal (last - first)

/-- A group of changes with the lines around it, in one column. -/
def unified (context : Nat) (a b : Array Octets) (group : List Hunk) : Octets :=
  let (a0, a1, b0, b1) := coverage context a.size b.size group
  let (body, reached, _) := group.foldl (fun ((t, i, _) : Octets × Nat × Nat) h =>
    (t ++ (a.extract i h.first).toList.flatMap (shownLine " ") ++
      (a.extract h.first (h.first + h.removed)).toList.flatMap (shownLine "-") ++
      (b.extract h.second (h.second + h.added)).toList.flatMap (shownLine "+"),
      h.first + h.removed, 0)) ([], a0, 0)
  lit "@@ -" ++ unifiedRange a0 a1 ++ lit " +" ++ unifiedRange b0 b1 ++ lit " @@\n" ++ body ++
    (a.extract reached a1).toList.flatMap (shownLine " ")

/-- A group of changes with the lines around it, in two parts. -/
def inContext (context : Nat) (a b : Array Octets) (group : List Hunk) : Octets :=
  let (a0, a1, b0, b1) := coverage context a.size b.size group
  let range (first last : Nat) : Octets :=
    if last ≤ first + 1 then Text.decimal last else Text.decimal (first + 1) ++ [','] ++ Text.decimal last
  let part (lines : Array Octets) (first last : Nat) (start count other : Hunk → Nat) (sign : String) :
      Octets :=
    if group.all fun h => count h = 0 then []
    else
      let (t, i) := group.foldl (fun ((t, i) : Octets × Nat) h =>
        let front := if 0 < other h then "! " else sign
        (t ++ (lines.extract i (start h)).toList.flatMap (shownLine "  ") ++
          (lines.extract (start h) (start h + count h)).toList.flatMap (shownLine front),
          start h + count h)) ([], first)
      t ++ (lines.extract i last).toList.flatMap (shownLine "  ")
  lit "***************\n*** " ++ range a0 a1 ++ lit " ****\n" ++
    part a a0 a1 Hunk.first Hunk.removed Hunk.added "- " ++
    lit "--- " ++ range b0 b1 ++ lit " ----\n" ++
    part b b0 b1 Hunk.second Hunk.added Hunk.removed "+ "

/-! ## Programs -/

/-- How lines are compared. -/
structure LineView where
  folded : Bool
  noBlanks : Bool
  fewBlanks : Bool
  noTrailing : Bool

/-- A line as it is compared. -/
def LineView.view (v : LineView) (line : Octets) : Octets :=
  let isBlank (c : Char) : Bool := isSpace c
  let t := if v.folded then line.map Char.toLower else line
  if v.noBlanks then t.filter fun c => !isBlank c
  else if v.fewBlanks then
    let (kept, _) := t.foldl (fun ((t, blank) : Octets × Bool) c =>
      if isBlank c then (t, true) else (c :: (if blank then ' ' :: t else t), false)) ([], false)
    kept.reverse
  else if v.noTrailing then (t.reverse.dropWhile isBlank).reverse
  else t

/-- How differences are shown. -/
structure DiffStyle where
  name : Octets
  view : LineView
  blankLines : Bool
  brief : Bool
  same : Bool
  unified : Option Nat
  context : Option Nat
  edit : Bool
  deep : Bool
  absent : Bool
  asText : Bool
  labels : List Octets
  command : Octets

/-- The difference of two contents; whether there is any. -/
def showDifference (o : DiffStyle) (first second : Octets) (a b : Octets) (header : Octets) :
    Act Bool := do
  if a = b then
    if o.same then say (lit "Files " ++ first ++ lit " and " ++ second ++ lit " are identical\n")
    return false
  else if !o.asText && (a.contains '\x00' || b.contains '\x00') then
    say (header ++ lit (if o.brief then "Files " else "Binary files ") ++ first ++ lit " and " ++ second ++
      lit " differ\n")
    return true
  else
    let linesA := fullLines a
    let linesB := fullLines b
    let all := lineHunks (linesA.map o.view.view) (linesB.map o.view.view)
    let (x, y) := (linesA.toArray, linesB.toArray)
    let all := if o.blankLines then
        all.filter fun h =>
          !((x.extract h.first (h.first + h.removed)).toList ++
            (y.extract h.second (h.second + h.added)).toList).all fun l => (chomp l).isEmpty
      else all
    if all.isEmpty then
      if o.same then say (lit "Files " ++ first ++ lit " and " ++ second ++ lit " are identical\n")
      return false
    else if o.brief then
      say (lit "Files " ++ first ++ lit " and " ++ second ++ lit " differ\n")
      return true
    else
      let time := lit "\t1970-01-01 00:00:00.000000000 +0000"
      let label (i : Nat) (path : Octets) : Octets := (o.labels[i]?).getD (path ++ time)
      let t := match o.unified, o.context with
        | some n, _ =>
          lit "--- " ++ label 0 first ++ lit "\n+++ " ++ label 1 second ++ ['\n'] ++
            (nearby n all).flatMap (unified n x y)
        | none, some n =>
          lit "*** " ++ label 0 first ++ lit "\n--- " ++ label 1 second ++ ['\n'] ++
            (nearby n all).flatMap (inContext n x y)
        | none, none =>
          if o.edit then all.reverse.flatMap (Hunk.edit y) else all.flatMap (Hunk.normal x y)
      say (header ++ t)
      return true

/-- The difference of two directories, so deep at most. The status is given. -/
def diffDirectories (o : DiffStyle) : Nat → Octets → Octets → Act Nat
  | 0, _, _ => return 0
  | fuel + 1, first, second => do
    let namesOf (path : Octets) : Act (List Octets) := do
      let files ← files
      match files.place (decode path) with
      | .ok place => return (files.names place).map encode
      | .error _ => return []
    let a ← namesOf first
    let b ← namesOf second
    let all := inOrder (a ++ b.filter fun n => !a.contains n)
    all.foldlM (fun status n => do
      let x := first ++ ['/'] ++ n
      let y := second ++ ['/'] ++ n
      let files ← files
      let isDirectory (path : Octets) : Bool := match files.find (decode path) with
        | .ok .directory => true
        | _ => false
      let missing := !a.contains n || !b.contains n
      if missing && !o.absent then
        say (lit "Only in " ++ (if a.contains n then first else second) ++ lit ": " ++ n ++ ['\n'])
        return max status 1
      else if (isDirectory x || !a.contains n) && (isDirectory y || !b.contains n) then
        if o.deep then return max status (← diffDirectories o fuel x y)
        else
          say (lit "Common subdirectories: " ++ x ++ lit " and " ++ y ++ ['\n'])
          return status
      else if isDirectory x || isDirectory y then
        let kind (path : Octets) : Octets := if isDirectory path then lit "directory"
          else if (files.read (decode path)).toOption = some [] then lit "regular empty file"
          else lit "regular file"
        say (lit "File " ++ x ++ lit " is a " ++ kind x ++ lit " while file " ++ y ++ lit " is a " ++
          kind y ++ ['\n'])
        return max status 1
      else
        let content (path : Octets) : Octets := match files.read (decode path) with
          | .ok t => ofBytes t
          | .error _ => []
        let differs ← showDifference o x y (content x) (content y)
          (o.command ++ [' '] ++ x ++ [' '] ++ y ++ ['\n'])
        return max status (if differs then 1 else 0)) 0

/-- The words for the options of `diff`. -/
def diffWords : List (String × Char) :=
  [("brief", 'q'), ("report-identical-files", 's'), ("context", 'κ'), ("unified", 'υ'), ("ed", 'e'),
    ("recursive", 'r'), ("new-file", 'N'), ("ignore-case", 'i'), ("ignore-trailing-space", 'Z'),
    ("ignore-space-change", 'b'), ("ignore-all-space", 'w'), ("ignore-blank-lines", 'B'),
    ("text", 'a'), ("label", 'L'), ("normal", 'ν'), ("minimal", 'd'), ("color", 'χ'),
    ("strip-trailing-cr", 'ρ'), ("expand-tabs", 't')]

/-- The differences of two files or directories. -/
def diff : Utility := fun name arguments => do
  let misused (words : Octets) : Act Nat := do
    blame name words
    blame name (lit "Try '" ++ name ++ lit " --help' for more information.")
    return 2
  match (⟨"qscuC:U:erNibwBZaL:dtχ::νρκ::υ::".toList, diffWords⟩ : Spelling).read arguments with
  | .error words => misused words
  | .ok g =>
  match g.operands with
  | [] => misused (lit "missing operand after '" ++ (arguments.getLast?.getD name) ++ ['\''])
  | [a] => misused (lit "missing operand after '" ++ a ++ ['\''])
  | _ :: _ :: extra :: _ => misused (lit "extra operand '" ++ extra ++ ['\''])
  | [first, second] =>
    let count (plain valued : Char) (word : Char) : Option Nat :=
      match g.value? valued with
      | some t => some ((natural? t).getD 3)
      | none =>
        match g.value? word with
        | some t => some ((natural? t).getD 3)
        | none => if g.has plain then some 3 else none
    let options := (arguments.filter fun a => a.head? = some '-' && a != ['-'])
    let o : DiffStyle :=
      { name, view := ⟨g.has 'i', g.has 'w', g.has 'b', g.has 'Z'⟩, blankLines := g.has 'B'
        brief := g.has 'q', same := g.has 's', unified := count 'u' 'U' 'υ'
        context := count 'c' 'C' 'κ', edit := g.has 'e', deep := g.has 'r', absent := g.has 'N'
        asText := g.has 'a', labels := g.values 'L'
        command := Text.joinWith [' '] (lit "diff" :: options) }
    let files ← files
    let isDirectory (path : Octets) : Bool := match files.find (decode path) with
      | .ok .directory => true
      | _ => false
    if isDirectory first && isDirectory second then diffDirectories o 40 first second
    else
      let nameOf (path : Octets) : Octets := ((Text.splitOn '/' path).getLast?).getD path
      let first' := if isDirectory first then first ++ ['/'] ++ nameOf second else first
      let second' := if isDirectory second then second ++ ['/'] ++ nameOf first else second
      let a ← contentOf first'
      let b ← contentOf second'
      match a, b with
      | .ok a, .ok b => return if ← showDifference o first' second' a b [] then 1 else 0
      | _, _ =>
        let content (path : Octets) (r : Except Obstacle Octets) : Act (Option Octets) := do
          match r with
          | .ok t => return some t
          | .error obstacle =>
            if o.absent && obstacle = .missing then return some []
            else blame name (atFile path obstacle); return none
        let a ← content first' a
        let b ← content second' b
        match a, b with
        | some a, some b => return if ← showDifference o first' second' a b [] then 1 else 0
        | _, _ => return 2

/-- The first byte in which two files differ. -/
def cmp : Utility := fun name arguments => do
  let misused (words : Octets) : Act Nat := do
    blame name words
    blame name (lit "Try '" ++ name ++ lit " --help' for more information.")
    return 2
  match (⟨"sbln:i:".toList, [("silent", 's'), ("quiet", 's'), ("print-bytes", 'b'), ("verbose", 'l'),
      ("bytes", 'n'), ("ignore-initial", 'i')]⟩ : Spelling).read arguments with
  | .error words => misused words
  | .ok g =>
  match g.operands with
  | [] => misused (lit "missing operand after '" ++ name ++ ['\''])
  | first :: rest =>
    let second := rest.headD ['-']
    let skips := match g.value? 'i' with
      | some t =>
        match Text.splitAt? ':' t with
        | some (a, b) => ((countOf? a).getD 0, (countOf? b).getD 0)
        | none => ((countOf? t).getD 0, (countOf? t).getD 0)
      | none => (((rest[1]?).bind countOf?).getD 0, ((rest[2]?).bind countOf?).getD 0)
    match ← contentOf first with
    | .error obstacle =>
      if !g.has 's' then blame name (atFile first obstacle)
      return 2
    | .ok a =>
      match ← contentOf second with
      | .error obstacle =>
        if !g.has 's' then blame name (atFile second obstacle)
        return 2
      | .ok b =>
        let limit (t : Octets) : Octets := match (g.value? 'n').bind countOf? with
          | some n => t.take n
          | none => t
        let a := limit (a.drop skips.1)
        let b := limit (b.drop skips.2)
        let pairs := (List.zip a b).zipIdx 1
        let different := pairs.filter fun ((x, y), _) => x != y
        let octal (c : Char) : Octets :=
          let t := Nat.toDigits 8 c.toNat
          List.replicate (3 - t.length) ' ' ++ t
        let shown (c : Char) : Octets :=
          let low (c : Char) : Octets := if c < ' ' then ['^', Char.ofNat (c.toNat + 64)]
            else if c = '\x7f' then ['^', '?'] else [c]
          if 128 ≤ c.toNat then 'M' :: '-' :: low (Char.ofNat (c.toNat - 128)) else low c
        if !g.has 's' then
          if g.has 'l' then
            let width := (Text.decimal (max a.length b.length)).length
            say (different.flatMap fun ((x, y), n) =>
              column width n ++ [' '] ++ octal x ++
                (if g.has 'b' then [' '] ++ shown x ++ List.replicate (4 - (shown x).length) ' ' else []) ++
                [' '] ++ octal y ++ (if g.has 'b' then [' '] ++ shown y else []) ++ ['\n'])
          else
            match different with
            | ((x, y), n) :: _ =>
              let line := (a.take (n - 1)).count '\n' + 1
              say (first ++ [' '] ++ second ++ lit (if g.has 'b' then " differ: byte " else " differ: char ") ++
                Text.decimal n ++ lit ", line " ++ Text.decimal line ++
                (if g.has 'b' then lit " is " ++ octal x ++ [' '] ++ shown x ++ [' '] ++ octal y ++ [' '] ++ shown y
                  else []) ++ ['\n'])
            | [] => pure ()
          if (different.isEmpty || g.has 'l') && a.length ≠ b.length then
            let (path, t) := if a.length < b.length then (first, a) else (second, b)
            blame name (lit "EOF on " ++ path ++
              if t.isEmpty then lit " which is empty"
              else
                lit " after byte " ++ Text.decimal t.length ++
                  if g.has 'l' then []
                  else if t.getLast? = some '\n' then lit ", line " ++ Text.decimal (t.count '\n')
                  else lit ", in line " ++ Text.decimal (t.count '\n' + 1))
        return if different.isEmpty && a.length = b.length then 0 else 1

end Equate.Shell.Utility
