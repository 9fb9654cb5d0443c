import Equate.Shell.Utility.Basic
import Equate.Shell.Utility.EditScript
import Equate.Shell.Utility.Search

/-!
# Editing lines by a script

Each line goes through the commands of a script, which apply where their addresses hold.
What is to be appended comes behind the line, before the next one is read.
-/
namespace Equate.Shell.Utility

/-- What is shown behind a line. -/
inductive Appended where
  | text (t : Octets)
  | file (path : Octets)

/-- A range of lines that is open: where it ends, if that is known by a number. -/
structure OpenRange where
  command : Nat
  last : Option Nat

/-- The state of editing. -/
structure Editor where
  space : Octets
  held : Octets
  /-- The line had its end. -/
  ended : Bool
  number : Nat
  /-- What comes behind the line, the last first. -/
  appended : List Appended
  replaced : Bool
  ranges : List OpenRange
  /-- The lines that are left of the file, with their ends. -/
  lines : List Octets
  paths : List Octets
  path : Octets
  /-- The last expression that was used, and how it compares letters. -/
  used : Option (Match × Bool)
  /-- What has been shown, the last first. -/
  output : List Octets
  /-- The last thing that was shown had no end of a line. -/
  unended : Bool
  /-- Files of which single lines are read, with what is left of them. -/
  sources : List (Octets × List Octets)
  status : Nat

/-- How lines are edited. -/
structure EditOptions where
  name : Octets
  quiet : Bool
  separate : Bool
  inPlace : Option Octets
  /-- The character at the end of lines. -/
  mark : Char
  width : Nat

/-- Editing. -/
abbrev Editing := StateT Editor Act

namespace Editing

/-- What has been shown goes to where it belongs. -/
def flush (o : EditOptions) : Editing Unit := do
  let e ← get
  let t := e.output.reverse.flatten
  set { e with output := [] }
  match o.inPlace with
  | none => if !t.isEmpty then (say t : Act Unit)
  | some suffix =>
    if e.path != [] && e.path != ['-'] then
      let files ← (files : Act Files)
      let old := (files.read (decode e.path)).toOption.getD []
      let files := if suffix = [] then files
        else
          let name := if suffix.contains '*' then
              suffix.flatMap fun c => if c = '*' then e.path else [c]
            else e.path ++ suffix
          (files.create (decode name) old).toOption.getD files
      match files.create (decode e.path) (toBytes t) with
      | .ok files => (setFiles files : Act Unit)
      | .error _ => pure ()

/-- Shows a text, which ends a line or not. -/
def put (o : EditOptions) (t : Octets) : Editing Unit :=
  modify fun e =>
    let t := if e.unended then o.mark :: t else t
    { e with output := t :: e.output, unended := false }

/-- Shows a line. -/
def putLine (o : EditOptions) (t : Octets) (ended : Bool) : Editing Unit := do
  put o (if ended then t ++ [o.mark] else t)
  modify fun e => { e with unended := !ended }

/-- Writes a line to a file. -/
def writeLine (o : EditOptions) (path t : Octets) (ended : Bool) : Editing Unit := do
  if path = lit "/dev/stdout" then putLine o t ended
  else if path = lit "/dev/stderr" then
    let _ ← (write 2 (t ++ ['\n']) : Act Bool)
  else
    let files ← (files : Act Files)
    let old := (files.read (decode path)).toOption.getD []
    match files.create (decode path) (old ++ toBytes (if ended then t ++ [o.mark] else t)) with
    | .ok files => (setFiles files : Act Unit)
    | .error _ => pure ()

/-- What was to be appended is shown. -/
def showAppended (o : EditOptions) : Editing Unit := do
  let all := (← get).appended.reverse
  modify fun e => { e with appended := [] }
  all.forM fun a => do
    match a with
    | .text t => put o t
    | .file path =>
      let content ← if path = lit "/dev/stdin" then
          pure ((← (readAll 0 : Act (Option Octets))).getD [])
        else
          match ← (contentOf path : Act (Except Obstacle Octets)) with
          | .ok content => pure (if path = ['-'] then [] else content)
          | .error _ => pure []
      if !content.isEmpty then put o content

/-- The lines of a text. -/
def linesOf (mark : Char) (t : Octets) : List Octets :=
  if mark = '\n' then fullLines t
  else
    let parts := Text.splitOn mark t
    let front := parts.dropLast.map fun p => p ++ [mark]
    if parts.getLast? = some [] then front else front ++ parts.drop (parts.length - 1)

/-- Opens the next files until one has lines. -/
def openNext (o : EditOptions) : Nat → Editing Bool
  | 0 => return false
  | n + 1 => do
    let e ← get
    match e.paths with
    | [] => return false
    | path :: paths =>
      if o.inPlace.isSome then flush o
      match ← (contentOf path : Act (Except Obstacle Octets)) with
      | .error obstacle =>
        (blame o.name (if obstacle = .isDirectory then
            if o.inPlace.isSome then lit "couldn't edit " ++ path ++ lit ": not a regular file"
            else lit "couldn't read " ++ path ++ lit ": Is a directory"
          else lit "can't read " ++ atFile path obstacle) : Act Unit)
        modify fun e => { e with
          paths, path := [], status := if o.inPlace.isSome && obstacle = .isDirectory then 4 else 2 }
        openNext o n
      | .ok content =>
        modify fun e => { e with paths, path, lines := linesOf o.mark content }
        if o.separate then
          modify fun e => { e with number := 0, ranges := [] }
        if content.isEmpty then openNext o n else return true

/-- The next line becomes the space, or is added to it. -/
def readLine (o : EditOptions) (adding : Bool) : Editing Bool := do
  showAppended o
  modify fun e => { e with replaced := if adding then e.replaced else false }
  let there ← if (← get).lines.isEmpty then openNext o ((← get).paths.length + 1) else pure true
  let e ← get
  match there, e.lines with
  | true, line :: rest =>
    let ended := line.getLast? == some o.mark
    let line := if ended then line.dropLast else line
    set { e with
      lines := rest, ended, number := e.number + 1
      space := if adding then e.space ++ o.mark :: line else line }
    return true
  | _, _ => return false

/-- No line follows. -/
def isLast (o : EditOptions) : Editing Bool := do
  let e ← get
  if !e.lines.isEmpty then return false
  else if o.separate then return true
  else
    let files ← (files : Act Files)
    return !e.paths.any fun p =>
      if p = ['-'] then true
      else
        match files.read (decode p) with
        | .ok content => !content.isEmpty
        | .error _ => false

/-- An expression matches in the space. -/
def fits (e? : Option Match) (folded : Bool) : Editing (Option (Match × Bool)) := do
  match e? with
  | some e =>
    modify fun s => { s with used := some (e, folded) }
    return some (e, folded)
  | none => return (← get).used

/-- An address holds for the line. -/
def holds (o : EditOptions) : Address → Editing Bool
  | .line n => return (← get).number == n
  | .step first every => do
    let n := (← get).number
    return if every = 0 then n == first else first ≤ n && (n - first) % every == 0
  | .last => isLast o
  | .fits e? folded => do
    match ← fits e? folded with
    | some (e, folded) => return (e.search? (subject folded (← get).space) false 0).isSome
    | none =>
      (blame o.name (lit "-e expression #1, char 0: no previous regular expression") : Act Unit)
      throw .failed

/-- A range ends at the line that it begins with, or it stays open. -/
def begin (o : EditOptions) (index : Nat) (last : Address.End) : Editing Unit := do
  let n := (← get).number
  let openTo (last : Option Nat) : Editing Unit :=
    modify fun e => { e with ranges := ⟨index, last⟩ :: e.ranges }
  match last with
  | .at (.line m) => if n < m then openTo (some m)
  | .further m => if 0 < m then openTo (some (n + m))
  | .multiple m => if 0 < m ∧ n % m ≠ 0 then openTo (some (n + (m - n % m)))
  | .at .last => if !(← isLast o) then openTo none
  | .at _ => openTo none

/-- A command applies to the line. -/
def applies (o : EditOptions) (index : Nat) (c : EditCommand) : Editing Bool := do
  match c.first, c.last with
  | none, _ => return true
  | some a, none => holds o a
  | some a, some last =>
    let e ← get
    let close : Editing Unit :=
      modify fun e => { e with ranges := e.ranges.filter fun r => r.command != index }
    match e.ranges.find? fun r => r.command == index with
    | some r =>
      match r.last, last with
      | some m, _ =>
        if e.number ≥ m then close
        if e.number > m then
          -- The line is behind the end, so the range is over unless it begins again.
          if ← holds o a then
            begin o index last
            return true
          else return false
        else return true
      | none, .at b =>
        if ← holds o b then close
        return true
      | none, _ => return true
    | none =>
      match a, last with
      | .line 0, .at b =>
        if e.number = 1 then
          if !(← holds o b) then
            modify fun e => { e with ranges := ⟨index, none⟩ :: e.ranges }
          return true
        else return false
      | _, _ =>
        if ← holds o a then
          begin o index last
          return true
        else return false

/-- How letters are to be changed: always, and the next one. -/
structure Casings where
  always : Casing
  once : Casing

/-- A text with its letters changed. -/
def cased (k : Casings) (t : Octets) : Octets × Casings :=
  match t with
  | [] => ([], k)
  | c :: rest =>
    let change (k : Casing) (c : Char) : Char :=
      match k with
      | .upper => c.toUpper
      | .upperNext => c.toUpper
      | .lower => c.toLower
      | .lowerNext => c.toLower
      | .none => c
    let first := if k.once = .none then change k.always c else change k.once c
    (first :: rest.map (change k.always), { k with once := .none })

/-- What stands for a match. -/
def filled (s : Match.Subject) (f : Match.Found) (filling : List Filling) : Octets :=
  let (t, _) := filling.foldl (fun (t, k) part =>
    match part with
    | .casing c =>
      if c = .upperNext ∨ c = .lowerNext then (t, { k with once := c })
      else (t, ⟨c, .none⟩)
    | .text u =>
      let (u, k) := cased k u
      (u.reverse ++ t, k)
    | .group 0 =>
      let (u, k) := cased k (s.slice f.first f.last)
      (u.reverse ++ t, k)
    | .group n =>
      let (u, k) := cased k (match f.groups.lookup n with
        | some (first, last) => s.slice first last
        | none => [])
      (u.reverse ++ t, k)) (([] : Octets), (⟨.none, .none⟩ : Casings))
  t.reverse

/-- The text with the matches from a number on replaced, or only that one. -/
def replace (e : Match) (folded : Bool) (sub : Substitution) (t : Octets) : Option Octets :=
  let s := subject folded t
  let nth := max sub.nth 1
  let matched := e.findAll s true
  let chosen := if sub.all then matched.drop (nth - 1) else (matched.drop (nth - 1)).take 1
  if chosen.isEmpty then none
  else
    let (front, last) := chosen.foldl (fun (front, last) f =>
      ((filled s f sub.filling) :: s.slice last f.first :: front, f.last)) (([] : List Octets), 0)
    some (front.reverse.flatten ++ s.slice last s.text.size)

/-- A character as it is listed. -/
def listedChar (c : Char) : Octets :=
  match c with
  | '\\' => ['\\', '\\']
  | '\x07' => ['\\', 'a']
  | '\x08' => ['\\', 'b']
  | '\x0c' => ['\\', 'f']
  | '\n' => ['\\', 'n']
  | '\r' => ['\\', 'r']
  | '\t' => ['\\', 't']
  | '\x0b' => ['\\', 'v']
  | c =>
    if ' ' ≤ c ∧ c ≤ '~' then [c]
    else
      let n := c.toNat
      ['\\', Char.ofNat (48 + n / 64), Char.ofNat (48 + n / 8 % 8), Char.ofNat (48 + n % 8)]

/-- A line as it is listed, in rows of so many characters. -/
def listed (width : Nat) (t : Octets) : Octets :=
  let (rows, row) := t.foldl (fun (rows, row) c =>
    let shown := listedChar c
    if 1 < width ∧ width - 1 < row.length + shown.length then
      (rows ++ row ++ ['\\', '\n'], shown)
    else (rows, row ++ shown)) (([] : Octets), ([] : Octets))
  rows ++ row ++ ['$', '\n']

/-- The first line of the space, and what follows it. -/
def firstLine (o : EditOptions) (t : Octets) : Octets × Option Octets :=
  match Text.splitAt? o.mark t with
  | some (a, b) => (a, some b)
  | none => (t, none)

/-- How it goes on behind a command. -/
inductive After where
  | next
  | jump (index : Nat)
  /-- The line is done, and shown or not. -/
  | done (shown : Bool)
  /-- The commands begin again without another line. -/
  | restart
  | quit (status : Nat) (shown : Bool)

/-- The index behind the block that opens at an index. -/
def behindBlock (all : Array EditCommand) : Nat → (depth : Nat) → (index : Nat) → Nat
  | 0, _, index => index
  | n + 1, depth, index =>
    match all[index]? with
    | none => index
    | some c =>
      match c.deed with
      | .opening => behindBlock all n (depth + 1) (index + 1)
      | .closing => if depth ≤ 1 then index + 1 else behindBlock all n (depth - 1) (index + 1)
      | _ => behindBlock all n depth (index + 1)

/-- The index of a label; the end, if there is no name. -/
def labelIndex (all : Array EditCommand) (name : Octets) : Nat :=
  if name = [] then all.size
  else (all.findIdx? fun c => match c.deed with
    | .label n => n == name
    | _ => false).getD all.size

/-- What a command does. -/
def doDeed (o : EditOptions) (all : Array EditCommand) (index : Nat) (c : EditCommand) :
    Editing After := do
  let e ← get
  match c.deed with
  | .opening => return .next
  | .closing => return .next
  | .label _ => return .next
  | .branch name => return .jump (labelIndex all name)
  | .branchIfReplaced name =>
    if e.replaced then
      set { e with replaced := false }
      return .jump (labelIndex all name)
    else return .next
  | .branchUnlessReplaced name =>
    if e.replaced then
      set { e with replaced := false }
      return .next
    else return .jump (labelIndex all name)
  | .append t => set { e with appended := .text t :: e.appended }; return .next
  | .insert t => put o t; return .next
  | .change t =>
    let inside := c.last.isSome && !c.negated && e.ranges.any fun r => r.command == index
    if !inside then put o t
    return .done false
  | .delete => return .done false
  | .deleteFirst =>
    match firstLine o e.space with
    | (_, none) => return .done false
    | (_, some rest) => set { e with space := rest }; return .restart
  | .hold => set { e with held := e.space }; return .next
  | .holdMore => set { e with held := e.held ++ o.mark :: e.space }; return .next
  | .get => set { e with space := e.held }; return .next
  | .getMore => set { e with space := e.space ++ o.mark :: e.held }; return .next
  | .exchange => set { e with space := e.held, held := e.space }; return .next
  | .next =>
    if (← isLast o) && e.paths.isEmpty then return .quit e.status true
    else
      if !o.quiet then putLine o e.space e.ended
      if ← readLine o false then return .next else return .quit e.status false
  | .nextMore =>
    if (← isLast o) && (o.separate && e.paths.isEmpty || !o.separate) then return .quit e.status true
    else if ← readLine o true then return .next
    else return .quit e.status true
  | .print => putLine o e.space true; return .next
  | .printFirst => putLine o (firstLine o e.space).1 true; return .next
  | .number => put o (Text.decimal e.number ++ ['\n']); return .next
  | .name => put o (e.path ++ ['\n']); return .next
  | .list width => put o (listed (width.getD o.width) e.space); return .next
  | .quit status => return .quit status true
  | .quitSilently status => return .quit status false
  | .read path => set { e with appended := .file path :: e.appended }; return .next
  | .readLine path =>
    let lines ← match e.sources.lookup path with
      | some lines => pure lines
      | none =>
        match ← (contentOf path : Act (Except Obstacle Octets)) with
        | .ok content => pure (linesOf o.mark content)
        | .error _ => pure []
    match lines with
    | [] => set { e with sources := (path, []) :: e.sources }
    | line :: rest =>
      let line := if line.getLast? = some o.mark then line else line ++ [o.mark]
      set { e with sources := (path, rest) :: e.sources, appended := .text line :: e.appended }
    return .next
  | .write path => writeLine o path e.space e.ended; return .next
  | .writeFirst path => writeLine o path (firstLine o e.space).1 true; return .next
  | .substitute s =>
    match ← fits s.fits s.folded with
    | none =>
      (blame o.name (lit "-e expression #1, char 0: no previous regular expression") : Act Unit)
      throw .failed
    | some (x, folded) =>
      match replace x folded s e.space with
      | none => return .next
      | some t =>
        modify fun e => { e with space := t, replaced := true }
        if s.printed then putLine o t e.ended
        match s.target with
        | some path => writeLine o path t e.ended
        | none => pure ()
        return .next
  | .transliterate a b =>
    set { e with space := e.space.map fun d => ((a.idxOf? d).bind fun i => b[i]?).getD d }
    return .next
  | .clear => set { e with space := [] }; return .next

/-- The commands from an index on, so many steps at most. -/
def cycle (o : EditOptions) (all : Array EditCommand) : Nat → (index : Nat) → Editing After
  | 0, _ => throw (.killed 9)
  | fuel + 1, index => do
    match all[index]? with
    | none => return .done true
    | some c =>
      if (← applies o index c) != c.negated then
        match ← doDeed o all index c with
        | .next => cycle o all fuel (index + 1)
        | .jump i => cycle o all fuel i
        | after => return after
      else
        match c.deed with
        | .opening => cycle o all fuel (behindBlock all (all.size + 1) 1 (index + 1))
        | _ => cycle o all fuel (index + 1)

/-- How many steps there can be for one line. -/
def stepLimit : Nat := 10000000

/-- The lines, one after the other. `fresh` says that another line is read. -/
def editAll (o : EditOptions) (all : Array EditCommand) : Nat → (fresh : Bool) → Editing Nat
  | 0, _ => throw (.killed 9)
  | fuel + 1, fresh => do
    let there ← if fresh then readLine o false else pure true
    if !there then
      showAppended o
      return (← get).status
    else
      match ← cycle o all stepLimit 0 with
      | .quit status shown =>
        if shown && !o.quiet then
          let e ← get
          putLine o e.space e.ended
        showAppended o
        if o.inPlace.isSome then
          let rest := (← get).lines.flatten
          if !rest.isEmpty then put o rest
        return status
      | .restart =>
        showAppended o
        editAll o all fuel false
      | .done false => editAll o all fuel true
      | _ =>
        if !o.quiet then
          let e ← get
          putLine o e.space e.ended
        editAll o all fuel true

end Editing

/-- The words for the options of editing. -/
def sedWords : List (String × Char) :=
  [("expression", 'e'), ("file", 'f'), ("in-place", 'i'), ("line-length", 'l'), ("null-data", 'z'),
    ("zero-terminated", 'z'), ("quiet", 'n'), ("silent", 'n'), ("posix", 'p'),
    ("regexp-extended", 'E'), ("separate", 's'), ("unbuffered", 'u'), ("sandbox", 'S'),
    ("follow-symlinks", 'F'), ("debug", 'D')]

/-- Where in the parts of a script a mistake is, in words. -/
def mistakePlace (parts : List (Option Octets × Octets)) (place : Nat) : Octets :=
  let rec go : List (Option Octets × Octets) → (expressions offset : Nat) → Octets
    | [], n, _ => lit "-e expression #" ++ Text.decimal (max n 1) ++ lit ", char 0"
    | (source, t) :: rest, n, offset =>
      let n := if source.isNone then n + 1 else n
      if place ≤ offset + t.length || rest.isEmpty then
        match source with
        | none => lit "-e expression #" ++ Text.decimal n ++ lit ", char " ++
          Text.decimal (if place = 0 then 0 else place - offset)
        | some path => lit "file " ++ path ++ lit " line " ++
          Text.decimal (((t.take (place - offset)).count '\n') + 1)
      else go rest n (offset + t.length + 1)
  go parts 0 0

/-- Lines are edited by a script. -/
def sed : Utility := fun name arguments =>
  withOptions "nErsui::e:f:zl:pSFDb" sedWords name arguments 1 fun g => do
    let given := g.has 'e' || g.has 'f'
    let parts : List (Except Octets (Option Octets × Octets)) ← (g.options.filter fun o => o.1 = 'e' || o.1 = 'f').mapM fun (letter, value) => do
      if letter = 'e' then return Except.ok (none, value)
      else
        match ← contentOf value with
        | .ok content => return .ok (some value, chomp content)
        | .error obstacle => return .error (lit "couldn't open file " ++ atFile value obstacle)
    match parts.find? fun p => !p.isOk with
    | some (.error words) => blame name words; return 1
    | _ =>
    let parts := parts.filterMap Except.toOption
    let (parts, paths) := match given, g.operands with
      | false, first :: rest => ([(none, first)], rest)
      | _, operands => (parts, operands)
    if parts.isEmpty then
      let _ ← write 2 (lit "Usage: " ++ name ++
        lit " [OPTION]... \x7bscript-only-if-no-other-script\x7d [input-file]...\n")
      return 1
    else
      let text := Text.joinWith ['\n'] (parts.map (·.2))
      let silent := text.take 3 = lit "#n\n" ∨ text = lit "#n"
      match EditScript.read (g.has 'E' || g.has 'r') text with
      | .error (words, place) =>
        blame name (mistakePlace parts place ++ lit ": " ++ words)
        return 1
      | .ok all =>
        let known := EditScript.labels all
        match (EditScript.wantedLabels all).find? fun l => l != [] && !known.contains l with
        | some label =>
          blame name (lit "can't find label for jump to `" ++ label ++ ['\''])
          return 1
        | none =>
          for path in EditScript.targets all do
            if path != lit "/dev/stdout" && path != lit "/dev/stderr" then
              match (← files).create (decode path) [] with
              | .ok files => setFiles files
              | .error obstacle =>
                blame name (lit "couldn't open file " ++ atFile path obstacle)
                return 4
          let o : EditOptions :=
            { name, quiet := g.has 'n' || silent
              separate := g.has 's' || g.has 'i'
              inPlace := g.value? 'i'
              mark := if g.has 'z' then '\x00' else '\n'
              width := ((g.value? 'l').bind natural?).getD 70 }
          let start : Editor :=
            { space := [], held := [], ended := true, number := 0, appended := []
              replaced := false, ranges := [], lines := []
              paths := if paths.isEmpty then [['-']] else paths
              path := [], used := none, output := [], unended := false, sources := []
              status := 0 }
          let work : Editing Nat := do
            try
              let status ← Editing.editAll o all.toArray 100000000 true
              Editing.flush o
              return status
            catch
              | .failed => Editing.flush o; return 1
              | stop => throw stop
          let (status, _) ← StateT.run work start
          return status

end Equate.Shell.Utility
