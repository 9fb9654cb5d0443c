import Equate.Shell.Pattern
import Equate.Shell.Utility.Basic
import Equate.Shell.Utility.Lines

/-!
# Programs that work on the tree of files
-/
namespace Equate.Shell.Utility

/-- A path in quotes. -/
def quote (path : Octets) : Octets := ['\''] ++ path ++ ['\'']

/-- A complaint about a path, with what was to be done with it. -/
def failing (name : Octets) (deed : String) (path : Octets) (obstacle : Obstacle) : Act Unit :=
  blame name (lit deed ++ [' '] ++ quote path ++ lit ": " ++ obstacle.words)

/-- Does something with each path. The status is one if something failed. -/
def each (paths : List Octets) (body : Octets → Act Bool) : Act Nat := do
  let failed ← paths.foldlM (fun failed path => do return !(← body path) || failed) false
  return if failed then 1 else 0

/-- The path without the slashes at its end. -/
def withoutSlashes (path : Octets) : Octets :=
  match path.reverse.dropWhile (· = '/') with
  | [] => path.take 1
  | rest => rest.reverse

/-- The last name of a path. -/
def lastName (path : Octets) : Octets :=
  match (Text.splitOn '/' (withoutSlashes path)).getLast? with
  | some [] => withoutSlashes path
  | some name => name
  | none => path

/-- The path of the directory that a path stands in. -/
def parentPath (path : Octets) : Octets :=
  let path := withoutSlashes path
  match (path.reverse.dropWhile (· ≠ '/')) with
  | [] => if path = ['/'] then path else ['.']
  | rest => withoutSlashes rest.reverse

/-- The path of a name in a directory. -/
def within (directory name : Octets) : Octets :=
  if directory.getLast? = some '/' then directory ++ name else directory ++ ['/'] ++ name

/-- Makes a directory. -/
def makeDirectory (path : Octets) : Act (Except Obstacle Unit) := do
  let files ← files
  match files.target (decode path) with
  | .error .isDirectory => return .error .exists
  | .error obstacle => return .error obstacle
  | .ok t =>
    if t.isDots || (files.entry? t.place).isSome then return .error .exists
    else
      setFiles (files.put t.place .directory)
      return .ok ()

/-- Makes the directories on the way to a path that are not there. -/
def makeDirectories (front : Octets) : List Octets → Act (Option (Octets × Obstacle))
  | [] => return none
  | step :: rest => do
    let path := front ++ step
    if step = [] then makeDirectories (path ++ ['/']) rest
    else
      match (← files).find (decode path) with
      | .ok .directory => makeDirectories (path ++ ['/']) rest
      | .ok _ => return some (path, if rest.isEmpty then .exists else .notDirectory)
      | .error _ =>
        match ← makeDirectory path with
        | .ok () => makeDirectories (path ++ ['/']) rest
        | .error obstacle => return some (path, obstacle)

/-- New directories. -/
def mkdir : Utility := fun name arguments =>
  withOptions "pvm:" [("parents", 'p'), ("verbose", 'v'), ("mode", 'm')] name arguments 1 fun g => do
    if g.operands.isEmpty then misuse name (lit "missing operand") 1
    else
      each g.operands fun path => do
        let result ← if g.has 'p' then makeDirectories [] (Text.splitOn '/' path) else do
          match ← makeDirectory path with
          | .ok () => pure none
          | .error obstacle => pure (some (path, obstacle))
        match result with
        | none =>
          if g.has 'v' then say (name ++ lit ": created directory " ++ quote path ++ ['\n'])
          return true
        | some (path, obstacle) =>
          failing name "cannot create directory" path obstacle
          return false

/-- Directories without entries are removed. -/
def rmdir : Utility := fun name arguments =>
  withOptions "pvi" [("parents", 'p'), ("verbose", 'v'), ("ignore-fail-on-non-empty", 'i')] name
      arguments 1 fun g => do
    if g.operands.isEmpty then misuse name (lit "missing operand") 1
    else
      each g.operands fun path => do
        let files ← files
        let result : Except Obstacle Place := do
          let (place, e) ← files.entryItself (decode path)
          match e with
          | .directory =>
            if lastName path = ['.'] then .error .invalid
            else if files.names place = [] then .ok place
            else .error .notEmpty
          | _ => .error .notDirectory
        match result with
        | .ok place => setFiles (files.remove place); return true
        | .error obstacle => failing name "failed to remove" path obstacle; return false

/-- The words for the options of `rm`. -/
def rmWords : List (String × Char) :=
  [("recursive", 'r'), ("force", 'f'), ("dir", 'd'), ("verbose", 'v'), ("interactive", 'I'),
    ("preserve-root", 'I'), ("one-file-system", 'I')]

/-- Entries are removed. -/
def rm : Utility := fun name arguments =>
  withOptions "rRfdviI" rmWords name arguments 1 fun g => do
    if g.operands.isEmpty then
      if g.has 'f' then return 0 else misuse name (lit "missing operand") 1
    else
      each g.operands fun path => do
        let files ← files
        match files.entryItself (decode path) with
        | .error obstacle =>
          if g.has 'f' && (obstacle == .missing || obstacle == .notDirectory) then return true
          else failing name "cannot remove" path obstacle; return false
        | .ok (place, e) =>
          let deep := g.has 'r' || g.has 'R'
          if e = .directory then
            if lastName path = ['.'] ∨ lastName path = ['.', '.'] then
              blame name (lit "refusing to remove '.' or '..' directory: skipping " ++ quote path)
              return false
            else if deep || (g.has 'd' && (files.names place).isEmpty) then
              setFiles (files.removeAll place)
              if g.has 'v' then say (lit "removed directory " ++ quote path ++ ['\n'])
              return true
            else
              failing name "cannot remove" path
                (if g.has 'd' then .notEmpty else .isDirectory)
              return false
          else
            setFiles (files.remove place)
            if g.has 'v' then say (lit "removed " ++ quote path ++ ['\n'])
            return true

/-- The paths that sources get by a destination: in it, if it is a directory. -/
def destinations (name : Octets) (operands : List Octets) (treatAsFile : Bool) :
    Act (Except Nat (List (Octets × Octets))) := do
  match operands.reverse with
  | [] => return .error (← misuse name (lit "missing file operand") 1)
  | [single] =>
    return .error (← misuse name (lit "missing destination file operand after " ++ quote single) 1)
  | destination :: sources =>
    match (← files).find (decode destination) with
    | .ok .directory =>
      if treatAsFile then return .ok (sources.reverse.map fun s => (s, destination))
      else return .ok (sources.reverse.map fun s => (s, within destination (lastName s)))
    | found =>
      if sources.length > 1 then
        match found with
        | .error obstacle => blame name (lit "target " ++ quote destination ++ lit ": " ++ obstacle.words)
        | .ok _ => blame name (lit "target " ++ quote destination ++ lit ": " ++ Obstacle.notDirectory.words)
        return .error 1
      else return .ok (sources.reverse.map fun s => (s, destination))

/-- The words for the options of `mv`. -/
def mvWords : List (String × Char) :=
  [("force", 'f'), ("no-clobber", 'n'), ("interactive", 'i'), ("verbose", 'v'),
    ("no-target-directory", 'T'), ("target-directory", 't'), ("update", 'u'), ("backup", 'b'),
    ("suffix", 'S')]

/-- The words for the options of `cp`. -/
def cpWords : List (String × Char) :=
  [("recursive", 'r'), ("archive", 'a'), ("preserve", 'κ'), ("force", 'f'), ("interactive", 'i'),
    ("no-clobber", 'n'), ("verbose", 'v'), ("no-target-directory", 'T'), ("no-dereference", 'P'),
    ("dereference", 'L'), ("link", 'l'), ("symbolic-link", 's'), ("target-directory", 't'),
    ("update", 'u'), ("one-file-system", 'x'), ("backup", 'b'), ("suffix", 'S')]

/-- The words for the options of `ln`. -/
def lnWords : List (String × Char) :=
  [("symbolic", 's'), ("force", 'f'), ("no-dereference", 'n'), ("verbose", 'v'),
    ("no-target-directory", 'T'), ("interactive", 'i'), ("relative", 'r'), ("target-directory", 't'),
    ("backup", 'b'), ("logical", 'L'), ("physical", 'P'), ("suffix", 'S')]

/-- The words for the options of `touch`. -/
def touchWords : List (String × Char) :=
  [("no-create", 'c'), ("date", 'd'), ("reference", 'r'), ("no-dereference", 'h'), ("time", 'h')]

/-- Entries are moved. -/
def mv : Utility := fun name arguments =>
  withOptions "fnivTt:ubS:" mvWords name arguments 1 fun g => do
    match ← destinations name (g.operands ++ (g.value? 't').toList) (g.has 'T') with
    | .error status => return status
    | .ok pairs =>
      let failed ← pairs.foldlM (fun failed (source, destination) => do
        let files ← files
        let both := quote source ++ lit " to " ++ quote destination
        match files.entryItself (decode source) with
        | .error obstacle => failing name "cannot stat" source obstacle; return true
        | .ok (place, e) =>
          match files.target (decode destination) with
          | .error obstacle => blame name (lit "cannot move " ++ both ++ lit ": " ++ obstacle.words); return true
          | .ok t =>
            if t.place = place then
              blame name (quote source ++ lit " and " ++ quote destination ++ lit " are the same file")
              return true
            else if e = .directory ∧ Files.isBelow t.place place then
              blame name (lit "cannot move " ++ quote source ++ lit " to a subdirectory of itself, " ++
                quote destination)
              return true
            else
              match files.entry? t.place, e with
              | some .directory, .directory =>
                if (files.names t.place).isEmpty then
                  setFiles ((files.remove t.place).carry place t.place)
                  if g.has 'v' then say (lit "renamed " ++ quote source ++ lit " -> " ++ quote destination ++ ['\n'])
                  return failed
                else
                  blame name (lit "cannot move " ++ both ++ lit ": Directory not empty"); return true
              | some .directory, _ =>
                blame name (lit "cannot overwrite directory " ++ quote destination ++
                  lit " with non-directory")
                return true
              | some _, .directory =>
                blame name (lit "cannot overwrite non-directory " ++ quote destination ++
                  lit " with directory " ++ quote source)
                return true
              | old, _ =>
                if old.isSome && g.has 'n' then return failed
                else if t.slashed && e != .directory then
                  blame name (lit "cannot move " ++ both ++ lit ": Not a directory"); return true
                else
                  setFiles (files.carry place t.place)
                  if g.has 'v' then say (lit "renamed " ++ quote source ++ lit " -> " ++ quote destination ++ ['\n'])
                  return failed) false
      return if failed then 1 else 0

/-- Files are copied. -/
def cp : Utility := fun name arguments =>
  withOptions "rRapfinvTdPLHlst:uxbS:κ::" cpWords name arguments 1 fun g => do
    match ← destinations name (g.operands ++ (g.value? 't').toList) (g.has 'T') with
    | .error status => return status
    | .ok pairs =>
      let deep := g.has 'r' || g.has 'R' || g.has 'a'
      let failed ← pairs.foldlM (fun failed (source, destination) => do
        let files ← files
        match files.find (decode source) with
        | .error obstacle => failing name "cannot stat" source obstacle; return true
        | .ok .directory =>
          if !deep then
            blame name (lit "-r not specified; omitting directory " ++ quote source); return true
          else
            match files.place (decode source), files.target (decode destination) with
            | .ok place, .ok t =>
              setFiles (files.copyBelow place t.place)
              return failed
            | _, .error obstacle => failing name "cannot create directory" destination obstacle; return true
            | .error obstacle, _ => failing name "cannot stat" source obstacle; return true
        | .ok e =>
          match ← contentOf source with
          | .error obstacle => failing name "cannot open" source obstacle; return true
          | .ok content =>
            match files.writePlace Files.linkLimit files.here (decode destination) with
            | .error obstacle =>
              failing name "cannot create regular file" destination
                (if obstacle = .isDirectory then .notDirectory else obstacle)
              return true
            | .ok place =>
              let isSame := match files.place (decode source) with
                | .ok itself => itself == place
                | .error _ => false
              if isSame then
                blame name (quote source ++ lit " and " ++ quote destination ++ lit " are the same file")
                return true
              else
                let runs := match e with
                  | .file _ runs => runs
                  | _ => false
                match files.entry? place with
                | some _ =>
                  if !g.has 'n' then setFiles (files.setContent place (toBytes content))
                | none => setFiles (files.put place (.file (toBytes content) runs))
                if g.has 'v' then say (quote source ++ lit " -> " ++ quote destination ++ ['\n'])
                return failed) false
      return if failed then 1 else 0

/-- More names for entries: links to paths, or copies. -/
def ln : Utility := fun name arguments =>
  withOptions "sfnvTirt:bLPS:" lnWords name arguments 1 fun g => do
    if g.operands.isEmpty then misuse name (lit "missing file operand") 1
    else
      let operands := match g.operands ++ (g.value? 't').toList with
        | [single] => [single, ['.']]
        | operands => operands
      match ← destinations name operands (g.has 'T') with
      | .error status => return status
      | .ok pairs =>
        let failed ← pairs.foldlM (fun failed (source, destination) => do
          let files ← files
          let deed := if g.has 's' then "failed to create symbolic link" else "failed to create hard link"
          let e : Except Obstacle Entry :=
            if g.has 's' then .ok (.link (decode source))
            else (files.entryItself (decode source)).map (·.2)
          match e with
          | .error obstacle => failing name "failed to access" source obstacle; return true
          | .ok .directory =>
            blame name (source ++ lit ": hard link not allowed for directory"); return true
          | .ok e =>
            match files.target (decode destination) with
            | .error obstacle => failing name deed destination obstacle; return true
            | .ok t =>
              if (files.entry? t.place).isSome && !g.has 'f' then
                failing name deed destination .exists; return true
              else
                setFiles (files.put t.place e)
                if g.has 'v' then
                  say (quote destination ++ lit (if g.has 's' then " -> " else " => ") ++ quote source ++ ['\n'])
                return failed) false
        return if failed then 1 else 0

/-- Files that are not there are made. -/
def touch : Utility := fun name arguments =>
  withOptions "acmfhd:r:t:" touchWords name arguments 1 fun g => do
    if g.operands.isEmpty then misuse name (lit "missing file operand") 1
    else
      each g.operands fun path => do
        let files ← files
        match files.find (decode path) with
        | .ok _ => return true
        | .error _ =>
          if g.has 'c' then return true
          else
            match files.create (decode path) [] with
            | .ok files => setFiles files; return true
            | .error obstacle => failing name "cannot touch" path obstacle; return false

/-- What a mode says about running; `none` for no mode at all. -/
def modeRuns? (mode : Octets) : Option (Option Bool) :=
  if mode ≠ [] ∧ mode.all isOctalDigit then
    some (some (mode.any fun c => (c.toNat - 48) % 2 == 1))
  else
    (Text.splitOn ',' mode).foldlM (fun (found : Option Bool) clause =>
      match clause.dropWhile fun c => ['u', 'g', 'o', 'a'].contains c with
      | sign :: letters =>
        if !(['+', '-', '='].contains sign) ||
            !letters.all (fun c => ['r', 'w', 'x', 'X', 's', 't'].contains c) then none
        else if letters.contains 'x' then some (some (sign != '-'))
        else if sign = '=' then some (some false)
        else some found
      | [] => none) none
where
  /-- An octal digit. -/
  isOctalDigit (c : Char) : Bool := '0' ≤ c && c ≤ '7'

/-- Whether files can be run is changed. -/
def chmod : Utility := fun name arguments => do
  let operands := arguments.filter fun a => !(["-R", "-f", "-v", "--"].map lit).contains a
  match operands with
  | [] => misuse name (lit "missing operand") 1
  | [mode] => misuse name (lit "missing operand after " ++ quote mode) 1
  | mode :: paths =>
    match modeRuns? mode with
    | none => misuse name (lit "invalid mode: " ++ quote mode) 1
    | some change =>
      each paths fun path => do
        let files ← files
        match files.place (decode path) with
        | .error obstacle => failing name "cannot access" path obstacle; return false
        | .ok place =>
          match files.entry? place, change with
          | some (.file content _), some runs => setFiles (files.put place (.file content runs))
          | _, _ => pure ()
          return true

/-- The words for the options of `ls`. -/
def lsWords : List (String × Char) :=
  [("all", 'a'), ("almost-all", 'A'), ("directory", 'd'), ("classify", 'F'), ("recursive", 'R'),
    ("reverse", 'r'), ("color", 'κ'), ("human-readable", 'h'), ("quote-name", 'Q'),
    ("ignore-backups", 'B'), ("literal", 'N'), ("size", 's'), ("width", 'w'), ("ignore", 'I'),
    ("sort", 'σ'), ("format", 'φ'), ("zero", 'ζ'), ("file-type", 'φ'), ("group-directories-first", 'γ')]

/-- An entry in a listing: its name as it is shown, and its path. -/
structure Listed where
  name : Octets
  path : Octets

/-- The letters for what may be done with an entry. -/
def modeLetters (e : Entry) : Octets :=
  match e with
  | .directory => lit "drwxr-xr-x"
  | .link _ => lit "lrwxrwxrwx"
  | .device (.pipe _) => lit "prw-r--r--"
  | .device _ => lit "crw-rw-rw-"
  | .file _ true => lit "-rwxr-xr-x"
  | .file _ false => lit "-rw-r--r--"

/-- How much an entry holds. -/
def entrySize : Entry → Nat
  | .file content _ => content.length
  | .directory => 4096
  | .link target => Text.byteCount target
  | .device _ => 0

/-- The names in directories. -/
def ls : Utility := fun name arguments =>
  withOptions "aA1dlFpRrthsSCiLnQNXUmvcufgokqbBw:I:κ::σ:φ:ζγxGHT:" lsWords name arguments 2 fun g => do
    let files ← files
    let find (path : Octets) : Option Entry :=
      match files.entryItself (decode path) with
      | .ok (_, e) => some e
      | .error _ => none
    let shown (l : Listed) : Octets :=
      let n := if g.has 'Q' then ['"'] ++ l.name ++ ['"'] else l.name
      if g.has 'F' || g.has 'p' then
        match find l.path with
        | some .directory => n ++ ['/']
        | some (.link _) => if g.has 'F' then n ++ ['@'] else n
        | some (.file _ true) => if g.has 'F' then n ++ ['*'] else n
        | some (.device (.pipe _)) => if g.has 'F' then n ++ ['|'] else n
        | _ => n
      else n
    let sizeOf (l : Listed) : Nat := ((find l.path).map entrySize).getD 0
    let ordered (all : List Listed) : List Listed :=
      let sorted := all.mergeSort fun a b => !isBefore b.name a.name
      let sorted := if g.has 'S' || g.value? 'σ' == some (lit "size") then
          sorted.mergeSort fun a b => sizeOf b ≤ sizeOf a
        else sorted
      if g.has 'r' then sorted.reverse else sorted
    let ending := if g.has 'ζ' then '\x00' else '\n'
    let rows (all : List Listed) : Octets :=
      if g.has 'm' then
        if all.isEmpty then [] else Text.joinWith (lit ", ") (all.map shown) ++ ['\n']
      else if g.has 'l' || g.has 'n' || g.has 'o' || g.has 'g' then
        let width := (all.map fun l => (Text.decimal (sizeOf l)).length).foldl max 0
        all.flatMap fun l =>
          let e := (find l.path).getD .directory
          let size := Text.decimal (entrySize e)
          modeLetters e ++ lit " 1 root root " ++ List.replicate (width - size.length) ' ' ++ size ++
            lit " Jan  1  1970 " ++ shown l ++ (match e with
              | .link target => lit " -> " ++ encode target
              | _ => []) ++ ['\n']
      else all.flatMap fun l => shown l ++ [ending]
    let inside (path : Octets) : List Listed :=
      match files.place (decode path) with
      | .error _ => []
      | .ok place =>
        let names := (files.names place).map encode
        let names := if g.has 'a' || g.has 'f' then ['.'] :: ['.', '.'] :: names
          else if g.has 'A' then names
          else names.filter fun n => n.head? != some '.'
        ordered (names.map fun n => ⟨n, within path n⟩)
    let long := g.has 'l' || g.has 'n' || g.has 'o' || g.has 'g'
    let body (path : Octets) : Octets := (if long then lit "total 0\n" else []) ++ rows (inside path)
    let rec below : Nat → Octets → List Octets
      | 0, _ => []
      | n + 1, path =>
        (inside path).flatMap fun l =>
          if l.name ≠ ['.'] ∧ l.name ≠ ['.', '.'] ∧ find l.path = some .directory then
            l.path :: below n l.path
          else []
    let operands := (if g.operands.isEmpty then [['.']] else g.operands).map fun p => (⟨p, p⟩ : Listed)
    let kind (path : Octets) : Except Obstacle Bool :=
      match files.find (decode path) with
      | .ok .directory => .ok true
      | .ok _ => .ok false
      | .error obstacle =>
        match files.entryItself (decode path) with
        | .ok _ => .ok false
        | .error _ => .error obstacle
    let missing := operands.filterMap fun l => match kind l.path with
      | .error obstacle => some (l.path, obstacle)
      | .ok _ => none
    missing.forM fun (p, obstacle) => failing name "cannot access" p obstacle
    let operands := ordered operands
    let single := operands.filter fun l => match kind l.path with
      | .ok isDirectory => !isDirectory || g.has 'd'
      | .error _ => false
    let directories := operands.filter fun l => match kind l.path with
      | .ok isDirectory => isDirectory && !g.has 'd'
      | .error _ => false
    say (rows single)
    let directories := (directories.map Listed.path).flatMap fun p =>
      p :: if g.has 'R' then below 100 p else []
    let headed := operands.length > 1 || g.has 'R' || !missing.isEmpty
    directories.zipIdx.forM fun (p, i) => do
      if headed then say ((if i = 0 ∧ single.isEmpty then [] else ['\n']) ++ p ++ lit ":\n")
      say (body p)
    return if missing.isEmpty then 0 else 2

/-- The last names of paths. -/
def basename : Utility := fun name arguments =>
  withOptions "azs:" [("multiple", 'a'), ("suffix", 's'), ("zero", 'z')] name arguments 1 fun g => do
    let bare (suffix path : Octets) : Octets :=
      let n := lastName path
      if suffix ≠ [] ∧ suffix ≠ n ∧ suffix.isSuffixOf n then n.take (n.length - suffix.length) else n
    let many := g.has 'a' || g.has 's'
    match g.operands with
    | [] => misuse name (lit "missing operand") 1
    | paths =>
      if many then
        say (paths.flatMap fun p => bare ((g.value? 's').getD []) p ++ [if g.has 'z' then '\x00' else '\n'])
        return 0
      else
        match paths with
        | [path] => say (bare [] path ++ [if g.has 'z' then '\x00' else '\n']); return 0
        | [path, suffix] => say (bare suffix path ++ [if g.has 'z' then '\x00' else '\n']); return 0
        | _ => misuse name (lit "extra operand " ++ quote ((paths.drop 2).headD [])) 1

/-- The paths of directories. -/
def dirname : Utility := fun name arguments =>
  withOptions "z" [("zero", 'z')] name arguments 1 fun g => do
    if g.operands.isEmpty then misuse name (lit "missing operand") 1
    else
      say (g.operands.flatMap fun p => parentPath p ++ [if g.has 'z' then '\x00' else '\n'])
      return 0

/-- The path of a place. -/
def pathOf (place : Place) : Octets := encode ('/' :: Text.joinWith "/" place)

/-- The working directory. -/
def pwd : Utility := fun _ _ => do
  say (pathOf (← files).here ++ ['\n'])
  return 0

/-- Where links lead. -/
def readlink : Utility := fun name arguments =>
  withOptions "fenmqsvz" [("canonicalize", 'f'), ("canonicalize-existing", 'e'),
      ("canonicalize-missing", 'm'), ("no-newline", 'n'), ("quiet", 'q'), ("silent", 's'),
      ("verbose", 'v'), ("zero", 'z')] name arguments 1 fun g => do
    let ending : Octets := if g.has 'n' then [] else if g.has 'z' then ['\x00'] else ['\n']
    if g.operands.isEmpty then misuse name (lit "missing operand") 1
    else
      each g.operands fun path => do
        let files ← files
        if g.has 'f' || g.has 'e' || g.has 'm' then
          match files.place (decode path), files.target (decode path) with
          | .ok place, _ => say (pathOf place ++ ending); return true
          | _, .ok t =>
            if g.has 'e' then return false else say (pathOf t.place ++ ending); return true
          | _, _ => return false
        else
          match files.entryItself (decode path) with
          | .ok (_, .link target) =>
            say (encode target ++ ending)
            return true
          | _ => return false

/-- The steps of a path as far as they can be followed, and what is left by name. -/
def lenientPlace (files : Files) (path : Octets) : Place :=
  (Text.splitOn '/' (decode path)).foldl (fun place n =>
    match files.walk place [n] with
    | .ok next => next
    | .error _ =>
      if n = [] ∨ n = ['.'] then place
      else if n = ['.', '.'] then place.dropLast
      else place ++ [n]) (if path.head? = some '/' then [] else files.here)

/-- The paths of places. -/
def realpath : Utility := fun name arguments =>
  withOptions "emqsLPz" [("canonicalize-existing", 'e'), ("canonicalize-missing", 'm'),
      ("quiet", 'q'), ("no-symlinks", 's'), ("strip", 's'), ("zero", 'z')] name arguments 1 fun g => do
    let ending := if g.has 'z' then '\x00' else '\n'
    if g.operands.isEmpty then misuse name (lit "missing operand") 1
    else
      each g.operands fun path => do
        let files ← files
        let found : Except Obstacle Place :=
          if g.has 'm' then .ok (lenientPlace files path)
          else
            match files.place (decode path), files.target (decode path) with
            | .ok place, _ => .ok place
            | .error obstacle, .ok t => if g.has 'e' then .error obstacle else .ok t.place
            | .error obstacle, _ => .error obstacle
        match found with
        | .ok place => say (pathOf place ++ [ending]); return true
        | .error obstacle =>
          if !g.has 'q' then blame name (atFile path obstacle)
          return false

/-! ## More about entries -/

/-- Pipes with names. -/
def mkfifo : Utility := fun name arguments =>
  withOptions "m:" [("mode", 'm')] name arguments 1 fun g => do
    if g.operands.isEmpty then misuse name (lit "missing operand") 1
    else
      each g.operands fun path => do
        let files ← files
        let failed (obstacle : Obstacle) : Act Bool := do
          failing name "cannot create fifo" path obstacle
          return false
        match files.target (decode path) with
        | .error obstacle => failed obstacle
        | .ok t =>
          if t.isDots || (files.entry? t.place).isSome then failed .exists
          else
            let index ← addOpened ⟨.buffer (.empty true), 0, true⟩
            setFiles (files.put t.place (.device (.pipe index)))
            return true

/-- An entry is removed by its name. -/
def unlink : Utility := fun name arguments =>
  withOptions "" [] name arguments 1 fun g => do
    match g.operands with
    | [] => misuse name (lit "missing operand") 1
    | [path] =>
      let files ← files
      match files.entryItself (decode path) with
      | .ok (_, .directory) =>
        blame name (lit "cannot unlink " ++ quote path ++ lit ": Is a directory")
        return 1
      | .ok (place, _) => setFiles (files.remove place); return 0
      | .error obstacle => failing name "cannot unlink" path obstacle; return 1
    | _ :: extra :: _ => misuse name (lit "extra operand " ++ quote extra) 1

/-- An entry gets another name. -/
def link : Utility := fun name arguments =>
  withOptions "" [] name arguments 1 fun g => do
    match g.operands with
    | [] => misuse name (lit "missing operand") 1
    | [a] => misuse name (lit "missing operand after " ++ quote a) 1
    | [a, b] =>
      let files ← files
      let both := quote b ++ lit " to " ++ quote a
      match files.entryItself (decode a), files.target (decode b) with
      | .ok (_, e), .ok t =>
        if (files.entry? t.place).isSome then
          blame name (lit "cannot create link " ++ both ++ lit ": File exists")
          return 1
        else setFiles (files.put t.place e); return 0
      | .error obstacle, _ | _, .error obstacle =>
        blame name (lit "cannot create link " ++ both ++ lit ": " ++ obstacle.words)
        return 1
    | _ :: _ :: extra :: _ => misuse name (lit "extra operand " ++ quote extra) 1

/-- What a size says: whether it is added or taken away, and the number. -/
def sizeChange? (t : Octets) : Option (Char × Nat) :=
  match t with
  | '+' :: n => (countOf? n).map ('+', ·)
  | '-' :: n => (countOf? n).map ('-', ·)
  | '<' :: n => (countOf? n).map ('<', ·)
  | '>' :: n => (countOf? n).map ('>', ·)
  | n => (countOf? n).map ('=', ·)

/-- Files get a size. -/
def truncate : Utility := fun name arguments =>
  withOptions "cs:r:o" [("no-create", 'c'), ("size", 's'), ("reference", 'r'), ("io-blocks", 'o')]
      name arguments 1 fun g => do
    let reference ← match g.value? 'r' with
      | none => pure none
      | some path =>
        match (← files).read (decode path) with
        | .ok content => pure (some content.length)
        | .error _ => pure none
    match g.value? 's', reference with
    | none, none => misuse name (lit "you must specify either '--size' or '--reference'") 1
    | size, reference =>
      match sizeChange? (size.getD ['+', '0']) with
      | none =>
        blame name (lit "Invalid number: " ++ quote (size.getD []))
        return 1
      | some (sign, n) =>
        if g.operands.isEmpty then misuse name (lit "missing file operand") 1
        else
          each g.operands fun path => do
            let files ← files
            match files.find (decode path) with
            | .error .missing =>
              if g.has 'c' then return true
            | _ => pure ()
            let old := match files.read (decode path) with
              | .ok content => content
              | .error _ => []
            let base := reference.getD old.length
            let length := match sign with
              | '+' => base + n
              | '-' => base - n
              | '<' => min base n
              | '>' => max base n
              | _ => n
            match files.create (decode path) (old.take length ++ List.replicate (length - old.length) 0) with
            | .ok files => setFiles files; return true
            | .error obstacle =>
              blame name (lit "cannot open " ++ quote path ++ lit " for writing: " ++ obstacle.words)
              return false

/-- The kind of an entry in words. -/
def kindWords : Entry → String
  | .file [] _ => "regular empty file"
  | .file .. => "regular file"
  | .directory => "directory"
  | .link _ => "symbolic link"
  | .device (.pipe _) => "fifo"
  | .device _ => "character special file"

/-- What is known about an entry, in a format. -/
def statText (files : Files) (path : Octets) (e : Entry) : Nat → Octets → Octets
  | 0, _ => []
  | fuel + 1, t =>
    match t with
    | [] => []
    | '\\' :: 'n' :: rest => '\n' :: statText files path e fuel rest
    | '\\' :: 't' :: rest => '\t' :: statText files path e fuel rest
    | '%' :: c :: rest =>
      (match c with
        | 'n' => path
        | 'N' => match e with
          | .link target => quote path ++ lit " -> " ++ quote (encode target)
          | _ => quote path
        | 's' => Text.decimal (entrySize e)
        | 'F' => (kindWords e).toList
        | 'a' => match e with
          | .directory => lit "755"
          | .link _ => lit "777"
          | .file _ true => lit "755"
          | .file _ false => lit "644"
          | .device (.pipe _) => lit "644"
          | .device _ => lit "666"
        | 'A' => modeLetters e
        | 'h' => ['1']
        | 'u' => ['0']
        | 'g' => ['0']
        | 'U' => lit "root"
        | 'G' => lit "root"
        | 'b' => Text.decimal ((entrySize e + 4095) / 4096 * 8)
        | 'B' => lit "512"
        | 'o' => lit "4096"
        | '%' => ['%']
        | _ => ['0']) ++ statText files path e fuel rest
    | c :: rest => c :: statText files path e fuel rest

/-- What is known about entries. -/
def stat : Utility := fun name arguments =>
  withOptions "c:Lftπ:" [("format", 'c'), ("printf", 'π'), ("dereference", 'L'), ("terse", 't')] name
      arguments 1 fun g => do
    if g.operands.isEmpty then misuse name (lit "missing operand") 1
    else
      each g.operands fun path => do
        let files ← files
        let found := if g.has 'L' then files.find (decode path)
          else (files.entryItself (decode path)).map (·.2)
        match found with
        | .error obstacle => failing name "cannot statx" path obstacle; return false
        | .ok e =>
          match g.value? 'c', g.value? 'π' with
          | some f, _ => say (statText files path e (f.length + 1) f ++ ['\n']); return true
          | none, some f => say (statText files path e (f.length + 1) f); return true
          | none, none =>
            let f := lit "  File: %n\\n  Size: %s\\tBlocks: %b\\tIO Block: %o   %F\\n"
            say (statText files path e (f.length + 1) f)
            return true

/-- Files are copied to where they are to be used. -/
def install : Utility := fun name arguments =>
  withOptions "dDm:o:g:vCTt:ps" [("directory", 'd'), ("mode", 'm'), ("verbose", 'v'),
      ("no-target-directory", 'T'), ("target-directory", 't')] name arguments 1 fun g => do
    let runs := ((g.value? 'm').bind fun m => (modeRuns? m).bind id).getD true
    if g.has 'd' then
      each g.operands fun path => do
        match ← makeDirectories [] (Text.splitOn '/' path) with
        | none => return true
        | some (path, obstacle) => failing name "cannot create directory" path obstacle; return false
    else
      if g.has 'D' then
        let _ ← makeDirectories [] (Text.splitOn '/' (parentPath (g.operands.getLast?.getD [])))
      match ← destinations name (g.operands ++ (g.value? 't').toList) (g.has 'T') with
      | .error status => return status
      | .ok pairs =>
        each (pairs.map fun p => p.1 ++ '\x00' :: p.2) fun both => do
          let source := both.takeWhile (· ≠ '\x00')
          let destination := both.drop (source.length + 1)
          match ← contentOf source with
          | .error obstacle => failing name "cannot stat" source obstacle; return false
          | .ok content =>
            let files ← files
            match files.writePlace Files.linkLimit files.here (decode destination) with
            | .error obstacle =>
              failing name "cannot create regular file" destination obstacle
              return false
            | .ok place => setFiles (files.put place (.file (toBytes content) runs)); return true

/-- Blocks of bytes are copied. -/
def dd : Utility := fun name arguments => do
  let value (key : String) : Option Octets :=
    (arguments.reverse.find? fun a => (lit key ++ ['=']).isPrefixOf a).map fun a =>
      a.drop (key.length + 1)
  let known := ["if", "of", "bs", "ibs", "obs", "count", "skip", "seek", "conv", "status", "iflag",
    "oflag", "cbs", "iseek", "oseek"]
  match arguments.find? fun a => !known.any fun k => (lit k ++ ['=']).isPrefixOf a with
  | some a => misuse name (lit "unrecognized operand " ++ quote a) 1
  | none =>
    let size := (((value "bs") <|> (value "ibs")).bind countOf?).getD 512
    let outSize := (((value "bs") <|> (value "obs")).bind countOf?).getD 512
    let number (key : String) : Nat := ((value key).bind countOf?).getD 0
    let source ← match value "if" with
      | none =>
        match ← descriptor? 0 with
        | none => pure (Except.error Obstacle.missing)
        | some index =>
          let all ← unread index
          let used := match (value "count").bind countOf? with
            | some n => min all.length ((n + number "skip") * size)
            | none => all.length
          consume index used
          pure (.ok (all.take used))
      | some path => contentOf path
    match source with
    | .error obstacle =>
      blame name (lit "failed to open " ++ quote ((value "if").getD []) ++ lit ": " ++ obstacle.words)
      return 1
    | .ok all =>
      let t := all.drop (number "skip" * size)
      let t := match (value "count").bind countOf? with
        | some n => t.take (n * size)
        | none => t
      let conversions := ((value "conv").map (Text.splitOn ',')).getD []
      let t := if conversions.contains (lit "ucase") then t.map Char.toUpper
        else if conversions.contains (lit "lcase") then t.map Char.toLower
        else t
      let ok ← match value "of" with
        | none => say t; pure true
        | some path =>
          let files ← files
          let old := if conversions.contains (lit "notrunc") || 0 < number "seek" then
              ((files.read (decode path)).toOption.getD [])
            else []
          let start := number "seek" * outSize
          let content := old.take start ++ List.replicate (start - old.length) 0 ++ toBytes t ++
            (if conversions.contains (lit "notrunc") then old.drop (start + t.length) else [])
          match files.create (decode path) content with
          | .ok files => setFiles files; pure true
          | .error obstacle =>
            blame name (lit "failed to open " ++ quote path ++ lit ": " ++ obstacle.words)
            pure false
      if ok then
        if value "status" != some (lit "none") then
          let full := t.length / size
          let part := if t.length % size = 0 then 0 else 1
          let count := Text.decimal full ++ ['+'] ++ Text.decimal part
          let _ ← write 2 (count ++ lit " records in\n" ++ count ++ lit " records out\n")
          if value "status" != some (lit "noxfer") then
            let _ ← write 2 (Text.decimal t.length ++ lit " bytes copied, 0.0001 s, 1.0 MB/s\n")
        return 0
      else return 1

end Equate.Shell.Utility
