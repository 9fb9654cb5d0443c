import Equate.Match.Notation
import Equate.Shell.Lookup
import Equate.Shell.Pattern
import Equate.Shell.Utility.Search
import Equate.Shell.Utility.Tree

/-!
# Finding entries

The entries below some paths are visited, each directory in front of what is in it, unless
the contrary is wanted. An expression of tests and deeds is worked out for each of them,
from the left and no further than needed.
-/
namespace Equate.Shell.Utility

/-- How a number is compared: less, equal or more. -/
structure Bound where
  order : Ordering
  n : Nat

/-- A test or a deed. -/
inductive Visit where
  | constant (b : Bool)
  | name (pattern : Octets) (folded : Bool)
  | path (pattern : Octets) (folded : Bool)
  | fits (e : Match) (folded : Bool)
  | kind (letters : List Char)
  | isEmpty
  | size (b : Bound) (unit : Nat)
  | links (b : Bound)
  | age (b : Bound)
  | runs
  | mode (exact : Bool) (mode : Nat)
  | print (ending : Octets)
  | printf (format : Octets)
  | execute (words : List Octets) (together : Bool)
  | delete
  | prune
  | quit
  | both (a b : Visit)
  | either (a b : Visit)
  | negation (a : Visit)
  | sequence (a b : Visit)

namespace Visit

/-- The expression does something, so that nothing need be printed. -/
def acts : Visit → Bool
  | .print _ => true
  | .printf _ => true
  | .execute .. => true
  | .delete => true
  | .quit => false
  | .both a b => a.acts || b.acts
  | .either a b => a.acts || b.acts
  | .sequence a b => a.acts || b.acts
  | .negation a => a.acts
  | _ => false

/-- The expression deletes entries. -/
def deletes : Visit → Bool
  | .delete => true
  | .both a b => a.deletes || b.deletes
  | .either a b => a.deletes || b.deletes
  | .sequence a b => a.deletes || b.deletes
  | .negation a => a.deletes
  | _ => false

end Visit

/-- How entries are visited. -/
structure Search where
  least : Nat
  most : Nat
  deepFirst : Bool
  follows : Bool

/-- What is left to be read of an expression. -/
abbrev FindReader := ExceptT Octets (StateM (List Octets × Search))

namespace FindReader

/-- The next word, which stays. -/
def peek : FindReader (Option Octets) := return (← get).1.head?

/-- The next word, which is taken. -/
def next : FindReader (Option Octets) := do
  let (words, s) ← get
  match words with
  | [] => return none
  | w :: rest => set (rest, s); return some w

/-- The argument of a test. -/
def argument (test : Octets) : FindReader Octets := do
  match ← next with
  | some w => return w
  | none => throw (lit "missing argument to `" ++ test ++ ['\''])

/-- A number that may have a sign in front. -/
def bound (test : Octets) (t : Octets) : FindReader Bound := do
  let (order, digits) := match t with
    | '+' :: rest => (Ordering.gt, rest)
    | '-' :: rest => (.lt, rest)
    | rest => (.eq, rest)
  match natural? digits with
  | some n => return ⟨order, n⟩
  | none => throw (lit "invalid argument `" ++ t ++ lit "' to `" ++ test ++ ['\''])

/-- The mode that a text is in octal digits, or by letters. -/
def modeOf (t : Octets) : Nat :=
  if t.all fun c => '0' ≤ c && c ≤ '7' then t.foldl (fun n c => n * 8 + (c.toNat - 48)) 0
  else
    (Text.splitOn ',' t).foldl (fun mode clause =>
      let who := clause.takeWhile fun c => (lit "ugoa").contains c
      let letters := (clause.drop who.length).drop 1
      let bits := letters.foldl (fun n c => n ||| (if c = 'r' then 4 else if c = 'w' then 2 else if c = 'x' then 1 else 0)) 0
      let all := who.isEmpty || who.contains 'a'
      mode ||| (if all || who.contains 'u' then bits * 64 else 0) |||
        (if all || who.contains 'g' then bits * 8 else 0) |||
        (if all || who.contains 'o' then bits else 0)) 0

/-- The words up to the end of a command. -/
def command : Nat → List Octets → FindReader (List Octets × Bool)
  | 0, _ => throw (lit "missing argument to `-exec'")
  | fuel + 1, front => do
    match ← next with
    | none => throw (lit "missing argument to `-exec'")
    | some [';'] =>
      if front.isEmpty then throw (lit "missing argument to `-exec'") else return (front.reverse, false)
    | some ['+'] =>
      match front with
      | ['{', '}'] :: rest => return (rest.reverse, true)
      | _ => command fuel (['+'] :: front)
    | some w => command fuel (w :: front)

/-- One test or deed. -/
def primary (name : Octets) : FindReader Visit := do
  let argument := argument name
  let number : FindReader Nat := do
    let t ← argument
    match natural? t with
    | some n => return n
    | none => throw (lit "Expected a positive decimal integer argument to " ++ name ++
        lit ", but got '" ++ t ++ ['\''])
  match String.ofList name with
  | "-true" => return .constant true
  | "-false" => return .constant false
  | "-name" => return .name (← argument) false
  | "-iname" => return .name (← argument) true
  | "-path" => return .path (← argument) false
  | "-wholename" => return .path (← argument) false
  | "-ipath" => return .path (← argument) true
  | "-regex" =>
    match Match.ofText ⟨false, false, false, false⟩ (← argument) with
    | .ok e => return .fits e false
    | .error words => throw words
  | "-iregex" =>
    match Match.ofText ⟨false, false, false, false⟩ (← argument) with
    | .ok e => return .fits e true
    | .error words => throw words
  | "-type" =>
    let t ← argument
    let letters := t.filter (· ≠ ',')
    match letters.find? fun c => !(lit "bcdpflsD").contains c with
    | some _ => throw (lit "Unknown argument to -type: " ++ t)
    | none => return .kind letters
  | "-empty" => return .isEmpty
  | "-executable" => return .runs
  | "-readable" => return .constant true
  | "-writable" => return .constant true
  | "-size" =>
    let t ← argument
    let (digits, unit) := match t.getLast? with
      | some 'c' => (t.dropLast, 1)
      | some 'w' => (t.dropLast, 2)
      | some 'b' => (t.dropLast, 512)
      | some 'k' => (t.dropLast, 1024)
      | some 'M' => (t.dropLast, 1048576)
      | some 'G' => (t.dropLast, 1073741824)
      | _ => (t, 512)
    return .size (← bound name digits) unit
  | "-links" => return .links (← bound name (← argument))
  | "-mtime" => return .age (← bound name (← argument))
  | "-mmin" => return .age (← bound name (← argument))
  | "-atime" => return .age (← bound name (← argument))
  | "-ctime" => return .age (← bound name (← argument))
  | "-newer" =>
    let _ ← argument
    return .constant false
  | "-user" =>
    let t ← argument
    return .constant (t = lit "root")
  | "-group" =>
    let t ← argument
    return .constant (t = lit "root")
  | "-perm" =>
    match ← argument with
    | '-' :: t => return .mode false (modeOf t)
    | '/' :: t => return .mode false (modeOf t)
    | t => return .mode true (modeOf t)
  | "-print" => return .print ['\n']
  | "-print0" => return .print ['\x00']
  | "-ls" => return .print ['\n']
  | "-printf" => return .printf (← argument)
  | "-delete" =>
    modify fun (w, s) => (w, { s with deepFirst := true })
    return .delete
  | "-prune" => return .prune
  | "-quit" => return .quit
  | "-exec" =>
    let (words, together) ← command ((← get).1.length + 1) []
    return .execute words together
  | "-execdir" =>
    let (words, together) ← command ((← get).1.length + 1) []
    return .execute words together
  | "-depth" =>
    modify fun (w, s) => (w, { s with deepFirst := true })
    return .constant true
  | "-maxdepth" =>
    let n ← number
    modify fun (w, s) => (w, { s with most := n })
    return .constant true
  | "-mindepth" =>
    let n ← number
    modify fun (w, s) => (w, { s with least := n })
    return .constant true
  | "-mount" => return .constant true
  | "-xdev" => return .constant true
  | "-noleaf" => return .constant true
  | "-follow" => return .constant true
  | "-regextype" =>
    let _ ← argument
    return .constant true
  | _ =>
    if name.head? = some '-' then throw (lit "unknown predicate `" ++ name ++ ['\''])
    else throw (lit "paths must precede expression: `" ++ name ++ ['\''])

mutual

/-- Expressions of which only the last one counts. -/
def list : Nat → FindReader Visit
  | 0 => throw (lit "invalid expression")
  | fuel + 1 => do
    let a ← alternatives fuel
    if (← peek) = some [','] then
      let _ ← next
      return .sequence a (← list fuel)
    else return a

/-- Alternatives. -/
def alternatives : Nat → FindReader Visit
  | 0 => throw (lit "invalid expression")
  | fuel + 1 => do
    let a ← conjunction fuel
    match ← peek with
    | some w =>
      if w = lit "-o" ∨ w = lit "-or" then
        let _ ← next
        if (← peek).isNone then throw (lit "expected an expression after '" ++ w ++ ['\''])
        return .either a (← alternatives fuel)
      else return a
    | none => return a

/-- Conditions that all hold. -/
def conjunction : Nat → FindReader Visit
  | 0 => throw (lit "invalid expression")
  | fuel + 1 => do
    let a ← negated fuel
    match ← peek with
    | none => return a
    | some w =>
      if w = lit "-a" ∨ w = lit "-and" then
        let _ ← next
        if (← peek).isNone then throw (lit "expected an expression after '" ++ w ++ ['\''])
        return .both a (← conjunction fuel)
      else if w = lit "-o" ∨ w = lit "-or" ∨ w = lit ")" ∨ w = lit "," then return a
      else return .both a (← conjunction fuel)

/-- A test, or its opposite. -/
def negated : Nat → FindReader Visit
  | 0 => throw (lit "invalid expression")
  | fuel + 1 => do
    match ← next with
    | none => throw (lit "invalid expression")
    | some w =>
      if w = lit "!" ∨ w = lit "-not" then
        if (← peek).isNone then throw (lit "expected an expression after '" ++ w ++ ['\''])
        return .negation (← negated fuel)
      else if w = lit "(" then
        if (← peek).isNone then
          throw (lit "invalid expression; expected to find a ')' but didn't see one.  Perhaps you need an extra predicate after '('")
        let a ← list fuel
        match ← next with
        | some [')'] => return a
        | _ => throw (lit "invalid expression; I was expecting to find a ')' somewhere but did not see one.")
      else if w = lit ")" then throw (lit "invalid expression; you have too many ')'")
      else if w = lit "-o" ∨ w = lit "-a" then
        throw (lit "invalid expression; you have used a binary operator '" ++ w ++ lit "' with nothing before it.")
      else primary w

end

/-- The whole expression. -/
def whole : FindReader Visit := do
  if (← get).1.isEmpty then return .constant true
  let a ← list (4 * (← get).1.length + 8)
  match ← peek with
  | none => return a
  | some [')'] => throw (lit "invalid expression; you have too many ')'")
  | some w => throw (lit "paths must precede expression: `" ++ w ++ ['\''])

end FindReader

/-- An entry that is visited. -/
structure Visited where
  path : Octets
  start : Octets
  place : Place
  depth : Nat
  entry : Entry

/-- The letter of a kind of entry. -/
def kindLetter : Entry → Char
  | .file .. => 'f'
  | .directory => 'd'
  | .link _ => 'l'
  | .device (.pipe _) => 'p'
  | .device _ => 'c'

/-- The size of an entry. -/
def sizeOf : Entry → Nat
  | .file content _ => content.length
  | .directory => 4096
  | .link target => Text.byteCount target
  | .device _ => 0

/-- The mode of an entry. -/
def modeBits : Entry → Nat
  | .file _ true => 0o755
  | .directory => 0o755
  | .link _ => 0o777
  | .device (.pipe _) => 0o644
  | .device _ => 0o666
  | .file _ false => 0o644

/-- A path in a format. -/
def visitText (v : Visited) : Nat → Octets → Octets
  | 0, _ => []
  | fuel + 1, t =>
    match t with
    | [] => []
    | '\\' :: c :: rest =>
      (match c with
        | 'n' => ['\n']
        | 't' => ['\t']
        | '0' => ['\x00']
        | '\\' => ['\\']
        | c => ['\\', c]) ++ visitText v fuel rest
    | '%' :: c :: rest =>
      let below := (v.path.drop v.start.length).dropWhile (· = '/')
      (match c with
        | 'p' => v.path
        | 'f' => if v.path.contains '/' then lastName v.path else v.path
        | 'h' => if v.path.contains '/' then parentPath v.path else ['.']
        | 'H' => v.start
        | 'P' => below
        | 's' => Text.decimal (sizeOf v.entry)
        | 'd' => Text.decimal v.depth
        | 'y' => [kindLetter v.entry]
        | 'm' => Nat.toDigits 8 (modeBits v.entry)
        | 'u' => lit "root"
        | 'g' => lit "root"
        | 'U' => ['0']
        | 'G' => ['0']
        | 'n' => ['1']
        | 'l' => match v.entry with
          | .link target => encode target
          | _ => []
        | '%' => ['%']
        | c => ['%', c]) ++ visitText v fuel rest
    | c :: rest => c :: visitText v fuel rest

/-- What comes of the search: the status, and the paths for commands that get all of them. -/
structure Progress where
  status : Nat
  waiting : List (List Octets × Octets)
  stopped : Bool
  pruned : Bool

/-- What a search does. -/
abbrev Searching := StateT Progress Act

/-- A number is as it should be. -/
def Bound.holds (b : Bound) (n : Nat) : Bool := compare n b.n == b.order

/-- A command with a path in place of its marks. -/
def withPath (path : Octets) (words : List Octets) : List Octets :=
  words.map fun w => fill (w.length + 1) w
where
  /-- The path in place of the marks of a word. -/
  fill : Nat → Octets → Octets
    | 0, t => t
    | n + 1, '{' :: '}' :: rest => path ++ fill n rest
    | n + 1, c :: rest => c :: fill n rest
    | _, [] => []

/-- The expression for one entry. -/
def visit (name : Octets) (start : List Octets → Act Nat) (v : Visited) : Visit → Searching Bool
  | .constant b => return b
  | .name pattern folded =>
    let own := lastName v.path
    return if folded then nameFits (pattern.map Char.toLower) (own.map Char.toLower) else nameFits pattern own
  | .path pattern folded =>
    return if folded then nameFits (pattern.map Char.toLower) (v.path.map Char.toLower)
      else nameFits pattern v.path
  | .fits e folded =>
    let s := subject folded v.path
    return (e.matchAt? s true 0).any fun spot => spot.position == s.text.size
  | .kind letters => return letters.contains (kindLetter v.entry)
  | .isEmpty => do
    match v.entry with
    | .file content _ => return content.isEmpty
    | .directory => return ((← (files : Act Files)).names v.place).isEmpty
    | _ => return false
  | .size b unit => return b.holds ((sizeOf v.entry + unit - 1) / unit)
  | .links b => return b.holds 1
  | .age b => return b.order == .lt || b.n == 0
  | .runs => return match v.entry with
    | .file _ runs => runs
    | .directory => true
    | _ => false
  | .mode exact m =>
    return if exact then modeBits v.entry == m else Nat.land (modeBits v.entry) m == m
  | .print ending => do
    (say (v.path ++ ending) : Act Unit)
    return true
  | .printf format => do
    (say (visitText v (format.length + 1) format) : Act Unit)
    return true
  | .execute words together => do
    if together then
      modify fun p => { p with waiting := (words, v.path) :: p.waiting }
      return true
    else
      let status ← (start (withPath v.path words) : Act Nat)
      return status == 0
  | .delete => do
    let files ← (files : Act Files)
    if v.depth = 0 ∧ v.path = ['.'] then return true
    else if v.entry = .directory ∧ ¬ (files.names v.place).isEmpty then
      (blame name (lit "cannot delete " ++ quote v.path ++ lit ": Directory not empty") : Act Unit)
      modify fun p => { p with status := 1 }
      return false
    else
      (setFiles (files.remove v.place) : Act Unit)
      return true
  | .prune => do
    modify fun p => { p with pruned := true }
    return true
  | .quit => do
    modify fun p => { p with stopped := true }
    return true
  | .both a b => do
    if ← visit name start v a then
      if (← get).stopped then return true else visit name start v b
    else return false
  | .either a b => do
    if ← visit name start v a then return true else visit name start v b
  | .sequence a b => do
    let _ ← visit name start v a
    visit name start v b
  | .negation a => return !(← visit name start v a)

/-- The entries from one on, so deep at most. -/
def searchBelow (name : Octets) (start : List Octets → Act Nat) (s : Search) (e : Visit) :
    Nat → Visited → Searching Unit
  | 0, _ => return
  | fuel + 1, v => do
    if (← get).stopped then return
    let own : Searching Unit := do
      if s.least ≤ v.depth then
        let _ ← visit name start v e
    modify fun p => { p with pruned := false }
    if !s.deepFirst then own
    let pruned := (← get).pruned
    if v.entry = .directory ∧ v.depth < s.most ∧ ¬ pruned then
      let names := (← (files : Act Files)).names v.place
      for n in names do
        let place := v.place ++ [n]
        let files ← (files : Act Files)
        match files.entry? place with
        | some entry =>
          searchBelow name start s e fuel
            ⟨within v.path (encode n), v.start, place, v.depth + 1, entry⟩
        | none => pure ()
    if s.deepFirst && !(← get).stopped then own

/-- Entries that an expression chooses. -/
def find (start : List Octets → Act Nat) : Utility := fun name arguments => do
  let arguments := arguments.dropWhile fun a => (["-H", "-L", "-P", "-O1", "-O2", "-O3"].map lit).contains a
  let isPath (a : Octets) : Bool := a.head? != some '-' && !(["(", ")", "!", ","].map lit).contains a
  let isPath (a : Octets) : Bool := isPath a || a == ['-']
  let paths := arguments.takeWhile isPath
  let words := arguments.drop paths.length
  let usual : Search := ⟨0, 1000000, false, false⟩
  match FindReader.whole.run.run (words, usual) with
  | (.error mistake, _) =>
    blame name mistake
    return 1
  | (.ok e, _, s) =>
    let e := if e.acts then e else Visit.both e (.print ['\n'])
    let work : Searching Unit :=
      (if paths.isEmpty then [['.']] else paths).forM fun path => do
        let files ← (files : Act Files)
        match files.entryItself (decode path) with
        | .error obstacle =>
          (blame name (quote path ++ lit ": " ++ obstacle.words) : Act Unit)
          modify fun p => { p with status := 1 }
        | .ok (place, entry) => searchBelow name start s e 4000 ⟨path, path, place, 0, entry⟩
    let ((), p) ← StateT.run work ⟨0, [], false, false⟩
    let groups := p.waiting.reverse.foldl
      (fun (groups : List (List Octets × List Octets)) (words, path) =>
        if groups.any fun g => g.1 == words then
          groups.map fun g => if g.1 == words then (g.1, g.2 ++ [path]) else g
        else groups ++ [(words, [path])]) []
    let failed ← groups.foldlM (fun failed (words, paths) => do
      return (← start (words ++ paths)) != 0 || failed) false
    return if failed then 1 else p.status

end Equate.Shell.Utility
