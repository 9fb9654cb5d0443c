import Equate.Match.Notation
import Equate.Number.Decimal
import Equate.Shell.Utility.Basic

/-!
# Programs that work on lines
-/
namespace Equate.Shell.Utility

/-- A numeral at the right of a column. -/
def column (width n : Nat) : Octets :=
  let t := Text.decimal n
  List.replicate (width - t.length) ' ' ++ t

/-- The lines of a text with what ends each of them, a character of choice. -/
def linesWith (mark : Char) (t : Octets) : List Octets :=
  t.foldr (fun c (lines : List Octets) =>
    match lines with
    | [] => [[c]]
    | first :: rest => if c = mark then [mark] :: first :: rest else (c :: first) :: rest) []

/-- A line without its end. -/
def chompWith (mark : Char) (line : Octets) : Octets :=
  if line.getLast? = some mark then line.dropLast else line

/-- The character at the end of lines. -/
def markOf (g : Given) : Char := if g.has 'z' then '\x00' else '\n'

/-- A count with a letter for a multiple, as in `2k`. -/
def countOf? (t : Octets) : Option Nat := do
  let digits := t.takeWhile Char.isDigit
  let n ← natural? digits
  let factor ← match String.ofList (t.drop digits.length) with
    | "" => some 1
    | "b" => some 512
    | "K" => some 1024
    | "k" => some 1024
    | "KiB" => some 1024
    | "kB" => some 1000
    | "KB" => some 1000
    | "M" => some 1048576
    | "m" => some 1048576
    | "MiB" => some 1048576
    | "MB" => some 1000000
    | "G" => some 1073741824
    | "GiB" => some 1073741824
    | "GB" => some 1000000000
    | _ => none
  return n * factor

/-! ## Whole files -/

/-- The lines with numbers in front; blank lines have none if `full` says so. -/
def numbered (full : Bool) (next : Nat) : List Octets → List Octets
  | [] => []
  | line :: rest =>
    if full ∧ line = ['\n'] then line :: numbered full next rest
    else (column 6 next ++ ['\t'] ++ line) :: numbered full (next + 1) rest

/-- Lines of which no two blank ones follow each other. -/
def squeezeLines : Bool → List Octets → List Octets
  | _, [] => []
  | afterBlank, line :: rest =>
    if afterBlank ∧ line = ['\n'] then squeezeLines true rest
    else line :: squeezeLines (line = ['\n']) rest

/-- A character in a form that can be seen. Tabs and line ends are left as they are. -/
def visible (c : Char) : Octets :=
  let low (c : Char) : Octets :=
    if c < ' ' then ['^', Char.ofNat (c.toNat + 64)]
    else if c = '\x7f' then ['^', '?']
    else [c]
  if c = '\n' ∨ c = '\t' then [c]
  else if 128 ≤ c.toNat then 'M' :: '-' :: low (Char.ofNat (c.toNat - 128))
  else low c

/-- The words for the options of `cat`. -/
def catWords : List (String × Char) :=
  [("number-nonblank", 'b'), ("number", 'n'), ("squeeze-blank", 's'), ("show-nonprinting", 'v'),
    ("show-ends", 'E'), ("show-tabs", 'T'), ("show-all", 'A')]

/-- The place of the file that a descriptor leads to. -/
def placeOf (n : Nat) : Act (Option Place) := do
  match ← descriptor? n with
  | none => return none
  | some index =>
    match (← get).opened[index]? with
    | some ⟨.file place, _, _⟩ => return some place
    | _ => return none

/-- A path leads to the file that the output goes to, and something can be read from it. -/
def isOutput (path content : Octets) : Act Bool := do
  match ← placeOf 1 with
  | none => return false
  | some output =>
    let source ← if path = ['-'] then placeOf 0
      else pure ((← files).place (decode path)).toOption
    return source == some output && !content.isEmpty

/-- Files, one behind the other. -/
def cat : Utility := fun name arguments =>
  withOptions "nbsuvetAET" catWords name arguments 1 fun g => do
    let (status, parts) ← (if g.operands.isEmpty then [['-']] else g.operands).foldlM
      (fun (status, parts) path => do
        match ← contentOf path with
        | .ok content =>
          if ← isOutput path content then
            blame name (path ++ lit ": input file is output file")
            return (1, parts)
          else return (status, content :: parts)
        | .error obstacle =>
          blame name (atFile path obstacle)
          return (1, parts)) (0, ([] : List Octets))
    let content := parts.reverse.flatten
    let shows (letters : String) : Bool := letters.toList.any g.has
    if !shows "nbsvetAET" then say content
    else
      let lines := fullLines content
      let lines := if g.has 's' then squeezeLines false lines else lines
      let seen (t : Octets) : Octets := if shows "vetA" then t.flatMap visible else t
      let tabbed (t : Octets) : Octets :=
        if shows "tTA" then t.flatMap fun c => if c = '\t' then ['^', 'I'] else [c] else t
      let ended (line : Octets) : Octets :=
        let body := tabbed (seen (chomp line))
        if line.getLast? = some '\n' then body ++ (if shows "eEA" then ['$', '\n'] else ['\n'])
        else body
      let numbering := if g.has 'b' then numbered true 1 lines
        else if g.has 'n' then numbered false 1 lines else lines
      let rows := List.zipWith (fun line row =>
        row.take (row.length - line.length) ++ ended line) lines numbering
      say rows.flatten
    return status

/-! ## Parts of files -/

/-- Options of which a number can be one, as in `-5`. -/
def withCount (arguments : List Octets) : List Octets :=
  match arguments with
  | ('-' :: c :: rest) :: more =>
    let digits := (c :: rest).takeWhile Char.isDigit
    let letters := (c :: rest).drop digits.length
    if digits ≠ [] ∧ letters.all (fun c => (lit "bckmlqvz").contains c) then
      let unit := if letters.contains 'c' then ['-', 'c'] else ['-', 'n']
      let flags := (letters.filter fun c => (lit "qvz").contains c).map fun c => ['-', c]
      flags ++ unit :: digits :: more
    else arguments
  | _ => arguments

/-- The name of a file above its part. -/
def heading (first : Bool) (path : Octets) : Octets :=
  (if first then [] else ['\n']) ++ lit "==> " ++
    (if path = ['-'] then lit "standard input" else path) ++ lit " <==\n"

/-- A part of a text, and how much of the text has been read for it. -/
abbrev Part := Octets → Octets × Nat

/-- Shows the part of each file. Several files get headings. -/
def showParts (name : Octets) (g : Given) (part : Part) : Act Nat := do
  let headed := (g.operands.length > 1 && !g.has 'q') || g.has 'v'
  let (status, _) ← (if g.operands.isEmpty then [['-']] else g.operands).foldlM
    (fun (status, first) path => do
      if path = ['-'] then
        match ← descriptor? 0 with
        | none =>
          blame name (lit "cannot open 'standard input' for reading: Bad file descriptor")
          return (1, first)
        | some index =>
          let (t, used) := part (← unread index)
          consume index used
          if headed then say (heading first path)
          say t
          return (status, false)
      else
        match ← contentOf path with
        | .error obstacle =>
          if obstacle = .isDirectory && headed then say (heading first path)
          blame name (notOpened path obstacle)
          return (1, first && !(obstacle = .isDirectory && headed))
        | .ok content =>
          if headed then say (heading first path)
          say (part content).1
          return (status, false)) (0, true)
  return status

/-- The words for the options of programs that show a part. -/
def partWords : List (String × Char) :=
  [("bytes", 'c'), ("lines", 'n'), ("quiet", 'q'), ("silent", 'q'), ("verbose", 'v'),
    ("zero-terminated", 'z')]

/-- The last option that says how much is shown. -/
def amount (g : Given) : Char × Octets :=
  (g.options.reverse.find? fun o => o.1 = 'c' || o.1 = 'n').getD ('n', lit "10")

/-- The first lines or bytes. A count behind a dash says how many are left out at the end.
A file is left where the part ends. -/
def head : Utility := fun name arguments =>
  withOptions "qvzn:c:" partWords name (withCount arguments) 1 fun g => do
    let (unit, t) := amount g
    let (leaves, digits) := match t with
      | '-' :: digits => (true, digits)
      | digits => (false, digits)
    match countOf? digits with
    | none =>
      blame name (lit "invalid number of " ++ (if unit = 'c' then lit "bytes" else lit "lines") ++
        lit ": '" ++ t ++ ['\''])
      return 1
    | some n =>
      let isFile := (← placeOf 0).isSome
      showParts name g fun content =>
        let shown :=
          if unit = 'c' then content.take (if leaves then content.length - n else n)
          else
            let lines := linesWith (markOf g) content
            (lines.take (if leaves then lines.length - n else n)).flatten
        let used := if isFile || unit = 'c' then shown.length
          else (shown.length + 8191) / 8192 * 8192
        (shown, if leaves && !isFile then content.length else min used content.length)

/-- The last lines or bytes. A count behind a plus says where they begin. -/
def tail : Utility := fun name arguments => do
  let counted := withCount arguments
  if counted.length ≠ arguments.length ∧ 3 < counted.length then
    blame name (lit "option used in invalid context -- " ++ (counted.drop 1).headD [])
    return 1
  else
    withOptions "qvzn:c:f::Fs:" (partWords ++ [("follow", 'f'), ("retry", 'F'), ("sleep-interval", 's')])
      name counted 1 fun g => do
      let (unit, t) := amount g
      let digits := (Number.readSign t).2
      match countOf? digits with
      | none =>
        blame name (lit "invalid number of " ++ (if unit = 'c' then lit "bytes" else lit "lines") ++
          lit ": '" ++ t ++ ['\''])
        return 1
      | some n =>
        let last {α : Type} (items : List α) : List α :=
          if t.head? = some '+' then items.drop (n - 1) else items.drop (items.length - n)
        showParts name g fun content =>
          (if unit = 'c' then last content else (last (linesWith (markOf g) content)).flatten,
            content.length)

/-! ## Counts -/

/-- The number of words of a text. -/
def wordCount : Bool → Octets → Nat
  | _, [] => 0
  | inside, c :: rest =>
    if isSpace c then wordCount false rest
    else (if inside then 0 else 1) + wordCount true rest

/-- The width of the widest line; tabs reach to the next multiple of eight. -/
def widestLine (t : Octets) : Nat :=
  let (most, here) := t.foldl (fun (most, here) c =>
    if c = '\n' ∨ c = '\r' ∨ c = '\x0c' then (max most here, 0)
    else if c = '\t' then (most, (here / 8 + 1) * 8)
    else if ' ' ≤ c ∧ c ≤ '~' then (most, here + 1)
    else (most, here)) (0, 0)
  max most here

/-- The size of the input, if it is a file. -/
def inputSize : Act (Option Nat) := do
  match ← placeOf 0 with
  | some place => return some (← contentAt place).length
  | none => return none

/-- Counts of lines, words and bytes. -/
def wc : Utility := fun name arguments =>
  withOptions "lwcmLT:0:" [("bytes", 'c'), ("chars", 'm'), ("lines", 'l'), ("words", 'w'),
      ("max-line-length", 'L'), ("total", 'T'), ("files0-from", '0')] name arguments 1 fun g => do
    let all := !(lit "lwcmL").any g.has
    let counts (t : Octets) : List Nat :=
      (if all || g.has 'l' then [t.count '\n'] else []) ++
        (if all || g.has 'w' then [wordCount false t] else []) ++
        (if g.has 'm' then [t.length] else []) ++
        (if all || g.has 'c' then [t.length] else []) ++
        (if g.has 'L' then [widestLine t] else [])
    let paths := if g.operands.isEmpty then [['-']] else g.operands
    let sizes ← paths.mapM fun path => do
      if path = ['-'] then return (← inputSize)
      else
        match (← files).find (decode path) with
        | .ok (.file content _) => return some content.length
        | _ => return none
    let onlyTotal := g.value? 'T' == some (lit "only")
    let single := (counts []).length == 1 && paths.length == 1
    let width := if single || onlyTotal then 1
      else if sizes.all Option.isNone then 7
      else (Text.decimal ((sizes.map fun n => n.getD 0).foldl (· + ·) 0)).length
    let row (ns : List Nat) (path : Octets) : Octets :=
      Text.joinWith [' '] (ns.map (column width)) ++
        (if path = [] then [] else ' ' :: path) ++ ['\n']
    let widest := g.has 'L'
    let add (total ns : List Nat) : List Nat :=
      let sums := List.zipWith (· + ·) total ns
      if widest then sums.dropLast ++ [max (total.getLastD 0) (ns.getLastD 0)] else sums
    let (status, total) ← paths.foldlM (fun (status, total) path => do
      match ← contentOf path with
      | .error obstacle =>
        blame name (atFile path obstacle)
        if obstacle = .isDirectory && !onlyTotal then say (row (total.map fun _ => 0) path)
        return (1, total)
      | .ok content =>
        let ns := counts content
        if !onlyTotal then say (row ns (if g.operands.isEmpty then [] else path))
        return (status, add total ns)) (0, (counts []).map fun _ => 0)
    match (g.value? 'T').map String.ofList with
    | some "never" => pure ()
    | some "only" => say (row total [])
    | some "always" => say (row total (lit "total"))
    | _ => if paths.length > 1 then say (row total (lit "total"))
    return status

/-! ## Neighbouring lines -/

/-- How neighbouring lines are compared. -/
structure Likeness where
  folded : Bool
  fields : Nat
  skipped : Nat
  width : Option Nat

/-- What counts of a line. -/
def Likeness.part (k : Likeness) (line : Octets) : Octets :=
  let withoutFields := (List.range k.fields).foldl (fun t _ =>
    let t := t.dropWhile fun c => c == ' ' || c == '\t'
    t.dropWhile fun c => c != ' ' && c != '\t') line
  let t := withoutFields.drop k.skipped
  let t := match k.width with
    | some n => t.take n
    | none => t
  if k.folded then t.map Char.toUpper else t

/-- Groups of neighbouring lines that are alike. -/
def groupsOf (part : Octets → Octets) : List Octets → List (List Octets)
  | [] => []
  | line :: rest =>
    match groupsOf part rest with
    | (next :: more) :: groups =>
      if part line = part next then (line :: next :: more) :: groups
      else [line] :: (next :: more) :: groups
    | groups => [line] :: groups

/-- The words for the options of `uniq`. -/
def uniqWords : List (String × Char) :=
  [("count", 'c'), ("repeated", 'd'), ("all-repeated", 'D'), ("skip-fields", 'f'), ("group", 'γ'),
    ("ignore-case", 'i'), ("skip-chars", 's'), ("unique", 'u'), ("zero-terminated", 'z'),
    ("check-chars", 'w')]

/-- Writes a text to the output or to a file. -/
def deliver (name : Octets) (path : Option Octets) (t : Octets) : Act Nat := do
  match path with
  | none => say t; return 0
  | some ['-'] => say t; return 0
  | some path =>
    match (← files).create (decode path) (toBytes t) with
    | .ok files => setFiles files; return 0
    | .error obstacle => blame name (atFile path obstacle); return 1

/-- Lines that follow a line like them are left out. -/
def uniq : Utility := fun name arguments =>
  withOptions "cdDuif:s:w:zγ::" uniqWords name arguments 1 fun g => do
    let count (letter : Char) : Nat := ((g.value? letter).bind natural?).getD 0
    let k : Likeness := ⟨g.has 'i', count 'f', count 's', (g.value? 'w').bind natural?⟩
    let mark := markOf g
    match g.operands.drop 2 with
    | extra :: _ => misuse name (lit "extra operand '" ++ extra ++ ['\'']) 1
    | [] =>
      let path := g.operands.headD ['-']
      match ← contentOf path with
      | .error obstacle => blame name (atFile path obstacle); return 1
      | .ok content =>
        let groups := groupsOf k.part ((linesWith mark content).map (chompWith mark))
        let t :=
          if g.has 'D' then
            let kept := (groups.filter fun l => l.length > 1).map fun lines =>
              lines.flatMap fun line => line ++ [mark]
            match (g.options.reverse.find? fun o => o.1 = 'D').map fun o => String.ofList o.2 with
            | some "prepend" => kept.flatMap fun t => mark :: t
            | some "separate" => Text.joinWith [mark] kept
            | _ => kept.flatten
          else if g.has 'γ' then
            Text.joinWith [mark] (groups.map fun lines => lines.flatMap fun line => line ++ [mark])
          else
            (groups.filter fun l =>
                (!g.has 'd' || l.length > 1) && (!g.has 'u' || l.length == 1)).flatMap fun l =>
              (if g.has 'c' then column 7 l.length ++ [' '] else []) ++ l.headD [] ++ [mark]
        deliver name ((g.operands.drop 1).head?) t

/-! ## Lines turned round -/

/-- The parts of a text up to a separator each. -/
def separated (mark : Octets) : Nat → Octets → Octets → List Octets
  | 0, front, _ => [front.reverse]
  | fuel + 1, front, t =>
    if mark.isPrefixOf t ∧ mark ≠ [] then
      (front.reverse ++ mark) :: separated mark fuel [] (t.drop mark.length)
    else
      match t with
      | [] => if front.isEmpty then [] else [front.reverse]
      | c :: rest => separated mark fuel (c :: front) rest

/-- The lines of files, the last one first. -/
def tac : Utility := fun name arguments =>
  withOptions "bs:r" [("before", 'b'), ("separator", 's'), ("regex", 'r')] name arguments 1 fun g =>
    throughFiles name g.operands 1 (fun path obstacle =>
      if obstacle = .isDirectory then lit "read error: " ++ path ++ lit ": Is a directory"
      else lit "failed to open '" ++ path ++ lit "' for reading: " ++ obstacle.words)
      fun _ content =>
        match g.value? 's' with
        | none => say (fullLines content).reverse.flatten
        | some mark => say (separated mark (content.length + 1) [] content).reverse.flatten

/-- The lines of files, each turned round. -/
def rev : Utility := fun name arguments =>
  withOptions "0" [("zero", '0')] name arguments 1 fun g =>
    throughFiles name g.operands 1
      (fun path obstacle => lit "cannot open " ++ path ++ lit ": " ++ obstacle.words)
      fun _ content =>
        say ((fullLines content).flatMap fun line =>
          (chomp line).reverse ++ if line.getLast? = some '\n' then ['\n'] else [])

/-- The input goes to files and on. -/
def tee : Utility := fun name arguments =>
  withOptions "aip" [("append", 'a'), ("ignore-interrupts", 'i'), ("output-error", 'p')]
      name arguments 1 fun g => do
    let input := (← readAll 0).getD []
    say input
    g.operands.foldlM (fun status path => do
      if path = lit "/dev/stderr" then
        let _ ← write 2 input
        return status
      else if path = lit "/dev/stdout" then say input; return status
      else
        let files ← files
        let old := if g.has 'a' then ((files.read (decode path)).toOption.getD []) else []
        match files.create (decode path) (old ++ toBytes input) with
        | .ok files => setFiles files; return status
        | .error obstacle => blame name (atFile path obstacle); return 1) 0

/-! ## Numbers in front of lines -/

/-- Which lines get a number. -/
inductive Numbering where
  | all
  | notEmpty
  | nothing
  | fits (e : Match)

/-- How lines are numbered. -/
structure NumberStyle where
  header : Numbering
  body : Numbering
  footer : Numbering
  first : Int
  step : Int
  width : Nat
  format : Octets
  separator : Octets
  blanks : Nat
  delimiter : Octets
  keeps : Bool

/-- The numbering that a text says. -/
def numbering? (t : Octets) : Option Numbering :=
  match t with
  | ['a'] => some .all
  | ['t'] => some .notEmpty
  | ['n'] => some .nothing
  | 'p' :: e => (Match.ofText ⟨false, false, false, false⟩ e).toOption.map .fits
  | _ => none

/-- A number in its column. -/
def styledNumber (s : NumberStyle) (n : Int) : Octets :=
  let t := integerText n
  match String.ofList s.format with
  | "ln" => t ++ List.replicate (s.width - t.length) ' '
  | "rz" =>
    if n < 0 then '-' :: List.replicate (s.width - t.length) '0' ++ t.drop 1
    else List.replicate (s.width - t.length) '0' ++ t
  | _ => List.replicate (s.width - t.length) ' ' ++ t

/-- The lines with numbers. -/
def numberLines (s : NumberStyle) : (here : Numbering) → Int → (blanks : Nat) → List Octets →
    List Octets
  | _, _, _, [] => []
  | here, n, blanks, line :: rest =>
    let d := s.delimiter
    if line = d ++ d ++ d ∧ d ≠ [] then ['\n'] :: numberLines s s.header (if s.keeps then n else s.first) 0 rest
    else if line = d ++ d ∧ d ≠ [] then ['\n'] :: numberLines s s.body (if s.keeps then n else s.first) 0 rest
    else if line = d ∧ d ≠ [] then ['\n'] :: numberLines s s.footer (if s.keeps then n else s.first) 0 rest
    else
      let blanks := if line = [] then blanks + 1 else 0
      let counts : Bool := match here with
        | .all => line != [] || blanks % (max s.blanks 1) == 0
        | .notEmpty => line != []
        | .nothing => false
        | .fits e => (e.search? ⟨line.toArray, false, isNameChar⟩ true 0).isSome
      if counts then
        (styledNumber s n ++ s.separator ++ line ++ ['\n']) ::
          numberLines s here (n + s.step) blanks rest
      else
        (List.replicate (s.width + s.separator.length) ' ' ++ line ++ ['\n']) ::
          numberLines s here n blanks rest

/-- The words for the options of `nl`. -/
def nlWords : List (String × Char) :=
  [("body-numbering", 'b'), ("section-delimiter", 'd'), ("footer-numbering", 'f'),
    ("header-numbering", 'h'), ("line-increment", 'i'), ("join-blank-lines", 'l'),
    ("number-format", 'n'), ("no-renumber", 'p'), ("number-separator", 's'),
    ("starting-line-number", 'v'), ("number-width", 'w')]

/-- Lines with numbers in front. -/
def nl : Utility := fun name arguments =>
  withOptions "b:d:f:h:i:l:n:ps:v:w:" nlWords name arguments 1 fun g => do
    let style (letter : Char) (usual : Numbering) : Option Numbering :=
      match g.value? letter with
      | none => some usual
      | some t => numbering? t
    let whole (letter : Char) (usual : Int) : Option Int :=
      match g.value? letter with
      | none => some usual
      | some t => integer? t
    match style 'h' .nothing, style 'b' .notEmpty, style 'f' .nothing with
    | none, _, _ => misuse name (lit "invalid header numbering style: '" ++ (g.value? 'h').getD [] ++ ['\'']) 1
    | _, none, _ => misuse name (lit "invalid body numbering style: '" ++ (g.value? 'b').getD [] ++ ['\'']) 1
    | _, _, none => misuse name (lit "invalid footer numbering style: '" ++ (g.value? 'f').getD [] ++ ['\'']) 1
    | some header, some body, some footer =>
      match whole 'v' 1, whole 'i' 1, whole 'w' 6, whole 'l' 1 with
      | some first, some step, some width, some blanks =>
        if width < 1 then
          blame name (lit "invalid line number field width: '" ++ (g.value? 'w').getD [] ++ ['\''])
          return 1
        let format := (g.value? 'n').getD (lit "rn")
        if !(["ln", "rn", "rz"].map lit).contains format then
          return ← misuse name (lit "invalid line numbering format: '" ++ format ++ ['\'']) 1
        let delimiter := match g.value? 'd' with
          | none => ['\\', ':']
          | some [c] => [c, ':']
          | some t => t
        let s : NumberStyle :=
          { header, body, footer, first, step, width := width.toNat, format
            separator := (g.value? 's').getD ['\t'], blanks := blanks.toNat, delimiter
            keeps := g.has 'p' }
        let (status, parts) ← (if g.operands.isEmpty then [['-']] else g.operands).foldlM
          (fun (status, parts) path => do
            match ← contentOf path with
            | .ok content => return (status, content :: parts)
            | .error obstacle => blame name (atFile path obstacle); return (1, parts))
          (0, ([] : List Octets))
        let lines := parts.reverse.flatMap plainLines
        say (numberLines s s.body first 0 lines).flatten
        return status
      | none, _, _, _ =>
        blame name (lit "invalid starting line number: '" ++ (g.value? 'v').getD [] ++ ['\'']); return 1
      | _, none, _, _ =>
        blame name (lit "invalid line number increment: '" ++ (g.value? 'i').getD [] ++ ['\'']); return 1
      | _, _, none, _ =>
        blame name (lit "invalid line number field width: '" ++ (g.value? 'w').getD [] ++ ['\'']); return 1
      | _, _, _, none =>
        blame name (lit "invalid line number of blank lines: '" ++ (g.value? 'l').getD [] ++ ['\'']); return 1

/-! ## Widths -/

/-- The column behind a character. -/
def columnBehind (bytes : Bool) (col : Nat) (c : Char) : Nat :=
  if bytes then col + 1
  else
    match c with
    | '\x08' => col - 1
    | '\r' => 0
    | '\t' => (col / 8 + 1) * 8
    | _ => col + 1

/-- A line in rows of so many columns. -/
def folded (width : Nat) (bytes atBlanks : Bool) : Nat → (row : Octets) → (col : Nat) → Octets →
    Octets
  | 0, row, _, _ => row.reverse
  | fuel + 1, row, col, t =>
    match t with
    | [] => row.reverse
    | c :: rest =>
      let next := columnBehind bytes col c
      if next ≤ width ∨ row.isEmpty then folded width bytes atBlanks fuel (c :: row) next rest
      else
        let (kept, moved) := if atBlanks then
            let moved := row.takeWhile fun c => c != ' ' && c != '\t'
            if moved.length = row.length then (row, []) else (row.drop moved.length, moved)
          else (row, [])
        let moved := moved.reverse
        kept.reverse ++ '\n' ::
          folded width bytes atBlanks fuel moved.reverse
            (moved.foldl (columnBehind bytes) 0) t

/-- Long lines in several rows. -/
def fold : Utility := fun name arguments =>
  let arguments := arguments.map fun a =>
    match a with
    | '-' :: c :: rest => if c.isDigit then '-' :: 'w' :: c :: rest else a
    | a => a
  withOptions "bsw:" [("bytes", 'b'), ("spaces", 's'), ("width", 'w')] name arguments 1 fun g => do
    match (match g.value? 'w' with
      | none => some 80
      | some t => natural? t) with
    | none | some 0 =>
      blame name (lit "invalid number of columns: '" ++ (g.value? 'w').getD [] ++ ['\''])
      return 1
    | some width =>
      throughFiles name g.operands 1 atFile fun _ content =>
        say ((fullLines content).flatMap fun line =>
          let body := chomp line
          folded width (g.has 'b') (g.has 's') (2 * body.length + 2) [] 0 body ++
            if line.getLast? = some '\n' then ['\n'] else [])

/-- The columns of tabs: a width for all of them, or a list. -/
def tabStops? (t : Octets) : Option (List Nat) :=
  ((Text.splitOn ',' (t.map fun c => if c = ' ' then ',' else c)).filter (· ≠ [])).mapM natural?

/-- The next column of a tab, if there is one. -/
def nextStop (stops : List Nat) (col : Nat) : Option Nat :=
  match stops with
  | [] => some ((col / 8 + 1) * 8)
  | [n] => if n = 0 then none else some ((col / n + 1) * n)
  | all => all.find? (col < ·)

/-- Tabs become blanks. -/
def expand : Utility := fun name arguments =>
  withOptions "it:" [("initial", 'i'), ("tabs", 't')] name arguments 1 fun g => do
    match tabStops? ((g.value? 't').getD []) with
    | none =>
      blame name (lit "tab size contains invalid character(s): '" ++ (g.value? 't').getD [] ++ ['\''])
      return 1
    | some stops =>
      throughFiles name g.operands 1 atFile fun _ content =>
        say ((fullLines content).flatMap fun line =>
          let (t, _, _) := line.foldl (fun (t, col, initial) c =>
            if c = '\t' ∧ (initial ∨ ¬ g.has 'i') then
              let next := (nextStop stops col).getD (col + 1)
              (List.replicate (next - col) ' ' ++ t, next, initial)
            else if c = '\x08' then (c :: t, col - 1, initial)
            else (c :: t, col + 1, initial && (c == ' ' || c == '\t'))) (([] : Octets), 0, true)
          t.reverse)

/-- Blanks in front of a column of a tab become tabs. -/
def unexpand : Utility := fun name arguments =>
  withOptions "at:f" [("all", 'a'), ("tabs", 't'), ("first-only", 'f')] name arguments 1 fun g => do
    match tabStops? ((g.value? 't').getD []) with
    | none =>
      blame name (lit "tab size contains invalid character(s): '" ++ (g.value? 't').getD [] ++ ['\''])
      return 1
    | some stops =>
      let everywhere := (g.has 'a' || g.has 't') && !g.has 'f'
      throughFiles name g.operands 1 atFile fun _ content =>
        say ((fullLines content).flatMap fun line =>
          let (t, blanks, _, _) := line.foldl (fun (t, blanks, col, converts) c =>
            if converts ∧ (c = ' ' ∨ c = '\t') then
              match nextStop stops col with
              | none => (c :: (blanks ++ t), [], col + 1, converts)
              | some stop =>
                if c = '\t' then ('\t' :: t, [], stop, converts)
                else if col + 1 = stop then
                  (if blanks.isEmpty ∧ (t.head?.any (fun c => c != ' ' && c != '\t') || t.isEmpty) ∧
                      stop - col = 1 ∧ blanks.length = 0 then ' ' :: t else '\t' :: t, [], col + 1, converts)
                else (t, ' ' :: blanks, col + 1, converts)
            else
              (c :: (blanks ++ t), [], (if c = '\x08' then col - 1 else col + 1),
                converts && everywhere)) (([] : Octets), ([] : Octets), 0, true)
          (blanks ++ t).reverse)

/-! ## Lines beside each other -/

/-- The characters of a list of separators. -/
def delimiters : Octets → List Octets
  | '\\' :: 'n' :: rest => ['\n'] :: delimiters rest
  | '\\' :: 't' :: rest => ['\t'] :: delimiters rest
  | '\\' :: '0' :: rest => [] :: delimiters rest
  | '\\' :: 'b' :: rest => ['\x08'] :: delimiters rest
  | '\\' :: 'f' :: rest => ['\x0c'] :: delimiters rest
  | '\\' :: 'r' :: rest => ['\r'] :: delimiters rest
  | '\\' :: 'v' :: rest => ['\x0b'] :: delimiters rest
  | '\\' :: c :: rest => [c] :: delimiters rest
  | c :: rest => [c] :: delimiters rest
  | [] => []

/-- Items with separators between them, which are used in turn. -/
def joinInTurn (separators : List Octets) (items : List Octets) : Octets :=
  (items.zipIdx.map fun (item, i) =>
    if i = 0 then item
    else ((separators[(i - 1) % max separators.length 1]?).getD []) ++ item).flatten

/-- The lines of several files, one of each in a row. The input can be several of the
files, which take their lines in turn. -/
def paste : Utility := fun name arguments =>
  withOptions "d:sz" [("delimiters", 'd'), ("serial", 's'), ("zero-terminated", 'z')] name arguments 1
      fun g => do
    let mark := markOf g
    let separators := delimiters ((g.value? 'd').getD ['\t'])
    let backslashes := ((g.value? 'd').getD []).reverse.takeWhile (· = '\\')
    if backslashes.length % 2 = 1 then
      blame name (lit "delimiter list ends with an unescaped backslash: " ++ (g.value? 'd').getD [])
      return 1
    let paths := if g.operands.isEmpty then [['-']] else g.operands
    let linesOf (content : Octets) : List Octets := (linesWith mark content).map (chompWith mark)
    if g.has 's' then
      paths.foldlM (fun status path => do
        match ← contentOf path with
        | .ok content =>
          say (joinInTurn separators (linesOf content) ++ [mark])
          return status
        | .error obstacle => blame name (atFile path obstacle); return 1) 0
    else
      let dashes := (paths.filter (· = ['-'])).length
      let input ← if 0 < dashes then pure (linesOf ((← readAll 0).getD [])) else pure []
      let (columns, failed, _) ← paths.foldlM (fun (columns, failed, nth) path => do
        if path = ['-'] then
          let own := (input.zipIdx.filter fun (_, i) => i % dashes = nth).map (·.1)
          return (columns ++ [own], failed, nth + 1)
        else
          match ← contentOf path with
          | .ok content => return (columns ++ [linesOf content], failed, nth)
          | .error obstacle =>
            if failed then return (columns, true, nth)
            else
              blame name (atFile path obstacle)
              return (columns, true, nth)) (([] : List (List Octets)), false, 0)
      if failed then return 1
      let count := (columns.map List.length).foldl max 0
      say ((List.range count).flatMap fun i =>
        joinInTurn separators (columns.map fun column => (column[i]?).getD []) ++ [mark])
      return 0

/-! ## Lines in several files -/

/-- The names of parts: letters or digits, counted up. -/
def partName (digits : Bool) (length n : Nat) : Octets :=
  ((List.range length).map fun i =>
    let base := if digits then 10 else 26
    let d := n / (Nat.pow base (length - 1 - i)) % base
    Char.ofNat ((if digits then 48 else 97) + d))

/-- A text in several files. -/
def split : Utility := fun name arguments =>
  let arguments := arguments.map fun a =>
    match a with
    | '-' :: c :: rest => if c.isDigit ∧ rest.all Char.isDigit then '-' :: 'l' :: c :: rest else a
    | a => a
  withOptions "l:b:C:n:a:dx:A:" [("lines", 'l'), ("bytes", 'b'), ("line-bytes", 'C'), ("number", 'n'),
      ("suffix-length", 'a'), ("numeric-suffixes", 'd'), ("additional-suffix", 'A')]
      name arguments 1 fun g => do
    let path := g.operands.headD ['-']
    let front := (g.operands.drop 1).headD ['x']
    match ← contentOf path with
    | .error obstacle => blame name (notOpened path obstacle); return 1
    | .ok content =>
      let pieces : List Octets :=
        match (g.value? 'b').bind countOf?, (g.value? 'n').bind natural? with
        | some n, _ => cuts (max n 1) content.length content
        | none, some n =>
          let size := content.length / max n 1
          (List.range n).map fun i =>
            if i + 1 = n then content.drop (i * size) else (content.drop (i * size)).take size
        | none, none =>
          let n := ((g.value? 'l').bind countOf?).getD 1000
          (cuts (max n 1) content.length (fullLines content)).map List.flatten
      let length := ((g.value? 'a').bind natural?).getD 2
      let result ← pieces.zipIdx.foldlM (fun (ok : Bool) (t, i) => do
        if !ok then return false
        let path := front ++ partName (g.has 'd') length i ++ (g.value? 'A').getD []
        match (← files).create (decode path) (toBytes t) with
        | .ok files => setFiles files; return true
        | .error obstacle => blame name (atFile path obstacle); return false) true
      return if result then 0 else 1
where
  /-- A list in parts of one length. -/
  cuts {α : Type} (n : Nat) : Nat → List α → List (List α)
    | 0, items => if items.isEmpty then [] else [items]
    | fuel + 1, items => if items.isEmpty then [] else items.take n :: cuts n fuel (items.drop n)

end Equate.Shell.Utility
