import Equate.Match.Notation
import Equate.Shell.Octets

/-!
# Scripts that edit lines

A script is a list of commands, each with the lines that it applies to. A block is a
command that opens it and one that closes it. Mistakes are told with how far the script
has been read.
-/
namespace Equate.Shell

/-- Where a command applies, by one line. -/
inductive Address where
  | line (n : Nat)
  /-- Every so many lines from a first one on. -/
  | step (first every : Nat)
  | last
  /-- Lines that match; without an expression, the last one that was used. -/
  | fits (e : Option Match) (folded : Bool)

/-- Where a range of lines ends. -/
inductive Address.End where
  | at (a : Address)
  /-- So many lines further. -/
  | further (n : Nat)
  /-- At the next multiple. -/
  | multiple (n : Nat)

/-- How letters are changed in a replacement. -/
inductive Casing where
  | upper
  | lower
  | none
  | upperNext
  | lowerNext
  deriving DecidableEq

/-- A part of a replacement. -/
inductive Filling where
  | text (t : Octets)
  | group (n : Nat)
  | casing (c : Casing)

/-- A replacement of what matches. -/
structure Substitution where
  fits : Option Match
  folded : Bool
  filling : List Filling
  all : Bool
  nth : Nat
  printed : Bool
  target : Option Octets

/-- What a command does. -/
inductive Deed where
  | opening
  | closing
  | label (name : Octets)
  | branch (name : Octets)
  | branchIfReplaced (name : Octets)
  | branchUnlessReplaced (name : Octets)
  | append (t : Octets)
  | insert (t : Octets)
  | change (t : Octets)
  | delete
  | deleteFirst
  | hold
  | holdMore
  | get
  | getMore
  | exchange
  | next
  | nextMore
  | print
  | printFirst
  | number
  | name
  | list (width : Option Nat)
  | quit (status : Nat)
  | quitSilently (status : Nat)
  | read (path : Octets)
  | readLine (path : Octets)
  | write (path : Octets)
  | writeFirst (path : Octets)
  | substitute (s : Substitution)
  | transliterate (a b : Octets)
  | clear

/-- A command with its lines. -/
structure EditCommand where
  first : Option Address
  last : Option Address.End
  negated : Bool
  deed : Deed

namespace EditScript

/-- Reading a script. -/
abbrev Reader := ExceptT Octets (StateM Octets)

/-- What is left of the script. -/
def rest : Reader Octets := get

/-- The next character, which is taken. -/
def next : Reader (Option Char) := do
  match ← get with
  | [] => return none
  | c :: rest => set rest; return some c

/-- The next character, which stays. -/
def peek : Reader (Option Char) := return (← get).head?

/-- Characters are skipped. -/
def skip (accepts : Char → Bool) : Reader Unit := modify fun t => t.dropWhile accepts

/-- A blank inside a line. -/
def isBlank (c : Char) : Bool := c == ' ' || c == '\t'

/-- Blanks are skipped, line ends apart. -/
def skipBlanks : Reader Unit := skip fun c => isSpace c && c != '\n'

/-- The digits in front. -/
def number : Reader Nat := do
  let digits := (← get).takeWhile Char.isDigit
  modify fun t => t.drop digits.length
  return Text.digitsValue digits

/-- A mistake. -/
def wrong {α : Type} (words : String) : Reader α := throw (lit words)

/-- A text up to a mark. In an expression, brackets hide the mark. `none` if the mark is
missing. -/
def upTo (mark : Char) (isExpression : Bool) : Nat → (inBrackets : Bool) → Octets →
    Octets → Option (Octets × Octets)
  | 0, _, _, _ => none
  | fuel + 1, inBrackets, front, t =>
    match t with
    | [] => none
    | '\n' :: rest =>
      if isExpression then none else upTo mark isExpression fuel inBrackets ('\n' :: front) rest
    | '\\' :: c :: rest =>
      if inBrackets then upTo mark isExpression fuel inBrackets ('\\' :: front) (c :: rest)
      else if c = mark ∧ ¬ (!isExpression ∧ c = '&') then
        upTo mark isExpression fuel inBrackets (c :: front) rest
      else upTo mark isExpression fuel inBrackets (c :: '\\' :: front) rest
    | c :: rest =>
      if inBrackets then
        match c, rest with
        | ']', _ => upTo mark isExpression fuel false (c :: front) rest
        | '[', ':' :: _ =>
          match Match.Notation.upToPair ':' ']' rest.tail with
          | some (name, behind) =>
            upTo mark isExpression fuel true ((lit "[:" ++ name ++ lit ":]").reverse ++ front) behind
          | none => upTo mark isExpression fuel true (c :: front) rest
        | _, _ => upTo mark isExpression fuel true (c :: front) rest
      else if c = mark then some (front.reverse, rest)
      else if isExpression ∧ c = '[' then
        match rest with
        | '^' :: ']' :: rest => upTo mark isExpression fuel true (']' :: '^' :: '[' :: front) rest
        | '^' :: rest => upTo mark isExpression fuel true ('^' :: '[' :: front) rest
        | ']' :: rest => upTo mark isExpression fuel true (']' :: '[' :: front) rest
        | rest => upTo mark isExpression fuel true ('[' :: front) rest
      else upTo mark isExpression fuel inBrackets (c :: front) rest

/-- A text up to a mark is taken. -/
def taken (mark : Char) (isExpression : Bool) (words : String) : Reader Octets := do
  let t ← get
  match upTo mark isExpression (t.length + 1) false [] t with
  | some (front, rest) => set rest; return front
  | none =>
    set (if isExpression then t.dropWhile (· ≠ '\n') else ([] : Octets))
    wrong words

/-- The value of a digit. -/
def digit? (base : Nat) (c : Char) : Option Nat :=
  let n :=
    if c.isDigit then c.toNat - 48
    else if 'a' ≤ c ∧ c ≤ 'f' then c.toNat - 87
    else if 'A' ≤ c ∧ c ≤ 'F' then c.toNat - 55
    else base
  if n < base then some n else none

/-- A code in so many digits at most, and what follows it. -/
def code? (base count : Nat) (t : Octets) : Option (Char × Octets) :=
  let digits := (t.take count).takeWhile fun c => (digit? base c).isSome
  if digits = [] then none
  else some (Char.ofNat (digits.foldl (fun n c => n * base + (digit? base c).getD 0) 0 % 256),
    t.drop digits.length)

/-- A character that a backslash and a letter stand for. -/
def special? (t : Octets) : Option (Char × Octets) :=
  match t with
  | 'a' :: rest => some ('\x07', rest)
  | 'f' :: rest => some ('\x0c', rest)
  | 'n' :: rest => some ('\n', rest)
  | 'r' :: rest => some ('\r', rest)
  | 't' :: rest => some ('\t', rest)
  | 'v' :: rest => some ('\x0b', rest)
  | 'c' :: c :: rest => some (Char.ofNat ((c.toUpper.toNat + 64) % 128), rest)
  | 'd' :: rest => code? 10 3 rest
  | 'o' :: rest => code? 8 3 rest
  | 'x' :: rest => code? 16 2 rest
  | _ => none

/-- A text with the characters that letters behind backslashes stand for. -/
def converted : Nat → Octets → Octets
  | 0, t => t
  | fuel + 1, t =>
    match t with
    | '\\' :: rest =>
      match special? rest with
      | some (c, rest) => c :: converted fuel rest
      | none =>
        match rest with
        | c :: rest => '\\' :: c :: converted fuel rest
        | [] => ['\\']
    | c :: rest => c :: converted fuel rest
    | [] => []

/-- The expression that a text is; an empty one is the last that was used. -/
def expression (extended lines : Bool) (t : Octets) : Reader (Option Match) := do
  if t.isEmpty then return none
  else
    let t := converted (t.length + 1) t
    match Match.ofText ⟨extended, false, false, false⟩ t with
    | .ok e => return some (if lines then byLines e else e)
    | .error words => throw words
where
  /-- The starts and ends are those of lines. -/
  byLines : Match → Match
    | .edge .start => .edge .lineStart
    | .edge .finish => .edge .lineFinish
    | .sequence a b => .sequence (byLines a) (byLines b)
    | .either a b => .either (byLines a) (byLines b)
    | .repeated a least most greedy => .repeated (byLines a) least most greedy
    | .group n a => .group n (byLines a)
    | e => e

/-- The number of the last group of an expression. -/
def groups : Match → Nat
  | .group n a => max n (groups a)
  | .sequence a b => max (groups a) (groups b)
  | .either a b => max (groups a) (groups b)
  | .repeated a _ _ _ => groups a
  | _ => 0

/-- An address, if there is one. -/
def address? (extended : Bool) : Reader (Option Address) := do
  let fitting (mark : Char) : Reader (Option Address) := do
    let t ← taken mark true "unterminated address regex"
    let flags := (← get).takeWhile fun c => c == 'I' || c == 'M'
    modify fun t => t.drop flags.length
    return some (.fits (← expression extended (flags.contains 'M') t) (flags.contains 'I'))
  match ← peek with
  | some '/' =>
    let _ ← next
    fitting '/'
  | some '\\' =>
    let _ ← next
    match ← next with
    | some mark => fitting mark
    | none => wrong "unterminated address regex"
  | some '$' =>
    let _ ← next
    return some .last
  | some c =>
    if c.isDigit then
      let n ← number
      let t ← get
      match t.dropWhile isBlank with
      | '~' :: rest =>
        set (rest.dropWhile isBlank)
        return some (.step n (← number))
      | _ => return some (.line n)
    else return none
  | none => return none

/-- Where a range ends. -/
def rangeEnd (extended : Bool) : Reader Address.End := do
  match ← peek with
  | some '+' =>
    let _ ← next
    return .further (← number)
  | some '~' =>
    let _ ← next
    return .multiple (← number)
  | _ =>
    match ← address? extended with
    | some a => return .at a
    | none =>
      let _ ← next
      wrong "unexpected `,'"

/-- Nothing but the end of the command may follow. -/
def finish : Reader Unit := do
  skipBlanks
  match ← peek with
  | none => return
  | some '}' => return
  | some '#' => return
  | some c =>
    let _ ← next
    if c = '\n' ∨ c = ';' then return else wrong "extra characters after command"

/-- The rest of the line. -/
def line : Reader Octets := do
  let t := (← get).takeWhile (· ≠ '\n')
  modify fun rest => (rest.drop t.length).drop 1
  return t

/-- The name of a file. -/
def path : Reader Octets := do
  skipBlanks
  match ← line with
  | [] => wrong "missing filename in r/R/w/W commands"
  | t => return t

/-- A name up to a blank or a semicolon. -/
def labelName : Reader Octets := do
  skipBlanks
  let t := (← get).takeWhile fun c => !isSpace c && c != ';' && c != '}'
  modify fun rest => rest.drop t.length
  finish
  return t

/-- The text of a command that takes one, up to a line end that no backslash stands in
front of. -/
def textLines : Nat → Octets → Octets × Octets
  | 0, t => ([], t)
  | fuel + 1, t =>
    match t with
    | [] => ([], [])
    | '\n' :: rest => (['\n'], rest)
    | ['\\'] => ([], [])
    | '\\' :: rest =>
      match special? rest with
      | some (c, behind) =>
        let (more, rest) := textLines fuel behind
        (c :: more, rest)
      | none =>
        let (more, behind) := textLines fuel (rest.drop 1)
        (rest.take 1 ++ more, behind)
    | c :: rest =>
      let (more, rest) := textLines fuel rest
      (c :: more, rest)

/-- The text of a command that takes one. -/
def text : Reader Octets := do
  skipBlanks
  if (← peek).isNone then wrong "expected \\ after `a', `c' or `i'"
  match ← get with
  | '\\' :: rest =>
    match rest.dropWhile isBlank with
    | '\n' :: rest => set rest
    | _ => set rest
  | _ => pure ()
  let t ← get
  let (t, rest) := textLines (t.length + 1) t
  set rest
  return if t.getLast? = some '\n' then t else t ++ ['\n']

/-- The parts of a replacement. -/
def fillings : Nat → Octets → List Filling
  | 0, _ => []
  | fuel + 1, t =>
    match t with
    | [] => []
    | '&' :: rest => .group 0 :: fillings fuel rest
    | '\\' :: 'L' :: rest => .casing .lower :: fillings fuel rest
    | '\\' :: 'U' :: rest => .casing .upper :: fillings fuel rest
    | '\\' :: 'E' :: rest => .casing .none :: fillings fuel rest
    | '\\' :: 'l' :: rest => .casing .lowerNext :: fillings fuel rest
    | '\\' :: 'u' :: rest => .casing .upperNext :: fillings fuel rest
    | '\\' :: c :: rest =>
      if c.isDigit then .group (c.toNat - 48) :: fillings fuel rest
      else
        match special? (c :: rest) with
        | some (d, rest) => .text [d] :: fillings fuel rest
        | none => .text [c] :: fillings fuel rest
    | c :: rest => .text [c] :: fillings fuel rest

/-- The flags behind a replacement. -/
def flags : Nat → (folded lines : Bool) → Substitution → Reader (Substitution × Bool)
  | 0, _, lines, s => return (s, lines)
  | fuel + 1, folded, lines, s => do
    match ← peek with
    | none => return ({ s with folded }, lines)
    | some '}' => return ({ s with folded }, lines)
    | some '#' => return ({ s with folded }, lines)
    | some c =>
      let _ ← if c.isDigit then pure none else next
      match c with
      | 'i' => flags fuel true lines s
      | 'I' => flags fuel true lines s
      | 'm' => flags fuel folded true s
      | 'M' => flags fuel folded true s
      | 'e' => flags fuel folded lines s
      | 'g' =>
        if s.all then wrong "multiple `g' options to `s' command"
        else flags fuel folded lines { s with all := true }
      | 'p' =>
        if s.printed then wrong "multiple `p' options to `s' command"
        else flags fuel folded lines { s with printed := true }
      | 'w' => return ({ s with folded, target := some (← path) }, lines)
      | '\n' => return ({ s with folded }, lines)
      | ';' => return ({ s with folded }, lines)
      | '\r' => flags fuel folded lines s
      | ' ' => flags fuel folded lines s
      | '\t' => flags fuel folded lines s
      | c =>
        if c.isDigit then
          if s.nth ≠ 0 then
            let _ ← next
            wrong "multiple number options to `s' command"
          let n ← number
          if n = 0 then wrong "number option to `s' command may not be zero"
          else flags fuel folded lines { s with nth := n }
        else wrong "unknown option to `s'"

/-- A replacement of what matches. -/
def substitution (extended : Bool) : Reader Deed := do
  let unterminated := "unterminated `s' command"
  match ← next with
  | none => wrong unterminated
  | some mark =>
    if mark = '\n' ∨ mark = '\\' then wrong unterminated
    let t ← taken mark true unterminated
    let replacement ← taken mark false unterminated
    let filling := fillings (replacement.length + 1) replacement
    let (s, lines) ← flags ((← get).length + 1) false false ⟨none, false, filling, false, 0, false, none⟩
    let e ← expression extended lines t
    let most := filling.foldl (fun most f => match f with
      | .group n => max most n
      | _ => most) 0
    match e with
    | some e =>
      if groups e < most then
        throw (lit "invalid reference \\" ++ Text.decimal most ++ lit " on `s' command's RHS")
    | none => pure ()
    return .substitute { s with fits := e }

/-- A text for a change of single characters. -/
def plainText : Nat → Octets → Octets
  | 0, t => t
  | fuel + 1, t =>
    match t with
    | '\\' :: '\\' :: rest => '\\' :: plainText fuel rest
    | '\\' :: rest =>
      match special? rest with
      | some (c, rest) => c :: plainText fuel rest
      | none => '\\' :: plainText fuel rest
    | c :: rest => c :: plainText fuel rest
    | [] => []

/-- A number behind a command. -/
def count? : Reader (Option Nat) := do
  skipBlanks
  if (← peek).any Char.isDigit then
    let n ← number
    finish
    return some n
  else
    finish
    return none

/-- What a command does, by its letter. -/
def deed (extended : Bool) (depth : Nat) (first : Option Address) (last : Option Address.End) :
    Char → Reader Deed := fun c => do
  let single (d : Deed) : Reader Deed := do
    if last.isSome then wrong "command only uses one address" else return d
  let simple (d : Deed) : Reader Deed := do
    finish
    return d
  match c with
  | '{' => return .opening
  | '}' =>
    if depth = 0 then wrong "unexpected \x60\x7d'"
    else if first.isSome then wrong "\x7d doesn't want any addresses"
    else simple .closing
  | ':' =>
    if first.isSome then wrong ": doesn't want any addresses"
    skipBlanks
    let t := (← get).takeWhile fun c => !isSpace c && c != ';'
    modify fun rest => rest.drop t.length
    if t.isEmpty then wrong "\":\" lacks a label" else return .label t
  | 'b' => return .branch (← labelName)
  | 't' => return .branchIfReplaced (← labelName)
  | 'T' => return .branchUnlessReplaced (← labelName)
  | 'a' => return .append (← text)
  | 'i' => return .insert (← text)
  | 'c' => return .change (← text)
  | 'd' => simple .delete
  | 'D' => simple .deleteFirst
  | 'h' => simple .hold
  | 'H' => simple .holdMore
  | 'g' => simple .get
  | 'G' => simple .getMore
  | 'x' => simple .exchange
  | 'n' => simple .next
  | 'N' => simple .nextMore
  | 'p' => simple .print
  | 'P' => simple .printFirst
  | '=' => simple .number
  | 'F' => simple .name
  | 'z' => simple .clear
  | 'l' => return .list (← count?)
  | 'q' =>
    let _ ← single .clear
    return .quit ((← count?).getD 0)
  | 'Q' =>
    let _ ← single .clear
    return .quitSilently ((← count?).getD 0)
  | 'r' => return .read (← path)
  | 'R' => return .readLine (← path)
  | 'w' => return .write (← path)
  | 'W' => return .writeFirst (← path)
  | 's' => substitution extended
  | 'y' =>
    let unterminated := "unterminated `y' command"
    match ← next with
    | none => wrong unterminated
    | some mark =>
      let a ← taken mark false unterminated
      let b ← taken mark false unterminated
      let (a, b) := (plainText (a.length + 1) a, plainText (b.length + 1) b)
      if a.length ≠ b.length then wrong "strings for `y' command are different lengths"
      else simple (.transliterate a b)
  | c => throw (lit "unknown command: `" ++ [c] ++ ['\''])

/-- The commands of a script. -/
def commands (extended : Bool) : Nat → (depth : Nat) → Reader (List EditCommand)
  | 0, _ => return []
  | fuel + 1, depth => do
    skip fun c => isSpace c || c == ';'
    if (← peek).isNone then
      if depth = 0 then return []
      else throw (lit "0unmatched `\x7b'")
    else
      let first ← address? extended
      skipBlanks
      let last ← match first, ← peek with
        | some _, some ',' =>
          let _ ← next
          skipBlanks
          pure (some (← rangeEnd extended))
        | _, _ => pure none
      skipBlanks
      match first, last with
      | some (.line 0), some (.at (.fits ..)) => pure ()
      | some (.line 0), _ =>
        let _ ← next
        wrong "invalid usage of line address 0"
      | _, _ => pure ()
      let negated := (← peek) == some '!'
      if negated then
        let _ ← next
        skipBlanks
        if (← peek) == some '!' then
          let _ ← next
          wrong "multiple `!'s"
      match ← next with
      | none => wrong "missing command"
      | some '#' =>
        if first.isSome then wrong "comments don't accept any addresses"
        let _ ← line
        commands extended fuel depth
      | some c =>
        let d ← deed extended depth first last c
        let depth := match d with
          | .opening => depth + 1
          | .closing => depth - 1
          | _ => depth
        return ⟨first, last, negated, d⟩ :: (← commands extended fuel depth)

/-- The labels to which commands go. -/
def wantedLabels (all : List EditCommand) : List Octets :=
  all.filterMap fun c => match c.deed with
    | .branch name => some name
    | .branchIfReplaced name => some name
    | .branchUnlessReplaced name => some name
    | _ => none

/-- The labels that there are. -/
def labels (all : List EditCommand) : List Octets :=
  all.filterMap fun c => match c.deed with
    | .label name => some name
    | _ => none

/-- The files that are written to. -/
def targets (all : List EditCommand) : List Octets :=
  all.filterMap fun c => match c.deed with
    | .write path => some path
    | .writeFirst path => some path
    | .substitute s => s.target
    | _ => none

/-- The commands of a script, or what is wrong with it and how far it has been read. Nothing
is told about the place of a mistake that only the end shows. -/
def read (extended : Bool) (t : Octets) : Except (Octets × Nat) (List EditCommand) :=
  match (commands extended (t.length + 2) 0).run.run t with
  | (.ok all, _) => .ok all
  | (.error ('0' :: words), _) => .error (words, 0)
  | (.error words, rest) => .error (words, t.length - rest.length)

end EditScript
end Equate.Shell
