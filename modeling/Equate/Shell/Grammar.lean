import Equate.Shell.Reader

/-!
# The grammar of scripts

Words are read piece by piece. What ends a word, and which characters are special in
it, depends on what surrounds it. A command in a word is read like any other.
-/
namespace Equate.Shell.Reading

/-- The mistake when nothing is left to read inside quotation marks. In a document these
stand between braces. -/
def unclosed {α : Type} : Reading α := do
  if (← get).inside.isSome then ungrammatical (lit "Missing '\x7d'")
  else ungrammatical (lit "Unterminated quoted string")

/-- The recursion went deeper than the script is long. -/
def exhausted {α : Type} : Reading α := ungrammatical (lit "too deep")

/-- What surrounds a word. -/
inductive Surrounding where
  | nothing
  | braces
  | quotes
  | quotedBraces (inner : Bool)
  | document
  | sum (depth : Nat)
  deriving DecidableEq

namespace Surrounding

/-- Quotation marks surround the word, or what counts as such. -/
def isQuoted : Surrounding → Bool
  | nothing => false
  | braces => false
  | _ => true

/-- A character that a backslash takes the meaning from. -/
def escapes (s : Surrounding) (c : Char) : Bool :=
  !s.isQuoted || c == '\\' || c == '\x60' || c == '$' || (c == '"' && s != document) ||
    (c == '}' && (s == quotedBraces true || s == quotedBraces false))

/-- Quotation marks stand for themselves. -/
def keepsMarks : Surrounding → Bool
  | document => true
  | sum _ => true
  | _ => false

/-- The mistake when nothing is left to read here. -/
def atEnd : Surrounding → Reading Word
  | nothing => return []
  | braces => ungrammatical (lit "Missing '\x7d'")
  | document => return []
  | sum _ => ungrammatical (lit "Missing '))'")
  | _ => unclosed

end Surrounding

/-- A character that ends a word if nothing surrounds it. -/
def endsWord (c : Char) : Bool :=
  c == '\n' || c == ' ' || c == '\t' || c == '&' || c == ';' || c == '(' || c == ')' ||
    c == '|' || c == '<' || c == '>'

/-- A parameter with a name that is a single character. -/
def isSpecialName (c : Char) : Bool :=
  c == '?' || c == '#' || c == '*' || c == '@' || c == '$' || c == '!' || c == '-' || c.isDigit

/-- The characters up to one that ends them, or up to the end of the document. -/
def verbatim (ends : Char → Bool) : Nat → Reading Octets
  | 0 => exhausted
  | fuel + 1 => do
    let t ← takeWhile fun c => c != '\n' && !ends c
    match (← get).rest.head? with
    | some '\n' =>
      skip 1
      beginLine
      return t ++ '\n' :: (← verbatim ends fuel)
    | _ => return t

/-- The characters between single quotes. -/
def single (fuel : Nat) : Reading Octets := do
  let t ← verbatim (· == '\'') fuel
  if (← get).rest = [] then unclosed
  skip 1
  return t

/-- The text between back quotes. A backslash in it takes the meaning from few
characters. -/
def betweenBackQuotes (quoted : Bool) : Octets → Octets × Nat
  | [] => ([], 0)
  | '\x60' :: _ => ([], 1)
  | '\\' :: c :: rest =>
    let (t, n) := betweenBackQuotes quoted rest
    if c = '\\' ∨ c = '\x60' ∨ c = '$' ∨ (quoted ∧ c = '"') then (c :: t, n + 2)
    else if c = '\n' then (t, n + 2)
    else ('\\' :: c :: t, n + 2)
  | c :: rest =>
    let (t, n) := betweenBackQuotes quoted rest
    (c :: t, n + 1)

/-- The word that ends a document, whether a part of it is quoted, and its length in the
script; `none` if a quotation mark is not closed. -/
def delimiter : Octets → Option (Octets × Bool × Nat)
  | [] => some ([], false, 0)
  | '\\' :: '\n' :: rest => (delimiter rest).map fun (t, quoted, n) => (t, quoted, n + 2)
  | '\\' :: c :: rest => (delimiter rest).map fun (t, _, n) => (c :: t, true, n + 2)
  | '\'' :: rest => between '\'' rest
  | '"' :: rest => between '"' rest
  | c :: rest =>
    if endsWord c then some ([], false, 0)
    else (delimiter rest).map fun (t, quoted, n) => (c :: t, quoted, n + 1)
where
  /-- The same inside quotes. -/
  between (mark : Char) : Octets → Option (Octets × Bool × Nat)
    | [] => none
    | c :: rest =>
      if c = mark then (delimiter rest).map fun (t, _, n) => (t, true, n + 2)
      else (between mark rest).map fun (t, _, n) => (c :: t, true, n + 1)

/-- The assignment that a word is. -/
def assignment? (w : Word) : Option (Octets × Word) :=
  let name := w.takeWhile fun piece => match piece with
    | .plain c => isNameChar c
    | _ => false
  match bare? name, w.drop name.length with
  | some text, .plain '=' :: value => if isName text then some (text, value) else none
  | _, _ => none

/-- The names of commands that no function can have. -/
def specialNames : List Octets :=
  [".", ":", "break", "continue", "eval", "exec", "exit", "export", "local", "readonly", "return",
    "set", "shift", "times", "trap", "unset"].map lit

/-- How a redirection treats its target, by its sign. -/
def modeOf (sign : Octets) : Mode :=
  match String.ofList sign with
  | "<" => .read
  | ">" => .write
  | ">|" => .overwrite
  | ">>" => .append
  | "<>" => .both
  | "<<" => .document
  | "<<-" => .document
  | _ => .duplicate

/-- What is done with a parameter, by the sign behind its name. -/
def treatment? : Char → Option Treatment
  | '-' => some .orElse
  | '=' => some .orAssign
  | '?' => some .orFail
  | '+' => some .instead
  | _ => none

/-- How a list of commands ends. -/
inductive Extent where
  /-- With the line. -/
  | line
  /-- With a word that ends lists, behind one command at least. -/
  | inner
  /-- With such a word. -/
  | open
  deriving DecidableEq

/-- The sign behind the name of a parameter. One that means nothing is left out of the
count of lines too. -/
def treatmentSign (colon : Bool) : Reading (Option (Bool × Treatment)) := do
  match (← peek).bind treatment? with
  | some t => skip 1; return some (colon, t)
  | none =>
    modify fun s => { s with rest := s.rest.drop 1 }
    return none

/-- What stands in front of the closing brace says what is done with a parameter. -/
def treatmentHere : Reading (Option (Bool × Treatment)) := do
  match ← peek with
  | some ':' => skip 1; treatmentSign true
  | some '%' =>
    skip 1
    if ← takes '%' then return some (false, .cutLongEnd) else return some (false, .cutShortEnd)
  | some '#' =>
    skip 1
    if ← takes '#' then return some (false, .cutLongStart) else return some (false, .cutShortStart)
  | _ => treatmentSign false

/-- The name of a parameter between braces, and whether its length is asked for. A
character that begins none is left out. -/
def nameBetweenBraces : Reading (Option (Octets × Bool)) := do
  match ← peek with
  | none => return none
  | some c =>
    if isNameStart c then return some (← takeWhile isNameChar, false)
    else if c.isDigit then return some (← takeWhile Char.isDigit, false)
    else if c = '#' then
      match (← get).rest with
      | '#' :: d :: rest =>
        if isNameStart d then skip 1; return some (← takeWhile isNameChar, true)
        else if d.isDigit then skip 1; return some (← takeWhile Char.isDigit, true)
        else if isSpecialName d ∧ rest.head? = some '}' then skip 2; return some ([d], true)
        else skip 1; return some (['#'], false)
      | _ => skip 1; return some (['#'], false)
    else if isSpecialName c then skip 1; return some ([c], false)
    else
      if c ≠ '}' then modify fun s => { s with rest := s.rest.drop 1 }
      return none

/-- The signs of redirections; of those that fit, the longest counts. -/
def signs : List Octets := ["<<-", "<<", "<&", "<>", "<", ">>", ">&", ">|", ">"].map lit

/-- The sign of a redirection. -/
def sign (descriptor : Option Nat) : Reading Token := do
  let rest := (← get).rest
  let name := (signs.find? fun s => s.isPrefixOf rest).getD []
  skip name.length
  return .redirection descriptor name

mutual

/-- The pieces of a word, up to what ends it. -/
def pieces : Nat → Surrounding → Reading Word
  | 0, _ => exhausted
  | fuel + 1, s => do
    match ← peek with
    | none => s.atEnd
    | some c =>
      if s = .nothing ∧ endsWord c then return []
      else
        match s, c with
        | .braces, '}' => skip 1; return []
        | .quotedBraces false, '}' => skip 1; return []
        | .quotes, '"' => skip 1; return []
        | .quotedBraces inner, '"' => skip 1; pieces fuel (.quotedBraces !inner)
        | .sum 0, ')' =>
          skip 1
          if ← takes ')' then return []
          else return .plain ')' :: (← pieces fuel s)
        | .sum (depth + 1), ')' =>
          skip 1
          return .plain ')' :: (← pieces fuel (.sum depth))
        | .sum depth, '(' =>
          skip 1
          return .plain '(' :: (← pieces fuel (.sum (depth + 1)))
        | s, c =>
          let first ← piece fuel s c
          return first ++ (← pieces fuel s)

/-- One piece of a word that goes on with this character. -/
def piece : Nat → Surrounding → Char → Reading Word
  | 0, _, _ => exhausted
  | fuel + 1, s, c => do
    skip 1
    match c with
    | '\\' =>
      match (← get).rest with
      | [] => return [.quoted '\\']
      | d :: _ =>
        skip 1
        if s.escapes d then return [.quoted d] else return [.quoted '\\', .quoted d]
    | '\'' => if s.isQuoted then return [.plain c] else return [.single (← single fuel)]
    | '"' =>
      if s.keepsMarks then return [.plain c]
      else if s.isQuoted then return []
      else return [.double (← pieces fuel .quotes)]
    | '$' => behindDollar fuel s
    | '\x60' =>
      let (text, n) := betweenBackQuotes s.isQuoted (← get).rest
      let before ← get
      if before.rest.length < n ∨ (before.rest.drop (n - 1)).head? ≠ some '\x60' then
        skip before.rest.length
        ungrammatical (lit "EOF in backquote substitution")
      skip n
      let behind ← get
      let body ← apart do
        modify fun s => { s with rest := text, line := 1 }
        list fuel .open
      modify fun s => { s with rest := behind.rest, line := behind.line }
      return [.output body]
    | '\n' => beginLine; return [.plain c]
    | c => return [.plain c]

/-- What a dollar sign begins. -/
def behindDollar : Nat → Surrounding → Reading Word
  | 0, _ => exhausted
  | fuel + 1, s => do
    match ← peek with
    | some '(' =>
      skip 1
      if ← takes '(' then return [.arithmetic (← pieces fuel (.sum 0))]
      else
        apart do
          let body ← list fuel .open
          match ← token fuel true false with
          | .operator [')'] => return [.output body]
          | t => expecting t (lit "\")\"")
    | some '{' =>
      skip 1
      betweenBraces fuel s
    | some c =>
      if isNameStart c then return [.parameter (← takeWhile isNameChar)]
      else if isSpecialName c then skip 1; return [.parameter [c]]
      else return [.plain '$']
    | none => return [.plain '$']

/-- A parameter between braces. -/
def betweenBraces : Nat → Surrounding → Reading Word
  | 0, _ => exhausted
  | fuel + 1, s => do
    let within := if s.isQuoted then Surrounding.quotedBraces false else .braces
    match ← nameBetweenBraces with
    | none =>
      let _ ← pieces fuel within
      return [.wrong]
    | some (name, true) =>
      let inner ← pieces fuel within
      return if inner.isEmpty then [.treated name false .length []] else [.wrong]
    | some (name, false) =>
      if ← takes '}' then return [.parameter name]
      else if (← get).rest.take 2 = [':', '}'] then
        skip 2
        return .parameter name :: (← pieces fuel within)
      else
        match ← treatmentHere with
        | none =>
          let _ ← pieces fuel within
          return [.wrong]
        | some (colon, treatment) =>
          let cuts := treatment = .cutShortEnd ∨ treatment = .cutLongEnd ∨
            treatment = .cutShortStart ∨ treatment = .cutLongStart
          return [.treated name colon treatment
            (← pieces fuel (if cuts then .braces else within))]

/-- The documents that have been announced, at the beginning of the line behind. -/
def documents : Nat → Reading Unit
  | 0 => exhausted
  | fuel + 1 => do
    match (← get).announced with
    | [] => return
    | a :: others =>
      modify fun s => { s with announced := others, inside := some a, beyond := none }
      beginLine
      let word ← if a.quoted then do pure [.single (← verbatim (fun _ => false) fuel)]
        else do pure [.double (← pieces fuel .document)]
      modify fun s => { s with
        rest := s.beyond.getD s.rest, inside := none, beyond := none
        documents := (a.number, word) :: s.documents }
      documents fuel

/-- The next token, as a keyword if `first` says that a command may begin here, and
behind the ends of lines if `across` says so. -/
def token : Nat → Bool → Bool → Reading Token
  | 0, _, _ => exhausted
  | fuel + 1, first, across => do
    let t ← match (← get).held with
      | some t => do
        modify fun s => { s with held := none }
        pure t
      | none => freshToken fuel
    match t with
    | .newline => if across then token fuel first across else return t
    | t => return if first then classify t else t

/-- The next token of the script itself. -/
def freshToken : Nat → Reading Token
  | 0 => exhausted
  | fuel + 1 => do
    if (← get).due then
      modify fun s => { s with due := false }
      documents fuel
    match ← peek with
    | none => documents fuel; return .ending
    | some ' ' => skip 1; freshToken fuel
    | some '\t' => skip 1; freshToken fuel
    | some '#' =>
      let _ ← takeWhile (· != '\n')
      freshToken fuel
    | some '\n' =>
      skip 1
      modify fun s => { s with due := true }
      return .newline
    | some '&' => skip 1; if ← takes '&' then return .operator ['&', '&'] else return .operator ['&']
    | some '|' => skip 1; if ← takes '|' then return .operator ['|', '|'] else return .operator ['|']
    | some ';' => skip 1; if ← takes ';' then return .operator [';', ';'] else return .operator [';']
    | some '(' => skip 1; return .operator ['(']
    | some ')' => skip 1; return .operator [')']
    | some '<' => sign none
    | some '>' => sign none
    | some _ =>
      let w ← pieces fuel .nothing
      let behind ← peek
      match bare? w with
      | some [c] =>
        if c.isDigit ∧ (behind = some '<' ∨ behind = some '>') then sign (some (c.toNat - 48))
        else return .word w
      | _ => return .word w

/-- A list of commands. -/
def list : Nat → Extent → Reading (List Command)
  | 0, _ => exhausted
  | fuel + 1, extent => do
    let t ← token fuel true (extent ≠ .line)
    match t with
    | .newline => return []
    | .ending => hold t; return []
    | t =>
      hold t
      if extent = .open ∧ endsList t then return []
      let c ← andOr fuel
      let t ← token fuel false false
      let c := if t.isOperator "&" then .background c else c
      let extent := if extent = .inner then .open else extent
      match t with
      | .ending => hold t; return [c]
      | .newline => hold t; return c :: (← list fuel extent)
      | t =>
        if t.isOperator "&" || t.isOperator ";" then return c :: (← list fuel extent)
        else if extent = .line then unexpected t
        else hold t; return [c]

/-- Commands of which the one depends on the other. -/
def andOr : Nat → Reading Command
  | 0 => exhausted
  | fuel + 1 => do andOrBehind fuel (← pipeline fuel false)

/-- The same, behind the first command. -/
def andOrBehind : Nat → Command → Reading Command
  | 0, _ => exhausted
  | fuel + 1, left => do
    let t ← token fuel false false
    if t.isOperator "&&" then andOrBehind fuel (.both left (← pipeline fuel true))
    else if t.isOperator "||" then andOrBehind fuel (.either left (← pipeline fuel true))
    else hold t; return left

/-- Commands that pass on what they write. -/
def pipeline : Nat → Bool → Reading Command
  | 0, _ => exhausted
  | fuel + 1, across => do
    let t ← token fuel true across
    let negated := t.isKeyword "!"
    if !negated then hold t
    let first ← command fuel false
    let rest ← piped fuel
    if !negated && rest.isEmpty then return first
    else return .pipeline negated (first :: rest)

/-- The commands behind the first of a pipeline. -/
def piped : Nat → Reading (List Command)
  | 0 => exhausted
  | fuel + 1 => do
    let t ← token fuel false false
    if t.isOperator "|" then
      let c ← command fuel true
      return c :: (← piped fuel)
    else hold t; return []

/-- A keyword that has to stand here. -/
def demand : Nat → String → Bool → Reading Unit
  | 0, _, _ => exhausted
  | fuel + 1, name, across => do
    let t ← token fuel true across
    if t.isKeyword name then return
    else expecting t (['"'] ++ lit name ++ ['"'])

/-- One command. -/
def command : Nat → Bool → Reading Command
  | 0, _ => exhausted
  | fuel + 1, across => do
    let t ← token fuel true across
    let line := (← get).line
    match t with
    | .word _ =>
      match ← replacement? t with
      | some value =>
        modify fun s => { s with rest := value ++ [' '] ++ s.rest }
        command fuel false
      | none =>
        modify fun s => { s with replaced := [] }
        hold t
        simple fuel line [] [] []
    | .redirection .. => hold t; simple fuel line [] [] []
    | .operator ['('] =>
      let body ← list fuel .inner
      match ← token fuel true false with
      | .operator [')'] => redirected fuel line (.subshell line body)
      | t => expecting t (lit "\")\"")
    | .keyword name =>
      match String.ofList name with
      | "if" =>
        let c ← choices fuel
        redirected fuel line c
      | "while" => redirected fuel line (← loop fuel false)
      | "until" => redirected fuel line (← loop fuel true)
      | "for" => redirected fuel line (← each fuel line)
      | "case" =>
        match ← token fuel false false with
        | .word subject =>
          demand fuel "in" true
          redirected fuel line (.select line subject (← cases fuel))
        | t => expecting t (lit "word")
      | "\x7b" =>
        let body ← list fuel .inner
        demand fuel "\x7d" false
        redirected fuel line (.group body)
      | _ => unexpected t
    | t => unexpected t

/-- What follows `if` or `elif`. -/
def choices : Nat → Reading Command
  | 0 => exhausted
  | fuel + 1 => do
    let condition ← list fuel .inner
    demand fuel "then" false
    let body ← list fuel .inner
    let t ← token fuel true false
    if t.isKeyword "elif" then
      return .choose condition body [← choices fuel]
    else if t.isKeyword "else" then
      let otherwise ← list fuel .inner
      demand fuel "fi" false
      return .choose condition body otherwise
    else if t.isKeyword "fi" then return .choose condition body []
    else expecting t (lit "\"fi\"")

/-- What follows `while` or `until`. -/
def loop : Nat → Bool → Reading Command
  | 0, _ => exhausted
  | fuel + 1, negated => do
    let condition ← list fuel .inner
    demand fuel "do" false
    let body ← list fuel .inner
    demand fuel "done" false
    return .loop negated condition body

/-- What follows `for`. -/
def each : Nat → Nat → Reading Command
  | 0, _ => exhausted
  | fuel + 1, line => do
    let name ← match ← token fuel false false with
      | .word w => pure (bare? w)
      | _ => pure none
    match name with
    | none => ungrammatical (lit "Bad for loop variable")
    | some name =>
      if !isName name then ungrammatical (lit "Bad for loop variable")
      let t ← token fuel true true
      let words ← if t.isKeyword "in" then listedWords fuel else do
        if !t.isOperator ";" then hold t
        pure [[.double [.parameter ['@']]]]
      demand fuel "do" true
      let body ← list fuel .inner
      demand fuel "done" false
      return .each line name words body

/-- The words that a loop goes through, up to the end of the line or a semicolon. -/
def listedWords : Nat → Reading (List Word)
  | 0 => exhausted
  | fuel + 1 => do
    match ← token fuel false false with
    | .word w => return w :: (← listedWords fuel)
    | .newline => return []
    | t => if t.isOperator ";" then return [] else unexpected t

/-- The cases behind `in`, with the word that ends them. -/
def cases : Nat → Reading (List (List Word × List Command))
  | 0 => exhausted
  | fuel + 1 => do
    let t ← token fuel true true
    if t.isKeyword "esac" then return []
    let t ← if t.isOperator "(" then token fuel false false else pure t
    let patterns ← patterns fuel t
    let body ← list fuel .open
    let t ← token fuel true true
    if t.isKeyword "esac" then return [(patterns, body)]
    else if t.isOperator ";;" then return (patterns, body) :: (← cases fuel)
    else expecting t (lit "\";;\"")

/-- The patterns of a case, with the bracket behind them. A token that is no word counts as
an empty one. -/
def patterns : Nat → Token → Reading (List Word)
  | 0, _ => exhausted
  | fuel + 1, t => do
    let w ← match t with
      | .word w => pure w
      | .keyword name => pure (name.map Piece.plain)
      | _ => pure []
    let t ← token fuel false false
    if t.isOperator "|" then
      let next ← token fuel false false
      return w :: (← patterns fuel next)
    else if t.isOperator ")" then return [w]
    else expecting t (lit "\")\"")

/-- Assignments, words and redirections, in any order, except that an assignment behind a
word is a word. What has been read is in front, in reverse. -/
def simple : Nat → Nat → List (Octets × Word) → List Word → List Redirection → Reading Command
  | 0, _, _, _, _ => exhausted
  | fuel + 1, line, assignments, words, redirections => do
    let t ← token fuel false false
    match t with
    | .word w =>
      match if words.isEmpty then assignment? w else none with
      | some a => simple fuel line (a :: assignments) words redirections
      | none => simple fuel line assignments (w :: words) redirections
    | .redirection descriptor name =>
      let r ← redirection fuel descriptor name
      simple fuel line assignments words (r :: redirections)
    | .operator ['('] =>
      match words, assignments, redirections with
      | [w], [], [] =>
        match ← token fuel false false with
        | .operator [')'] =>
          match bare? w with
          | some name =>
            if !isName name || specialNames.contains name then
              ungrammatical (lit "Bad function name")
            let line := (← get).line
            return .define line name (← command fuel true)
          | none => ungrammatical (lit "Bad function name")
        | t => expecting t (lit "\")\"")
      | _, _, _ =>
        hold t
        return .simple line assignments.reverse words.reverse redirections.reverse
    | t =>
      hold t
      return .simple line assignments.reverse words.reverse redirections.reverse

/-- A command with the redirections behind it. -/
def redirected : Nat → Nat → Command → Reading Command
  | 0, _, _ => exhausted
  | fuel + 1, line, body => do
    let rs ← redirections fuel
    return if rs.isEmpty then body else .redirected line body rs

/-- Redirections. -/
def redirections : Nat → Reading (List Redirection)
  | 0 => exhausted
  | fuel + 1 => do
    let t ← token fuel true false
    match t with
    | .redirection descriptor name =>
      let r ← redirection fuel descriptor name
      return r :: (← redirections fuel)
    | t => hold t; return []

/-- The target of a redirection. -/
def redirection : Nat → Option Nat → Octets → Reading Redirection
  | 0, _, _ => exhausted
  | fuel + 1, descriptor, name => do
    let descriptor := descriptor.getD (if name.head? = some '<' then 0 else 1)
    match modeOf name with
    | .document =>
      let _ ← takeWhile fun c => c == ' ' || c == '\t'
      match delimiter (← get).rest with
      | none =>
        skip (← get).rest.length
        ungrammatical (lit "Unterminated quoted string")
      | some (text, quoted, n) =>
        if n = 0 then unexpected (← token fuel false false)
        skip n
        let number := (← get).count
        modify fun s => { s with
          count := number + 1
          announced := s.announced ++ [⟨number, text, quoted, name == lit "<<-"⟩] }
        return .mk descriptor .document [] number
    | mode =>
      match ← token fuel false false with
      | .word w => return .mk descriptor mode w 0
      | t => unexpected t

end

/-- A complete command, with its documents. -/
def completed (fuel : Nat) : Reading (List Command) := do
  let commands ← list fuel .line
  if (← get).due then
    modify fun s => { s with due := false }
    documents fuel
  return commands

end Equate.Shell.Reading

/-!
## Scripts

A script is taken apart into complete commands, each of which can be asked for when those
in front of it have run.
-/

namespace Equate.Shell

/-- A script of which nothing has been read. -/
def Source.ofText (text : Octets) (count : Nat) : Source := ⟨text, 1, none, [], false, none, none, [], count, [], []⟩

/-- How deep readers can call each other for a text of this length. -/
def Source.depth (s : Source) : Nat := 16 * s.rest.length + 64

/-- Blank lines, and lines that hold a comment only, have no commands. At the end there is
`none`. -/
def Source.next (s : Source) : Except Mistake (Option (List Command)) × Source :=
  match (Reading.completed s.depth).run.run s with
  | (.error mistake, s) => (.error mistake, s)
  | (.ok commands, s) =>
    if commands.isEmpty && s.held matches some .ending then (.ok none, s)
    else (.ok (some commands), s)

end Equate.Shell
