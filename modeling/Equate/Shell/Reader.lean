import Equate.Shell.Octets
import Equate.Shell.Command

/-!
# Reading scripts

A script is read one complete command at a time, because a mistake further down counts
only when the commands above it have run. What is left to read, the line it begins in
and the documents that have been announced are the state of a reader. A line feed behind
a backslash joins two lines. The lines of a document follow the line that announces it.

How often readers call each other is bounded by the length of the script.
-/
namespace Equate.Shell

/-- A mistake in a script. -/
structure Mistake where
  line : Nat
  words : Octets

/-- What a script is made of at the level of commands. -/
inductive Token where
  | word (w : Word)
  | keyword (name : Octets)
  | operator (name : Octets)
  | redirection (descriptor : Option Nat) (name : Octets)
  | newline
  | ending

/-- The token is this keyword. -/
def Token.isKeyword (t : Token) (name : String) : Bool :=
  match t with
  | .keyword k => k == lit name
  | _ => false

/-- The token is this operator. -/
def Token.isOperator (t : Token) (name : String) : Bool :=
  match t with
  | .operator k => k == lit name
  | _ => false

/-- A document whose lines are still to come. -/
structure Announced where
  number : Nat
  delimiter : Octets
  quoted : Bool
  indented : Bool

/-- The state of a reader. A token may have been looked at already. -/
structure Source where
  rest : Octets
  line : Nat
  held : Option Token
  announced : List Announced
  /-- The line has ended behind which the announced documents follow. -/
  due : Bool
  /-- The document whose lines are being read. -/
  inside : Option Announced
  /-- What follows that document, once its last line has been reached. -/
  beyond : Option Octets
  documents : List (Nat × Word)
  count : Nat
  /-- The words that stand for others where a command begins. -/
  aliases : List (Octets × Octets)
  /-- Those of them that have been replaced where the command begins that is read. -/
  replaced : List Octets

/-- A reader. -/
abbrev Reading := ExceptT Mistake (StateM Source)

namespace Reading

/-- A mistake in the line that is being read. -/
def refuse {α : Type} (words : Octets) : Reading α := do
  throw ⟨(← get).line, words⟩

/-- A mistake in the grammar of the script. -/
def ungrammatical {α : Type} (words : Octets) : Reading α :=
  refuse (lit "Syntax error: " ++ words)

/-- A token in words. -/
def describe : Token → Octets
  | .word _ => lit "word"
  | .keyword name => ['"'] ++ name ++ ['"']
  | .operator name => ['"'] ++ name ++ ['"']
  | .redirection .. => lit "redirection"
  | .newline => lit "newline"
  | .ending => lit "end of file"

/-- A token that does not belong here. -/
def unexpected {α : Type} (t : Token) : Reading α :=
  ungrammatical (describe t ++ lit " unexpected")

/-- A token that stands where another one has to. -/
def expecting {α : Type} (t : Token) (wanted : Octets) : Reading α :=
  ungrammatical (describe t ++ lit " unexpected (expecting " ++ wanted ++ lit ")")

/-- Takes so many characters. -/
def skip (n : Nat) : Reading Unit :=
  modify fun s =>
    { s with rest := s.rest.drop n, line := s.line + (s.rest.take n).count '\n' }

/-- A text without the joined line ends in front of it, and their number. -/
def dropJoins : Octets → Nat × Octets
  | '\\' :: '\n' :: rest => let (n, rest) := dropJoins rest; (n + 1, rest)
  | t => (0, t)

/-- The next character, behind joined line ends. -/
def peek : Reading (Option Char) := do
  let s ← get
  let (joins, rest) := dropJoins s.rest
  set { s with rest, line := s.line + joins }
  return rest.head?

/-- Takes the next character if it is this one. -/
def takes (c : Char) : Reading Bool := do
  if (← peek) = some c then skip 1; return true
  else return false

/-- Takes the characters of a kind. -/
def takeWhile (p : Char → Bool) : Reading Octets := do
  let found := (← get).rest.takeWhile p
  skip found.length
  return found

/-- At the beginning of a line. In a document the line may be its last one, and nothing is
left to read then. -/
def beginLine : Reading Unit := do
  let s ← get
  match s.inside with
  | none => return
  | some a =>
    let rest := if a.indented then s.rest.dropWhile (· = '\t') else s.rest
    match if a.delimiter.isPrefixOf rest then some (rest.drop a.delimiter.length) else none with
    | some [] => set { s with rest := [], beyond := some [], line := s.line + 1 }
    | some ('\n' :: behind) => set { s with rest := [], beyond := some behind, line := s.line + 1 }
    | _ => set { s with rest }

/-- Something is read on its own: a command in a word or a document. Documents that it
announces and that do not follow in it are empty. -/
def apart {α : Type} (x : Reading α) : Reading α := do
  let before ← get
  set { before with announced := [], inside := none, beyond := none, held := none }
  let a ← x
  modify fun s => { s with
    held := none, announced := before.announced, inside := before.inside, beyond := before.beyond
    documents := (s.announced.map fun a => (a.number, [.single []])) ++ s.documents }
  return a

/-- Keeps a token for the next one who reads. -/
def hold (t : Token) : Reading Unit := modify fun s => { s with held := some t }

/-- The words that are special where a command begins. -/
def keywords : List Octets :=
  ["!", "\x7b", "\x7d", "case", "do", "done", "elif", "else", "esac", "fi", "for", "if", "in", "then",
    "until", "while"].map lit

/-- What a token stands for where a command begins, if it is to be replaced. -/
def replacement? (t : Token) : Reading (Option Octets) := do
  let s ← get
  match t with
  | .word w =>
    match bare? w with
    | some name =>
      if s.replaced.contains name then return none
      else
        match s.aliases.lookup name with
        | some value =>
          set { s with replaced := name :: s.replaced }
          return some value
        | none => return none
    | none => return none
  | _ => return none

/-- A token, as a keyword if it can be one. -/
def classify : Token → Token
  | .word w =>
    match bare? w with
    | some name => if name ∈ keywords then .keyword name else .word w
    | none => .word w
  | t => t

/-- The tokens that end a list of commands. -/
def endsList : Token → Bool
  | .keyword name => (["do", "done", "elif", "else", "esac", "fi", "then", "\x7d"].map lit).contains name
  | .operator name => name == lit ")" || name == lit ";;"
  | .ending => true
  | _ => false

end Reading
end Equate.Shell
