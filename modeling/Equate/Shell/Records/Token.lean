import Equate.Shell.Records.Value

/-!
# Tokens of programs for records

A slash begins a regular expression where no division can stand. A name right in front of a
parenthesis is that of a function.
-/
namespace Equate.Shell.Records

/-- A token. -/
inductive Token where
  | newline
  | sign (t : String)
  | word (t : String)
  | builtin (name : String)
  | name (t : Octets)
  | calling (t : Octets)
  | number (x : Float) (t : Octets)
  | text (t : Octets)
  | pattern (t : Octets)
  | broken (words : Octets)
  deriving Inhabited

namespace Token

/-- The words of the language. -/
def words : List String :=
  ["BEGIN", "END", "function", "if", "else", "while", "do", "for", "break", "continue", "next",
    "nextfile", "return", "exit", "delete", "in", "getline", "print", "printf"]

/-- The functions that need no definition, with the numbers of their arguments. -/
def builtins : List (String × Nat × Nat) :=
  [("length", 0, 1), ("index", 2, 2), ("substr", 2, 3), ("sprintf", 1, 255), ("sin", 1, 1),
    ("cos", 1, 1), ("atan2", 2, 2), ("exp", 1, 1), ("log", 1, 1), ("int", 1, 1), ("sqrt", 1, 1),
    ("rand", 0, 0), ("srand", 0, 1), ("split", 2, 3), ("match", 2, 2), ("sub", 2, 3),
    ("gsub", 2, 3), ("tolower", 1, 1), ("toupper", 1, 1), ("system", 1, 1), ("close", 1, 1),
    ("fflush", 0, 1), ("mktime", 1, 1), ("strftime", 0, 3), ("systime", 0, 0)]

/-- The signs, the longer ones first. -/
def signs : List String :=
  ["||", "&&", "==", "!=", "<=", ">=", ">>", "++", "--", "+=", "-=", "*=", "/=", "%=", "^=", "!~",
    "\x7b", "\x7d", "(", ")", "[", "]", ";", ",", "+", "-", "*", "/", "%", "^", "!", ">", "<", "|", "?", ":",
    "~", "$", "="]

/-- The token in the words of a complaint. -/
def shown : Token → Octets
  | newline => lit "end of line"
  | sign t => lit t
  | word t => lit t
  | builtin t => lit t
  | name t => t
  | calling t => t
  | number _ t => t
  | text t => t
  | pattern t => '/' :: t ++ ['/']
  | broken t => t

/-- Something that can be divided ends in the token. -/
def endsValue : Token → Bool
  | number .. => true
  | text _ => true
  | name _ => true
  | pattern _ => true
  | sign t => [")", "]", "++", "--"].contains t
  | word t => t == "getline"
  | _ => false

/-- The character that a letter stands for behind a backslash. -/
def escape? : Char → Option Char
  | 'a' => some '\x07'
  | 'b' => some '\x08'
  | 'f' => some '\x0c'
  | 'n' => some '\n'
  | 'r' => some '\r'
  | 't' => some '\t'
  | 'v' => some '\x0b'
  | '\\' => some '\\'
  | '"' => some '"'
  | _ => none

/-- A text with backslashes, as it is meant. A line end behind a backslash does not count. -/
def unescape : Nat → Octets → Octets
  | 0, t => t
  | fuel + 1, t =>
    match t with
    | [] => []
    | '\\' :: '\n' :: rest => unescape fuel rest
    | '\\' :: c :: rest =>
      match escape? c with
      | some d => d :: unescape fuel rest
      | none =>
        match octal? (c :: rest) with
        | some (d, rest) => d :: unescape fuel rest
        | none =>
          let digits := (rest.take 2).takeWhile fun d => (hexDigit? d).isSome
          if c = 'x' ∧ digits ≠ [] then
            let n := digits.foldl (fun n d => n * 16 + (hexDigit? d).getD 0) 0
            Char.ofNat n :: unescape fuel (rest.drop digits.length)
          else '\\' :: c :: unescape fuel rest
    | c :: rest => c :: unescape fuel rest

/-- The text up to a quotation mark, as it is written, and what follows it. -/
def quoted : Octets → Option (Octets × Octets)
  | [] => none
  | '"' :: rest => some ([], rest)
  | '\\' :: c :: rest => (quoted rest).map fun (t, rest) => ('\\' :: c :: t, rest)
  | '\n' :: _ => none
  | c :: rest => (quoted rest).map fun (t, rest) => (c :: t, rest)

/-- The expression up to a slash, and what follows it. -/
def slashed (boxed : Bool) : Octets → Option (Octets × Octets)
  | [] => none
  | '\n' :: _ => none
  | '\\' :: '/' :: rest => (slashed boxed rest).map fun (t, rest) => ('/' :: t, rest)
  | '\\' :: c :: rest => (slashed boxed rest).map fun (t, rest) => ('\\' :: c :: t, rest)
  | '/' :: rest =>
    if boxed then (slashed boxed rest).map fun (t, rest) => ('/' :: t, rest)
    else some ([], rest)
  | '[' :: ']' :: rest =>
    if boxed then (slashed false rest).map fun (t, rest) => ('[' :: ']' :: t, rest)
    else (slashed true rest).map fun (t, rest) => ('[' :: ']' :: t, rest)
  | '[' :: '^' :: ']' :: rest => (slashed true rest).map fun (t, rest) => ('[' :: '^' :: ']' :: t, rest)
  | '[' :: rest => (slashed true rest).map fun (t, rest) => ('[' :: t, rest)
  | ']' :: rest => (slashed false rest).map fun (t, rest) => (']' :: t, rest)
  | c :: rest => (slashed boxed rest).map fun (t, rest) => (c :: t, rest)

/-- The numeral at the front of a text. -/
def numeral (t : Octets) : Octets :=
  let whole := t.takeWhile Char.isDigit
  let rest := t.drop whole.length
  let fraction := match rest with
    | '.' :: r => '.' :: r.takeWhile Char.isDigit
    | _ => []
  let rest := rest.drop fraction.length
  let exponent := match rest with
    | c :: r =>
      let (_, digits) := Number.readSign r
      let count := (digits.takeWhile Char.isDigit).length
      if (c = 'e' ∨ c = 'E') ∧ 0 < count then rest.take (1 + (r.length - digits.length) + count)
      else []
    | [] => []
  whole ++ fraction ++ exponent

/-- The tokens of a program, each with its line. -/
def read : Nat → (line : Nat) → (last : Token) → Octets → List (Token × Nat)
  | 0, _, _, _ => []
  | fuel + 1, line, last, t =>
    match t with
    | [] => []
    | '\n' :: rest => (newline, line) :: read fuel (line + 1) newline rest
    | '\\' :: '\n' :: rest => read fuel (line + 1) last rest
    | '\\' :: '\r' :: '\n' :: rest => read fuel (line + 1) last rest
    | '#' :: rest => read fuel line last (rest.dropWhile (· ≠ '\n'))
    | '"' :: rest =>
      match quoted rest with
      | some (raw, rest) =>
        let made := text (unescape (raw.length + 1) raw)
        (made, line) :: read fuel (line + raw.count '\n') made rest
      | none => [(broken (lit "runaway string constant \"" ++ ((rest.takeWhile (· ≠ '\n')).take 10) ++
          lit " ..."), line)]
    | c :: rest =>
      if c = '/' ∧ !last.endsValue then
        match slashed false rest with
        | some (raw, rest) =>
          let made := pattern raw
          (made, line) :: read fuel line made rest
        | none => [(broken (lit "runaway regular expression /" ++
            ((rest.takeWhile (· ≠ '\n')).take 10) ++ lit " ..."), line)]
      else if c = ' ' ∨ c = '\t' ∨ c = '\r' ∨ c = '\x0b' ∨ c = '\x0c' then read fuel line last rest
      else if c.isDigit ∨ (c = '.' ∧ (rest.headD ' ').isDigit) then
        let digits := numeral t
        let made := number (floatAtFront digits).1 digits
        (made, line) :: read fuel line made (t.drop digits.length)
      else if isNameStart c then
        let w := t.takeWhile isNameChar
        let behind := t.drop w.length
        let s := String.ofList w
        let made :=
          if words.contains s then word s
          else if builtins.any fun b => b.1 == s then builtin s
          else if behind.head? = some '(' then calling w
          else name w
        (made, line) :: read fuel line made behind
      else
        match signs.find? fun s => s.toList.isPrefixOf t with
        | some s => (sign s, line) :: read fuel line (sign s) (t.drop s.length)
        | none => [(broken (lit "unexpected character '" ++ [c, '\'']), line)]

end Token
end Equate.Shell.Records
