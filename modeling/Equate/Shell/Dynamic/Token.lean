import Equate.Json.Quoted
import Equate.Number.Decimal
import Equate.Shell.Octets
import Equate.Text.WordCharacter

/-!
# Tokens of scripts

Lines that begin further to the right than the one before begin a block, which ends where a
line begins further to the left again. In brackets neither lines nor blocks count. A text
that is put together keeps the sources of the values in it.
-/
namespace Equate.Shell.Dynamic

/-- A part of a text that is put together, as it is written. -/
inductive RawPiece where
  | text (t : Text)
  | value (source : Text) (conversion : Option Char) (format : List RawPiece)

/-- A token. -/
inductive Token where
  | newline
  | indent
  | dedent
  | name (n : String)
  | word (w : String)
  | sign (s : String)
  | int (n : Nat)
  | float (x : Float)
  | text (t : Text)
  | bytes (t : Text)
  | pieces (ps : List RawPiece)
  | broken (words : String)
  deriving Inhabited

namespace Token

/-- The words that cannot be names. -/
def words : List String :=
  ["False", "None", "True", "and", "as", "assert", "async", "await", "break", "class", "continue",
    "def", "del", "elif", "else", "except", "finally", "for", "from", "global", "if", "import",
    "in", "is", "lambda", "nonlocal", "not", "or", "pass", "raise", "return", "try", "while",
    "with", "yield"]

/-- The signs, the longer ones first. -/
def signs : List String :=
  ["**=", "//=", ">>=", "<<=", "...", "!=", "==", "<=", ">=", "->", ":=", "+=", "-=", "*=", "/=",
    "%=", "&=", "|=", "^=", "@=", "**", "//", "<<", ">>", "(", ")", "[", "]", "\x7b", "\x7d", ",", ":", ".",
    ";", "@", "=", "+", "-", "*", "/", "%", "&", "|", "^", "~", "<", ">"]

/-- A character that a name begins with. -/
def beginsName (c : Char) : Bool := c.isAlpha || c == '_' || (127 < c.toNat && Text.isWordCharacter c)

/-- A character of a name. -/
def inName (c : Char) : Bool := beginsName c || c.isDigit

/-- The value of hexadecimal digits. -/
def hexValue (t : Text) : Nat := t.foldl (fun n c => n * 16 + (Json.hexValue? c).getD 0) 0

/-- A character by its number. -/
def charOf (n : Nat) : Char := if n.isValidChar then Char.ofNat n else '\uFFFD'

/-- A text with escapes, as it is meant. Bytes know no escapes for characters beyond them. -/
def unescape (bytes : Bool) : Nat → Text → Text
  | 0, t => t
  | fuel + 1, t =>
    let goOn := unescape bytes fuel
    let digits (n : Nat) (rest : Text) (c : Char) : Text :=
      let ds := (rest.take n).takeWhile fun d => (Json.hexValue? d).isSome
      if ds.length = n then charOf (hexValue ds) :: goOn (rest.drop n) else '\\' :: c :: goOn rest
    match t with
    | [] => []
    | '\\' :: c :: rest =>
      match c with
      | '\n' => goOn rest
      | '\\' => '\\' :: goOn rest
      | '\'' => '\'' :: goOn rest
      | '"' => '"' :: goOn rest
      | 'a' => '\x07' :: goOn rest
      | 'b' => '\x08' :: goOn rest
      | 'f' => '\x0c' :: goOn rest
      | 'n' => '\n' :: goOn rest
      | 'r' => '\r' :: goOn rest
      | 't' => '\t' :: goOn rest
      | 'v' => '\x0b' :: goOn rest
      | 'x' => digits 2 rest c
      | 'u' => if bytes then '\\' :: c :: goOn rest else digits 4 rest c
      | 'U' => if bytes then '\\' :: c :: goOn rest else digits 8 rest c
      | c =>
        let ds := ((c :: rest).take 3).takeWhile fun d => '0' ≤ d && d ≤ '7'
        if ds = [] then '\\' :: c :: goOn rest
        else
          let n := ds.foldl (fun n d => n * 8 + (d.toNat - 48)) 0
          Char.ofNat (if bytes then n % 256 else n) :: goOn ((c :: rest).drop ds.length)
    | c :: rest => c :: goOn rest

/-- A text up to its quotation marks, as it is written, and what follows them. Values in a
text that is put together may hold quotation marks themselves. -/
def quoted (mark : Text) (pieces : Bool) : Nat → (depth : Nat) → Text → Option (Text × Text)
  | 0, _, _ => none
  | fuel + 1, depth, t =>
    match t with
    | [] => none
    | '\\' :: c :: rest =>
      (quoted mark pieces fuel depth rest).map fun (body, rest) => ('\\' :: c :: body, rest)
    | c :: rest =>
      if depth = 0 ∧ mark.isPrefixOf t then some ([], t.drop mark.length)
      else if mark.length = 1 ∧ c = '\n' then none
      else if pieces ∧ c = '\x7b' then
        if depth = 0 ∧ rest.head? = some '\x7b' then
          (quoted mark pieces fuel depth rest.tail).map fun (body, rest) => (c :: c :: body, rest)
        else (quoted mark pieces fuel (depth + 1) rest).map fun (body, rest) => (c :: body, rest)
      else if pieces ∧ c = '\x7d' then
        (quoted mark pieces fuel (depth - 1) rest).map fun (body, rest) => (c :: body, rest)
      else if 0 < depth ∧ (c = '"' ∨ c = '\'') then
        match quoted [c] false fuel 0 rest with
        | none => none
        | some (inner, behind) =>
          (quoted mark pieces fuel depth behind).map fun (body, rest) =>
            (c :: inner ++ c :: body, rest)
      else (quoted mark pieces fuel depth rest).map fun (body, rest) => (c :: body, rest)

/-- The source of a value up to what ends it, and the rest. -/
def valueSource : Nat → (depth : Nat) → Text → Text × Text
  | 0, _, t => ([], t)
  | fuel + 1, depth, t =>
    match t with
    | [] => ([], [])
    | c :: rest =>
      let goOn (depth : Nat) : Text × Text :=
        let (body, behind) := valueSource fuel depth rest
        (c :: body, behind)
      if c = '"' ∨ c = '\'' then
        match quoted [c] false fuel 0 rest with
        | none => goOn depth
        | some (inner, behind) =>
          let (body, rest) := valueSource fuel depth behind
          (c :: inner ++ c :: body, rest)
      else if c = '(' ∨ c = '[' ∨ c = '\x7b' then goOn (depth + 1)
      else if depth = 0 ∧ c = '!' ∧ rest.head? ≠ some '=' then ([], t)
      else if depth = 0 ∧ (c = ':' ∨ c = '\x7d') then ([], t)
      else if c = ')' ∨ c = ']' ∨ c = '\x7d' then goOn (depth - 1)
      else if depth = 0 ∧ (c = '!' ∨ c = '=' ∨ c = '<' ∨ c = '>') ∧ rest.head? = some '=' then
        let (body, behind) := valueSource fuel depth rest.tail
        (c :: '=' :: body, behind)
      else goOn depth

/-- A text without the blanks at its end. -/
def trimEnd (t : Text) : Text := (t.reverse.dropWhile isSpace).reverse

/-- The pieces of a text that is put together, up to a brace that closes if it is the format
of a value. -/
def rawPieces (raw isFormat : Bool) : Nat → Text → Text → List RawPiece × Text
  | 0, _, t => ([], t)
  | fuel + 1, before, t =>
    let plain : List RawPiece := if before = [] then [] else
      [.text (let s := before.reverse; if raw then s else unescape false (s.length + 1) s)]
    match t with
    | [] => (plain, [])
    | '\\' :: c :: rest =>
      if c = '\x7b' ∨ c = '\x7d' then rawPieces raw isFormat fuel ('\\' :: before) (c :: rest)
      else rawPieces raw isFormat fuel (c :: '\\' :: before) rest
    | '\x7b' :: '\x7b' :: rest =>
      if isFormat then pieceAt plain raw isFormat fuel ('\x7b' :: rest)
      else rawPieces raw isFormat fuel ('\x7b' :: before) rest
    | '\x7d' :: rest =>
      if isFormat then (plain, t)
      else rawPieces raw isFormat fuel ('\x7d' :: before) (if rest.head? = some '\x7d' then rest.tail else rest)
    | '\x7b' :: rest => pieceAt plain raw isFormat fuel rest
    | c :: rest => rawPieces raw isFormat fuel (c :: before) rest
where
  /-- A value behind the brace that opens, and the pieces that follow. -/
  pieceAt (plain : List RawPiece) (raw isFormat : Bool) (fuel : Nat) (t : Text) : List RawPiece × Text :=
    let (source, behind) := valueSource (t.length + 1) 0 t
    let trimmed := trimEnd source
    let shows := trimmed.getLast? = some '=' &&
      !(trimmed.length ≥ 2 && ['=', '!', '<', '>'].contains ((trimmed.dropLast.getLast?).getD ' '))
    let label : List RawPiece := if shows then [.text source] else []
    let source := if shows then trimmed.dropLast else source
    let (conversion, behind) := match behind with
      | '!' :: c :: rest => (some c, rest)
      | rest => (none, rest)
    let (format, behind) := match behind with
      | ':' :: rest => match fuel with
        | 0 => ([], rest)
        | n + 1 => rawPieces raw true n [] rest
      | rest => ([], rest)
    let conversion := if shows && conversion.isNone && format.isEmpty then some 'r' else conversion
    let behind := behind.drop 1
    let (more, rest) := match fuel with
      | 0 => ([], behind)
      | n + 1 => rawPieces raw isFormat n [] behind
    (plain ++ label ++ .value source conversion format :: more, rest)

/-- A numeral at the front of a text, and what follows it. -/
def numeral (t : Text) : Token × Text :=
  let isDigit (c : Char) : Bool := c.isDigit || c == '_'
  let based (base : Nat) (accepts : Char → Bool) (rest : Text) : Token × Text :=
    let ds := rest.takeWhile fun c => accepts c || c == '_'
    (int ((ds.filter (· ≠ '_')).foldl (fun n c => n * base + (Json.hexValue? c).getD 0) 0), rest.drop ds.length)
  match t with
  | '0' :: 'x' :: rest => based 16 (fun c => (Json.hexValue? c).isSome) rest
  | '0' :: 'X' :: rest => based 16 (fun c => (Json.hexValue? c).isSome) rest
  | '0' :: 'o' :: rest => based 8 (fun c => '0' ≤ c && c ≤ '7') rest
  | '0' :: 'b' :: rest => based 2 (fun c => c == '0' || c == '1') rest
  | _ =>
    let whole := t.takeWhile isDigit
    let rest := t.drop whole.length
    let (fraction, rest) := match rest with
      | '.' :: r =>
        let ds := r.takeWhile isDigit
        ('.' :: ds, r.drop ds.length)
      | r => ([], r)
    let (exponent, rest) := match rest with
      | c :: r =>
        let (_, digits) := Number.readSign r
        let ds := digits.takeWhile isDigit
        if (c = 'e' ∨ c = 'E') ∧ ds ≠ [] then
          (rest.take (1 + (r.length - digits.length) + ds.length), digits.drop ds.length)
        else ([], rest)
      | [] => ([], rest)
    if fraction = [] ∧ exponent = [] then
      let digits := whole.filter (· ≠ '_')
      if digits.head? = some '0' ∧ digits.any (· ≠ '0') then
        (broken "leading zeros in decimal integer literals are not permitted; use an 0o prefix for octal integers", rest)
      else (int (Text.digitsValue digits), rest)
    else
      let written := (whole ++ fraction ++ exponent).filter (· ≠ '_')
      (float ((Number.readLiteral? written).getD 0), rest)

/-- How far a line is to the right. -/
def column (t : Text) : Nat :=
  t.foldl (fun n c => if c = '\t' then (n / 8 + 1) * 8 else if c = '\x0c' then 0 else n + 1) 0

/-- The letters in front of a text in quotation marks. -/
def marksFront (t : Text) : Option (Text × Text) :=
  let letters := t.takeWhile Char.isAlpha
  let rest := t.drop letters.length
  let small := letters.map Char.toLower
  let known := (["", "r", "b", "u", "f", "rb", "br", "rf", "fr"].map String.toList).contains small
  if known ∧ (rest.head? = some '"' ∨ rest.head? = some '\'') then some (small, rest) else none

/-- A bracket closes another one, or nothing. -/
def closing (s : String) (line : Nat) (opened : List (String × Nat)) : Except String (List (String × Nat)) :=
  match opened with
  | [] => .error ("unmatched '" ++ s ++ "'")
  | (o, n) :: rest =>
    if (o = "(" ∧ s = ")") ∨ (o = "[" ∧ s = "]") ∨ (o = "\x7b" ∧ s = "\x7d") then .ok rest
    else
      let place := if n = line then "" else " on line " ++ toString n
      .error ("closing parenthesis '" ++ s ++ "' does not match opening parenthesis '" ++ o ++ "'" ++ place)

/-- The tokens of a script, each with its line; the brackets that are open, with their lines.
`begins` says that a line begins here. -/
def read : Nat → (line : Nat) → (opened : List (String × Nat)) → (columns : List Nat) → (begins : Bool) → Text →
    List (Token × Nat)
  | 0, _, _, _, _, _ => []
  | fuel + 1, line, opened, columns, begins, t =>
    if begins then
      let blanks := t.takeWhile fun c => c == ' ' || c == '\t' || c == '\x0c'
      let body := t.drop blanks.length
      match body with
      | [] => (columns.filter (0 < ·)).map fun _ => (dedent, line)
      | '\n' :: rest => read fuel (line + 1) opened columns true rest
      | '\r' :: '\n' :: rest => read fuel (line + 1) opened columns true rest
      | '#' :: rest => read fuel line opened columns true (rest.dropWhile (· ≠ '\n'))
      | body =>
        let here := column blanks
        let now := columns.headD 0
        if now < here then (indent, line) :: read fuel line opened (here :: columns) false body
        else
          let left := columns.dropWhile (here < ·)
          let closed := (columns.takeWhile (here < ·)).map fun _ => (dedent, line)
          if left.headD 0 = here then closed ++ read fuel line opened left false body
          else [(broken "unindent does not match any outer indentation level", line)]
    else
      match t with
      | [] =>
        match opened with
        | (s, n) :: _ => [(broken ("'" ++ s ++ "' was never closed"), n)]
        | [] => (newline, line) :: (columns.filter (0 < ·)).map fun _ => (dedent, line)
      | '\n' :: rest =>
        if !opened.isEmpty then read fuel (line + 1) opened columns false rest
        else (newline, line) :: read fuel (line + 1) opened columns true rest
      | '\r' :: '\n' :: rest => read fuel line opened columns false ('\n' :: rest)
      | '\\' :: '\n' :: rest => read fuel (line + 1) opened columns false rest
      | '\\' :: '\r' :: '\n' :: rest => read fuel (line + 1) opened columns false rest
      | '#' :: rest => read fuel line opened columns false (rest.dropWhile (· ≠ '\n'))
      | c :: rest =>
        if c = ' ' ∨ c = '\t' ∨ c = '\x0c' then read fuel line opened columns false rest
        else
          match marksFront t with
          | some (letters, body) =>
            let c := body.headD '"'
            let mark := if (body.take 3).all (· = c) ∧ 3 ≤ body.length then [c, c, c] else [c]
            let isPieces := letters.contains 'f'
            let raw := letters.contains 'r'
            match quoted mark isPieces (body.length + 1) 0 (body.drop mark.length) with
            | none =>
              let last := if mark.length = 3 then line + body.count '\n' else line
              [(broken ((if mark.length = 3 then "unterminated triple-quoted string literal"
                else "unterminated string literal") ++ " (detected at line " ++ toString last ++ ")"), line)]
            | some (written, rest) =>
              let made :=
                if isPieces then pieces (rawPieces raw false (2 * written.length + 4) [] written).1
                else
                  let isBytes := letters.contains 'b'
                  let t := if raw then written else unescape isBytes (written.length + 1) written
                  if isBytes then bytes t else text t
              (made, line) :: read fuel (line + written.count '\n') opened columns false rest
          | none =>
            if c.isDigit ∨ (c = '.' ∧ (rest.headD ' ').isDigit) then
              let (made, rest) := numeral t
              let tail := String.ofList (rest.takeWhile inName)
              let isFine := tail = "" ∨ ["and", "else", "for", "if", "in", "is", "not", "or"].contains tail
              if !isFine then [(broken "invalid decimal literal", line)]
              else (made, line) :: read fuel line opened columns false rest
            else if beginsName c then
              let n := t.takeWhile inName
              let s := String.ofList n
              (if words.contains s then word s else name s, line) ::
                read fuel line opened columns false (t.drop n.length)
            else
              match signs.find? fun s => s.toList.isPrefixOf t with
              | some s =>
                let next := if ["(", "[", "\x7b"].contains s then .ok ((s, line) :: opened)
                  else if [")", "]", "\x7d"].contains s then closing s line opened else .ok opened
                match next with
                | .ok opened => (sign s, line) :: read fuel line opened columns false (t.drop s.length)
                | .error words => [(broken words, line)]
              | none => [(broken "invalid syntax", line)]

end Token
end Equate.Shell.Dynamic
