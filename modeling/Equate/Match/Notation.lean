import Equate.Match.Basic

/-!
# How regular expressions are written

In the plain notation the signs for groups, alternatives and bounds need a backslash, in
the extended one they do without. What the notation leaves open is settled by the dialect.
-/
namespace Equate.Match

/-- A dialect of the notation. -/
structure Dialect where
  extended : Bool
  /-- Braces that do not hold bounds stand for themselves. -/
  looseBraces : Bool
  /-- A repetition of nothing is left out instead of refused. -/
  looseSigns : Bool
  /-- A backslash counts in brackets, letters behind one stand for controls, and neither
  alternatives nor groups may be empty. -/
  escapes : Bool
  deriving DecidableEq

namespace Notation

/-- What a class of characters is called. -/
def classOf? (name : Text) : Option (Char → Bool) :=
  match String.ofList name with
  | "alpha" => some fun c => c.isAlpha
  | "digit" => some fun c => c.isDigit
  | "alnum" => some fun c => c.isAlphanum
  | "upper" => some fun c => c.isUpper
  | "lower" => some fun c => c.isLower
  | "space" => some fun c => c == ' ' || ('\t' ≤ c && c ≤ '\r')
  | "blank" => some fun c => c == ' ' || c == '\t'
  | "punct" => some fun c => '!' ≤ c && c ≤ '~' && !c.isAlphanum
  | "print" => some fun c => ' ' ≤ c && c ≤ '~'
  | "graph" => some fun c => '!' ≤ c && c ≤ '~'
  | "cntrl" => some fun c => c < ' ' || c == '\x7f'
  | "xdigit" => some fun c => c.isDigit || ('a' ≤ c && c ≤ 'f') || ('A' ≤ c && c ≤ 'F')
  | _ => none

/-- A character of a word, for the classes of words. -/
def isWord (c : Char) : Bool := c.isAlphanum || c == '_'

/-- A blank, for the classes of blanks. -/
def isBlank (c : Char) : Bool := c == ' ' || ('\t' ≤ c && c ≤ '\r')

/-- The text in front of two characters, and what follows them. -/
def upToPair (a b : Char) : Text → Option (Text × Text)
  | c :: d :: rest =>
    if c = a ∧ d = b then some ([], rest)
    else (upToPair a b (d :: rest)).map fun (t, rest) => (c :: t, rest)
  | _ => none

/-- The control that a letter stands for behind a backslash. -/
def control? : Char → Option Char
  | 'n' => some '\n'
  | 't' => some '\t'
  | 'r' => some '\r'
  | 'f' => some '\x0c'
  | 'v' => some '\x0b'
  | 'a' => some '\x07'
  | _ => none

/-- The code of up to so many octal digits, and the rest. -/
def octal (n : Nat) (t : Text) : Nat × Text :=
  let digits := (t.take n).takeWhile fun c => '0' ≤ c && c ≤ '7'
  (digits.foldl (fun n c => n * 8 + (c.toNat - 48)) 0, t.drop digits.length)

/-- A character in brackets behind a backslash. -/
def escaped (t : Text) : Char × Text :=
  match t with
  | [] => ('\\', [])
  | c :: rest =>
    if '0' ≤ c ∧ c ≤ '7' then
      let (n, rest) := octal 3 t
      (Char.ofNat (n % 256), rest)
    else ((if c = 'b' then some '\x08' else control? c).getD c, rest)

/-- One character of a choice that can begin or end a range. -/
def member (d : Dialect) : Text → Option (Char × Text)
  | '[' :: '.' :: c :: '.' :: ']' :: rest => some (c, rest)
  | '[' :: '=' :: c :: '=' :: ']' :: rest => some (c, rest)
  | '\\' :: rest => if d.escapes then some (escaped rest) else some ('\\', rest)
  | c :: rest => some (c, rest)
  | [] => none

/-- What is wrong with brackets that do not end. -/
def openBracket : Text := "Unmatched [, [^, [:, [., or [="

/-- The choice in brackets, and what follows them. The first character is part of the
choice, whatever it is. -/
def choice (d : Dialect) : Nat → Bool → Text → Except Text ((Char → Bool) × Text)
  | 0, _, _ => .error openBracket
  | fuel + 1, first, t => do
    match t with
    | [] => .error openBracket
    | ']' :: rest =>
      if !first then return (fun _ => false, rest)
      else
        let (more, rest) ← ranged ']' rest fuel
        return (more, rest)
    | '[' :: ':' :: inner =>
      match upToPair ':' ']' inner with
      | some (name, rest) =>
        match classOf? name with
        | some accepts =>
          let (more, rest) ← choice d fuel false rest
          return (fun c => accepts c || more c, rest)
        | none => .error "Invalid character class name"
      | none => .error openBracket
    | t =>
      match member d t with
      | none => .error openBracket
      | some (c, rest) => ranged c rest fuel
where
  /-- A character that may begin a range. -/
  ranged (a : Char) (rest : Text) (fuel : Nat) : Except Text ((Char → Bool) × Text) := do
    let single : Except Text ((Char → Bool) × Text) := do
      let (more, rest) ← choice d fuel false rest
      return (fun c => c == a || more c, rest)
    match rest with
    | '-' :: ']' :: _ => single
    | '-' :: behind =>
      match member d behind with
      | some (b, behind) =>
        if b < a then .error "Invalid range end"
        else
          let (more, rest) ← choice d fuel false behind
          return (fun c => (a ≤ c && c ≤ b) || more c, rest)
      | none => .error openBracket
    | _ => single

/-- A sign of the notation, in either spelling. -/
inductive Sign where
  | atom (e : Match)
  | many (least : Nat) (most : Option Nat)
  | star
  | opening
  | closing
  | bar

/-- Bounds in braces, and what follows them. -/
def bounds (d : Dialect) (t : Text) : Except Text (Nat × Option Nat × Text) := do
  let inner := t.takeWhile fun c => c.isDigit || c == ','
  let behind := t.drop inner.length
  let rest ← match d.extended, behind with
    | true, '}' :: rest => .ok rest
    | false, '\\' :: '}' :: rest => .ok rest
    | _, [] => .error "Unmatched \\\x7b"
    | _, _ => .error "Invalid content of \\\x7b\\\x7d"
  let number (t : Text) : Except Text Nat :=
    if t = [] then .error "Invalid content of \\\x7b\\\x7d"
    else if 32767 < Text.digitsValue t then .error "Regular expression too big"
    else .ok (Text.digitsValue t)
  match Text.splitOn ',' inner with
  | [n] => do
    let n ← number n
    return (n, some n, rest)
  | [a, b] => do
    let least ← if a = [] then .ok 0 else number a
    let most ← if b = [] then .ok none else (number b).map some
    if most.any (· < least) then .error "Invalid content of \\\x7b\\\x7d"
    else return (least, most, rest)
  | _ => .error "Invalid content of \\\x7b\\\x7d"

/-- Any character. -/
def one : Match := .among true fun _ => false

/-- What a letter behind a backslash asks for. -/
def class? : Char → Option Match
  | 'w' => some (.among false isWord)
  | 'W' => some (.among true isWord)
  | 's' => some (.among false isBlank)
  | 'S' => some (.among true isBlank)
  | 'b' => some (.edge .word)
  | 'B' => some (.edge .noWord)
  | '<' => some (.edge .wordStart)
  | '>' => some (.edge .wordFinish)
  | '\x60' => some (.edge .start)
  | '\'' => some (.edge .finish)
  | _ => none

/-- The sign behind a backslash, and what follows it. -/
def behindBackslash (d : Dialect) (t : Text) : Except Text (Sign × Text) :=
  match t with
  | [] => if d.escapes then .ok (.atom (.this '\\'), []) else .error "Trailing backslash"
  | c :: rest =>
    if d.escapes then
      if '0' ≤ c ∧ c ≤ '7' then
        let (n, rest) := octal 3 t
        .ok (.atom (.this (Char.ofNat (n % 256))), rest)
      else .ok (.atom (.this ((if c = 'b' then some '\x08' else control? c).getD c)), rest)
    else if c.isDigit ∧ c ≠ '0' then .ok (.atom (.again (c.toNat - 48)), rest)
    else
      match class? c with
      | some e => .ok (.atom e, rest)
      | none =>
        if d.extended then .ok (.atom (.this c), rest)
        else
          match c with
          | '(' => .ok (.opening, rest)
          | ')' => .ok (.closing, rest)
          | '|' => .ok (.bar, rest)
          | '+' => .ok (.many 1 none, rest)
          | '?' => .ok (.many 0 (some 1), rest)
          | '{' => (bounds d rest).map fun (least, most, rest) => (.many least most, rest)
          | c => .ok (.atom (.this c), rest)

/-- The signs of a text. `first` says that nothing stands in front that could be repeated. -/
def signs (d : Dialect) : Nat → Bool → Text → Except Text (List Sign)
  | 0, _, _ => .ok []
  | _, _, [] => .ok []
  | fuel + 1, first, c :: rest => do
    let goOn (sign : Sign) (rest : Text) : Except Text (List Sign) := do
      let first := match sign with
        | .opening => true
        | .bar => true
        | .atom (.edge .start) => first
        | _ => false
      return sign :: (← signs d fuel first rest)
    match c with
    | '\\' =>
      let (sign, rest) ← behindBackslash d rest
      goOn sign rest
    | '.' => goOn (.atom one) rest
    | '[' =>
      let (others, inner) := match rest with
        | '^' :: inner => (true, inner)
        | inner => (false, inner)
      if inner.isEmpty && !d.escapes then Except.error "Invalid regular expression"
      let (accepts, rest) ← choice d (inner.length + 1) true inner
      goOn (.atom (.among others accepts)) rest
    | '*' =>
      if first && !d.extended then goOn (.atom (.this '*')) rest
      else goOn .star rest
    | '^' =>
      if first || d.extended then goOn (.atom (.edge .start)) rest
      else goOn (.atom (.this '^')) rest
    | '$' =>
      let ends := d.extended || rest.isEmpty || rest.take 2 == ['\\', ')'] ||
        rest.take 2 == ['\\', '|']
      goOn (.atom (if ends then .edge .finish else .this '$')) rest
    | c =>
      if !d.extended then goOn (.atom (.this c)) rest
      else
        match c with
        | '(' => goOn .opening rest
        | ')' => goOn .closing rest
        | '|' => goOn .bar rest
        | '+' => goOn (.many 1 none) rest
        | '?' => goOn (.many 0 (some 1)) rest
        | '{' =>
          match bounds d rest with
          | .ok (least, most, rest) => goOn (.many least most) rest
          | .error words => if d.looseBraces then goOn (.atom (.this '{')) rest else .error words
        | c => goOn (.atom (.this c)) rest

/-- What has been read: the next number of a group, and the signs behind it. -/
abbrev Rest := Nat × List Sign

/-- The expression for nothing. -/
def isNothing : Match → Bool
  | .empty => true
  | _ => false

/-- The expression for the start. -/
def isStart : Match → Bool
  | .edge .start => true
  | _ => false

mutual

/-- Alternatives. -/
def alternatives (d : Dialect) : Nat → (depth : Nat) → Rest → Except Text (Match × Rest)
  | 0, _, rest => .ok (.empty, rest)
  | fuel + 1, depth, rest => do
    let (a, n, signs) ← branch d fuel depth .empty none rest
    if d.escapes && !signs.isEmpty && isNothing a then Except.error "Invalid preceding regular expression"
    match signs with
    | .bar :: signs =>
      let (b, rest) ← alternatives d fuel depth (n, signs)
      if d.escapes && isNothing b then Except.error "Invalid preceding regular expression"
      return (.either a b, rest)
    | signs => return (a, n, signs)

/-- What follows what has been read of a branch: the part that is settled, and the last
expression, which can still be repeated. -/
def branch (d : Dialect) : Nat → (depth : Nat) → Match → Option Match → Rest →
    Except Text (Match × Rest)
  | 0, _, front, _, rest => .ok (front, rest)
  | fuel + 1, depth, front, last, (n, signs) => do
    let settled := match last with
      | some e => Match.sequence front e
      | none => front
    let repeats (least : Nat) (most : Option Nat) (rest : List Sign) :
        Except Text (Match × Rest) :=
      match last with
      | some e =>
        if d.escapes && isStart e then Except.error "Repeated start"
        else branch d fuel depth front (some (.repeated e least most true)) (n, rest)
      | none =>
        if d.looseSigns then branch d fuel depth front none (n, rest)
        else .error "Invalid preceding regular expression"
    match signs with
    | [] => return (settled, n, [])
    | .bar :: _ => return (settled, n, signs)
    | .closing :: rest =>
      if 0 < depth then return (settled, n, signs)
      else if d.extended && d.looseBraces then branch d fuel depth settled (some (.this ')')) (n, rest)
      else .error "Unmatched ) or \\)"
    | .opening :: rest =>
      let (inner, m, rest) ← alternatives d fuel (depth + 1) (n + 1, rest)
      match rest with
      | .closing :: rest => branch d fuel depth settled (some (.group n inner)) (m, rest)
      | _ => .error "Unmatched ( or \\("
    | .many least most :: rest => repeats least most rest
    | .star :: rest => repeats 0 none rest
    | .atom (.again k) :: rest =>
      if n ≤ k then .error "Invalid back reference"
      else branch d fuel depth settled (some (.again k)) (n, rest)
    | .atom e :: rest => branch d fuel depth settled (some e) (n, rest)

end

end Notation

/-- The expression that a text is, or what is wrong with it. -/
def ofText (d : Dialect) (t : Text) : Except Text Match := do
  let signs ← Notation.signs d (t.length + 1) true t
  let (e, _) ← Notation.alternatives d (4 * signs.length + 8) 0 (1, signs)
  return e

end Equate.Match
