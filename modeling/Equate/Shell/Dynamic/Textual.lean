import Equate.Shell.Dynamic.Operation
import Equate.Text.Encoding
import Equate.Text.WordCharacter

/-!
# Methods of texts

Bytes have most of the methods of texts. A text can also be a format with places for
values, each of which says what is to be shown and how.
-/
namespace Equate.Shell.Dynamic

/-- What a call hands over. -/
structure Given where
  plain : List Value
  named : List (String × Value)

namespace Given

/-- The argument at a position or with a name. -/
def at? (g : Given) (i : Nat) (name : String) : Option Value := (g.plain[i]?).or (g.named.lookup name)

/-- The argument at a position or with a name; one that is missing or says nothing is none. -/
def some? (g : Given) (i : Nat) (name : String) : Option Value :=
  (g.at? i name).filter fun v => !(v matches .none)

/-- The argument at a position or with a name. -/
def required (g : Given) (f : String) (i : Nat) (name : String) : Running Value := do
  match g.at? i name with
  | some v => return v
  | none => typeError (f.toList ++ "() missing required argument '" ++ name.toList ++ "' (pos " ++
      Text.decimal (i + 1) ++ [')'])

end Given

/-! ## Characters -/

/-- A blank between words. -/
def isGap (c : Char) : Bool :=
  isSpace c || ('\x1c' ≤ c && c ≤ '\x1f') || c == '\x85' || c == '\u00a0' || c == '\u2028' || c == '\u2029' ||
    c == '\u3000' || ('\u2000' ≤ c && c ≤ '\u200a')

/-- A letter. -/
def isLetter (c : Char) : Bool := c.isAlpha || (127 < c.toNat && Text.isWordCharacter c)

/-- A character as a capital letter. -/
def upperChar (c : Char) : Text :=
  let n := c.toNat
  if n < 128 then [c.toUpper]
  else if n = 0xdf then ['S', 'S']
  else if (0xe0 ≤ n ∧ n ≤ 0xfe ∧ n ≠ 0xf7) ∨ (0x3b1 ≤ n ∧ n ≤ 0x3c9 ∧ n ≠ 0x3c2) ∨ (0x430 ≤ n ∧ n ≤ 0x44f) then
    [Char.ofNat (n - 32)]
  else if n = 0x3c2 then ['Σ']
  else if 0x450 ≤ n ∧ n ≤ 0x45f then [Char.ofNat (n - 80)]
  else if 0x100 ≤ n ∧ n ≤ 0x137 ∧ n % 2 = 1 ∧ n ≠ 0x131 then [Char.ofNat (n - 1)]
  else if 0x139 ≤ n ∧ n ≤ 0x148 ∧ n % 2 = 0 then [Char.ofNat (n - 1)]
  else if 0x14a ≤ n ∧ n ≤ 0x177 ∧ n % 2 = 1 then [Char.ofNat (n - 1)]
  else if n = 0xff then ['Ÿ']
  else if n = 0xb5 then ['Μ']
  else [c]

/-- A character as a small letter. -/
def lowerChar (c : Char) : Text :=
  let n := c.toNat
  if n < 128 then [c.toLower]
  else if (0xc0 ≤ n ∧ n ≤ 0xde ∧ n ≠ 0xd7) ∨ (0x391 ≤ n ∧ n ≤ 0x3a9) ∨ (0x410 ≤ n ∧ n ≤ 0x42f) then
    [Char.ofNat (n + 32)]
  else if 0x400 ≤ n ∧ n ≤ 0x40f then [Char.ofNat (n + 80)]
  else if 0x100 ≤ n ∧ n ≤ 0x137 ∧ n % 2 = 0 ∧ n ≠ 0x130 then [Char.ofNat (n + 1)]
  else if 0x139 ≤ n ∧ n ≤ 0x148 ∧ n % 2 = 1 then [Char.ofNat (n + 1)]
  else if 0x14a ≤ n ∧ n ≤ 0x177 ∧ n % 2 = 0 then [Char.ofNat (n + 1)]
  else if n = 0x178 then ['ÿ']
  else if n = 0x2126 then ['ω']
  else [c]

/-- A text in capital letters. -/
def upper (t : Text) : Text := t.flatMap upperChar

/-- A text in small letters. -/
def lower (t : Text) : Text := t.flatMap lowerChar

/-- A capital letter. -/
def isUpperChar (c : Char) : Bool := lowerChar c != [c]

/-- A small letter. -/
def isLowerChar (c : Char) : Bool := upperChar c != [c] || c == 'ß'

/-- A text with capital letters at the front of its words. -/
def titled : Bool → Text → Text
  | _, [] => []
  | inside, c :: rest =>
    if isLetter c && !c.isDigit && c != '_' then (if inside then lowerChar c else upperChar c) ++ titled true rest
    else c :: titled false rest

/-! ## Parts -/

/-- The words of a text, so many cuts at most; what is left is not cut. -/
def splitGaps : Nat → Option Nat → Text → List Text
  | 0, _, _ => []
  | fuel + 1, cuts, t =>
    match t.dropWhile isGap with
    | [] => []
    | body =>
      if cuts = some 0 then [(body.reverse.dropWhile isGap).reverse]
      else
        let w := body.takeWhile fun c => !isGap c
        w :: splitGaps fuel (cuts.map (· - 1)) (body.drop w.length)

/-- The parts of a text between another one, so many cuts at most. -/
def splitParts (separator : Text) : Nat → Option Nat → (current : Text) → Text → List Text
  | 0, _, current, t => [current.reverse ++ t]
  | _, _, current, [] => [current.reverse]
  | fuel + 1, cuts, current, c :: rest =>
    if cuts = some 0 then [current.reverse ++ c :: rest]
    else if separator.isPrefixOf (c :: rest) then
      current.reverse :: splitParts separator fuel (cuts.map (· - 1)) [] ((c :: rest).drop separator.length)
    else splitParts separator fuel cuts (c :: current) rest

/-- The parts of a text, by blanks or by another text, from the left or from the right. -/
def splitText (separator : Option Text) (cuts : Option Nat) (fromRight : Bool) (t : Text) : List Text :=
  if fromRight then
    let parts := match separator with
      | none => splitGaps (t.length + 1) cuts t.reverse
      | some s => splitParts s.reverse (t.length + 1) cuts [] t.reverse
    (parts.map List.reverse).reverse
  else
    match separator with
    | none => splitGaps (t.length + 1) cuts t
    | some s => splitParts s (t.length + 1) cuts [] t

/-- The lines of a text, with their ends or without. -/
def splitLines (keep : Bool) : Nat → (current : Text) → Text → List Text
  | 0, _, _ => []
  | _, current, [] => if current = [] then [] else [current.reverse]
  | fuel + 1, current, '\r' :: '\n' :: rest =>
    (current.reverse ++ if keep then ['\r', '\n'] else []) :: splitLines keep fuel [] rest
  | fuel + 1, current, c :: rest =>
    if c = '\n' ∨ c = '\r' ∨ c = '\x0b' ∨ c = '\x0c' ∨ ('\x1c' ≤ c ∧ c ≤ '\x1e') ∨ c = '\x85' ∨ c = '\u2028' ∨
        c = '\u2029' then
      (current.reverse ++ if keep then [c] else []) :: splitLines keep fuel [] rest
    else splitLines keep fuel (c :: current) rest

/-- A text with another one in place of a third, so often at most. -/
def replaceText (old new : Text) (count : Option Nat) (t : Text) : Text :=
  if old = [] then
    let n := (count.getD (t.length + 1))
    let rec go : Nat → Text → Text
      | 0, t => t
      | _, [] => new
      | k + 1, c :: rest => new ++ c :: go k rest
    go n t
  else Text.joinWith new (splitParts old (t.length + 1) count [] t)

/-- The last position at which a text occurs. -/
def findLast (part : Text) (t : Text) : Option Nat :=
  (findText part.reverse 0 t.reverse).map fun i => t.length - i - part.length

/-- A text with blanks up to the next place for each tabulator. -/
def expandTabs (size : Nat) : Nat → Text → Text
  | _, [] => []
  | column, '\t' :: rest =>
    let n := if size = 0 then 0 else size - column % size
    List.replicate n ' ' ++ expandTabs size (column + n) rest
  | column, c :: rest =>
    c :: expandTabs size (if c = '\n' ∨ c = '\r' then 0 else column + 1) rest

/-- A text without some characters at its ends. -/
def stripped (accepts : Char → Bool) (left right : Bool) (t : Text) : Text :=
  let t := if left then t.dropWhile accepts else t
  if right then (t.reverse.dropWhile accepts).reverse else t

/-! ## Formats -/

/-- The parts of the name of a place: a name or number, and the attributes and indexes
behind it. -/
def placeParts : Nat → Text → List (Bool × Text)
  | 0, _ => []
  | _, [] => []
  | fuel + 1, '.' :: rest =>
    let n := rest.takeWhile fun c => c != '.' && c != '['
    (false, n) :: placeParts fuel (rest.drop n.length)
  | fuel + 1, '[' :: rest =>
    let n := rest.takeWhile (· ≠ ']')
    (true, n) :: placeParts fuel (rest.drop (n.length + 1))
  | _, _ => []

/-- A place up to the brace that closes it, and what follows. -/
def placeText : Nat → (depth : Nat) → Text → Option (Text × Text)
  | 0, _, _ => none
  | _, _, [] => none
  | fuel + 1, depth, c :: rest =>
    if c = '\x7d' ∧ depth = 0 then some ([], rest)
    else
      let depth := if c = '\x7b' then depth + 1 else if c = '\x7d' then depth - 1 else depth
      (placeText fuel depth rest).map fun (t, rest) => (c :: t, rest)

/-- A text with values in its places; the number of the next one without a number comes with
it. -/
def filled (w : Ways) (value : Text → Running Value) : Nat → (next : Nat) → Text → Running (Text × Nat)
  | 0, n, _ => return ([], n)
  | fuel + 1, next, t => do
    match t with
    | [] => return ([], next)
    | '\x7b' :: '\x7b' :: rest =>
      let (more, n) ← filled w value fuel next rest
      return ('\x7b' :: more, n)
    | '\x7d' :: '\x7d' :: rest =>
      let (more, n) ← filled w value fuel next rest
      return ('\x7d' :: more, n)
    | '\x7d' :: _ => valueError "Single '\x7d' encountered in format string"
    | '\x7b' :: rest =>
      match placeText (rest.length + 1) 0 rest with
      | none => valueError (if rest = [] then "Single '\x7b' encountered in format string"
          else "expected '\x7d' before end of string")
      | some (place, rest) =>
        let name := place.takeWhile fun c => c != '!' && c != ':'
        let behind := place.drop name.length
        let (conversion, behind) := match behind with
          | '!' :: c :: more => (some c, more)
          | more => (none, more)
        let format := behind.drop 1
        let first := name.takeWhile fun c => c != '.' && c != '['
        let (v, next) ← if first = [] then do pure (← value (Text.decimal next), next + 1)
          else do pure (← value first, next)
        let v ← (placeParts (name.length + 1) (name.drop first.length)).foldlM (fun v (isIndex, n) => do
          if isIndex then
            itemAt w v (match natural? n with
              | some k => .int k
              | none => .text n)
          else w.member v (String.ofList n)) v
        let (format, next) ← filled w value fuel next format
        let v ← match conversion with
          | some 'r' => do pure (Value.text (← reprOf w v))
          | some 's' => do pure (Value.text (← strOf w v))
          | some 'a' => do pure (Value.text (← reprOf w v))
          | _ => pure v
        let shown ← formatted w v format
        let (more, n) ← filled w value fuel next rest
        return (shown ++ more, n)
    | c :: rest =>
      let plain := rest.takeWhile fun c => c != '\x7b' && c != '\x7d'
      let (more, n) ← filled w value fuel next (rest.drop plain.length)
      return (c :: plain ++ more, n)

/-- A text with the arguments of a call in its places. -/
def formatText (w : Ways) (t : Text) (g : Given) : Running Text := do
  let value (name : Text) : Running Value := do
    match natural? name with
    | some i =>
      match g.plain[i]? with
      | some v => return v
      | none => fail "IndexError" ("Replacement index " ++ Text.decimal i ++
          " out of range for positional args tuple")
    | none =>
      match g.named.lookup (String.ofList name) with
      | some v => return v
      | none => keyError (.text name)
  return (← filled w value (t.length + 1) 0 t).1

/-! ## Methods -/

/-- The methods of texts. -/
def textMethods : List String :=
  ["upper", "lower", "title", "capitalize", "swapcase", "casefold", "strip", "lstrip", "rstrip", "split",
    "rsplit", "splitlines", "join", "replace", "startswith", "endswith", "find", "rfind", "index", "rindex",
    "count", "isdigit", "isalpha", "isalnum", "isspace", "isupper", "islower", "isidentifier", "isnumeric",
    "isdecimal", "istitle", "isprintable", "isascii", "zfill", "center", "ljust", "rjust", "partition",
    "rpartition", "format", "format_map", "encode", "expandtabs", "translate", "removeprefix",
    "removesuffix", "maketrans", "__len__", "__contains__", "__getitem__", "__str__", "__add__"]

/-- The methods of bytes. -/
def bytesMethods : List String :=
  ["upper", "lower", "title", "capitalize", "swapcase", "strip", "lstrip", "rstrip", "split", "rsplit",
    "splitlines", "join", "replace", "startswith", "endswith", "find", "rfind", "index", "rindex", "count",
    "isdigit", "isalpha", "isalnum", "isspace", "isupper", "islower", "zfill", "center", "ljust", "rjust",
    "partition", "rpartition", "expandtabs", "removeprefix", "removesuffix", "decode", "hex", "__len__"]

/-- The text in a value that is a text or bytes. -/
def letters? : Value → Option Text
  | .text t => some t
  | .bytes t => some t
  | _ => none

/-- The encodings, by their names in small letters without dashes. -/
inductive Codec where
  | utf8
  | ascii
  | latin
  | utf16 (big mark : Bool)

/-- The encoding of a name. -/
def codecOf (encoding : Text) : Running Codec := do
  let name := (lower encoding).filter fun c => c != '-' && c != '_'
  match String.ofList name with
  | "utf8" => return .utf8
  | "u8" => return .utf8
  | "utf8sig" => return .utf8
  | "ascii" => return .ascii
  | "usascii" => return .ascii
  | "latin1" => return .latin
  | "latin" => return .latin
  | "l1" => return .latin
  | "iso88591" => return .latin
  | "cp1252" => return .latin
  | "utf16" => return .utf16 false true
  | "utf16le" => return .utf16 false false
  | "utf16be" => return .utf16 true false
  | _ => fail "LookupError" ("unknown encoding: " ++ encoding)

/-- A text in an encoding. -/
def encoded (t : Text) (encoding errors : Text) : Running Octets := do
  let narrow (n : Nat) (name : String) : Running Octets := do
    match t.zipIdx.find? fun (c, _) => n ≤ c.toNat with
    | none => return t
    | some (_, i) =>
      let fits (c : Char) : Bool := c.toNat < n
      match String.ofList errors with
      | "ignore" => return t.filter fits
      | "replace" => return t.map fun c => if fits c then c else '?'
      | "xmlcharrefreplace" => return t.flatMap fun c => if fits c then [c] else '&' :: '#' :: Text.decimal c.toNat ++ [';']
      | "backslashreplace" => return t.flatMap fun c => if fits c then [c] else quotedChar ' ' false true c
      | _ =>
        let count := ((t.drop i).takeWhile fun c => !fits c).length
        let place : Text := if count = 1 then
            "character '".toList ++ quotedChar ' ' false true ((t[i]?).getD ' ') ++ "' in position ".toList ++ Text.decimal i
          else "characters in position ".toList ++ Text.decimal i ++ '-' :: Text.decimal (i + count - 1)
        fail "UnicodeEncodeError" ('\'' :: name.toList ++ "' codec can't encode " ++ place ++ ": ordinal not in range(" ++
          Text.decimal n ++ [')'])
  match ← codecOf encoding with
  | .utf8 => return encode t
  | .ascii => narrow 128 "ascii"
  | .latin => narrow 256 "latin-1"
  | .utf16 big mark =>
    let unit (n : Nat) : Octets :=
      let high := Char.ofNat (n / 256)
      let low := Char.ofNat (n % 256)
      if big then [high, low] else [low, high]
    let units := t.flatMap fun c =>
      if c.toNat < 0x10000 then unit c.toNat
      else unit (0xd800 + (c.toNat - 0x10000) / 1024) ++ unit (0xdc00 + (c.toNat - 0x10000) % 1024)
    return (if mark then ['\xff', '\xfe'] else []) ++ units

/-- How many of the first octets belong to a character, and what is wrong with it. -/
def badSequence (t : Octets) : Nat × String :=
  let at? (i : Nat) : Option Nat := t[i]?.map Char.toNat
  let first := (at? 0).getD 0
  if first < 0xc2 ∨ 0xf4 < first then (1, "invalid start byte")
  else
    let size := if first < 0xe0 then 2 else if first < 0xf0 then 3 else 4
    let fits (i n : Nat) : Bool :=
      let low := if i = 1 ∧ first = 0xe0 then 0xa0 else if i = 1 ∧ first = 0xf0 then 0x90 else 0x80
      let high := if i = 1 ∧ first = 0xed then 0x9f else if i = 1 ∧ first = 0xf4 then 0x8f else 0xbf
      low ≤ n && n ≤ high
    let good := ((List.range (size - 1)).takeWhile fun k => ((at? (k + 1)).map (fits (k + 1))).getD false).length
    (good + 1, if (at? (good + 1)).isNone then "unexpected end of data" else "invalid continuation byte")

/-- How many octets there are in front of the first that cannot be read. -/
def readableFront : Nat → Octets → Nat
  | 0, _ => 0
  | fuel + 1, t =>
    match t with
    | [] => 0
    | c :: _ =>
      let first := c.toNat
      let size := if first < 0x80 then 1 else if first < 0xe0 then 2 else if first < 0xf0 then 3 else 4
      if first < 0x80 then readableFront fuel (t.drop 1) + 1
      else if (Text.ofBytes? (toBytes (t.take size))).isSome && (t.take size).length == size then
        readableFront fuel (t.drop size) + size
      else 0

/-- Bytes as a text in an encoding. -/
def decoded (t : Octets) (encoding errors : Text) : Running Text := do
  let refused (name : String) (i count : Nat) (words : String) : Running Text := do
    let place : Text := if count = 1 then
        "byte 0x".toList ++ hexDigits 2 ((t[i]?).getD ' ').toNat ++ " in position ".toList ++ Text.decimal i
      else "bytes in position ".toList ++ Text.decimal i ++ '-' :: Text.decimal (i + count - 1)
    fail "UnicodeDecodeError" ('\'' :: name.toList ++ "' codec can't decode " ++ place ++ ": " ++ words.toList)
  match ← codecOf encoding with
  | .latin => return t
  | .ascii =>
    match t.findIdx? fun c => 128 ≤ c.toNat with
    | none => return t
    | some i =>
      if errors = "ignore" then return t.filter fun c => c.toNat < 128
      else if errors = "replace" then return t.map fun c => if c.toNat < 128 then c else Text.replacement
      else refused "ascii" i 1 "ordinal not in range(128)"
  | .utf16 big mark =>
    let marked := mark && (t.take 2 == ['\xff', '\xfe'] || t.take 2 == ['\xfe', '\xff'])
    let big := if marked then t.take 2 == ['\xfe', '\xff'] else big
    let rec units : Octets → List Nat
      | a :: b :: rest => (if big then a.toNat * 256 + b.toNat else b.toNat * 256 + a.toNat) :: units rest
      | _ => []
    let rec join : List Nat → Text
      | a :: b :: rest =>
        if 0xd800 ≤ a ∧ a < 0xdc00 then Char.ofNat (0x10000 + (a - 0xd800) * 1024 + (b - 0xdc00)) :: join rest
        else Char.ofNat a :: join (b :: rest)
      | [a] => [Char.ofNat a]
      | [] => []
    return join (units (if marked then t.drop 2 else t))
  | .utf8 =>
    match Text.ofBytes? (toBytes t) with
    | some text => return text
    | none =>
      if errors = "ignore" then return (decode t).filter (· ≠ Text.replacement)
      else if errors = "replace" then return decode t
      else
        let i := readableFront (t.length + 1) t
        let (count, words) := badSequence (t.drop i)
        refused "utf-8" i count words

/-- A method of a text or of bytes. -/
def textMethod (w : Ways) (isBytes : Bool) (name : String) (t : Text) (g : Given) : Running Value := do
  let wrap (t : Text) : Value := if isBytes then .bytes t else .text t
  let give (t : Text) : Running Value := return wrap t
  let truth (b : Bool) : Running Value := return .bool b
  let wanted (v : Value) : Running Text := do
    match letters? (← coreOf v) with
    | some t => return t
    | none =>
      if isBytes then typeError ("a bytes-like object is required, not '" ++ (← typeName v).toList ++ ['\''])
      else typeError ("must be str, not " ++ (← typeName v).toList)
  let number? (v : Option Value) : Running (Option Int) := do
    match v with
    | some v => return some (← wholeNumber w v)
    | none => return none
  let strip (left right : Bool) : Running Value := do
    match g.some? 0 "chars" with
    | none => give (stripped isGap left right t)
    | some v =>
      let chars ← wanted v
      give (stripped chars.contains left right t)
  let listOf (ts : List Text) : Running Value := makeList (ts.map wrap)
  let split (fromRight : Bool) : Running Value := do
    let separator ← match g.some? 0 "sep" with
      | some v => do pure (some (← wanted v))
      | none => pure none
    if separator = some [] then valueError "empty separator"
    let cuts := (← number? (g.some? 1 "maxsplit")).bind fun n => if n < 0 then none else some n.toNat
    listOf (splitText separator cuts fromRight t)
  let window : Running (Nat × Nat) := do
    let clamp (n : Int) : Nat := (max 0 (min (t.length : Int) (if n < 0 then n + t.length else n))).toNat
    let first := ((← number? (g.some? 1 "start")).map clamp).getD 0
    let last := ((← number? (g.some? 2 "end")).map clamp).getD t.length
    return (first, last)
  let part : Running Text := do
    match (← g.required name 0 "sub") with
    | .int n => return [Char.ofNat n.toNat]
    | v => wanted v
  let search (fromRight : Bool) : Running (Option Nat) := do
    let (first, last) ← window
    let part ← part
    let inner := (t.take last).drop first
    if last < first then return none
    return ((if fromRight then findLast part inner else findText part 0 inner).map (· + first))
  let ends (test : Text → Text → Bool) : Running Value := do
    let (first, last) ← window
    let inner := (t.take last).drop first
    match ← g.required name 0 "prefix" with
    | .tuple items => truth (← items.anyM fun v => do return test (← wanted v) inner)
    | v =>
      match letters? (← coreOf v) with
      | some p => truth (test p inner)
      | none => typeError (name.toList ++ " first arg must be str or a tuple of str, not " ++ (← typeName v).toList)
  let padded (place : Nat → Nat × Nat) : Running Value := do
    let n ← wholeNumber w (← g.required name 0 "width")
    let fill ← match g.some? 1 "fillchar" with
      | some v => do pure ((← wanted v).headD ' ')
      | none => pure ' '
    let (a, b) := place (n.toNat - t.length)
    give (List.replicate a fill ++ t ++ List.replicate b fill)
  let all (test : Char → Bool) : Running Value := truth (t != [] && t.all test)
  let cased : Bool := t.any fun c => isUpperChar c || isLowerChar c
  match name with
  | "upper" => give (upper t)
  | "lower" => give (lower t)
  | "casefold" => give (t.flatMap fun c => if c = 'ß' then ['s', 's'] else lowerChar c)
  | "title" => give (titled false t)
  | "capitalize" => give (upper (t.take 1) ++ lower (t.drop 1))
  | "swapcase" => give (t.flatMap fun c => if isUpperChar c then lowerChar c else upperChar c)
  | "strip" => strip true true
  | "lstrip" => strip true false
  | "rstrip" => strip false true
  | "split" => split false
  | "rsplit" => split true
  | "splitlines" =>
    let keep ← match g.at? 0 "keepends" with
      | some v => isTrue w v
      | none => pure false
    listOf (splitLines keep (t.length + 1) [] t)
  | "join" =>
    let items ← itemsOf w (← g.required name 0 "iterable")
    let parts ← items.zipIdx.mapM fun (v, i) => do
      match ← coreOf v, isBytes with
      | .text s, false => return s
      | .bytes s, true => return s
      | _, _ => typeError ("sequence item " ++ Text.decimal i ++ ": expected " ++
          (if isBytes then "a bytes-like object, " else "str instance, ") ++ (← typeName v).toList ++ " found")
    give (Text.joinWith t parts)
  | "replace" =>
    let old ← wanted (← g.required name 0 "old")
    let new ← wanted (← g.required name 1 "new")
    let count := (← number? (g.some? 2 "count")).bind fun n => if n < 0 then none else some n.toNat
    give (replaceText old new count t)
  | "startswith" => ends fun p t => p.isPrefixOf t
  | "endswith" => ends fun p t => p.isSuffixOf t
  | "find" => return .int (((← search false).map Int.ofNat).getD (-1))
  | "rfind" => return .int (((← search true).map Int.ofNat).getD (-1))
  | "index" =>
    match ← search false with
    | some n => return .int n
    | none => valueError (if isBytes then "subsection not found" else "substring not found")
  | "rindex" =>
    match ← search true with
    | some n => return .int n
    | none => valueError (if isBytes then "subsection not found" else "substring not found")
  | "count" =>
    let (first, last) ← window
    let inner := (t.take last).drop first
    let part ← part
    return .int (if part = [] then inner.length + 1
      else (splitParts part (inner.length + 1) none [] inner).length - 1 : Nat)
  | "isdigit" => all Char.isDigit
  | "isdecimal" => all Char.isDigit
  | "isnumeric" => all Char.isDigit
  | "isalpha" => all fun c => isLetter c && !c.isDigit && c != '_'
  | "isalnum" => all fun c => isLetter c || c.isDigit
  | "isspace" => all isGap
  | "isupper" => truth (cased && t.all fun c => !isLowerChar c)
  | "islower" => truth (cased && t.all fun c => !isUpperChar c)
  | "istitle" => truth (cased && titled false t == t)
  | "isascii" => truth (t.all fun c => c.toNat < 128)
  | "isprintable" => truth (t.all isPrintable)
  | "isidentifier" => truth (match t with
      | c :: rest => (isLetter c || c == '_') && !c.isDigit && rest.all fun c => isLetter c || c.isDigit || c == '_'
      | [] => false)
  | "zfill" =>
    let n ← wholeNumber w (← g.required name 0 "width")
    let (sign, body) := match t with
      | '-' :: rest => (['-'], rest)
      | '+' :: rest => (['+'], rest)
      | rest => ([], rest)
    give (sign ++ List.replicate (n.toNat - t.length) '0' ++ body)
  | "center" => padded fun n =>
    let left := if n % 2 = 1 ∧ (t.length + n) % 2 = 1 then n / 2 + 1 else n / 2
    (left, n - left)
  | "ljust" => padded fun n => (0, n)
  | "rjust" => padded fun n => (n, 0)
  | "partition" =>
    let separator ← wanted (← g.required name 0 "sep")
    match findText separator 0 t with
    | some i => return .tuple [wrap (t.take i), wrap separator, wrap (t.drop (i + separator.length))]
    | none => return .tuple [wrap t, wrap [], wrap []]
  | "rpartition" =>
    let separator ← wanted (← g.required name 0 "sep")
    match findLast separator t with
    | some i => return .tuple [wrap (t.take i), wrap separator, wrap (t.drop (i + separator.length))]
    | none => return .tuple [wrap [], wrap [], wrap t]
  | "format" => give (← formatText w t g)
  | "format_map" =>
    let mapping ← g.required name 0 "mapping"
    give (← filled w (fun n => itemAt w mapping (.text n)) (t.length + 1) 0 t).1
  | "encode" =>
    let text (v : Option Value) (usual : Text) : Text := (v.bind letters?).getD usual
    return .bytes (← encoded t (text (g.at? 0 "encoding") "utf-8") (text (g.at? 1 "errors") "strict"))
  | "decode" =>
    let text (v : Option Value) (usual : Text) : Text := (v.bind letters?).getD usual
    return .text (← decoded t (text (g.at? 0 "encoding") "utf-8") (text (g.at? 1 "errors") "strict"))
  | "hex" => return .text (t.flatMap fun c => hexDigits 2 c.toNat)
  | "expandtabs" => give (expandTabs (((← number? (g.at? 0 "tabsize")).getD 8).toNat) 0 t)
  | "translate" =>
    let table ← g.required name 0 "table"
    let parts ← t.mapM fun c => do
      match ← objectOf? table with
      | some (.dict d _ _) =>
        match d.value? ('i' :: Text.decimal c.toNat) with
        | some (.text s) => return s
        | some (.int n) => return [Char.ofNat n.toNat]
        | some .none => return []
        | _ => return [c]
      | _ => return [c]
    give parts.flatten
  | "maketrans" =>
    let charKey (c : Char) : Text × Value := ('i' :: Text.decimal c.toNat, .int c.toNat)
    match g.plain with
    | .text a :: .text b :: rest =>
      let table := (a.zip b).foldl (fun (d : Table) (c, e) => d.put (charKey c).1 (charKey c).2 (.int e.toNat)) .empty
      let gone := match rest with
        | .text c :: _ => c
        | _ => []
      makeDict (gone.foldl (fun d c => d.put (charKey c).1 (charKey c).2 .none) table)
    | [v] =>
      match ← objectOf? v with
      | some (.dict d _ _) =>
        makeDict (d.toList.foldl (fun (r : Table) (k, v) =>
          match k with
          | .text (c :: _) => r.put (charKey c).1 (charKey c).2 v
          | .int n => r.put ('i' :: integerText n) (.int n) v
          | _ => r) .empty)
      | _ => typeError "if you give only one argument to maketrans it must be a dict"
    | _ => typeError "maketrans() arguments must be strings"
  | "removeprefix" =>
    let p ← wanted (← g.required name 0 "prefix")
    give (if p.isPrefixOf t then t.drop p.length else t)
  | "removesuffix" =>
    let p ← wanted (← g.required name 0 "suffix")
    give (if p != [] && p.isSuffixOf t then t.take (t.length - p.length) else t)
  | "__len__" => return .int t.length
  | "__contains__" => truth (← isWithin w (← g.required name 0 "key") (wrap t))
  | "__getitem__" => itemAt w (wrap t) (← g.required name 0 "key")
  | "__str__" => give t
  | "__add__" => operate w .add "+" (wrap t) (← g.required name 0 "value")
  | _ => return .none

end Equate.Shell.Dynamic
