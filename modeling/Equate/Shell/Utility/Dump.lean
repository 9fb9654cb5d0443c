import Equate.Shell.Printed
import Equate.Shell.Utility.Lines

/-!
# Bytes as numbers

Bytes are shown in rows of numbers or characters, with the offset of each row in front.
Rows that repeat the one above them are left out.
-/
namespace Equate.Shell.Utility

/-- How the items of a row are shown. -/
inductive ItemKind where
  | named
  | char
  | signed
  | unsigned
  | octal
  | hexadecimal
  | float
  deriving DecidableEq

/-- A type of items: how they are shown, how many bytes each takes, and whether the
characters are shown behind a row. -/
structure ItemType where
  kind : ItemKind
  size : Nat
  shows : Bool

/-- The width of an item. -/
def ItemType.width (t : ItemType) : Nat :=
  match t.kind, t.size with
  | .named, _ => 3
  | .char, _ => 3
  | .signed, 1 => 4
  | .signed, 2 => 6
  | .signed, 4 => 11
  | .signed, _ => 20
  | .unsigned, 1 => 3
  | .unsigned, 2 => 5
  | .unsigned, 4 => 10
  | .unsigned, _ => 20
  | .octal, 1 => 3
  | .octal, 2 => 6
  | .octal, 4 => 11
  | .octal, _ => 22
  | .hexadecimal, n => 2 * n
  | .float, 4 => 15
  | .float, _ => 24

/-- The names of characters that cannot be seen. -/
def charNames : List String :=
  ["nul", "soh", "stx", "etx", "eot", "enq", "ack", "bel", "bs", "ht", "nl", "vt", "ff", "cr", "so",
    "si", "dle", "dc1", "dc2", "dc3", "dc4", "nak", "syn", "etb", "can", "em", "sub", "esc", "fs",
    "gs", "rs", "us", "sp"]

/-- A number of digits in a base. -/
def baseText (base digits n : Nat) : Octets :=
  let t := Nat.toDigits base n
  List.replicate (digits - t.length) '0' ++ t

/-- An item in characters. -/
def ItemType.shown (t : ItemType) (bytes : List Nat) : Octets :=
  let n := bytes.reverse.foldl (fun n b => n * 256 + b) 0
  let limit := Nat.pow 256 t.size
  match t.kind with
  | .named =>
    let n := n % 128
    if n = 127 then lit "del" else ((charNames[n]?).map String.toList).getD [Char.ofNat n]
  | .char =>
    match n with
    | 0 => lit "\\0"
    | 7 => lit "\\a"
    | 8 => lit "\\b"
    | 9 => lit "\\t"
    | 10 => lit "\\n"
    | 11 => lit "\\v"
    | 12 => lit "\\f"
    | 13 => lit "\\r"
    | n => if 32 ≤ n ∧ n < 127 then [Char.ofNat n] else baseText 8 3 n
  | .signed => integerText (if n < limit / 2 then (n : Int) else (n : Int) - limit)
  | .unsigned => Text.decimal n
  | .octal => baseText 8 t.width n
  | .hexadecimal => baseText 16 (2 * t.size) n
  | .float =>
    let x := if t.size = 4 then (Float32.ofBits n.toUInt32).toFloat else Float.ofBits n.toUInt64
    let shape (p : Nat) : Octets := (⟨[], 0, some p⟩ : Shape).float 'g' x
    let most := if t.size = 4 then 9 else 17
    let readsBack (p : Nat) : Bool :=
      let y := (floatAtFront (shape p)).1
      if t.size = 4 then y.toFloat32 == x.toFloat32 else y == x
    ((List.range' 1 most).find? readsBack).elim (shape most) shape

/-- The types in a text. -/
def itemTypes : Nat → Octets → Option (List ItemType)
  | 0, _ => some []
  | fuel + 1, t =>
    match t with
    | [] => some []
    | c :: rest => do
      let kind ← match c with
        | 'a' => some ItemKind.named
        | 'c' => some .char
        | 'd' => some .signed
        | 'u' => some .unsigned
        | 'o' => some .octal
        | 'x' => some .hexadecimal
        | 'f' => some .float
        | _ => none
      let digits := rest.takeWhile Char.isDigit
      let (size, rest) := if kind = .named ∨ kind = .char then (1, rest)
        else if digits ≠ [] then (Text.digitsValue digits, rest.drop digits.length)
        else
          match rest with
          | 'C' :: rest => (1, rest)
          | 'S' :: rest => (2, rest)
          | 'I' :: rest => (4, rest)
          | 'L' :: rest => (8, rest)
          | 'F' :: rest => if kind = .float then (4, rest) else (4, 'F' :: rest)
          | 'D' :: rest => if kind = .float then (8, rest) else (4, 'D' :: rest)
          | rest => (if kind = .float then 8 else 4, rest)
      if !([1, 2, 4, 8].contains size) then none
      else
        let (shows, rest) := match rest with
          | 'z' :: rest => (true, rest)
          | rest => (false, rest)
        return ⟨kind, size, shows⟩ :: (← itemTypes fuel rest)

/-- One row for one type, as wide as the widest type needs it. -/
def dumpRow (width : Nat) (perRow : Nat) (t : ItemType) (bytes : List Nat) : Octets :=
  let fields := perRow / t.size
  let pad := width - (t.width + 1) * fields
  let items := inParts t.size bytes.length bytes
  let shown := items.zipIdx.map fun (item, i) =>
    let here := pad * (fields - i) / fields - pad * (fields - i - 1) / fields
    let item := item ++ List.replicate (t.size - item.length) 0
    let s := t.shown item
    List.replicate (here + 1 + t.width - s.length) ' ' ++ s
  let row := shown.flatten
  if t.shows then
    row ++ List.replicate (width - row.length) ' ' ++ lit "  >" ++
      (bytes.map fun b => if 32 ≤ b ∧ b < 127 then Char.ofNat b else '.') ++ ['<']
  else row
where
  /-- A list in parts of one length. -/
  inParts (n : Nat) : Nat → List Nat → List (List Nat)
    | 0, _ => []
    | fuel + 1, items => if items.isEmpty then [] else items.take n :: inParts n fuel (items.drop n)

/-- An offset in a base; none for no offsets. -/
def offsetText (radix : Char) (n : Nat) : Octets :=
  match radix with
  | 'd' => baseText 10 7 n
  | 'x' => baseText 16 6 n
  | 'n' => []
  | _ => baseText 8 7 n

/-- The rows from an offset on. -/
def dumpRows (types : List ItemType) (radix : Char) (all : Bool) (perRow width : Nat) :
    Nat → (offset : Nat) → (last : Option (List Nat)) → (starred : Bool) → List Nat → List Octets
  | 0, _, _, _, _ => []
  | fuel + 1, offset, last, starred, bytes =>
    if bytes.isEmpty then
      if radix = 'n' then [] else [offsetText radix offset ++ ['\n']]
    else
      let row := bytes.take perRow
      let rest := bytes.drop perRow
      if !all ∧ last = some row ∧ row.length = perRow then
        (if starred then [] else [['*', '\n']]) ++
          dumpRows types radix all perRow width fuel (offset + row.length) last true rest
      else
        let shown := types.zipIdx.flatMap fun (t, i) =>
          (if i = 0 then offsetText radix offset
            else List.replicate (offsetText radix offset).length ' ') ++
            dumpRow width perRow t row ++ ['\n']
        shown :: dumpRows types radix all perRow width fuel (offset + row.length) (some row) false rest

/-- A number of bytes: decimal, octal or hexadecimal, with a letter for a multiple. -/
def dumpCount? (t : Octets) : Option Nat :=
  let (n, rest) := Calculation.numeral t
  if rest.length = t.length then none
  else
    match String.ofList rest with
    | "" => some n.toNat
    | "b" => some (n.toNat * 512)
    | "k" => some (n.toNat * 1024)
    | "K" => some (n.toNat * 1024)
    | "kB" => some (n.toNat * 1000)
    | "m" => some (n.toNat * 1048576)
    | "M" => some (n.toNat * 1048576)
    | _ => none

/-- Bytes as numbers. -/
def od : Utility := fun name arguments =>
  withOptions "A:j:N:S:t:vw::abcdfhiloxs" [("address-radix", 'A'), ("skip-bytes", 'j'), ("read-bytes", 'N'),
      ("format", 't'), ("output-duplicates", 'v'), ("width", 'w')] name arguments 1 fun g => do
    let typeText (letter : Char) (value : Octets) : Octets :=
      match letter with
      | 't' => value
      | 'a' => lit "a"
      | 'b' => lit "o1"
      | 'c' => lit "c"
      | 'd' => lit "u2"
      | 'f' => lit "fF"
      | 'h' => lit "x2"
      | 'i' => lit "dI"
      | 'l' => lit "dL"
      | 'o' => lit "o2"
      | 's' => lit "d2"
      | 'x' => lit "x2"
      | _ => []
    let texts := (g.options.map fun (l, v) => typeText l v).filter (· ≠ [])
    match (texts.mapM fun t => itemTypes (t.length + 1) t) with
    | none =>
      let bad := (texts.find? fun t => (itemTypes (t.length + 1) t).isNone).getD []
      blame name (lit "invalid type string '" ++ bad ++ ['\''])
      return 1
    | some types =>
    let types := if types.isEmpty then [⟨.octal, 2, false⟩] else types.flatten
    let radix := ((g.value? 'A').bind List.head?).getD 'o'
    if !(lit "doxn").contains radix then
      blame name (lit "invalid output address radix '" ++ [radix] ++
        lit "'; it must be one character from [doxn]")
      return 1
    let (status, parts) ← (if g.operands.isEmpty then [['-']] else g.operands).foldlM
      (fun (status, parts) path => do
        match ← contentOf path with
        | .ok content => return (status, content :: parts)
        | .error obstacle => blame name (atFile path obstacle); return (1, parts)) (0, ([] : List Octets))
    let all := parts.reverse.flatten
    let skipped := ((g.value? 'j').bind dumpCount?).getD 0
    if all.length < skipped then
      blame name (lit "cannot skip past end of combined input")
      return 1
    let bytes := (all.drop skipped).map Char.toNat
    let bytes := match (g.value? 'N').bind dumpCount? with
      | some n => bytes.take n
      | none => bytes
    let unit := types.foldl (fun n t => Nat.lcm n t.size) 1
    let perRow := match g.value? 'w' with
      | none => 16 / unit * unit
      | some [] => 32
      | some t => ((natural? t).getD 16)
    let perRow := if perRow % unit = 0 ∧ 0 < perRow then perRow else unit
    let width := (types.map fun t => (t.width + 1) * (perRow / t.size)).foldl max 0
    say (dumpRows types radix (g.has 'v') perRow width (bytes.length + 2) skipped none false bytes).flatten
    return status

end Equate.Shell.Utility
