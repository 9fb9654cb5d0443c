import Equate.Match.Notation
import Equate.Shell.Printed
import Equate.Shell.Utility.Lines

/-!
# Programs that work on characters and fields
-/
namespace Equate.Shell.Utility

/-! ## Sets of characters -/

/-- A part of a set of characters as it is written. -/
inductive SetItem where
  | chars (t : Octets)
  | upper
  | lower
  /-- A character so often, or as often as it takes. -/
  | fill (c : Char) (count : Nat)

/-- One character of a set, with what a backslash makes of it. -/
def setChar (t : Octets) : Option (Char × Octets) :=
  match t with
  | [] => none
  | '\\' :: rest =>
    match octal? rest with
    | some (c, rest) => some (c, rest)
    | none =>
      match rest with
      | [] => some ('\\', [])
      | c :: rest =>
        if c = 'e' then some ('e', rest) else some ((letter? c).getD c, rest)
  | c :: rest => some (c, rest)

/-- The parts of a set. -/
def setItems : Nat → Octets → Except Octets (List SetItem)
  | 0, _ => .ok []
  | fuel + 1, t => do
    match t with
    | [] => return []
    | '[' :: ':' :: rest =>
      match Match.Notation.upToPair ':' ']' rest with
      | some (name, rest) =>
        match String.ofList name with
        | "upper" => return .upper :: (← setItems fuel rest)
        | "lower" => return .lower :: (← setItems fuel rest)
        | _ =>
          match Match.Notation.classOf? name with
          | some accepts =>
            return .chars (((List.range 256).map Char.ofNat).filter accepts) ::
              (← setItems fuel rest)
          | none => throw (lit "invalid character class '" ++ name ++ ['\''])
      | none => return .chars ['['] :: (← setItems fuel (':' :: rest))
    | '[' :: '=' :: c :: '=' :: ']' :: rest => return .chars [c] :: (← setItems fuel rest)
    | t =>
      let repeated : Option (SetItem × Octets) := do
        let inner ← match t with
          | '[' :: inner => some inner
          | _ => none
        let (c, rest) ← setChar inner
        match rest with
        | '*' :: rest =>
          let digits := rest.takeWhile Char.isDigit
          match rest.drop digits.length with
          | ']' :: rest =>
            let n := if digits.head? = some '0' then
                digits.foldl (fun n c => n * 8 + (c.toNat - 48)) 0
              else Text.digitsValue digits
            some (.fill c n, rest)
          | _ => none
        | _ => none
      match repeated with
      | some (item, rest) => return item :: (← setItems fuel rest)
      | none =>
        match setChar t with
        | none => return []
        | some (a, '-' :: rest) =>
          match setChar rest with
          | none => return .chars [a, '-'] :: (← setItems fuel [])
          | some (b, behind) =>
            if b < a then
              throw (lit "range-endpoints of '" ++ t.take (t.length - behind.length) ++
                lit "' are in reverse collating sequence order")
            else
              return .chars ((List.range (b.toNat + 1 - a.toNat)).map fun n =>
                Char.ofNat (a.toNat + n)) :: (← setItems fuel behind)
        | some (a, rest) => return .chars [a] :: (← setItems fuel rest)

/-- The capital letters. -/
def capitals : Octets := (List.range 26).map fun n => Char.ofNat (65 + n)

/-- The small letters. -/
def smalls : Octets := (List.range 26).map fun n => Char.ofNat (97 + n)

/-- The characters of a set, filled up to a length. -/
def setChars (length : Nat) (items : List SetItem) : Octets :=
  let known := (items.map fun i => match i with
    | .chars t => t.length
    | .upper => 26
    | .lower => 26
    | .fill _ n => n).foldl (· + ·) 0
  items.flatMap fun i => match i with
    | .chars t => t
    | .upper => capitals
    | .lower => smalls
    | .fill c n => List.replicate (if n = 0 then length - known else n) c

/-- A text in which these characters do not repeat. -/
def squeeze (accepts : Char → Bool) : Octets → Octets
  | c :: d :: rest =>
    if c = d ∧ accepts c then squeeze accepts (d :: rest)
    else c :: squeeze accepts (d :: rest)
  | t => t

/-- A table of what becomes of each of the 256 characters. -/
def changes (sources targets : Octets) : Array Char :=
  let last := targets.getLast?.getD ' '
  (sources.zipIdx.foldl (fun (table : Array Char) (c, i) =>
    table.setIfInBounds c.toNat ((targets[i]?).getD last))
    ((List.range 256).map Char.ofNat).toArray)

/-- A table of the characters in a set. -/
def membership (t : Octets) : Array Bool :=
  t.foldl (fun table c => table.setIfInBounds c.toNat true) (Array.replicate 256 false)

/-- Characters become others, disappear or do not repeat. -/
def tr : Utility := fun name arguments =>
  withOptions "+cCdst" [("complement", 'c'), ("delete", 'd'), ("squeeze-repeats", 's'),
      ("truncate-set1", 't')] name arguments 1 fun g => do
    let deletes := g.has 'd'
    let squeezes := g.has 's'
    match g.operands with
    | [] => misuse name (lit "missing operand") 1
    | first :: rest =>
      let wants := if deletes == squeezes then 2 else 1
      if rest.isEmpty && wants = 2 then
        blame name (lit "missing operand after '" ++ first ++ ['\''])
        let _ ← write 2 (if deletes && squeezes then
            lit "Two strings must be given when both deleting and squeezing repeats.\n"
          else lit "Two strings must be given when translating.\n")
        return ← misuse name [] 1
      match rest.drop (if deletes && !squeezes then 0 else 1) with
      | extra :: _ =>
        blame name (lit "extra operand '" ++ extra ++ ['\''])
        if deletes && !squeezes then
          let _ ← write 2 (lit "Only one string may be given when deleting without squeezing repeats.\n")
        return ← misuse name [] 1
      | [] =>
      match setItems (first.length + 1) first, setItems ((rest.headD []).length + 1) (rest.headD []) with
      | .error words, _ => blame name words; return 1
      | _, .error words => blame name words; return 1
      | .ok items, .ok others =>
        let complement := g.has 'c' || g.has 'C'
        let plain := setChars 0 items
        let sources := if complement then
            ((List.range 256).map Char.ofNat).filter fun c => !plain.contains c
          else plain
        let input := (← readAll 0).getD []
        let inSources := membership sources
        let isSource (c : Char) : Bool := inSources[c.toNat]?.getD false
        if deletes then
          let kept := input.filter fun c => !isSource c
          if squeezes then
            let inTargets := membership (setChars 256 others)
            say (squeeze (fun c => inTargets[c.toNat]?.getD false) kept)
          else say kept
          return 0
        else if rest.isEmpty then
          say (squeeze isSource input)
          return 0
        else
          let targets := setChars sources.length others
          if targets.isEmpty && !g.has 't' then
            blame name (lit "when not truncating set1, string2 must be non-empty")
            return 1
          let sources := if g.has 't' then sources.take targets.length else sources
          let table := changes sources targets
          let changed := input.map fun c => (table[c.toNat]?).getD c
          if squeezes then
            let inTargets := membership targets
            say (squeeze (fun c => inTargets[c.toNat]?.getD false) changed)
          else say changed
          return 0

/-! ## Columns and fields -/

/-- A list of positions, as ranges with their ends. The mistake is in words for fields or
for bytes. -/
def ranges (fields : Bool) (t : Octets) : Except Octets (List (Nat × Option Nat)) :=
  (Text.splitOn ',' (t.map fun c => if c = ' ' ∨ c = '\t' then ',' else c)).mapM fun part => do
    let invalid : Except Octets (Nat × Option Nat) :=
      .error (if fields then lit "invalid field value '" ++ part ++ ['\'']
        else lit "invalid byte/character position '" ++ part ++ ['\''])
    let zero : Octets := if fields then lit "fields are numbered from 1"
      else lit "byte/character positions are numbered from 1"
    match Text.splitAt? '-' part with
    | none =>
      if part = [] then .error zero
      else
        match natural? part with
        | some 0 => .error zero
        | some n => return (n, some n)
        | none => invalid
    | some (a, b) =>
      if a = [] ∧ b = [] then .error (lit "invalid range with no endpoint: -")
      else
        match if a = [] then some 1 else natural? a, if b = [] then some none else (natural? b).map some with
        | some 0, _ => .error zero
        | some low, some high =>
          if high.any (· < low) then .error (lit "invalid decreasing range") else return (low, high)
        | _, _ => invalid

/-- A position is in one of the ranges. -/
def inRanges (ranges : List (Nat × Option Nat)) (n : Nat) : Bool :=
  ranges.any fun (low, high) => low ≤ n && high.all fun h => n ≤ h

/-- Columns or fields of lines. -/
def cut : Utility := fun name arguments =>
  withOptions "b:c:f:d:snoO:z" [("bytes", 'b'), ("characters", 'c'), ("fields", 'f'),
      ("delimiter", 'd'), ("only-delimited", 's'), ("complement", 'o'), ("output-delimiter", 'O'),
      ("zero-terminated", 'z')] name arguments 1 fun g => do
    let lists := g.options.filter fun o => o.1 = 'b' || o.1 = 'c' || o.1 = 'f'
    let mark := markOf g
    match lists with
    | [] => misuse name (lit "you must specify a list of bytes, characters, or fields") 1
    | _ :: _ :: _ => misuse name (lit "only one list may be specified") 1
    | [(letter, list)] =>
      let fields := letter = 'f'
      if !fields && g.has 'd' then
        return ← misuse name (lit "an input delimiter may be specified only when operating on fields") 1
      if !fields && g.has 's' then
        return ← misuse name (lit "suppressing non-delimited lines makes sense\n\tonly when operating on fields") 1
      if (g.value? 'd').any (1 < ·.length) then
        return ← misuse name (lit "the delimiter must be a single character") 1
      match ranges fields list with
      | .error words => misuse name words 1
      | .ok ranges =>
        let wanted (n : Nat) : Bool := inRanges ranges n != g.has 'o'
        let separator := ((g.value? 'd').getD ['\t']).headD '\x00'
        let between := (g.value? 'O').getD [separator]
        throughFiles name g.operands 1 atFile fun _ content =>
          say ((linesWith mark content).flatMap fun full =>
            let line := chompWith mark full
            if fields then
              if line.contains separator then
                Text.joinWith between ((((Text.splitOn separator line).zipIdx 1).filter
                  fun (_, n) => wanted n).map (·.1)) ++ [mark]
              else if g.has 's' then []
              else line ++ [mark]
            else if g.has 'O' then
              let chosen := (line.zipIdx 1).filter fun (_, n) => wanted n
              let (t, _) := chosen.foldl (fun (t, last) (c, n) =>
                (if t.isEmpty || last + 1 = n then t ++ [c] else t ++ between ++ [c], n)) (([] : Octets), 0)
              t ++ [mark]
            else ((line.zipIdx 1).filter fun (_, n) => wanted n).map (·.1) ++ [mark])

/-! ## Words -/

/-- The arguments with blanks between them. Escapes count only if an option says so. -/
def echo : Utility := fun _ arguments => do
  let isOption (a : Octets) : Bool :=
    a.head? == some '-' && a.length > 1 && a.tail.all fun c => c == 'n' || c == 'e' || c == 'E'
  let options := (arguments.takeWhile isOption).flatMap List.tail
  let texts := Text.joinWith [' '] (arguments.dropWhile isOption)
  let escapes := (options.reverse.find? fun c => c != 'n') == some 'e'
  let (t, goesOn) := if escapes then echoed texts else (texts, true)
  say (t ++ if goesOn && !options.contains 'n' then ['\n'] else [])
  return 0

/-- A format with its arguments. -/
def printf : Utility := fun name arguments => do
  match arguments with
  | [] => misuse name (lit "missing operand") 1
  | format :: rest =>
    let p := Printout.of format rest
    p.remarks.forM (blame name)
    say p.output
    match p.refusal with
    | some words => blame name words; return 1
    | none => return if p.remarks.isEmpty then 0 else 1

end Equate.Shell.Utility
