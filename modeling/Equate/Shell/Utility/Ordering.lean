import Equate.Shell.Printed
import Equate.Shell.Utility.Lines

/-!
# Programs that order lines and compare ordered ones
-/
namespace Equate.Shell.Utility

/-! ## Keys -/

/-- What counts when two keys are compared. -/
inductive KeyKind where
  | text
  | number
  | general
  | human
  | month
  | version
  deriving DecidableEq

/-- How two keys are compared. -/
structure Order where
  kind : KeyKind
  folded : Bool
  dictionary : Bool
  printable : Bool
  reversed : Bool
  /-- Blanks at the start do not count. -/
  startBlanks : Bool
  /-- Blanks in front of the last character do not count. -/
  endBlanks : Bool

/-- The usual order. -/
def Order.usual : Order := ⟨.text, false, false, false, false, false, false⟩

/-- An order with a letter more. Letters of a key say at which of its ends blanks count. -/
def Order.add (o : Order) (atStart atEnd : Bool) : Char → Option Order
  | 'b' => some { o with startBlanks := o.startBlanks || atStart, endBlanks := o.endBlanks || atEnd }
  | 'd' => some { o with dictionary := true }
  | 'f' => some { o with folded := true }
  | 'g' => some { o with kind := .general }
  | 'h' => some { o with kind := .human }
  | 'i' => some { o with printable := true }
  | 'M' => some { o with kind := .month }
  | 'n' => some { o with kind := .number }
  | 'r' => some { o with reversed := true }
  | 'R' => some o
  | 'V' => some { o with kind := .version }
  | _ => none

/-- A blank between fields. -/
def isGap (c : Char) : Bool := c == ' ' || c == '\t' || c == '\n'

/-- The number in front of a text: its sign, its digits, and how many of them are behind
the point. -/
def leadingNumber (t : Octets) : Int × Nat :=
  let (negative, digits) := match t.dropWhile isGap with
    | '-' :: rest => (true, rest)
    | rest => (false, rest)
  let whole := digits.takeWhile Char.isDigit
  let fraction := match digits.drop whole.length with
    | '.' :: rest => rest.takeWhile Char.isDigit
    | _ => []
  let n : Int := Text.digitsValue (whole ++ fraction)
  (if negative then -n else n, fraction.length)

/-- Two numbers with places behind the point are compared. -/
def compareNumbers (a b : Int × Nat) : Ordering :=
  compare (a.1 * (Nat.pow 10 b.2 : Nat)) (b.1 * (Nat.pow 10 a.2 : Nat))

/-- The size that a letter behind a number says. -/
def unitOf (t : Octets) : Int :=
  let t := t.dropWhile isGap
  let (negative, digits) := match t with
    | '-' :: rest => (true, rest)
    | rest => (false, rest)
  let behind := digits.dropWhile fun c => c.isDigit || c == '.'
  let isZero := (digits.takeWhile fun c => c.isDigit || c == '.').all fun c => c == '0' || c == '.'
  let n : Int := match behind.head? with
    | some 'K' => 1
    | some 'k' => 1
    | some 'M' => 2
    | some 'G' => 3
    | some 'T' => 4
    | some 'P' => 5
    | some 'E' => 6
    | some 'Z' => 7
    | some 'Y' => 8
    | _ => 0
  if isZero then 0 else if negative then -n else n

/-- The month that a text begins with. -/
def monthOf (t : Octets) : Nat :=
  let name := ((t.dropWhile isGap).take 3).map Char.toUpper
  match ["JAN", "FEB", "MAR", "APR", "MAY", "JUN", "JUL", "AUG", "SEP", "OCT", "NOV",
      "DEC"].findIdx? fun m => m.toList = name with
  | some n => n + 1
  | none => 0

/-- A rank of numbers written in any way: no number, undefined, or a value. -/
def generalOf (t : Octets) : Nat × Float :=
  let body := t.dropWhile isGap
  let (x, behind) := floatAtFront body
  if behind.length = body.length then (0, 0)
  else if x.isNaN then (1, 0)
  else (2, x)

/-- The rank of a character in a version. -/
def versionRank (c : Char) : Int :=
  if c.isDigit then 0 else if c.isAlpha then c.toNat else if c = '~' then -1 else c.toNat + 256

/-- Two versions are compared: runs of other characters by rank, numbers by value. -/
def compareVersions : Nat → Octets → Octets → Ordering
  | 0, _, _ => .eq
  | fuel + 1, a, b =>
    if a.isEmpty ∧ b.isEmpty then .eq
    else
      let rank (t : Octets) : Int := (t.head?.map versionRank).getD 0
      let isOther (t : Octets) : Bool := t.head?.any fun c => !c.isDigit
      if isOther a ∨ isOther b then
        if rank a < rank b then .lt
        else if rank b < rank a then .gt
        else compareVersions fuel (if isOther a then a.drop 1 else a) (if isOther b then b.drop 1 else b)
      else
        let x := a.takeWhile Char.isDigit
        let y := b.takeWhile Char.isDigit
        match compare (Text.digitsValue x) (Text.digitsValue y) with
        | .eq => compareVersions fuel (a.drop x.length) (b.drop y.length)
        | result => result

/-- Two texts are compared by their bytes. -/
def compareOctets (a b : Octets) : Ordering :=
  if a = b then .eq else if isBefore a b then .lt else .gt

/-- Two keys are compared. -/
def Order.compareKeys (o : Order) (a b : Octets) : Ordering :=
  let shown (t : Octets) : Octets :=
    let t := if o.dictionary then t.filter fun c => c.isAlphanum || c == ' ' || c == '\t' else t
    let t := if o.printable then t.filter fun c => ' ' ≤ c && c ≤ '~' else t
    if o.folded then t.map Char.toUpper else t
  let result := match o.kind with
    | .text => compareOctets (shown a) (shown b)
    | .number => compareNumbers (leadingNumber a) (leadingNumber b)
    | .human =>
      match compare (unitOf a) (unitOf b) with
      | .eq => compareNumbers (leadingNumber a) (leadingNumber b)
      | r => r
    | .month => compare (monthOf a) (monthOf b)
    | .version =>
      compareVersions (2 * (a.length + b.length) + 2) a b
    | .general =>
      let (x, y) := (generalOf a, generalOf b)
      match compare x.1 y.1 with
      | .eq => if x.2 < y.2 then .lt else if y.2 < x.2 then .gt else .eq
      | r => r
  if o.reversed then result.swap else result

/-- A key: where it starts, where it ends, and how it is compared. Fields and characters
are counted from zero; a last character of zero is the end of the field. -/
structure SortKey where
  field : Nat
  char : Nat
  last : Option (Nat × Nat)
  order : Order

/-- The text behind so many fields. -/
def behindFields (mark : Option Char) : Nat → Octets → Octets
  | 0, t => t
  | n + 1, t =>
    match mark with
    | some c => behindFields mark n ((t.dropWhile (· ≠ c)).drop 1)
    | none => behindFields mark n ((t.dropWhile isGap).dropWhile fun c => !isGap c)

/-- The text behind so many fields, without the mark behind the last of them. -/
def endOfFields (mark : Option Char) (keepMark : Bool) : Nat → Octets → Octets
  | 0, t => t
  | n + 1, t =>
    match mark with
    | some c =>
      let rest := t.dropWhile (· ≠ c)
      endOfFields mark keepMark n (if n = 0 ∧ ¬ keepMark then rest else rest.drop 1)
    | none => endOfFields mark keepMark n ((t.dropWhile isGap).dropWhile fun c => !isGap c)

/-- The part of a line that a key is. -/
def SortKey.part (k : SortKey) (mark : Option Char) (line : Octets) : Octets :=
  let start := behindFields mark k.field line
  let start := if k.order.startBlanks then start.dropWhile isGap else start
  let start := start.drop k.char
  match k.last with
  | none => start
  | some (field, char) =>
    let rest := if char = 0 then endOfFields mark false (field + 1) line
      else
        let t := endOfFields mark true field line
        let t := if k.order.endBlanks then t.dropWhile isGap else t
        t.drop char
    start.take (start.length - rest.length)

/-- A key as it is written, or what is wrong with it. -/
def sortKey (common : Order) (t : Octets) : Except Octets SortKey := do
  let number (t : Octets) : Option (Nat × Octets) :=
    let digits := t.takeWhile Char.isDigit
    if digits = [] then none else some (Text.digitsValue digits, t.drop digits.length)
  let letters (o : Order) (atStart atEnd : Bool) (t : Octets) : Order × Octets :=
    t.foldl (fun (o, rest) c =>
      if rest.isEmpty then
        match o.add atStart atEnd c with
        | some o => (o, [])
        | none => (o, [c])
      else (o, rest ++ [c])) (o, ([] : Octets))
  let stray : Except Octets SortKey :=
    .error (lit "stray character in field spec: invalid field specification '" ++ t ++ ['\''])
  match number t with
  | none => .error (lit "invalid number at field start: invalid count at start of '" ++ t ++ ['\''])
  | some (0, _) => .error (lit "-: invalid field specification '" ++ t ++ ['\''])
  | some (field, rest) =>
    let (char, rest) ← match rest with
      | '.' :: rest =>
        match number rest with
        | none => .error (lit "invalid number after '.': invalid count at start of '" ++ rest ++ ['\''])
        | some (0, _) =>
          .error (lit "character offset is zero: invalid field specification '" ++ t ++ ['\''])
        | some (c, rest) => .ok (c - 1, rest)
      | rest => .ok (0, rest)
    let front := rest.takeWhile (· ≠ ',')
    let (order, left) := letters Order.usual true false front
    if !left.isEmpty then stray
    else
      let inherits (o : Order) (plain : Bool) : Order := if plain then common else o
      match rest.drop front.length with
      | [] => return ⟨field - 1, char, none, inherits order front.isEmpty⟩
      | _ :: behind =>
        match number behind with
        | none => .error (lit "invalid number after ',': invalid count at start of '" ++ behind ++ ['\''])
        | some (0, _) => .error (lit "field number is zero: invalid field specification '" ++ t ++ ['\''])
        | some (last, behind) =>
          let (lastChar, behind) := match behind with
            | '.' :: more => (number more).getD (0, more)
            | more => (0, more)
          let (order, left) := letters order false true behind
          if !left.isEmpty then stray
          else return ⟨field - 1, char, some (last - 1, lastChar),
            inherits order (front.isEmpty && behind.isEmpty)⟩

/-- The words for the options of `sort`. -/
def sortWords : List (String × Char) :=
  [("ignore-leading-blanks", 'b'), ("dictionary-order", 'd'), ("ignore-case", 'f'),
    ("general-numeric-sort", 'g'), ("ignore-nonprinting", 'i'), ("month-sort", 'M'),
    ("human-numeric-sort", 'h'), ("numeric-sort", 'n'), ("random-sort", 'R'), ("reverse", 'r'),
    ("sort", 'σ'), ("version-sort", 'V'), ("check", 'c'), ("key", 'k'), ("merge", 'm'),
    ("output", 'o'), ("stable", 's'), ("buffer-size", 'S'), ("field-separator", 't'),
    ("temporary-directory", 'T'), ("parallel", 'π'), ("unique", 'u'), ("zero-terminated", 'z')]

/-- Lines in order. -/
def sort : Utility := fun name arguments =>
  withOptions "bdfghiMnRrVσ:c::Ck:mo:sS:t:T:π:uz" sortWords name
      (arguments.map fun a => if a = ['-', 'c'] then lit "-c" else a) 2 fun g => do
    let letters := g.options.flatMap fun (letter, value) =>
      if letter = 'σ' then
        match String.ofList value with
        | "general-numeric" => ['g']
        | "human-numeric" => ['h']
        | "month" => ['M']
        | "numeric" => ['n']
        | "version" => ['V']
        | _ => []
      else [letter]
    let common := letters.foldl (fun o c => (o.add true true c).getD o) Order.usual
    match (g.values 'k').mapM (sortKey common) with
    | .error words => blame name words; return 2
    | .ok keys =>
    let mark? := (g.value? 't').map fun t => if t = ['\\', '0'] then ['\x00'] else t
    match mark? with
    | some [] => blame name (lit "empty tab"); return 2
    | some (a :: b :: rest) =>
      blame name (lit "multi-character tab '" ++ a :: b :: rest ++ ['\'']); return 2
    | _ =>
    let mark := mark?.bind List.head?
    let ending := markOf g
    let keys := if keys.isEmpty then [(⟨0, 0, none, common⟩ : SortKey)] else keys
    let parts (line : Octets) : List Octets := keys.map fun k => k.part mark line
    let byKeys (a b : List Octets) : Ordering :=
      (List.zip keys (List.zip a b)).foldl (fun result (k, x, y) =>
        if result = .eq then k.order.compareKeys x y else result) .eq
    let full (a b : List Octets × Octets) : Ordering :=
      match byKeys a.1 b.1 with
      | .eq =>
        if g.has 'u' || g.has 's' then .eq
        else if common.reversed then (compareOctets a.2 b.2).swap
        else compareOctets a.2 b.2
      | r => r
    let paths := if g.operands.isEmpty then [['-']] else g.operands
    let (status, texts) ← paths.foldlM (fun (status, texts) path => do
      if status != 0 then return (status, texts)
      match ← contentOf path with
      | .ok content => return (status, (path, content) :: texts)
      | .error obstacle =>
        blame name (lit (if obstacle = .isDirectory then "read failed: " else "cannot read: ") ++
          atFile path obstacle)
        return (2, texts)) (0, ([] : List (Octets × Octets)))
    if status != 0 then return status
    let lines := texts.reverse.flatMap fun (_, t) =>
      ((linesWith ending t).map (chompWith ending)).map fun line => (parts line, line)
    if g.has 'c' || g.has 'C' then
      let bad := (List.zip (lines.zipIdx 1) (lines.drop 1)).find? fun ((a, _), b) =>
        match full a b with
        | .gt => true
        | .eq => g.has 'u'
        | .lt => false
      match bad with
      | none => return 0
      | some ((_, n), b) =>
        let quiet := g.has 'C' || (g.value? 'c').any fun v => v == lit "quiet" || v == lit "silent"
        if !quiet then
          blame name (paths.headD [] ++ [':'] ++ Text.decimal (n + 1) ++ lit ": disorder: " ++ b.2)
        return 1
    else
      let sorted := lines.mergeSort fun a b => full a b != .gt
      let sorted := if g.has 'u' then
          (sorted.foldl (fun kept line =>
            match kept with
            | last :: _ => if byKeys last.1 line.1 = .eq then kept else line :: kept
            | [] => [line]) ([] : List (List Octets × Octets))).reverse
        else sorted
      let t := sorted.flatMap fun line => line.2 ++ [ending]
      match g.value? 'o' with
      | none => say t; return 0
      | some path =>
        match (← files).create (decode path) (toBytes t) with
        | .ok files => setFiles files; return 0
        | .error obstacle =>
          blame name (lit "open failed: " ++ atFile path obstacle)
          return 2

/-! ## Ordered files -/

/-- Two contents, or a status. -/
def twoContents (name : Octets) (a b : Octets) : Act (Except Nat (Octets × Octets)) := do
  match ← contentOf a with
  | .error obstacle => blame name (atFile a obstacle); return .error 1
  | .ok x =>
    match ← contentOf b with
    | .error obstacle => blame name (atFile b obstacle); return .error 1
    | .ok y => return .ok (x, y)

/-- Two operands, or a misuse. -/
def twoOperands (name : Octets) (g : Given) (status : Nat) : Act (Except Nat (Octets × Octets)) := do
  match g.operands with
  | [] => return .error (← misuse name (lit "missing operand") status)
  | [a] => return .error (← misuse name (lit "missing operand after '" ++ a ++ ['\'']) status)
  | [a, b] => return .ok (a, b)
  | _ :: _ :: extra :: _ =>
    return .error (← misuse name (lit "extra operand '" ++ extra ++ ['\'']) status)

/-- In which of two files lines are. -/
inductive Side where
  | first
  | second
  | both
  deriving DecidableEq

/-- Ordered lines of two files, with where they are. -/
def sides : List Octets → List Octets → List (Side × Octets)
  | [], b => b.map fun line => (.second, line)
  | a, [] => a.map fun line => (.first, line)
  | x :: a, y :: b =>
    match compareOctets x y with
    | .eq => (.both, x) :: sides a b
    | .lt => (.first, x) :: sides a (y :: b)
    | .gt => (.second, y) :: sides (x :: a) b
termination_by a b => a.length + b.length

/-- Lines are in order. -/
def isOrdered (lines : List Octets) : Bool :=
  (List.zip lines (lines.drop 1)).all fun (a, b) => !isBefore b a

/-- What two ordered files have in common. -/
def comm : Utility := fun name arguments =>
  withOptions "123cnO:tz" [("check-order", 'c'), ("nocheck-order", 'n'), ("output-delimiter", 'O'),
      ("total", 't'), ("zero-terminated", 'z')] name arguments 1 fun g => do
    match ← twoOperands name g 1 with
    | .error status => return status
    | .ok (first, second) =>
      match ← twoContents name first second with
      | .error status => return status
      | .ok (a, b) =>
        let mark := markOf g
        let linesOf (t : Octets) : List Octets := (linesWith mark t).map (chompWith mark)
        let all := sides (linesOf a) (linesOf b)
        let gap := match g.value? 'O' with
          | some [] => ['\x00']
          | some t => t
          | none => ['\t']
        let indent (hidden : List Char) : Octets :=
          (hidden.filter fun c => !g.has c).flatMap fun _ => gap
        say (all.flatMap fun (side, line) =>
          match side with
          | .first => if g.has '1' then [] else line ++ [mark]
          | .second => if g.has '2' then [] else indent ['1'] ++ line ++ [mark]
          | .both => if g.has '3' then [] else indent ['1', '2'] ++ line ++ [mark])
        let count (side : Side) : Octets := Text.decimal (all.filter fun s => s.1 = side).length
        if g.has 't' then
          say (count .first ++ gap ++ count .second ++ gap ++ count .both ++ gap ++ lit "total" ++ [mark])
        let unpaired := all.any fun s => s.1 ≠ .both
        if (unpaired || g.has 'c') && !g.has 'n' then
          let bad := (if isOrdered (linesOf a) then [] else [1]) ++ (if isOrdered (linesOf b) then [] else [2])
          bad.forM fun n => blame name (lit "file " ++ Text.decimal n ++ lit " is not in sorted order")
          if !bad.isEmpty then
            if !g.has 'c' then blame name (lit "input is not in sorted order")
            return 1
        return 0

/-- The fields of a line, between blanks or marks. -/
def joinFields (mark : Option Char) (line : Octets) : List Octets :=
  match mark with
  | some c => Text.splitOn c line
  | none =>
    ((line.foldr (fun c (fields : List Octets) =>
      if c = ' ' ∨ c = '\t' then [] :: fields
      else
        match fields with
        | first :: rest => (c :: first) :: rest
        | [] => [[c]]) [[]])).filter (· ≠ [])

/-- How lines are joined. -/
structure Joining where
  mark : Option Char
  ending : Char
  fields : Nat × Nat
  folded : Bool
  /-- The fields of the output: of a file, or the common one. -/
  format : Option (List (Option (Bool × Nat)))
  filler : Octets
  unpaired : List Nat
  onlyUnpaired : Bool

/-- A row of joined lines; one of them may be missing. -/
def Joining.row (j : Joining) (a b : Option (List Octets)) : Octets :=
  let keyOf (n : Nat) (l : List Octets) : Octets := (l[n]?).getD []
  let key := match a, b with
    | some l, _ => keyOf j.fields.1 l
    | none, some l => keyOf j.fields.2 l
    | none, none => []
  let others (n : Nat) (l : Option (List Octets)) : List Octets :=
    ((l.getD []).zipIdx.filter fun (_, i) => i ≠ n).map (·.1)
  let filled (t : Octets) : Octets := if t = [] then j.filler else t
  let items := match j.format with
    | none => filled key :: (others j.fields.1 a ++ others j.fields.2 b).map filled
    | some format => format.map fun f => match f with
      | none => filled key
      | some (second, n) => filled ((((if second then b else a).getD [])[n]?).getD [])
  Text.joinWith [j.mark.getD ' '] items ++ [j.ending]

/-- Ordered lines of two files by their keys: those that belong to a key in both of them
are joined with each other. -/
def joined (j : Joining) : Nat → List (List Octets) → List (List Octets) → List Octets
  | 0, _, _ => []
  | fuel + 1, a, b =>
    let shown (t : Octets) : Octets := if j.folded then t.map Char.toLower else t
    let keyA (l : List Octets) : Octets := shown ((l[j.fields.1]?).getD [])
    let keyB (l : List Octets) : Octets := shown ((l[j.fields.2]?).getD [])
    let alone (n : Nat) (row : Octets) (rest : List Octets) : List Octets :=
      if j.unpaired.contains n then row :: rest else rest
    match a, b with
    | [], [] => []
    | x :: a, [] => alone 1 (j.row (some x) none) (joined j fuel a [])
    | [], y :: b => alone 2 (j.row none (some y)) (joined j fuel [] b)
    | x :: a, y :: b =>
      match compareOctets (keyA x) (keyB y) with
      | .lt => alone 1 (j.row (some x) none) (joined j fuel a (y :: b))
      | .gt => alone 2 (j.row none (some y)) (joined j fuel (x :: a) b)
      | .eq =>
        let sameA := (x :: a).takeWhile fun l => keyA l = keyA x
        let sameB := (y :: b).takeWhile fun l => keyB l = keyB y
        let rows := if j.onlyUnpaired then []
          else sameA.flatMap fun l => sameB.map fun m => j.row (some l) (some m)
        rows ++ joined j fuel ((x :: a).drop sameA.length) ((y :: b).drop sameB.length)

/-- The fields of the output as they are written. -/
def joinFormat? (t : Octets) : Option (List (Option (Bool × Nat))) :=
  ((Text.splitOn ',' (t.map fun c => if c = ' ' then ',' else c)).filter (· ≠ [])).mapM fun f =>
    match f with
    | ['0'] => some none
    | '1' :: '.' :: n => (natural? n).map fun n => some (false, n - 1)
    | '2' :: '.' :: n => (natural? n).map fun n => some (true, n - 1)
    | _ => none

/-- Lines of two ordered files with a common field. -/
def join : Utility := fun name arguments =>
  withOptions "a:e:i1:2:j:o:t:v:cnHz" [("ignore-case", 'i'), ("check-order", 'c'),
      ("nocheck-order", 'n'), ("header", 'H'), ("zero-terminated", 'z')] name arguments 1 fun g => do
    match ← twoOperands name g 1 with
    | .error status => return status
    | .ok (first, second) =>
      let field (letter : Char) : Nat := ((g.value? letter <|> g.value? 'j').bind natural?).getD 1 - 1
      let format ← match g.value? 'o' with
        | none => pure (some none)
        | some t => if t = lit "auto" then pure (some none) else pure ((joinFormat? t).map some)
      match format with
      | none =>
        blame name (lit "invalid field specifier: '" ++ (g.value? 'o').getD [] ++ ['\''])
        return 1
      | some format =>
      match ← twoContents name first second with
      | .error status => return status
      | .ok (a, b) =>
        let mark := (g.value? 't').bind List.head?
        let ending := markOf g
        let linesOf (t : Octets) : List (List Octets) :=
          ((linesWith ending t).map (chompWith ending)).map (joinFields mark)
        let j : Joining :=
          { mark, ending, fields := (field '1', field '2'), folded := g.has 'i', format
            filler := (g.value? 'e').getD []
            unpaired := (g.values 'a' ++ g.values 'v').filterMap natural?
            onlyUnpaired := g.has 'v' }
        let (x, y) := (linesOf a, linesOf b)
        let head := if g.has 'H' then
            match x, y with
            | h :: _, k :: _ => [j.row (some h) (some k)]
            | _, _ => []
          else []
        let (x, y) := if g.has 'H' then (x.drop 1, y.drop 1) else (x, y)
        say (head ++ joined j (x.length + y.length + 1) x y).flatten
        let keys (n : Nat) (lines : List (List Octets)) : List Octets := lines.map fun l => (l[n]?).getD []
        let disorder (path t : Octets) (n : Nat) (lines : List (List Octets)) : Act Bool := do
          let all := keys n lines
          match ((List.zip (all.zipIdx 1) (all.drop 1)).find? fun ((a, _), b) => isBefore b a) with
          | none => return false
          | some ((_, i), _) =>
            blame name (path ++ [':'] ++ Text.decimal (i + 1) ++ lit ": is not sorted: " ++
              ((plainLines t)[i]?).getD [])
            return true
        if g.has 'n' then return 0
        else
          let bad := (← disorder first a j.fields.1 x)
          let worse := (← disorder second b j.fields.2 y)
          if bad || worse then
            blame name (lit "input is not in sorted order")
            return 1
          else return 0

end Equate.Shell.Utility
