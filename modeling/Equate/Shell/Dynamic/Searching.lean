import Equate.Match.Notation
import Equate.Shell.Dynamic.Collection
import Equate.Text.DecimalDigit

/-!
# Regular expressions of scripts

Groups can have names and can be left out of the count, repetitions can take as little as
possible, and what surrounds a match can be asked for.
-/
namespace Equate.Shell.Dynamic

/-- What a regular expression is read with. -/
structure Reading where
  folded : Bool
  multiline : Bool
  dotAll : Bool
  verbose : Bool
  /-- How many groups have been opened. -/
  count : Nat
  names : List (Text × Nat)

namespace Reading

/-- A character of a word. -/
def isWord (c : Char) : Bool := Text.isWordCharacter c

/-- The class that a letter behind a backslash stands for. -/
def classOf? (c : Char) : Option (Char → Bool) :=
  match c with
  | 'd' => some fun d => Text.isDecimalDigit d
  | 'D' => some fun d => !Text.isDecimalDigit d
  | 'w' => some isWord
  | 'W' => some fun d => !isWord d
  | 's' => some isGap
  | 'S' => some fun d => !isGap d
  | _ => none

/-- A character behind a backslash, and what follows. -/
def escapedChar (c : Char) (rest : Text) : Char × Text :=
  let digits (n : Nat) : Char × Text :=
    let ds := rest.take n
    if ds.length = n ∧ ds.all fun d => (Json.hexValue? d).isSome then
      (Char.ofNat (ds.foldl (fun n d => n * 16 + (Json.hexValue? d).getD 0) 0), rest.drop n)
    else (c, rest)
  match c with
  | 'n' => ('\n', rest)
  | 't' => ('\t', rest)
  | 'r' => ('\r', rest)
  | 'f' => ('\x0c', rest)
  | 'v' => ('\x0b', rest)
  | 'a' => ('\x07', rest)
  | '0' => ('\x00', rest)
  | 'x' => digits 2
  | 'u' => digits 4
  | 'U' => digits 8
  | c => (c, rest)

/-- One member of a choice: a character, or a class. -/
def member : Text → Option ((Char ⊕ (Char → Bool)) × Text)
  | [] => none
  | '\\' :: c :: rest =>
    match classOf? c with
    | some accepts => some (.inr accepts, rest)
    | none =>
      if c = 'b' then some (.inl '\x08', rest)
      else
        let (d, rest) := escapedChar c rest
        some (.inl d, rest)
  | c :: rest => some (.inl c, rest)

/-- The members of a choice up to the bracket that closes it. -/
def choice : Nat → Bool → Text → Except Text ((Char → Bool) × Text)
  | 0, _, _ => .error "unterminated character set"
  | fuel + 1, first, t =>
    match t with
    | [] => .error "unterminated character set"
    | c :: rest =>
      if c = ']' ∧ !first then .ok (fun _ => false, rest)
      else
        match member (c :: rest) with
        | none => .error "unterminated character set"
        | some (.inr accepts, rest) => do
          let (more, rest) ← choice fuel false rest
          return (fun c => accepts c || more c, rest)
        | some (.inl a, rest) =>
          match rest with
          | '-' :: d :: behind =>
            if d = ']' then do
              let (more, rest) ← choice fuel false rest
              return (fun c => c == a || more c, rest)
            else
              match member (d :: behind) with
              | some (.inl b, rest) =>
                if b < a then
                  .error ("bad character range " ++ [a, '-', b])
                else do
                  let (more, rest) ← choice fuel false rest
                  return (fun c => (a ≤ c && c ≤ b) || more c, rest)
              | _ => .error "bad character range"
          | rest => do
            let (more, rest) ← choice fuel false rest
            return (fun c => c == a || more c, rest)

/-- How often something is repeated, and what follows. -/
def repetition? (t : Text) : Option (Nat × Option Nat × Text) :=
  match t with
  | '*' :: rest => some (0, none, rest)
  | '+' :: rest => some (1, none, rest)
  | '?' :: rest => some (0, some 1, rest)
  | '\x7b' :: rest =>
    let low := rest.takeWhile Char.isDigit
    match rest.drop low.length with
    | '\x7d' :: behind =>
      if low = [] then none else some (Text.digitsValue low, some (Text.digitsValue low), behind)
    | ',' :: behind =>
      let high := behind.takeWhile Char.isDigit
      match behind.drop high.length with
      | '\x7d' :: rest =>
        some (Text.digitsValue low, if high = [] then none else some (Text.digitsValue high), rest)
      | _ => none
    | _ => none
  | _ => none

/-- Reading a regular expression. -/
abbrev Reader := StateT (Reading × Text) (Except Text)

/-- The expression is refused. -/
def refuse {α : Type} (words : Text) : Reader α := fun _ => .error words

/-- What is left. -/
def left : Reader Text := return (← get).2

/-- So much is left. -/
def setLeft (t : Text) : Reader Unit := modify fun s => (s.1, t)

/-- A change of what is known. -/
def learn (f : Reading → Reading) : Reader Unit := modify fun s => (f s.1, s.2)

/-- Signs for flags. -/
def setFlag (c : Char) : Reader Unit := learn fun r =>
  match c with
  | 'i' => { r with folded := true }
  | 'm' => { r with multiline := true }
  | 's' => { r with dotAll := true }
  | 'x' => { r with verbose := true }
  | _ => r

/-- A group behind its bracket, by a way to read alternatives. -/
def group (alternatives : Reader Match) : Reader Match := do
  let inner : Reader Match := do
    let e ← alternatives
    match ← left with
    | ')' :: rest => setLeft rest; return e
    | _ => refuse "missing ), unterminated subpattern"
  let counted (name : Option Text) : Reader Match := do
    let n := (← get).1.count + 1
    learn fun r => { r with count := n, names := r.names ++ (name.map fun m => (m, n)).toList }
    return .group n (← inner)
  match ← left with
  | '?' :: ':' :: rest => setLeft rest; inner
  | '?' :: '=' :: rest => setLeft rest; return .ahead false (← inner)
  | '?' :: '!' :: rest => setLeft rest; return .ahead true (← inner)
  | '?' :: '<' :: '=' :: rest => setLeft rest; return .before false (← inner)
  | '?' :: '<' :: '!' :: rest => setLeft rest; return .before true (← inner)
  | '?' :: 'P' :: '<' :: rest =>
    match Text.splitAt? '>' rest with
    | some (name, rest) => setLeft rest; counted (some name)
    | none => refuse "missing >, unterminated name"
  | '?' :: 'P' :: '=' :: rest =>
    match Text.splitAt? ')' rest with
    | some (name, rest) =>
      setLeft rest
      match (← get).1.names.lookup name with
      | some n => return .again n
      | none => refuse ("unknown group name '" ++ name ++ ['\''])
    | none => refuse "missing ), unterminated name"
  | '?' :: '#' :: rest =>
    setLeft ((rest.dropWhile (· ≠ ')')).drop 1)
    return .empty
  | '?' :: rest =>
    let flags := rest.takeWhile Char.isAlpha
    match rest.drop flags.length with
    | ')' :: rest =>
      flags.forM setFlag
      setLeft rest
      return .empty
    | ':' :: rest =>
      flags.forM setFlag
      setLeft rest
      inner
    | _ => refuse "unknown extension"
  | _ => counted none

/-- One thing that can be repeated, by a way to read alternatives. -/
def atom (alternatives : Reader Match) : Reader Match := do
  let r := (← get).1
  match ← left with
  | [] => return .empty
  | '(' :: rest => setLeft rest; group alternatives
  | '[' :: '^' :: rest =>
    match choice (rest.length + 1) true rest with
    | .ok (accepts, rest) => setLeft rest; return .among true accepts
    | .error words => refuse words
  | '[' :: rest =>
    match choice (rest.length + 1) true rest with
    | .ok (accepts, rest) => setLeft rest; return .among false accepts
    | .error words => refuse words
  | '.' :: rest =>
    setLeft rest
    return .among true (if r.dotAll then fun _ => false else fun c => c == '\n')
  | '^' :: rest => setLeft rest; return .edge (if r.multiline then .lineStart else .start)
  | '$' :: rest => setLeft rest; return .edge (if r.multiline then .lineFinish else .lastLine)
  | '\\' :: c :: rest =>
    setLeft rest
    match c with
    | 'b' => return .edge .word
    | 'B' => return .edge .noWord
    | 'A' => return .edge .start
    | 'Z' => return .edge .finish
    | c =>
      match classOf? c with
      | some accepts => return .among false accepts
      | none =>
        if c.isDigit ∧ c ≠ '0' then
          let more := rest.take 1 |>.takeWhile Char.isDigit
          let n := Text.digitsValue (c :: more)
          setLeft (rest.drop more.length)
          if n ≤ r.count then return .again n
          else refuse ("invalid group reference " ++ Text.decimal n)
        else if c.isAlpha ∧ !(['n', 't', 'r', 'f', 'v', 'a', 'x', 'u', 'U'].contains c) then
          refuse ("bad escape " ++ ['\\', c])
        else
          let (d, rest) := escapedChar c rest
          setLeft rest
          return .this d
  | '\\' :: [] => refuse "bad escape (end of pattern)"
  | c :: rest =>
    if (repetition? (c :: rest)).isSome then refuse "nothing to repeat"
    else
      setLeft rest
      return .this c

/-- Things that follow each other. -/
def branch (alternatives : Reader Match) : Nat → Reader Match
  | 0 => return .empty
  | n + 1 => do
    let t ← left
    let t := if (← get).1.verbose then
        let t := t.dropWhile isGap
        if t.head? = some '#' then t.dropWhile (· ≠ '\n') else t
      else t
    setLeft t
    match t with
    | [] => return .empty
    | '|' :: _ => return .empty
    | ')' :: _ => return .empty
    | c :: _ =>
      if (← get).1.verbose && (isGap c || c == '#') then branch alternatives n
      else
        let e ← atom alternatives
        let rec repeats : Nat → Match → Reader Match
          | 0, e => return e
          | k + 1, e => do
            match repetition? (← left) with
            | none => return e
            | some (least, most, rest) =>
              match rest with
              | '?' :: rest => setLeft rest; repeats k (.repeated e least most false)
              | '+' :: rest => setLeft rest; repeats k (.repeated e least most true)
              | rest =>
                setLeft rest
                if (repetition? rest).isSome then refuse "multiple repeat"
                return .repeated e least most true
        let e ← repeats 2 e
        return .sequence e (← branch alternatives n)

/-- Alternatives, so deep at most. -/
def alternatives : Nat → Reader Match
  | 0 => refuse "too deep"
  | n + 1 => do
    let size := (← left).length + 1
    let first ← branch (alternatives n) size
    let rec more : Nat → Reader (List Match)
      | 0 => return []
      | k + 1 => do
        match ← left with
        | '|' :: rest =>
          setLeft rest
          let e ← branch (alternatives n) size
          return e :: (← more k)
        | _ => return []
    let others ← more size
    match others.reverse with
    | [] => return first
    | last :: before => return .either first (before.foldl (fun e a => .either a e) last)

end Reading

/-- The flags of regular expressions, by their letters. -/
def searchFlags : List (Int × Char) := [(2, 'i'), (8, 'm'), (16, 's'), (64, 'x')]

/-- A regular expression as it is written. -/
def searchingOf (t : Text) (flags : Int) : Except Text Searching := do
  let start : Reading.Reader Match := do
    (searchFlags.filter fun (n, _) => (flags / n) % 2 = 1).forM fun (_, c) => Reading.setFlag c
    let e ← Reading.alternatives 100
    match ← Reading.left with
    | [] => return e
    | _ => Reading.refuse "unbalanced parenthesis"
  let (e, r, _) ← start.run (⟨false, false, false, false, 0, []⟩, t)
  return ⟨t, e, r.folded, r.names, r.count⟩

/-- The text as it is searched by an expression. -/
def Searching.subject (p : Searching) (text : Array Char) : Match.Subject :=
  ⟨text, p.folded, Text.isWordCharacter⟩

/-- The match at a position. -/
def Searching.matchAt? (p : Searching) (text : Array Char) (whole : Bool) (i : Nat) : Option Match.Found :=
  let e := if whole then Match.sequence p.expression (.edge .finish) else p.expression
  (e.matchAt? (p.subject text) false i).map fun spot => ⟨i, spot.position, spot.groups⟩

/-- All matches from a position on. An empty one may stand right behind another one that is not
empty. -/
def Searching.matches (p : Searching) (text : Array Char) : Nat → (i : Nat) → (emptyAt : Option Nat) →
    List Match.Found
  | 0, _, _ => []
  | n + 1, i, emptyAt =>
    if text.size < i then []
    else
      match p.expression.search? (p.subject text) false i with
      | none => []
      | some f =>
        if f.last = f.first then
          if emptyAt = some f.first then p.matches text n (i + 1) none
          else f :: p.matches text n (f.first) (some f.first)
        else f :: p.matches text n f.last none

/-- All matches. -/
def Searching.all (p : Searching) (text : Array Char) : List Match.Found :=
  let found := p.matches text (2 * text.size + 4) 0 none
  found

/-- The text of a group. -/
def groupText (text : Array Char) (f : Match.Found) (n : Nat) : Option Text :=
  if n = 0 then some (text.extract f.first f.last).toList
  else (f.groups.lookup n).map fun (a, b) => (text.extract a b).toList

/-- A text in place of a match, with groups in it. -/
def expandTemplate (p : Searching) (text : Array Char) (f : Match.Found) : Nat → Text → Except Text Text
  | 0, t => .ok t
  | _, [] => .ok []
  | fuel + 1, '\\' :: c :: rest => do
    if c = 'g' ∧ rest.head? = some '<' then
      match Text.splitAt? '>' rest.tail with
      | some (name, rest) =>
        let n := (natural? name).or (p.names.lookup name)
        match n with
        | some n => return (groupText text f n).getD [] ++ (← expandTemplate p text f fuel rest)
        | none => .error ("unknown group name '" ++ name ++ ['\''])
      | none => .error "missing >, unterminated name"
    else if c.isDigit ∧ c ≠ '0' then
      let more := (rest.take 1).takeWhile Char.isDigit
      let n := Text.digitsValue (c :: more)
      if p.count < n then .error ("invalid group reference " ++ Text.decimal n)
      else return (groupText text f n).getD [] ++ (← expandTemplate p text f fuel (rest.drop more.length))
    else if c = 'n' ∨ c = 't' ∨ c = 'r' ∨ c = 'f' ∨ c = 'v' ∨ c = 'a' ∨ c = '0' then
      return (Reading.escapedChar c []).1 :: (← expandTemplate p text f fuel rest)
    else if c = '\\' then return '\\' :: (← expandTemplate p text f fuel rest)
    else if c.isAlpha then .error ("bad escape " ++ ['\\', c])
    else return '\\' :: c :: (← expandTemplate p text f fuel rest)
  | fuel + 1, c :: rest => do return c :: (← expandTemplate p text f fuel rest)

/-- The functions on regular expressions, as methods of them. -/
def patternMethods : List String :=
  ["match", "search", "fullmatch", "findall", "finditer", "sub", "subn", "split"]

/-- The methods of matches. -/
def foundMethods : List String := ["group", "groups", "groupdict", "start", "end", "span", "expand"]

/-- A mistake in a regular expression. -/
def refuseSearch {α : Type} (words : Text) : Running α := fail "re.error" words

/-- A regular expression as a value. -/
def compileSearch (v : Value) (flags : Int) : Running Searching := do
  match v with
  | .text t =>
    match searchingOf t flags with
    | .ok p => return p
    | .error words => refuseSearch words
  | .bytes t =>
    match searchingOf t flags with
    | .ok p => return p
    | .error words => refuseSearch words
  | v =>
    match ← objectOf? v with
    | some (.pattern p) => return p
    | _ => typeError "first argument must be string or compiled pattern"

/-- A function on a regular expression. -/
def patternMethod (w : Ways) (name : String) (p : Searching) (g : Given) : Running Value := do
  let textAt (i : Nat) (key : String) : Running (Text × Bool) := do
    match ← coreOf (← g.required name i key) with
    | .text t => return (t, false)
    | .bytes t => return (t, true)
    | v => typeError ("expected string or bytes-like object, got '" ++ (← typeName v).toList ++ ['\''])
  let found (text : Array Char) (f : Option Match.Found) : Running Value := do
    match f with
    | some f => make (.found p text f)
    | none => return .none
  let number (i : Nat) (key : String) : Running Nat := do
    match g.at? i key with
    | some v => return (← wholeNumber w v).toNat
    | none => return 0
  let start : Running Nat := number 1 "pos"
  let wrap (bytes : Bool) (t : Text) : Value := if bytes then .bytes t else .text t
  match name with
  | "match" =>
    let text := (← textAt 0 "string").1.toArray
    found text (p.matchAt? text false (← start))
  | "fullmatch" =>
    let text := (← textAt 0 "string").1.toArray
    found text (p.matchAt? text true (← start))
  | "search" =>
    let text := (← textAt 0 "string").1.toArray
    found text (p.expression.search? (p.subject text) false (← start))
  | "findall" =>
    let (t, bytes) ← textAt 0 "string"
    let text := t.toArray
    makeList ((p.all text).map fun f =>
      let group (n : Nat) : Value := wrap bytes ((groupText text f n).getD [])
      if p.count = 0 then group 0
      else if p.count = 1 then group 1
      else .tuple ((List.range p.count).map fun n => group (n + 1)))
  | "finditer" =>
    let text := (← textAt 0 "string").1.toArray
    let all ← (p.all text).mapM fun f => make (.found p text f)
    makeIterator (.values all)
  | "split" =>
    let (t, bytes) ← textAt 0 "string"
    let text := t.toArray
    let cuts ← number 1 "maxsplit"
    let all := p.all text
    let all := if cuts = 0 then all else all.take cuts
    let (parts, last) := all.foldl (fun (parts, at_) f =>
      let groups := (List.range p.count).map fun n => ((groupText text f (n + 1)).map (wrap bytes)).getD .none
      (parts ++ wrap bytes (text.extract at_ f.first).toList :: groups, f.last)) ([], 0)
    makeList (parts ++ [wrap bytes (text.extract last text.size).toList])
  | name =>
    let replacement ← g.required name 0 "repl"
    let (t, bytes) ← textAt 1 "string"
    let text := t.toArray
    let count ← number 2 "count"
    let all := p.all text
    let all := if count = 0 then all else all.take count
    let parts ← all.mapM fun f => do
      match letters? replacement with
      | some template =>
        match expandTemplate p text f (template.length + 1) template with
        | .ok t => return t
        | .error words => refuseSearch words
      | none =>
        match letters? (← w.call replacement [← make (.found p text f)] []) with
        | some t => return t
        | none => return []
    let (shown, last) := (all.zip parts).foldl (fun (shown, at_) (f, part) =>
      (part.reverse ++ (text.extract at_ f.first).toList.reverse ++ shown, f.last)) (([] : Text), 0)
    let shown := shown.reverse ++ (text.extract last text.size).toList
    if name = "subn" then return .tuple [wrap bytes shown, .int all.length]
    else return wrap bytes shown

/-- A method of a match. -/
def foundMethod (w : Ways) (name : String) (p : Searching) (text : Array Char) (f : Match.Found)
    (self : Value) (g : Given) : Running Value := do
  let group (n : Nat) (usual : Value) : Value := ((groupText text f n).map Value.text).getD usual
  let bounds : Running (Option (Nat × Nat)) := do
    let n ← match g.at? 0 "group" with
      | some (.text name) => pure ((p.names.lookup name).getD 0)
      | some v => do pure (← wholeNumber w v).toNat
      | none => pure 0
    return if n = 0 then some (f.first, f.last) else f.groups.lookup n
  match name with
  | "group" =>
    match g.plain with
    | [] => return group 0 .none
    | [v] => itemAt w self v
    | all => return .tuple (← all.mapM (itemAt w self))
  | "groups" =>
    let usual := (g.at? 0 "default").getD .none
    return .tuple ((List.range p.count).map fun n => group (n + 1) usual)
  | "groupdict" =>
    let usual := (g.at? 0 "default").getD .none
    makeDict (p.names.foldl (fun (t : Table) (name, n) => t.put ('t' :: name) (.text name) (group n usual)) .empty)
  | "start" => return .int (((← bounds).map fun b => (b.1 : Int)).getD (-1))
  | "end" => return .int (((← bounds).map fun b => (b.2 : Int)).getD (-1))
  | "span" =>
    match ← bounds with
    | some (a, b) => return .tuple [.int a, .int b]
    | none => return .tuple [.int (-1), .int (-1)]
  | "expand" =>
    match ← g.required name 0 "template" with
    | .text t =>
      match expandTemplate p text f (t.length + 1) t with
      | .ok t => return .text t
      | .error words => refuseSearch words
    | _ => typeError "expected str instance"
  | _ => return .none

end Equate.Shell.Dynamic
