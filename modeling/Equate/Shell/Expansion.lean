import Equate.Shell.Arithmetic
import Equate.Shell.Pattern
import Equate.Shell.State

/-!
# What words stand for

A word becomes atoms, from which its fields are formed. What parameters and commands
give is split at the characters of `IFS` if no quotation marks surround it, and a field
with the signs of a pattern stands for the files that fit it, if there are any. Where
one text is wanted, nothing is split.
-/
namespace Equate.Shell

/-- A part of what a word stands for. -/
inductive Atom where
  | char (c : Char) (quoted splits : Bool)
  /-- One field ends and another one begins. -/
  | gap
  /-- There is a field, even if nothing is in it. -/
  | mark

namespace Atom

/-- A value that nothing splits if it is quoted. -/
def ofValue (quoted : Bool) (t : Octets) : List Atom :=
  t.map fun c => .char c quoted !quoted

/-- Values as fields of their own. -/
def ofValues (quoted : Bool) (values : List Octets) : List Atom :=
  List.intercalate [.gap] (values.map fun v =>
    if quoted then .mark :: ofValue quoted v else ofValue quoted v)

/-- The characters, where one text is wanted. -/
def marks (atoms : List Atom) : List Mark :=
  atoms.filterMap fun a => match a with
    | .char c quoted _ => some ⟨c, quoted⟩
    | .gap => some ⟨' ', true⟩
    | .mark => none

/-- The text, where one is wanted. -/
def text (atoms : List Atom) : Octets := (marks atoms).map Mark.char

end Atom

/-- A field that is being formed, with those in front of it, both in reverse. `blank`
says that blanks alone have ended the last one. -/
structure Fields where
  done : List (List Mark)
  current : Option (List Mark)
  blank : Bool

namespace Fields

/-- The field ends, if there is one. -/
def close (f : Fields) (blank : Bool) : Fields :=
  match f.current with
  | some marks => ⟨marks.reverse :: f.done, none, blank⟩
  | none => f

/-- A character belongs to the field. -/
def push (f : Fields) (m : Mark) : Fields :=
  { f with current := some (m :: f.current.getD []), blank := false }

/-- One more atom, with these characters between fields. -/
def add (separators : Octets) (f : Fields) : Atom → Fields
  | .mark => { f with current := some (f.current.getD []), blank := false }
  | .gap => { f.close false with blank := false }
  | .char c quoted splits =>
    if splits ∧ separators.contains c then
      if c = ' ' ∨ c = '\t' ∨ c = '\n' then f.close true
      else if f.current.isSome then f.close false
      else if f.blank then { f with blank := false }
      else { f with done := [] :: f.done }
    else f.push ⟨c, quoted⟩

/-- The fields of atoms. -/
def ofAtoms (separators : Octets) (atoms : List Atom) : List (List Mark) :=
  let f := (atoms.foldl (add separators) ⟨[], none, false⟩).close false
  f.done.reverse

end Fields

/-- The characters between fields. -/
def separators : Act Octets := return (← valueOf? (lit "IFS")).getD (lit " \t\n")

/-- The positional parameters as one text. -/
def joinedArguments : Act Octets := do
  let separator := match ← valueOf? (lit "IFS") with
    | none => [' ']
    | some ifs => ifs.take 1
  return Text.joinWith separator (← process).arguments

/-- What a parameter stands for. -/
def parameterAtoms (quoted : Bool) (name : Octets) : Act (List Atom) := do
  match name with
  | ['@'] => return Atom.ofValues quoted (← process).arguments
  | ['*'] =>
    if quoted then return Atom.ofValue quoted (← joinedArguments)
    else return Atom.ofValues quoted (← process).arguments
  | _ =>
    match ← parameter? name with
    | some value => return Atom.ofValue quoted value
    | none =>
      if ← hasFlag 'u' then refuse (name ++ lit ": parameter not set")
      else return []

/-- The value of a parameter; all positional ones are one value. -/
def wholeValue (name : Octets) : Act (Option Octets) := do
  if name = ['@'] then return some (Text.joinWith [' '] (← process).arguments)
  else if name = ['*'] then return some (← joinedArguments)
  else parameter? name

/-- Where a tilde in a word stands for the home directory. -/
structure Homes where
  /-- In front. -/
  front : Bool
  /-- Behind the colons. -/
  behindColons : Bool

namespace Homes

/-- Nowhere. -/
def none : Homes := ⟨false, false⟩

/-- In front only. -/
def first : Homes := ⟨true, false⟩

/-- In front and behind the colons. -/
def all : Homes := ⟨true, true⟩

/-- In a word in braces. -/
def inside (homes : Homes) (quoted : Bool) : Homes :=
  if quoted then none else { homes with front := true }

/-- Behind a piece. -/
def behind (homes : Homes) : Piece → Homes
  | .plain ':' => { homes with front := homes.behindColons }
  | _ => { homes with front := false }

/-- A tilde with this behind it stands for the home directory. -/
def ends (homes : Homes) : Word → Bool
  | [] => true
  | .plain '/' :: _ => true
  | .plain ':' :: _ => homes.behindColons
  | _ => false

end Homes

/-- A tilde. -/
def homeAtoms : Act (List Atom) := do
  match ← valueOf? (lit "HOME") with
  | some path => return .mark :: Atom.ofValue true path
  | none => return Atom.ofValue true ['~']

/-- The value that a numeral in a parameter has; without one, zero. -/
def numeralValue (t : Octets) : Act Int := do
  let trimmed := t.dropWhile isSpace
  let (negative, digits) := match trimmed with
    | '-' :: rest => (true, rest)
    | '+' :: rest => (false, rest)
    | rest => (false, rest)
  let (n, behind) := Calculation.numeral digits
  if trimmed = [] then return 0
  else if !(digits.head?.any Char.isDigit) || !behind.all isSpace then
    refuse (lit "Illegal number: " ++ t)
  else return if negative then -n else n

/-- The value of a sum. -/
def calculate (t : Octets) : Act Int :=
  (Calculation.read t).value
    { lookUp := fun name => do
        match ← parameter? name with
        | some value => numeralValue value
        | none =>
          if ← hasFlag 'u' then refuse (name ++ lit ": parameter not set") else return 0
      set := fun name n => assign name (integerText n)
      refuse := fun words =>
        refuse (lit "arithmetic expression: " ++ words ++ lit ": \"" ++ t ++ ['"']) }

/-- The text without the line feeds at its end, and without zeros. -/
def substituted (t : Octets) : Octets :=
  ((t.filter (· ≠ '\x00')).reverse.dropWhile (· = '\n')).reverse

/-- A value without what a pattern cuts off. -/
def Treatment.cut (treatment : Treatment) (p : Pattern) (t : Octets) : Octets :=
  match treatment with
  | cutShortStart => p.cutStart false t
  | cutLongStart => p.cutStart true t
  | cutShortEnd => p.cutEnd false t
  | cutLongEnd => p.cutEnd true t
  | _ => t

/-- The word names all positional parameters and nothing else. -/
def isAllArguments : Word → Bool
  | [.parameter ['@']] => true
  | _ => false

mutual

/-- What a piece stands for. `output` runs commands and gives what they write. Words
inside braces are split like values, unless they are quoted. -/
def pieceAtoms (output : List Command → Act Octets) (homes : Homes) (quoted inside : Bool) :
    Piece → Act (List Atom)
  | .plain c => return [.char c quoted (inside && !quoted)]
  | .quoted c => return [.char c true false]
  | .single t => return .mark :: t.map fun c => .char c true false
  | .double inner => do
    let atoms ← wordAtoms output .none true false inner
    if atoms.isEmpty && isAllArguments inner then return []
    else return .mark :: atoms
  | .parameter name => parameterAtoms quoted name
  | .treated name colon treatment inner => do
    let value ← wholeValue name
    let usable := match value with
      | none => none
      | some t => if colon ∧ t = [] then none else some t
    match treatment with
    | .orElse =>
      if usable.isSome then parameterAtoms quoted name
      else wordAtoms output (homes.inside quoted) quoted true inner
    | .instead =>
      if usable.isSome then wordAtoms output (homes.inside quoted) quoted true inner
      else return []
    | .orAssign =>
      if usable.isSome then parameterAtoms quoted name
      else
        let t := Atom.text (← wordAtoms output (Homes.first.inside quoted) quoted true inner)
        if isName name then
          assign name t
          return Atom.ofValue quoted t
        else refuse (name ++ lit ": bad variable name")
    | .orFail =>
      if usable.isSome then parameterAtoms quoted name
      else
        let said := Atom.text (← wordAtoms output (Homes.first.inside quoted) quoted true inner)
        let words := if !inner.isEmpty then said
          else lit "parameter not set" ++ if colon then lit " or null" else []
        refuse (name ++ lit ": " ++ words)
    | .length =>
      match value with
      | some t => return Atom.ofValue quoted (Text.decimal t.length)
      | none =>
        if ← hasFlag 'u' then
          refuse (name ++ lit ": parameter not set")
        else return Atom.ofValue quoted ['0']
    | treatment =>
      let p := Pattern.of (Atom.marks (← wordAtoms output .first false false inner))
      match value with
      | some t => return Atom.ofValue quoted (treatment.cut p t)
      | none => if ← hasFlag 'u' then refuse (name ++ lit ": parameter not set") else return []
  | .wrong => refuse (lit "Bad substitution")
  | .output body => do return Atom.ofValue quoted (substituted (← output body))
  | .arithmetic inner => do
    let t := Atom.text (← wordAtoms output .none true false inner)
    return Atom.ofValue quoted (integerText (← calculate t))

/-- What a word stands for. -/
def wordAtoms (output : List Command → Act Octets) (homes : Homes) (quoted inside : Bool) :
    Word → Act (List Atom)
  | [] => return []
  | piece :: rest => do
    let isHome := homes.front && homes.ends rest && (piece matches .plain '~')
    let first ← if isHome then homeAtoms else pieceAtoms output homes quoted inside piece
    return first ++ (← wordAtoms output (homes.behind piece) quoted inside rest)

end

/-- The parts of a path between its slashes. -/
def steps (marks : List Mark) : List (List Mark) :=
  marks.foldr (fun m parts =>
    if m.char = '/' then [] :: parts
    else
      match parts with
      | [] => [[m]]
      | part :: rest => (m :: part) :: rest) [[]]

/-- The paths that fit, behind what has been fitted of them. A name that begins with a dot
is fitted by a dot only. -/
def pathsThatFit (files : Files) (front : Octets) : List (List Mark) → List Octets
  | [] => if (files.entryItself (decode front)).isOk then [front] else []
  | part :: rest =>
    let behind : Octets := if rest.isEmpty then [] else ['/']
    if Pattern.isPattern part then
      let pattern := Pattern.of part
      let dotted := (part.head?.map Mark.char) == some '.'
      let names := match files.place (if front = [] then ['.'] else decode front) with
        | .ok place => (files.names place).map encode
        | .error _ => []
      let names := if dotted then ['.'] :: ['.', '.'] :: names else names
      (names.filter fun name => (dotted || name.head? != some '.') && pattern.fits name).flatMap
        fun name => pathsThatFit files (front ++ name ++ behind) rest
    else pathsThatFit files (front ++ part.map Mark.char ++ behind) rest

/-- The fields that a word stands for. -/
def fields (output : List Command → Act Octets) (w : Word) : Act (List Octets) := do
  let all := Fields.ofAtoms (← separators) (← wordAtoms output .first false false w)
  let plain ← hasFlag 'f'
  let files ← files
  return all.flatMap fun marks =>
    if !plain && Pattern.isPattern marks then
      match inOrder (pathsThatFit files [] (steps marks)) with
      | [] => [marks.map Mark.char]
      | found => found
    else [marks.map Mark.char]

/-- The one text that a word stands for. -/
def wordText (output : List Command → Act Octets) (homes : Homes) (w : Word) : Act Octets :=
  return Atom.text (← wordAtoms output homes false false w)

/-- The pattern that a word stands for. -/
def wordPattern (output : List Command → Act Octets) (w : Word) : Act Pattern :=
  return Pattern.of (Atom.marks (← wordAtoms output .first false false w))

end Equate.Shell
