import Equate.Shell.State

/-!
# Programs beside the shell

A utility gets the name it was called by and its arguments, reads and writes through
descriptors, and leaves a status. Options are letters behind a dash and may stand
behind operands; `--` ends them.
-/
namespace Equate.Shell

/-- A program. -/
abbrev Utility := Octets → List Octets → Act Nat

namespace Utility

/-- Writes to the output. -/
def say (t : Octets) : Act Unit := do
  let _ ← write 1 t

/-- A complaint in the name of the program. -/
def blame (name words : Octets) : Act Unit := do
  let _ ← write 2 (name ++ lit ": " ++ words ++ ['\n'])

/-- A complaint with a hint at the help. -/
def misuse (name words : Octets) (status : Nat) : Act Nat := do
  if words != [] then blame name words
  let _ ← write 2 (lit "Try '" ++ name ++ lit " --help' for more information.\n")
  return status

/-- Options with their values, and operands. -/
structure Given where
  options : List (Char × Octets)
  operands : List Octets

namespace Given

/-- An option is given. -/
def has (g : Given) (option : Char) : Bool := g.options.any fun o => o.1 == option

/-- The last value of an option. -/
def value? (g : Given) (option : Char) : Option Octets :=
  (g.options.reverse.find? fun o => o.1 == option).map (·.2)

/-- All values of an option. -/
def values (g : Given) (option : Char) : List Octets :=
  (g.options.filter fun o => o.1 == option).map (·.2)

end Given

/-- Whether an option takes a value. -/
inductive Wants where
  | nothing
  | value
  /-- Only one that stands in the same argument. -/
  | maybe
  deriving DecidableEq

/-- The options of a program: its letters, a colon behind those with a value and two behind
those that may have one, and the words for them. A plus in front says that operands end
the options. Options that have a word only are known by letters that nobody can type. -/
structure Spelling where
  letters : List Char
  words : List (String × Char)

namespace Spelling

/-- What a letter wants, if it is an option. -/
def wants? (letter : Char) : List Char → Option Wants
  | [] => none
  | c :: rest =>
    if c = letter ∧ c ≠ ':' ∧ c ≠ '+' then
      match rest with
      | ':' :: ':' :: _ => some .maybe
      | ':' :: _ => some .value
      | _ => some .nothing
    else wants? letter rest

/-- The words that a beginning can stand for. A whole word stands for itself. -/
def meant (s : Spelling) (front : Octets) : List (String × Char) :=
  let all := s.words.filter fun w => front.isPrefixOf w.1.toList
  match all.find? fun w => w.1.toList = front with
  | some w => [w]
  | none =>
    match all with
    | [] => []
    | w :: rest => if rest.all fun v => v.2 = w.2 then [w] else all

/-- An option that is spelt out. The value may be missing yet. -/
def word (s : Spelling) (t : Octets) : Except Octets (Char × Option Octets) :=
  let (front, value) := match Text.splitAt? '=' t with
    | some (front, value) => (front, some value)
    | none => (t, none)
  match s.meant front with
  | [] => .error (lit "unrecognized option '--" ++ t ++ ['\''])
  | [(w, letter)] =>
    match (wants? letter s.letters).getD .nothing, value with
    | .nothing, some _ => .error (lit "option '--" ++ w.toList ++ lit "' doesn't allow an argument")
    | .nothing, none => .ok (letter, some [])
    | .maybe, value => .ok (letter, some (value.getD []))
    | .value, value => .ok (letter, value)
  | several => .error (lit "option '--" ++ t ++ lit "' is ambiguous; possibilities:" ++
      several.flatMap fun w => lit " '--" ++ w.1.toList ++ ['\''])

/-- The options in the letters behind a dash. The last one may want its value from the
arguments. -/
def letterOptions (s : Spelling) : Octets → Except Octets (List (Char × Octets) × Option Char)
  | [] => .ok ([], none)
  | c :: rest =>
    match wants? c s.letters with
    | none => .error (lit "invalid option -- '" ++ [c] ++ ['\''])
    | some .nothing => do
      let (more, wanting) ← letterOptions s rest
      return ((c, []) :: more, wanting)
    | some .maybe => .ok ([(c, rest)], none)
    | some .value => if rest.isEmpty then .ok ([], some c) else .ok ([(c, rest)], none)

/-- What arguments say. -/
def read (s : Spelling) : List Octets → Except Octets Given
  | [] => .ok ⟨[], []⟩
  | ['-', '-'] :: rest => .ok ⟨[], rest⟩
  | ('-' :: '-' :: t) :: rest => do
    match ← s.word t with
    | (letter, some value) =>
      let g ← read s rest
      return { g with options := (letter, value) :: g.options }
    | (letter, none) =>
      match rest with
      | [] => .error (lit "option '--" ++ ((s.meant t).headD ("", ' ')).1.toList ++
          lit "' requires an argument")
      | value :: rest =>
        let g ← read s rest
        return { g with options := (letter, value) :: g.options }
  | ('-' :: c :: more) :: rest => do
    match ← s.letterOptions (c :: more) with
    | (found, none) =>
      let g ← read s rest
      return { g with options := found ++ g.options }
    | (found, some wanting) =>
      match rest with
      | [] => .error (lit "option requires an argument -- '" ++ [wanting] ++ ['\''])
      | value :: rest =>
        let g ← read s rest
        return { g with options := found ++ (wanting, value) :: g.options }
  | operand :: rest =>
    if s.letters.head? = some '+' then .ok ⟨[], operand :: rest⟩
    else do
      let g ← read s rest
      return { g with operands := operand :: g.operands }

end Spelling

/-- Runs with options; a misuse ends with a status. -/
def withOptions (letters : String) (words : List (String × Char)) (name : Octets)
    (arguments : List Octets) (status : Nat) (body : Given → Act Nat) : Act Nat :=
  match (⟨letters.toList, words⟩ : Spelling).read arguments with
  | .error words => misuse name words status
  | .ok g => body g

/-- What can be read along a path; a dash is the input. -/
def contentOf (path : Octets) : Act (Except Obstacle Octets) := do
  if path = ['-'] then return (← readAll 0).elim (.error .closed) .ok
  else
    let files ← files
    match files.find (decode path) with
    | .error obstacle => return .error obstacle
    | .ok .directory => return .error .isDirectory
    | .ok (.device (.stream n)) => return .ok ((← readAll n).getD [])
    | .ok (.device (.pipe n)) =>
      openPipe n false
      let t ← unread n
      consume n t.length
      return .ok t
    | .ok _ =>
      match files.read (decode path) with
      | .ok content => return .ok (ofBytes content)
      | .error obstacle => return .error obstacle

/-- Goes through files, of which none means the input, and complains about those that
cannot be read. The status is the one given if there was any. -/
def throughFiles (name : Octets) (paths : List Octets) (status : Nat)
    (complaint : Octets → Obstacle → Octets) (body : Octets → Octets → Act Unit) : Act Nat :=
  (if paths.isEmpty then [['-']] else paths).foldlM (fun result path => do
    match ← contentOf path with
    | .ok content => body path content; return result
    | .error obstacle => blame name (complaint path obstacle); return status) 0

/-- The usual complaint about a file. -/
def atFile (path : Octets) (obstacle : Obstacle) : Octets := path ++ lit ": " ++ obstacle.words

/-- The complaint about a file that is not opened. -/
def notOpened (path : Octets) (obstacle : Obstacle) : Octets :=
  if obstacle = .isDirectory then lit "error reading '" ++ path ++ lit "': " ++ obstacle.words
  else lit "cannot open '" ++ path ++ lit "' for reading: " ++ obstacle.words

end Utility
end Equate.Shell
