import Equate.Shell.Octets

/-!
# The options of shells

An option is a letter behind a dash or a plus, or a long name behind `-o` or `+o`.
-/
namespace Equate.Shell

/-- The options by their long names. Some have no letter. -/
def flagNames : List (Octets × Option Char) :=
  [("errexit", some 'e'), ("noglob", some 'f'), ("ignoreeof", some 'I'), ("interactive", some 'i'),
    ("monitor", some 'm'), ("noexec", some 'n'), ("stdin", some 's'), ("xtrace", some 'x'),
    ("verbose", some 'v'), ("vi", some 'V'), ("emacs", some 'E'), ("noclobber", some 'C'),
    ("allexport", some 'a'), ("notify", some 'b'), ("nounset", some 'u'), ("privileged", some 'p'),
    ("nolog", none), ("debug", none)].map fun (name, flag) => (lit name, flag)

/-- The letters of all options. -/
def flagLetters : List Char := flagNames.filterMap fun f => f.2

/-- The letters of the options that are on, in the order in which a shell tells them. -/
def shownFlags (flags : List Char) : Octets := flagLetters.reverse.filter flags.contains

/-- The names of the options, with what each is, or as commands that would set them so. -/
def flagTable (asCommands : Bool) (flags : List Char) : Octets :=
  let rows := flagNames.flatMap fun (name, flag) =>
    let on := flag.any flags.contains
    if asCommands then lit (if on then "set -o " else "set +o ") ++ name ++ ['\n']
    else name ++ List.replicate (16 - name.length) ' ' ++ lit (if on then "on\n" else "off\n")
  if asCommands then rows else lit "Current option settings\n" ++ rows

/-- What a shell says that is to watch over its jobs. -/
def withoutTerminal : Octets := lit "can't access tty; job control turned off"

/-- What the arguments of a shell say. -/
structure Start where
  flags : List Char
  /-- The arguments are those of a new shell. -/
  isNew : Bool
  /-- The first of the other arguments is the script itself. -/
  command : Bool
  /-- What is to be printed about the options. -/
  shown : Octets
  /-- The other arguments are none, and that is to be known. -/
  cleared : Bool
  rest : List Octets

/-- An option is switched on or off. -/
def switch (on : Bool) (flag : Char) (flags : List Char) : List Char :=
  let others := flags.filter (· ≠ flag)
  if on then others ++ [flag] else others

namespace Start

/-- An option by its long name. -/
def named (s : Start) (on : Bool) (name : Octets) : Except Octets Start :=
  match flagNames.lookup name with
  | some (some flag) => .ok { s with flags := switch on flag s.flags }
  | some none => .ok s
  | none => .error (lit "Illegal option -o " ++ name)

/-- Options by their letters. Each `o` takes one of the names that follow; without one it
asks for a table. In a new shell, an option that nothing is said about counts as on there. -/
def letters (s : Start) (on : Bool) : Octets → List Octets → Except Octets Start
  | [], _ => .ok s
  | c :: more, names =>
    if c = 'o' then
      match names with
      | [] =>
        let flags := if s.isNew then flagLetters else s.flags
        letters { s with shown := s.shown ++ flagTable (!on) flags } on more []
      | name :: names => do letters (← named s on name) on more names
    else if c = 'c' ∧ s.isNew then letters { s with command := true } on more names
    else if c = 'l' ∧ s.isNew then letters s on more names
    else if flagLetters.contains c then
      letters { s with flags := switch on c s.flags } on more names
    else .error (lit "Illegal option -" ++ [c])

/-- The arguments of a shell, or the option that it does not know. -/
def readFrom (s : Start) (arguments : List Octets) : Except Octets Start :=
  match arguments with
  | [] => .ok { s with rest := [] }
  | first :: rest =>
    match first with
    | ['-', '-'] => .ok { s with rest, cleared := rest.isEmpty }
    | ['-'] =>
      if s.isNew then .ok { s with rest }
      else .ok { s with rest, flags := s.flags.filter fun c => c ≠ 'x' ∧ c ≠ 'v' }
    | '-' :: flags => do readFrom (← letters s true flags rest) (rest.drop (flags.count 'o'))
    | '+' :: flags => do readFrom (← letters s false flags rest) (rest.drop (flags.count 'o'))
    | _ => .ok { s with rest := first :: rest }
  termination_by arguments.length
  decreasing_by
    all_goals simp only [List.length_cons, List.length_drop]; omega

/-- The arguments of a new shell. -/
def read (arguments : List Octets) : Except Octets Start :=
  readFrom ⟨[], true, false, [], false, []⟩ arguments

end Start
end Equate.Shell
