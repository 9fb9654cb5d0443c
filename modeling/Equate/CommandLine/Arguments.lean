import Equate.CommandLine.Invocation
import Equate.Number.Decimal

/-!
# Reading the arguments

Arguments are read from the left. An option takes its values from the arguments behind
it or, joined to it, from its own argument; a joined value is the only one. An argument
that begins with a dash is an option, unless it is the dash alone or stands behind `--`,
and so it is never a value. Values are checked when the next option or file shows that
they are complete, which decides whether a wrong value or a call for help comes first.
-/
namespace Equate.CommandLine

/-- All options. -/
inductive Choice where
  | help | version | verbose | request
  | units | settings | solver | tolerance | iterations | output
  deriving DecidableEq, Repr

/-- What an option takes. -/
inductive Arity where
  | none
  | one
  | several
  deriving DecidableEq, Repr

/-- What an option takes. -/
def Choice.arity : Choice → Arity
  | help | version | verbose | request => .none
  | solver => .several
  | _ => .one

/-- The options of a topic. -/
def Topic.choices : Topic → List Choice
  | program => [.verbose, .help, .version]
  | emit => [.units, .settings, .request, .verbose, .help]
  | solve => [.units, .settings, .solver, .tolerance, .iterations, .output, .verbose, .help]

/-- The long name of an option. -/
def Choice.name : Choice → Text
  | help => "help"
  | version => "version"
  | verbose => "verbose"
  | request => "request"
  | units => "units"
  | settings => "settings"
  | solver => "solver"
  | tolerance => "tolerance"
  | iterations => "iterations"
  | output => "output"

/-- The letter of an option. -/
def Choice.letter? : Choice → Option Char
  | help => some 'h'
  | version => some 'V'
  | verbose => some 'v'
  | output => some 'o'
  | _ => Option.none

/-- The option of a topic with this long name. -/
def Topic.long? (t : Topic) (name : Text) : Option Choice :=
  t.choices.find? fun choice => choice.name == name

/-- The option of a topic with this letter. -/
def Topic.short? (t : Topic) (letter : Char) : Option Choice :=
  t.choices.find? fun choice => choice.letter? == some letter

/-- Why the reading ends before the last argument. -/
inductive Stop where
  | misuse
  | help
  | version
  deriving DecidableEq, Repr

/-- What has been read. The values of the last option, or the file, are pending until
it is clear that they are complete. -/
structure Reading where
  flags : List Choice
  values : List (Choice × Text)
  input : Option Text
  pending : Option (Option Choice × List Text)

/-- Nothing has been read. -/
def Reading.start : Reading := ⟨[], [], none, none⟩

/-- The largest number of iterations that can be given. -/
def iterationLimit : Nat := Nat.pow 2 32 - 1

/-- A number of iterations. A sign is allowed. -/
def readIterations? (t : Text) : Option Nat :=
  let (negative, digits) := Number.readSign t
  if digits = [] ∨ !digits.all Char.isDigit then none
  else
    let n := Text.digitsValue digits
    if iterationLimit < n ∨ (negative ∧ n ≠ 0) then none else some n

/-- A value that an option can have. A path is not empty, a word of a command may be. -/
def Choice.accepts (choice : Choice) (value : Text) : Bool :=
  match choice with
  | solver => true
  | tolerance => (Number.readNumber? value).isSome
  | iterations => (readIterations? value).isSome
  | _ => value ≠ []

namespace Reading

/-- The values of an option are taken in. -/
def take (r : Reading) (choice : Choice) (values : List Text) : Except Stop Reading :=
  if values = [] ∨ !values.all choice.accepts then .error .misuse
  else if choice.arity = .one ∧ (r.values.any fun v => v.1 = choice) then .error .misuse
  else .ok { r with values := r.values ++ values.map fun v => (choice, v) }

/-- What is pending is taken in. -/
def settle (r : Reading) : Except Stop Reading :=
  match r.pending with
  | none => .ok r
  | some (some choice, values) => { r with pending := none }.take choice values
  | some (none, values) =>
    if values.all (· ≠ []) then .ok { r with pending := none } else .error .misuse

/-- An option without values. -/
def mark (r : Reading) (choice : Choice) : Except Stop Reading := do
  let r ← r.settle
  match choice with
  | .help => .error .help
  | .version => .error .version
  | choice =>
    if choice ∈ r.flags then .error .misuse else .ok { r with flags := choice :: r.flags }

/-- An option with values to come. -/
def begin (r : Reading) (choice : Choice) : Except Stop Reading := do
  return { ← r.settle with pending := some (some choice, []) }

/-- An option with a value joined to it. -/
def join (r : Reading) (choice : Choice) (value : Text) : Except Stop Reading := do
  (← r.settle).take choice [value]

/-- An option by its long name, given the text behind the two dashes. -/
def long (t : Topic) (r : Reading) (body : Text) : Except Stop Reading :=
  let (name, joined) := match Text.splitAt? '=' body with
    | some (name, value) => (name, some value)
    | none => (body, none)
  match t.long? name with
  | none => .error .misuse
  | some choice =>
    match joined, choice.arity with
    | none, .none => r.mark choice
    | none, _ => r.begin choice
    | some _, .none => .error .misuse
    | some value, _ => r.join choice value

/-- Options by their letters, given the text behind the dash. What follows the letter of
an option with a value is the value. -/
def letters (t : Topic) (r : Reading) : Text → Except Stop Reading
  | [] => .ok r
  | letter :: rest =>
    match t.short? letter with
    | none => .error .misuse
    | some choice =>
      if choice.arity = .none then do letters t (← r.mark choice) rest
      else
        match rest with
        | [] => r.begin choice
        | '=' :: value => r.join choice value
        | value => r.join choice value

/-- An argument that is no option. -/
def plain (r : Reading) (argument : Text) (free : Bool) : Except Stop Reading :=
  match r.pending with
  | some (some choice, values) =>
    if !free && (values.isEmpty || choice.arity == .several) then
      .ok { r with pending := some (some choice, values ++ [argument]) }
    else file argument
  | _ => file argument
where
  /-- The argument is the file, if there is none yet. -/
  file (argument : Text) : Except Stop Reading := do
    let r ← r.settle
    if r.input.isSome then .error .misuse
    else .ok { r with input := some argument, pending := some (none, [argument]) }

/-- The arguments of a command. Behind `--` none is an option. -/
def all (t : Topic) (r : Reading) : List Text → Except Stop Reading
  | [] => r.settle
  | ['-', '-'] :: rest => do (← rest.foldlM (fun r a => r.plain a true) r).settle
  | ('-' :: '-' :: body) :: rest => do all t (← r.long t body) rest
  | ('-' :: c :: body) :: rest => do all t (← r.letters t (c :: body)) rest
  | argument :: rest => do all t (← r.plain argument false) rest

/-- The last value of an option. -/
def value? (r : Reading) (choice : Choice) : Option Text :=
  (r.values.reverse.find? fun v => v.1 = choice).map (·.2)

/-- The values of an option. -/
def valuesOf (r : Reading) (choice : Choice) : List Text :=
  (r.values.filter fun v => v.1 = choice).map (·.2)

/-- The files that have been read. -/
def sources? (r : Reading) : Option Sources := do
  return ⟨← r.input, r.value? .units, r.value? .settings⟩

end Reading

/-- What a topic with these arguments asks for; `none` for a misuse. -/
def invocation? (t : Topic) (arguments : List Text) : Option Invocation :=
  match Reading.start.all t arguments with
  | .error .misuse => none
  | .error .help => some (.help t)
  | .error .version => some .version
  | .ok r =>
    match t with
    | .program => none
    | .emit => do return .emit (← r.sources?) (.request ∈ r.flags)
    | .solve => do
      return .solve (← r.sources?)
        { solver := r.valuesOf .solver
          tolerance := (r.value? .tolerance).bind Number.readNumber?
          iterations := (r.value? .iterations).bind readIterations?
          output := r.value? .output }

/-- The command of a name. -/
def command? (name : Text) : Option Topic :=
  if name = ("emit" : Text) then some .emit
  else if name = ("solve" : Text) then some .solve
  else none

/-- What the arguments of `help` ask for. -/
def helpFor? : List Text → Option Invocation
  | [] => some (.help .program)
  | [name] =>
    if name = ("help" : Text) then some (.help .program)
    else (command? name).map .help
  | _ => none

/-- What the arguments of the program ask for, with the options that have been read in
front of the command. -/
def readFrom? (r : Reading) : List Text → Option Invocation
  | [] => none
  | argument :: rest =>
    match command? argument with
    | some t => invocation? t rest
    | none =>
      if argument = ("help" : Text) then helpFor? rest
      else
        let read : Except Stop Reading := match argument with
          | ['-', '-'] => .error .misuse
          | '-' :: '-' :: body => r.long .program body
          | '-' :: c :: body => r.letters .program (c :: body)
          | _ => .error .misuse
        match read with
        | .ok r => readFrom? r rest
        | .error .misuse => none
        | .error .help => some (.help .program)
        | .error .version => some .version

/-- What the arguments of the program ask for; `none` for a misuse. -/
def read? (arguments : List Text) : Option Invocation := readFrom? .start arguments

end Equate.CommandLine
