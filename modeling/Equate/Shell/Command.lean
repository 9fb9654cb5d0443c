import Equate.Text.Basic

/-!
# Shell commands

What a script says, once it has been read. A word is kept in pieces until the moment
it is needed, because what it stands for depends on all that came before. Each command
knows the line it begins in, for complaints.
-/
namespace Equate.Shell

/-- What is done with the value of a parameter between braces. -/
inductive Treatment where
  | orElse
  | orAssign
  | orFail
  | instead
  | cutShortEnd
  | cutLongEnd
  | cutShortStart
  | cutLongStart
  | length
  deriving DecidableEq

/-- How a redirection treats its target. -/
inductive Mode where
  | read
  | write
  | overwrite
  | append
  | both
  | duplicate
  | document
  deriving DecidableEq

mutual

/-- A part of a word. -/
inductive Piece where
  | plain (c : Char)
  | quoted (c : Char)
  | single (t : Text)
  | double (inner : List Piece)
  | parameter (name : Text)
  | treated (name : Text) (colon : Bool) (treatment : Treatment) (inner : List Piece)
  | wrong
  | output (body : List Command)
  | arithmetic (inner : List Piece)

/-- A stream that is led to or from somewhere. A document is known by its number. -/
inductive Redirection where
  | mk (descriptor : Nat) (mode : Mode) (target : List Piece) (document : Nat)

/-- A command. -/
inductive Command where
  | simple (line : Nat) (assignments : List (Text × List Piece)) (words : List (List Piece))
      (redirections : List Redirection)
  | pipeline (negated : Bool) (parts : List Command)
  | both (first second : Command)
  | either (first second : Command)
  | background (body : Command)
  | group (body : List Command)
  | subshell (line : Nat) (body : List Command)
  | choose (condition body : List Command) (otherwise : List Command)
  | loop (negated : Bool) (condition body : List Command)
  | each (line : Nat) (name : Text) (words : List (List Piece)) (body : List Command)
  | select (line : Nat) (subject : List Piece) (cases : List (List (List Piece) × List Command))
  | define (line : Nat) (name : Text) (body : Command)
  | redirected (line : Nat) (body : Command) (redirections : List Redirection)

end

/-- A word as it stands in a script. -/
abbrev Word := List Piece

instance : Inhabited Command := ⟨.group []⟩

/-- The characters of a word in which nothing is quoted and nothing stands for something
else. -/
def bare? : Word → Option Text
  | [] => some []
  | .plain c :: rest => (bare? rest).map (c :: ·)
  | _ => none

mutual

/-- A command, or one inside it, is the one that sleeps. -/
def sleeps : Command → Bool
  | .simple _ _ words _ => (words.head?.bind bare?) == some "sleep".toList
  | .pipeline _ parts => anySleeps parts
  | .both first second => sleeps first || sleeps second
  | .either first second => sleeps first || sleeps second
  | .background body => sleeps body
  | .group body => anySleeps body
  | .subshell _ body => anySleeps body
  | .choose condition body otherwise =>
    anySleeps condition || anySleeps body || anySleeps otherwise
  | .loop _ condition body => anySleeps condition || anySleeps body
  | .each _ _ _ body => anySleeps body
  | .select _ _ cases => anyCaseSleeps cases
  | .define .. => false
  | .redirected _ body _ => sleeps body

/-- One of some commands sleeps. -/
def anySleeps : List Command → Bool
  | [] => false
  | c :: rest => sleeps c || anySleeps rest

/-- A command of one of some cases sleeps. -/
def anyCaseSleeps : List (List Word × List Command) → Bool
  | [] => false
  | (_, body) :: rest => anySleeps body || anyCaseSleeps rest

end

end Equate.Shell
