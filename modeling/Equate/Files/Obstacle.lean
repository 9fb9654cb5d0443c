import Equate.Text.Basic

/-!
# Why a file cannot be used

The words are those of the operating system, with its number for the error where it has
one.
-/
namespace Equate

/-- What stands in the way of using a path. -/
inductive Obstacle where
  | missing
  | closed
  | noDevice
  | argumentsTooLong
  | denied
  | busy
  | exists
  | notDirectory
  | isDirectory
  | invalid
  | brokenPipe
  | nameTooLong
  | notEmpty
  | tooManyLinks
  | zeroInPath
  | zeroInArgument
  | notText
  deriving DecidableEq, Repr

namespace Obstacle

/-- The obstacle in words. -/
def words : Obstacle → Text
  | missing => "No such file or directory"
  | closed => "Bad file descriptor"
  | noDevice => "No such device or address"
  | argumentsTooLong => "Argument list too long"
  | denied => "Permission denied"
  | busy => "Device or resource busy"
  | .exists => "File exists"
  | notDirectory => "Not a directory"
  | isDirectory => "Is a directory"
  | invalid => "Invalid argument"
  | brokenPipe => "Broken pipe"
  | nameTooLong => "File name too long"
  | notEmpty => "Directory not empty"
  | tooManyLinks => "Too many levels of symbolic links"
  | zeroInPath => "file name contained an unexpected NUL byte"
  | zeroInArgument => "nul byte found in provided data"
  | notText => "stream did not contain valid UTF-8"

/-- The number of the error. -/
def number? : Obstacle → Option Nat
  | missing => some 2
  | noDevice => some 6
  | closed => some 9
  | argumentsTooLong => some 7
  | denied => some 13
  | busy => some 16
  | .exists => some 17
  | notDirectory => some 20
  | isDirectory => some 21
  | invalid => some 22
  | brokenPipe => some 32
  | nameTooLong => some 36
  | notEmpty => some 39
  | tooManyLinks => some 40
  | _ => none

/-- The obstacle in words, with its number. -/
def message (o : Obstacle) : Text :=
  match o.number? with
  | some n => o.words ++ " (os error " ++ Text.decimal n ++ ")"
  | none => o.words

end Obstacle
end Equate
