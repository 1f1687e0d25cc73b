import ChatScribe.Text.Basic

/-!
# Faults of the file system

Why an operation on files or programs was refused, and the words for it.
-/

namespace ChatScribe

/-- Why the system refuses an operation. -/
inductive Fault
  | missing
  | denied
  /-- Something stands there already. -/
  | taken
  | notDirectory
  | isDirectory
  | nameTooLong
  /-- A path holds the character that ends paths. -/
  | nulInPath
  | invalid
  /-- The bytes of a file that has to be a text are none. -/
  | notText
  /-- Anything else, in the words of the system. -/
  | other (words : Text)
deriving DecidableEq, Repr

namespace Fault

/-- The words of the system with its number for the fault. -/
def numbered (words : String) (number : Nat) : Text :=
  words.toList ++ " (os error ".toList ++ Text.ofNat number ++ [')']

def message : Fault → Text
  | .missing => numbered "No such file or directory" 2
  | .denied => numbered "Permission denied" 13
  | .taken => numbered "File exists" 17
  | .notDirectory => numbered "Not a directory" 20
  | .isDirectory => numbered "Is a directory" 21
  | .nameTooLong => numbered "File name too long" 36
  | .nulInPath => "file name contained an unexpected NUL byte".toList
  | .invalid => numbered "Invalid argument" 22
  | .notText => "stream did not contain valid UTF-8".toList
  | .other words => words

end Fault

end ChatScribe
