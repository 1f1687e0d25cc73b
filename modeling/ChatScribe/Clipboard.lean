import ChatScribe.Host

/-!
# Copying to the clipboard

The clipboard belongs to a program of the system, which is given the text as its input. The copy
succeeds if that program does.
-/

namespace ChatScribe

/-- Why a text is not copied. -/
inductive CopyError
  | noCommand
  | notStarted (program : Text) (fault : Fault)
  | notWritten (program : Text) (fault : Fault)
  | failed (program : Text) (status : ExitStatus)
deriving DecidableEq, Repr

def CopyError.message : CopyError → Text
  | .noCommand => "no clipboard command configured".toList
  | .notStarted program f => "failed to start ".toList ++ program ++ ": ".toList ++ f.message
  | .notWritten program f => "failed to write to ".toList ++ program ++ ": ".toList ++ f.message
  | .failed program status => program ++ " exited with ".toList ++ status.message

namespace Clipboard

variable {m : Type → Type} [Monad m]

/-- What the end of the program says of the copy. -/
def outcome (program : Text) : Launch → Except CopyError Unit
  | .ended (.code 0) => .ok ()
  | .ended status => .error (.failed program status)
  | .notStarted f => .error (.notStarted program f)
  | .notWritten f => .error (.notWritten program f)

/-- Hands a text to the program of a command. -/
def copy (host : Host m) (command : List Text) (content : Text) : m (Except CopyError Unit) := do
  match command with
  | [] => return .error .noCommand
  | program :: arguments => return outcome program (← host.launch program arguments content)

end Clipboard

end ChatScribe
