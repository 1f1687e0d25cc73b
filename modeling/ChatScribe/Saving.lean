import ChatScribe.Host

/-!
# Saving a document

A document is saved under its name, or under its name with a number if that is taken. Nothing that
exists is ever replaced: the host puts a file only where nothing stands, and a name that is taken makes
the next one be tried.
-/

namespace ChatScribe

/-- Why a document is not saved. -/
inductive SaveError
  | badDirectory (reason : Text)
  /-- All names that may be tried are taken. -/
  | noFreeName (name : Text)
  | fault (f : Fault)
deriving DecidableEq, Repr

namespace SaveError

def message : SaveError → Text
  | .badDirectory reason => "output directory missing or not writable: ".toList ++ reason
  | .noFreeName name => "no free file name for ".toList ++ name
  | .fault f => "io error: ".toList ++ f.message

/-- The message with that of its cause behind it. -/
def fullMessage : SaveError → Text
  | .fault f => message (.fault f) ++ ": ".toList ++ f.message
  | e => e.message

end SaveError

namespace Saving

variable {m : Type → Type} [Monad m]

/-! ## The directory -/

/-- A directory that could not be made is no loss if it is there. -/
def settle (host : Host m) (path : Text) (outcome : Except Fault Unit) : m (Except Fault Unit) := do
  match outcome with
  | .ok () => return .ok ()
  | .error f => return if (← host.look path) = some .directory then .ok () else .error f

/-- Makes the first of some directories, each of which lies in the next. Those around it are made if
it cannot be made without them. -/
def makeChain (host : Host m) : List Text → m (Except Fault Unit)
  | [] => return .ok ()
  | path :: around => do
    match ← host.makeDir path with
    | .error .missing =>
      match ← makeChain host around with
      | .ok () => settle host path (← host.makeDir path)
      | .error f => return .error f
    | outcome => settle host path outcome

/-- Makes a directory with all those around it. What has been made stays when a later step fails. -/
def makeDirs (host : Host m) (path : Text) : m (Except Fault Unit) :=
  if path.isEmpty then return .ok () else makeChain host (Path.chain path)

/-- Makes sure that a directory is there. -/
def ensureDir (host : Host m) (dir : Text) : m (Except SaveError Unit) := do
  match ← host.look dir with
  | some .directory => return .ok ()
  | some .file => return .error (.badDirectory "path is not a directory".toList)
  | none =>
    match ← makeDirs host dir with
    | .ok () => return .ok ()
    | .error f => return .error (.badDirectory f.message)

/-! ## The name -/

/-- A name with a number in front of its last dot, or at its end. Number zero is the name itself. -/
def numberedName (name : Text) (number : Nat) : Text :=
  if number = 0 then name
  else
    let mark := " (".toList ++ Text.ofNat number ++ [')']
    match Text.splitLast '.' name with
    | some (stem, ending) => stem ++ mark ++ '.' :: ending
    | none => name ++ mark

/-- At most this many names are tried. -/
def maxNames : Nat := 1000

/-- Tries the name with one number. There is no outcome when it is taken, and a name when it is not. -/
def tryName (host : Host m) (dir name content : Text) (number : Nat) :
    m (Option (Except SaveError Text)) := do
  let candidate := numberedName name number
  match ← host.putNew dir candidate content with
  | .ok () => return some (.ok candidate)
  | .error .taken => return none
  | .error f => return some (.error (.fault f))

/-- Tries one name after the other, from a number on and so many of them. -/
def tryNames (host : Host m) (dir name content : Text) :
    (count number : Nat) → m (Except SaveError Text)
  | 0, _ => return .error (.noFreeName name)
  | count + 1, number => do
    match ← tryName host dir name content number with
    | some outcome => return outcome
    | none => tryNames host dir name content count (number + 1)

/-- Saves a text in a directory. The name is the one that it is saved under. -/
def save (host : Host m) (dir name content : Text) : m (Except SaveError Text) := do
  match ← ensureDir host dir with
  | .ok () => tryNames host dir name content maxNames 0
  | .error e => return .error e

end Saving

end ChatScribe
