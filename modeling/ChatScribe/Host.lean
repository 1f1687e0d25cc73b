import ChatScribe.Disk.Basic
import ChatScribe.Document.FileName
import ChatScribe.Journal

/-!
# What a run asks of its host

A run reads files, saves one, starts a program, looks at the clock and prints. It does so through the
operations of a host and in no other way, so that it can be run on a real system, in memory, and on a
host that answers as a proof wants it to.
-/

namespace ChatScribe

/-- How a program ended. -/
inductive ExitStatus
  | code (n : Nat)
  | signal (n : Nat)
deriving DecidableEq, Repr

namespace ExitStatus

/-- The names of the signals, from the first. -/
def signalNames : List String :=
  ["SIGHUP", "SIGINT", "SIGQUIT", "SIGILL", "SIGTRAP", "SIGABRT", "SIGBUS", "SIGFPE", "SIGKILL",
    "SIGUSR1", "SIGSEGV", "SIGUSR2", "SIGPIPE", "SIGALRM", "SIGTERM", "SIGSTKFLT", "SIGCHLD",
    "SIGCONT", "SIGSTOP", "SIGTSTP", "SIGTTIN", "SIGTTOU", "SIGURG", "SIGXCPU", "SIGXFSZ",
    "SIGVTALRM", "SIGPROF", "SIGWINCH", "SIGIO", "SIGPWR", "SIGSYS"]

def signalName? (n : Nat) : Option String := if n = 0 then none else signalNames[n - 1]?

def message : ExitStatus → Text
  | .code n => "exit status: ".toList ++ Text.ofNat n
  | .signal n => "signal: ".toList ++ Text.ofNat n ++
      match signalName? n with
      | some name => " (".toList ++ name.toList ++ [')']
      | none => []

end ExitStatus

/-- What became of a program that was given a text to read. -/
inductive Launch
  | notStarted (fault : Fault)
  | notWritten (fault : Fault)
  | ended (status : ExitStatus)
deriving DecidableEq, Repr

/-- Where a log record is written. -/
inductive Sink
  | terminal
  | file
deriving DecidableEq, Repr

/-- The operations of a host. -/
structure Host (m : Type → Type) where
  readFile : Text → m (Except Fault (List UInt8))
  /-- What stands at a path, if anything does. -/
  look : Text → m (Option EntryKind)
  /-- Makes a directory inside one that exists. -/
  makeDir : Text → m (Except Fault Unit)
  /-- Puts a file with a text under a name in a directory, whole or not at all, and only if nothing
  has the name yet. -/
  putNew : (dir name content : Text) → m (Except Fault Unit)
  /-- Runs a program on arguments, with a text as its input. -/
  launch : (program : Text) → (arguments : List Text) → (input : Text) → m Launch
  now : m Moment
  /-- Empties the file that log records go to. -/
  openLog : Text → m (Except Fault Unit)
  record : Sink → Record → m Unit
  /-- Writes a line of results. -/
  print : Text → m Unit
  /-- Writes a line for whoever started the run. -/
  tell : Text → m Unit

/-- Which records are written, and where. -/
structure Journal where
  level : LogLevel
  terminal : Bool
  file : Bool
deriving DecidableEq, Repr

namespace Journal

variable {m : Type → Type} [Monad m]

def accepts (j : Journal) (r : Record) : Bool := r.level.rank ≤ j.level.rank

/-- Writes a record, if its level is wanted. -/
def write (j : Journal) (host : Host m) (r : Record) : m Unit := do
  if j.accepts r then
    if j.terminal then host.record .terminal r
    if j.file then host.record .file r

def writeAll (j : Journal) (host : Host m) (rs : List Record) : m Unit := rs.forM (j.write host)

/-- The journal that settings ask for. Without its file a journal still writes to the terminal, if it
is to. -/
def start (host : Host m) (target : LogTarget) (level : LogLevel) (path : Text) : m Journal := do
  let terminal := target != .file
  if target == .terminal then return ⟨level, terminal, false⟩
  match ← host.openLog path with
  | .ok () => return ⟨level, terminal, true⟩
  | .error fault =>
    host.tell ("Warning: Could not create log file at ".toList ++ Text.quoted path ++ ": ".toList ++
      fault.message)
    return ⟨level, terminal, false⟩

end Journal

end ChatScribe
