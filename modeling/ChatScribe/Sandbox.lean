import ChatScribe.Host

/-!
# A host in memory

A sandbox is a disk, a clock that stands still, and what has been written to the terminal. Its host
changes nothing else. What programs do, and how a log record looks as a line, is the choice of whoever
sets it up.
-/

namespace ChatScribe

structure Sandbox where
  disk : Disk
  clock : Moment
  /-- The results that have been printed. -/
  printed : Text
  /-- What has been said to whoever started the run, log records included. -/
  told : Text
  /-- The file that log records go to. -/
  log? : Option Place

/-- What starting a program comes to, and what it leaves on the disk. -/
abbrev Programs := (program : Text) → (arguments : List Text) → (input : Text) → Disk → Launch × Disk

namespace Sandbox

def ofDisk (disk : Disk) (clock : Moment) : Sandbox := ⟨disk, clock, [], [], none⟩

def say (line : Text) (b : Sandbox) : Sandbox := { b with told := b.told ++ line ++ ['\n'] }

/-- Writes a line to the log file, if there is one. -/
def logLine (line : Text) (b : Sandbox) : Sandbox :=
  match b.log? with
  | some p => { b with disk := b.disk.append p (Utf8.encode (line ++ ['\n'])) }
  | none => b

/-- An operation on the disk that leaves it alone when it fails. -/
def onDisk (op : Disk → Except Fault Disk) : StateM Sandbox (Except Fault Unit) := fun b =>
  match op b.disk with
  | .ok disk => (.ok (), { b with disk := disk })
  | .error f => (.error f, b)

def host (lineOf : Record → Text) (programs : Programs) : Host (StateM Sandbox) where
  readFile path := fun b => (b.disk.read path, b)
  look path := fun b => (b.disk.look path, b)
  makeDir path := onDisk fun d => d.makeDir path
  putNew dir name content := onDisk fun d => d.putNew (Path.join dir name) (Utf8.encode content)
  launch program arguments input := fun b =>
    let (launch, disk) := programs program arguments input b.disk
    (launch, { b with disk := disk })
  now := fun b => (b.clock, b)
  openLog path := fun b =>
    match b.disk.openFile path false with
    | .ok (p, disk) => (.ok (), { b with disk := disk, log? := some p })
    | .error f => (.error f, b)
  record sink r := fun b =>
    match sink with
    | .terminal => ((), b.say (lineOf r))
    | .file => ((), b.logLine (lineOf r))
  print text := fun b => ((), { b with printed := b.printed ++ text ++ ['\n'] })
  tell line := fun b => ((), b.say line)

end Sandbox

end ChatScribe
