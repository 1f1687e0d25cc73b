import ChatScribe.Disk.Path

/-!
# A file system in memory

A disk is a list of places with what stands at them. It answers as a file system without links and
without permissions does: a path is walked name by name, every name but the last has to be that of a
directory, and the first thing that is wrong decides the fault.
-/

namespace ChatScribe

/-- What can stand at a place. -/
inductive Entry
  | file (bytes : List UInt8)
  | directory
  /-- A device that takes whatever is written to it and has nothing to read. -/
  | sink
deriving DecidableEq, Repr

/-- What a look at a place tells. -/
inductive EntryKind
  | file
  | directory
deriving DecidableEq, Repr

def Entry.kind : Entry → EntryKind
  | .directory => .directory
  | .file _ | .sink => .file

/-- The names from a place outwards to the root, which has none. -/
abbrev Place := List Text

/-- The entries of a file system, and the directory that paths start from. -/
structure Disk where
  entries : List (Place × Entry)
  workingDir : Place
deriving DecidableEq, Repr

namespace Disk

/-- What stands at a place. -/
def entry? (d : Disk) (p : Place) : Option Entry :=
  if p.isEmpty then some .directory else d.entries.lookup p

/-- A disk with one more entry, at a place where nothing stands. -/
def add (d : Disk) (p : Place) (e : Entry) : Disk := { d with entries := (p, e) :: d.entries }

/-- A disk with another entry at a place. -/
def replace (d : Disk) (p : Place) (e : Entry) : Disk :=
  { d with entries := d.entries.map fun (q, old) => if q = p then (q, e) else (q, old) }

/-! ## Walking a path -/

/-- Goes on from a place by one name. -/
def enter (d : Disk) (p : Place) (name : Text) : Except Fault Place :=
  match d.entry? p with
  | none => .error .missing
  | some .directory =>
    if name.isEmpty || name == Path.here then .ok p
    else if name == Path.above then .ok p.tail
    else if Path.byteCount name > Path.maxName then .error .nameTooLong
    else if (d.entry? (name :: p)).isSome then .ok (name :: p)
    else .error .missing
  | some _ => .error .notDirectory

/-- Where a path starts. -/
def start (d : Disk) (path : Text) : Place := if Path.isAbsolute path then [] else d.workingDir

/-- The place of what stands at a path. A slash at the end asks for a directory. -/
def find (d : Disk) (path : Text) : Except Fault Place := do
  Path.check path
  (Text.splitOn '/' path).foldlM d.enter (d.start path)

/-- Where something new would stand: its directory, its name, and whether a slash follows that. -/
structure Site where
  dir : Place
  name : Text
  slashed : Bool

/-- The site that a path names. Its directory has to exist. -/
def site (d : Disk) (path : Text) : Except Fault Site := do
  Path.check path
  let names := Path.names path
  let dir ← names.dropLast.foldlM d.enter (d.start path)
  match d.entry? dir with
  | some .directory => return ⟨dir, names.getLast?.getD Path.here, path.getLast? == some '/'⟩
  | some _ => throw .notDirectory
  | none => throw .missing

def Site.place (s : Site) : Place := s.name :: s.dir

def Site.isTooLong (s : Site) : Bool := Path.byteCount s.name > Path.maxName

/-! ## Reading -/

/-- What a look at a path tells, if anything stands there. -/
def look (d : Disk) (path : Text) : Option EntryKind :=
  match d.find path with
  | .ok p => (d.entry? p).map Entry.kind
  | .error _ => none

/-- The bytes of a file. -/
def read (d : Disk) (path : Text) : Except Fault (List UInt8) := do
  match d.entry? (← d.find path) with
  | some (.file bytes) => return bytes
  | some .directory => throw .isDirectory
  | some .sink => return []
  | none => throw .missing

/-! ## Making directories -/

/-- Makes a directory inside one that exists. -/
def makeDir (d : Disk) (path : Text) : Except Fault Disk := do
  let s ← d.site path
  if Path.isDots s.name then throw .taken
  if s.isTooLong then throw .nameTooLong
  if (d.entry? s.place).isSome then throw .taken
  return d.add s.place .directory

/-! ## Writing -/

/-- Puts a whole file at a path in one step, provided that nothing stands there. -/
def putNew (d : Disk) (path : Text) (bytes : List UInt8) : Except Fault Disk := do
  if path.contains '\x00' then throw .invalid
  let s ← d.site path
  if Path.isDots s.name then throw .taken
  if s.isTooLong then throw .nameTooLong
  if (d.entry? s.place).isSome then throw .taken
  if s.slashed then throw .notDirectory
  return d.add s.place (.file bytes)

/-- Opens a file for writing: it is made if it is missing, and emptied if it is not to be continued.
The place of the file is what is written to. -/
def openFile (d : Disk) (path : Text) (continued : Bool) : Except Fault (Place × Disk) := do
  let s ← d.site path
  if Path.isDots s.name || s.slashed then throw .isDirectory
  if s.isTooLong then throw .nameTooLong
  match d.entry? s.place with
  | none => return (s.place, d.add s.place (.file []))
  | some .directory => throw .isDirectory
  | some .sink => return (s.place, d)
  | some (.file _) => return (s.place, if continued then d else d.replace s.place (.file []))

/-- Writes at the end of an open file. -/
def append (d : Disk) (p : Place) (bytes : List UInt8) : Disk :=
  match d.entry? p with
  | some (.file old) => d.replace p (.file (old ++ bytes))
  | _ => d

end Disk

end ChatScribe
