import ChatScribe.Disk.Fault
import ChatScribe.Text.Utf8

/-!
# Paths

A path is a text of names with slashes between them. It starts at the root of the file system if a
slash stands in front, and otherwise at the working directory.
-/

namespace ChatScribe.Path

def isAbsolute (path : Text) : Bool := path.head? == some '/'

/-- The path of something inside a directory. An absolute path stays what it is. -/
def join (dir path : Text) : Text :=
  if isAbsolute path || dir.isEmpty then path
  else if dir.getLast? == some '/' then dir ++ path
  else dir ++ '/' :: path

/-- The names of a path, without the empty ones between two slashes. -/
def names (path : Text) : List Text := (Text.splitOn '/' path).filter fun n => !n.isEmpty

def here : Text := ['.']

def above : Text := ['.', '.']

/-- The two names that every directory has for itself and for the one around it. -/
def isDots (name : Text) : Bool := name == here || name == above

/-- The most bytes that a name may have. -/
def maxName : Nat := 255

/-- The most bytes that a path may have. -/
def maxPath : Nat := 4095

def byteCount (t : Text) : Nat := (Utf8.encode t).length

/-- What is wrong with a path wherever it leads. -/
def check (path : Text) : Except Fault Unit :=
  if path.contains '\x00' then .error .nulInPath
  else if path.isEmpty then .error .missing
  else if byteCount path > maxPath then .error .nameTooLong
  else .ok ()

/-- A path, and behind it the paths of the directories around it, from the inside out. The last of
them lies in the directory that the path starts from. -/
def chain (path : Text) : List Text :=
  let root : Text := if isAbsolute path then ['/'] else []
  let names := (names path).filter (· != here)
  let around := ((List.range names.length).drop 1).map fun n => root ++ Text.join ['/'] (names.take n)
  path :: around.reverse

end ChatScribe.Path
