import ChatScribe.Run
import Std.Time.Zoned

/-!
# The program

The host of a real system, and the entry point that runs on it. There is no way here to start another
program, so a copy ends with the fault that says so.
-/

namespace ChatScribe

namespace Main

/-- The number that the system gives for an error. Some operations give it with its sign changed. -/
def errorNumber (e : IO.Error) : Nat :=
  let size (n : UInt32) : Nat := min n.toNat (UInt32.size - n.toNat)
  match e with
  | .alreadyExists _ n _ | .otherError n _ | .resourceBusy n _ | .resourceVanished n _
  | .unsupportedOperation n _ | .hardwareFault n _ | .unsatisfiedConstraints n _
  | .illegalOperation n _ | .protocolError n _ | .timeExpired n _ | .interrupted _ n _
  | .noFileOrDirectory _ n _ | .invalidArgument _ n _ | .permissionDenied _ n _
  | .resourceExhausted _ n _ | .inappropriateType _ n _ | .noSuchThing _ n _ => size n
  | .unexpectedEof | .userError _ => 0

def faultOf (e : IO.Error) : Fault :=
  match errorNumber e with
  | 2 => .missing
  | 13 => .denied
  | 17 => .taken
  | 20 => .notDirectory
  | 21 => .isDirectory
  | 22 => .invalid
  | 36 => .nameTooLong
  | _ => .other (toString e).toList

def attempt {α : Type} (act : IO α) : IO (Except Fault α) := do
  try
    return .ok (← act)
  catch e => return .error (faultOf e)

/-- What stands at a path. A path that leads nowhere has no real one. -/
def look (path : Text) : IO (Option EntryKind) := do
  try
    let place ← IO.FS.realPath (String.ofList path)
    if ← place.isDir then return some .directory
    return if ← place.pathExists then some .file else none
  catch _ => return none

/-- Writes the file beside its target first, and then gives it the name. A link is made only where
nothing stands. -/
def putNew (dir name content : Text) : IO Unit := do
  let draft := String.ofList (Path.join dir (".tmp".toList ++ Text.ofNat (← IO.rand 0 999999999)))
  let file ← IO.FS.Handle.mk draft .writeNew
  try
    file.putStr (String.ofList content)
    file.flush
    IO.FS.hardLink draft (String.ofList (Path.join dir name))
  finally
    IO.FS.removeFile draft

def momentOf (t : Std.Time.PlainDateTime) : Moment where
  year := t.date.year.toInt
  month := t.date.month.val.toNat
  day := t.date.day.val.toNat
  hour := t.time.hour.val.toNat
  minute := t.time.minute.val.toNat
  second := t.time.second.val.toNat

/-- The time in front of a log record, in universal time. -/
def recordTime : IO String := do
  let t := Std.Time.PlainDateTime.ofWallTime
    (Std.Time.WallTime.ofTimestamp (← Std.Time.Timestamp.now) Std.Time.TimeZone.Offset.zero)
  let m := momentOf t
  let two (n : Nat) : Text := Moment.padded 2 n
  return String.ofList (Moment.yearText m.year ++ '-' :: two m.month ++ '-' :: two m.day ++
    'T' :: two m.hour ++ ':' :: two m.minute ++ ':' :: two m.second ++
    '.' :: Moment.padded 9 t.time.nanosecond.val.toNat ++ ['Z'])

/-- The host of this system. Log records go to a file that is opened at most once. -/
def host (log : IO.Ref (Option IO.FS.Handle)) : Host IO where
  readFile path := attempt do return (← IO.FS.readBinFile (String.ofList path)).toList
  look := look
  makeDir path := attempt (IO.FS.createDir (String.ofList path))
  putNew dir name content := attempt (putNew dir name content)
  launch _ _ _ := return .notStarted (.other (Fault.numbered "Function not implemented" 38))
  now := return momentOf (← Std.Time.PlainDateTime.now)
  openLog path := attempt do
    log.set (some (← IO.FS.Handle.mk (String.ofList path) .write))
  record sink r := do
    let line := (← recordTime) ++ " " ++ String.ofList r.line
    match sink with
    | .terminal => IO.eprintln line
    | .file =>
      match ← log.get with
      | some file =>
        file.putStrLn line
        file.flush
      | none => return ()
  print text := IO.println (String.ofList text)
  tell line := IO.eprintln (String.ofList line)

end Main

end ChatScribe

def main (words : List String) : IO UInt32 := do
  let log ← IO.mkRef none
  let exit ← ChatScribe.Run.run (ChatScribe.Main.host log) (words.map String.toList)
  return exit.code
