import ChatScribe.Clipboard
import ChatScribe.CommandLine
import ChatScribe.Saving
import ChatScribe.Session

/-!
# A run of the program

From a command line to an exit code. A run reads its settings and its page; then it either drives a
session until nothing is left to do, or prints the document.
-/

namespace ChatScribe

/-- How a run ends. -/
inductive Exit
  | success
  | failure
  /-- The command line could not be read. -/
  | usage
deriving DecidableEq, Repr

def Exit.code : Exit → UInt32
  | .success => 0
  | .failure => 1
  | .usage => 2

/-- What stops a run before it has a page to work on. -/
inductive Obstacle
  | settingsUnread (path : Text) (fault : Fault)
  | badSettings (path : Text) (e : SettingsError)
  | pageUnread (path : Text) (fault : Fault)
  | pageMalformed (path : Text) (e : Charset.Malformed)
deriving DecidableEq, Repr

namespace Obstacle

/-- What is said of a settings file that is not written in the notation. -/
def malformedSettings : Text := "not a settings file".toList

/-- What is said of a selector when the reason cannot be told. -/
def unknownReason : Text := "Unexpected error occurred".toList

def message : Obstacle → Text
  | .settingsUnread path f => "failed to read config ".toList ++ path ++ ": ".toList ++ f.message
  | .badSettings path .malformed =>
    "failed to parse config ".toList ++ path ++ ": ".toList ++ malformedSettings
  | .badSettings _ (.unknownLevel written) => Settings.levelMessage written
  | .badSettings path (.slots e) =>
    "invalid selectors in ".toList ++ path ++ ": ".toList ++
      (e.message?.getD (e.messageFor unknownReason))
  | .pageUnread path f => "failed to read ".toList ++ path ++ ": ".toList ++ f.message
  | .pageMalformed path e => "failed to decode ".toList ++ path ++ ": ".toList ++ e.message

end Obstacle

namespace Run

variable {m : Type → Type} [Monad m]

/-! ## Reading settings and page -/

/-- The settings file that is read when none is named. It need not exist. -/
def standardFile : Text := "transcript.ron".toList

/-- The settings in the bytes of a file. -/
def settingsOf (path : Text) (bytes : List UInt8) : Except Obstacle Settings :=
  match Utf8.decode? bytes with
  | none => .error (.settingsUnread path .notText)
  | some t => (Settings.read t).mapError (.badSettings path)

def readSettings (host : Host m) (path? : Option Text) : m (Except Obstacle Settings) := do
  let path := path?.getD standardFile
  match ← host.readFile path with
  | .ok bytes => return settingsOf path bytes
  | .error .missing =>
    return if path?.isSome then .error (.settingsUnread path .missing) else .ok Settings.standard
  | .error f => return .error (.settingsUnread path f)

/-- Reads a page from a file, in whatever charset it was saved. -/
def readPage (host : Host m) (j : Journal) (path url : Text) : m (Except Obstacle Page) := do
  match ← host.readFile path with
  | .error f => return .error (.pageUnread path f)
  | .ok bytes =>
    match Charset.read bytes none with
    | .error e => return .error (.pageMalformed path e)
    | .ok r =>
      j.write host (r.record bytes.length)
      j.write host ⟨.info, .effects, "loaded ".toList ++ path ++ " (".toList ++
        Text.ofNat bytes.length ++ " bytes, ".toList ++ r.charset.name.toList ++ [')']⟩
      return .ok (Page.ofText r.text url)

/-! ## Effects -/

/-- What the effects of a session work with. -/
structure Desk where
  page : Page
  slots : Slots
  outputDir : Text
  clipboard : List Text

/-- Exports the page, and logs what there is to tell of it. -/
def exportPage (host : Host m) (j : Journal) (desk : Desk) :
    m (Except Page.ExportError Text) := do
  j.writeAll host (desk.page.exportRecords desk.slots)
  return desk.page.exportMarkdown desk.slots

/-- Saves a document under a name that tells its title and the time. -/
def save (host : Host m) (j : Journal) (desk : Desk) (content : Text) : m (Except Text Text) := do
  let name := FileName.ofDocument content (← host.now)
  match ← Saving.save host desk.outputDir name content with
  | .ok saved =>
    let path := Path.join desk.outputDir saved
    j.write host ⟨.debug, .saving, "saved ".toList ++ Text.ofNat (Path.byteCount content) ++
      " bytes to ".toList ++ Text.quoted path⟩
    j.write host ⟨.info, .effects, "saved transcript to ".toList ++ path⟩
    return .ok saved
  | .error e =>
    j.write host ⟨.error, .effects, "Download failed: ".toList ++ e.fullMessage⟩
    return .error e.fullMessage

def copy (host : Host m) (j : Journal) (desk : Desk) (content : Text) : m (Except Text Text) := do
  match ← Clipboard.copy host desk.clipboard content with
  | .ok () => return .ok []
  | .error e =>
    j.write host ⟨.error, .effects, "Copy failed: ".toList ++ e.message⟩
    return .error e.message

/-- Carries out an effect. The event is what the session has to be told of it. -/
def perform (host : Host m) (j : Journal) (desk : Desk) : Session.Effect → m Session.Event
  | .convert => return .converted (← exportPage host j desk).toOption
  | .save content => return .transferred .download (← save host j desk content)
  | .copy content => return .transferred .copy (← copy host j desk content)

/-! ## Sessions -/

/-- Shows the session, if what is shown has changed. -/
def refresh (host : Host m) (s : Session) : m Session := do
  let (dirty, s) := s.look
  if dirty then s.shown?.forM host.tell
  return s

/-- Tells a session of events one after the other, and of those that its effects lead to, at most so
many of them. -/
def drive (host : Host m) (j : Journal) (desk : Desk) :
    (limit : Nat) → Session → List Session.Event → m Session
  | 0, s, _ => return s
  | _ + 1, s, [] => return s
  | limit + 1, s, e :: later => do
    let (s, effects) := s.update e
    let s ← refresh host s
    let answers ← effects.mapM (perform host j desk)
    drive host j desk limit s (later ++ answers)

/-- An action is asked for, the page is converted, the document is handed over: these are the events of
a session, and no further one follows. -/
def maxEvents : Nat := 3

/-- The exit of a session that is over. -/
def exitOf (s : Session) : Exit :=
  match s.status? with
  | some ⟨.error, _⟩ => .failure
  | _ => .success

/-- Runs an action on the page of a desk. -/
def act (host : Host m) (j : Journal) (desk : Desk) (action : Action) : m Exit := do
  let s ← drive host j desk maxEvents Session.initial [.requested action desk.page.url]
  return exitOf s

/-! ## Printing -/

/-- Prints the document of a page, or the answer to a request for it. -/
def render (host : Host m) (j : Journal) (desk : Desk) (path : Text) (json : Bool) : m Exit := do
  let nothing := "nothing to render from ".toList ++ path
  match ← exportPage host j desk with
  | .error e =>
    if json then
      j.write host ⟨.warn, .program, nothing⟩
      finish (Response.render ⟨none⟩)
    else
      j.write host ⟨.warn, .program, nothing ++ ": ".toList ++ e.message⟩
      host.tell (Session.line Session.noMarkdown)
      return .failure
  | .ok markdown => finish (if json then Response.render ⟨some markdown⟩ else markdown)
where
  finish (output : Text) : m Exit := do
    host.print output
    j.write host ⟨.info, .program, "rendered ".toList ++ Text.ofNat (Path.byteCount output) ++
      " bytes".toList⟩
    return .success

/-! ## The whole run -/

/-- Carries out what is asked for. -/
def carryOut (host : Host m) (i : Invocation) : m (Except Obstacle Exit) := do
  match ← readSettings host i.settings? with
  | .error o => return .error o
  | .ok settings =>
    let j ← Journal.start host settings.logTarget (settings.level?.getD .off) settings.logFile
    match settings.slots.read with
    | .error e => return .error (.badSettings (i.settings?.getD standardFile) (.slots e))
    | .ok slots =>
      match ← readPage host j i.page i.url with
      | .error o => return .error o
      | .ok page =>
        let desk : Desk := ⟨page, slots, settings.outputDir, settings.clipboard⟩
        match i.command with
        | .download out? =>
          .ok <$> act host j { desk with outputDir := out?.getD desk.outputDir } .download
        | .copy => .ok <$> act host j desk .copy
        | .render json => .ok <$> render host j desk i.page json

/-- Runs the program on the words of a command line. -/
def run (host : Host m) (words : List Text) : m Exit := do
  match CommandLine.read words with
  | .error .help =>
    host.print CommandLine.help
    return .success
  | .error .version =>
    host.print CommandLine.version
    return .success
  | .error e =>
    host.tell ("error: ".toList ++ e.message)
    return .usage
  | .ok i =>
    match ← carryOut host i with
    | .ok exit => return exit
    | .error o =>
      host.tell ("error: ".toList ++ o.message)
      return .failure

end Run

end ChatScribe
