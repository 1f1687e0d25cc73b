import ChatScribe.Page.Slots
import ChatScribe.Settings.Notation

/-!
# Settings

Where files go, what is logged and where, which program fills the clipboard, and the selectors of a
page. Every setting may be left out.
-/

namespace ChatScribe

/-- Where log records go. -/
inductive LogTarget
  | file
  | terminal
  | both
deriving DecidableEq, Repr

/-- How much is logged: records up to this level. -/
inductive LogLevel
  | off
  | error
  | warn
  | info
  | debug
  | trace
deriving DecidableEq, Repr

namespace LogLevel

def name : LogLevel → String
  | .off => "OFF"
  | .error => "ERROR"
  | .warn => "WARN"
  | .info => "INFO"
  | .debug => "DEBUG"
  | .trace => "TRACE"

def all : List LogLevel := [.off, .error, .warn, .info, .debug, .trace]

/-- The place of a level in the order of detail. -/
def rank (l : LogLevel) : Nat := all.idxOf l

/-- The level with a name, in any letter case. -/
def ofName? (t : Text) : Option LogLevel :=
  all.find? fun l => Text.eqIgnoreCase t l.name.toList

end LogLevel

structure Settings where
  outputDir : Text
  logTarget : LogTarget
  /-- The level as it is written. -/
  logLevel : Text
  logFile : Text
  /-- A program and its arguments. It is given the Markdown as its input. -/
  clipboard : List Text
  slots : SlotTexts
deriving DecidableEq, Repr

/-- What is wrong with a settings text. -/
inductive SettingsError
  | malformed
  | unknownLevel (written : Text)
  | slots (e : SlotError)
deriving DecidableEq, Repr

namespace Settings

def standard : Settings where
  outputDir := ['.']
  logTarget := .terminal
  logLevel := "warn".toList
  logFile := "transcript.log".toList
  clipboard := ["xclip".toList, "-selection".toList, "clipboard".toList]
  slots := SlotTexts.standard

/-- The level that the settings name. -/
def level? (s : Settings) : Option LogLevel := LogLevel.ofName? (Text.trim s.logLevel)

def logTarget? : Value → Option LogTarget
  | .name n =>
    match String.ofList n with
    | "File" => some .file
    | "Terminal" => some .terminal
    | "Both" => some .both
    | _ => none
  | _ => none

def slotTexts? (h : Header) (v : Value) : Option SlotTexts := do
  let ms ← v.members? h "PageSelectors"
  let one (slot : Slot) (standard : Text) := Value.member? ms slot.name standard Value.text?
  let many (slot : Slot) (standard : List Text) := Value.member? ms slot.name standard Value.texts?
  let std := SlotTexts.standard
  return {
    turnContainer := ← one .turnContainer std.turnContainer
    userQuery := ← one .userQuery std.userQuery
    userContent := ← many .userContent std.userContent
    responseContainer := ← one .responseContainer std.responseContainer
    responseContent := ← many .responseContent std.responseContent
    titleHeading := ← one .titleHeading std.titleHeading
    publishTime := ← one .publishTime std.publishTime }

def ofValue? (h : Header) (v : Value) : Option Settings := do
  let ms ← v.members? h "AppConfig"
  let std := standard
  return {
    outputDir := ← Value.member? ms "output_dir" std.outputDir Value.text?
    logTarget := ← Value.member? ms "log_destination" std.logTarget logTarget?
    logLevel := ← Value.member? ms "log_level" std.logLevel Value.text?
    logFile := ← Value.member? ms "log_file" std.logFile Value.text?
    clipboard := ← Value.member? ms "clipboard_command" std.clipboard Value.texts?
    slots := ← Value.member? ms "selectors" std.slots (slotTexts? h) }

/-- Reads a settings text. The level is looked at before the selectors. -/
def read (t : Text) : Except SettingsError Settings :=
  match (Value.read? t).bind fun (h, v) => ofValue? h v with
  | none => .error .malformed
  | some s =>
    if s.level?.isNone then .error (.unknownLevel s.logLevel)
    else
      match s.slots.read with
      | .error e => .error (.slots e)
      | .ok _ => .ok s

/-- What a message says of an unknown level. -/
def levelMessage (written : Text) : Text := "unknown log level ".toList ++ Text.quoted written

end Settings

end ChatScribe
