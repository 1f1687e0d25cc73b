import ChatScribe.Text.Basic

/-!
# The command line

What a user asks for: `download`, `copy` or `render`, the page and its address, and a settings file. An
option is written `--name value` or `--name=value`, and each may stand once. The settings file may be
named in front of the command or behind it; behind it counts.
-/

namespace ChatScribe

/-- What the program is asked to do. -/
inductive Command
  | download (out? : Option Text)
  | copy
  | render (json : Bool)
deriving DecidableEq, Repr

structure Invocation where
  settings? : Option Text
  page : Text
  url : Text
  command : Command
deriving DecidableEq, Repr

/-- Why a command line is not carried out. -/
inductive UsageError
  /-- Nothing is asked for at all. -/
  | empty
  | missingCommand
  | unknownCommand
  | missingOption
  | unknownArgument
  /-- A value is missing or must not be empty. -/
  | badValue
  | repeated
  /-- A flag has a value. -/
  | flagWithValue
  | help
  | version
deriving DecidableEq, Repr

def UsageError.message : UsageError → Text
  | .empty | .missingCommand => "a command is required".toList
  | .unknownCommand => "unknown command".toList
  | .missingOption => "--page and --url are required".toList
  | .unknownArgument => "unexpected argument".toList
  | .badValue => "an option needs a value".toList
  | .repeated => "an option can stand only once".toList
  | .flagWithValue => "a flag takes no value".toList
  | .help | .version => []

namespace CommandLine

/-- What may be written in front of the command, or behind one. -/
structure Level where
  /-- The options with a value. -/
  options : List String
  flags : List String
  commands : List String
  hasVersion : Bool

def commandNames : List String := ["download", "copy", "render", "help"]

def topLevel : Level := ⟨["config"], [], commandNames, true⟩

/-- The options and flags behind a command. -/
def levelOf? (command : String) : Option Level :=
  match command with
  | "download" => some ⟨["config", "page", "url", "out"], [], [], false⟩
  | "copy" => some ⟨["config", "page", "url"], [], [], false⟩
  | "render" => some ⟨["config", "page", "url"], ["json"], [], false⟩
  | _ => none

/-- What has been read of a level. -/
structure Found where
  values : List (String × Text)
  flags : List String

def Found.none : Found := ⟨[], []⟩

def Found.value? (f : Found) (option : String) : Option Text :=
  (f.values.find? fun (o, _) => o == option).map Prod.snd

/-- The one option whose value may be empty. -/
def mayBeEmpty (option : String) : Bool := option == "url"

/-- Gives an option its value. -/
def Found.give (f : Found) (option : String) (value : Text) : Except UsageError Found :=
  if (f.value? option).isSome then .error .repeated
  else if value.isEmpty && !mayBeEmpty option then .error .badValue
  else .ok { f with values := f.values ++ [(option, value)] }

def Found.raise (f : Found) (flag : String) : Except UsageError Found :=
  if f.flags.contains flag then .error .repeated else .ok { f with flags := flag :: f.flags }

/-- The error of a word that is no option and belongs to none. -/
def Level.stray (lv : Level) : UsageError :=
  if lv.commands.isEmpty then .unknownArgument else .unknownCommand

/-- The error of a word behind two hyphens, which end the options. -/
def Level.strayBehindEnd (lv : Level) (word : Text) : UsageError :=
  if lv.commands.contains (String.ofList word) then .unknownArgument else lv.stray

/-- An option that waits for its value does not get it. -/
def settle (pending? : Option String) : Except UsageError Unit :=
  if pending?.isSome then .error .badValue else .ok ()

/-- Reads a word that starts with two hyphens: what has been found with it, and the option that waits
for its value. -/
def Level.long (lv : Level) (f : Found) (pending? : Option String) (word : Text) :
    Except UsageError (Found × Option String) := do
  let (name, value?) := match Text.splitOnce '=' word with
    | some (name, value) => (String.ofList name, some value)
    | none => (String.ofList word, none)
  let isFlag := lv.flags.contains name
  let isHelp := name == "help"
  let isVersion := lv.hasVersion && name == "version"
  if lv.options.contains name then
    settle pending?
    match value? with
    | some value => return (← f.give name value, none)
    | none => return (f, some name)
  else if isFlag || isHelp || isVersion then
    if value?.isSome then throw .flagWithValue
    settle pending?
    if isHelp then throw .help
    if isVersion then throw .version
    return (← f.raise name, none)
  else throw .unknownArgument

/-- Reads a word that starts with one hyphen. There are only two of them. -/
def Level.short (lv : Level) (pending? : Option String) (c : Char) : UsageError :=
  if c = 'h' then if pending?.isSome then .badValue else .help
  else if c = 'V' && lv.hasVersion then if pending?.isSome then .badValue else .version
  else .unknownArgument

/-- Reads words up to a command or to the end. -/
def Level.read (lv : Level) (f : Found) (pending? : Option String) :
    List Text → Except UsageError (Found × Option (String × List Text))
  | [] => do
    settle pending?
    return (f, none)
  | word :: rest =>
    if pending?.isNone && lv.commands.contains (String.ofList word) then
      .ok (f, some (String.ofList word, rest))
    else
      match word with
      | ['-', '-'] =>
        match rest with
        | stray :: _ => .error (lv.strayBehindEnd stray)
        | [] => do
          settle pending?
          return (f, none)
      | '-' :: '-' :: name => do
        let (f, pending?) ← lv.long f pending? name
        lv.read f pending? rest
      | '-' :: c :: _ => .error (lv.short pending? c)
      | value =>
        match pending? with
        | some option => do
          let f ← f.give option value
          lv.read f none rest
        | none => .error lv.stray

/-- The words behind the help command name a command. -/
def helpError : List Text → UsageError
  | [] => .help
  | [word] => if commandNames.contains (String.ofList word) then .help else .unknownCommand
  | _ => .unknownCommand

/-- What has been found behind a command, as an invocation. -/
def invocation (outer : Found) (command : String) (f : Found) : Except UsageError Invocation :=
  match f.value? "page", f.value? "url" with
  | some page, some url =>
    let settings? := (f.value? "config").or (outer.value? "config")
    let command : Command := match command with
      | "download" => .download (f.value? "out")
      | "copy" => .copy
      | _ => .render (f.flags.contains "json")
    .ok ⟨settings?, page, url, command⟩
  | _, _ => .error .missingOption

/-- Reads a command line, without the name of the program. -/
def read (words : List Text) : Except UsageError Invocation := do
  match ← topLevel.read Found.none none words with
  | (outer, none) => throw (if outer.values.isEmpty then .empty else .missingCommand)
  | (outer, some (command, rest)) =>
    match levelOf? command with
    | none => throw (helpError rest)
    | some lv =>
      match ← lv.read Found.none none rest with
      | (f, _) => invocation outer command f

def version : Text := "gemini-transcript 0.1.0".toList

def help : Text := Text.unlines (
  ["Export a saved Gemini share page as a Markdown transcript",
    "",
    "Usage: gemini-transcript [OPTIONS] <COMMAND>",
    "",
    "Commands:",
    "  download  Save the transcript as a timestamped .md file",
    "  copy      Put the transcript on the system clipboard",
    "  render    Print the transcript to stdout",
    "  help      Print this message or the help of the given subcommand(s)",
    "",
    "Options:",
    "      --config <FILE>  RON settings file. Defaults to ./transcript.ron when it exists",
    "  -h, --help           Print help",
    "  -V, --version        Print version"].map String.toList)

end CommandLine

end ChatScribe
