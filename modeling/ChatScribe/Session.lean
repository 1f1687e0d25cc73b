import ChatScribe.Url.Share

/-!
# The session

The state behind the download and copy actions. An event changes the state and may ask for an effect,
whose outcome comes back as another event. At most one action is pending at a time, and events that do
not belong to it change nothing.
-/

namespace ChatScribe

/-- What a user can ask for. -/
inductive Action
  | download
  | copy
deriving DecidableEq, Repr

inductive StatusKind
  | success
  | error
  | info
deriving DecidableEq, Repr

/-- The one line that says how the last action went. -/
structure Status where
  kind : StatusKind
  text : Text
deriving DecidableEq, Repr

/-- The state of a session. `dirty` says that what is shown has changed since it was last looked at. -/
structure Session where
  pending? : Option Action
  status? : Option Status
  dirty : Bool
deriving DecidableEq, Repr

namespace Session

def initial : Session := ⟨none, none, false⟩

/-- What can happen to a session. -/
inductive Event
  /-- An action is asked for while a page is open. -/
  | requested (action : Action) (url : Text)
  /-- The page has been converted, or has nothing to convert. -/
  | converted (markdown? : Option Text)
  /-- The file is saved or the clipboard filled, with the name of the file; or it failed, with the
  reason. -/
  | transferred (action : Action) (result : Except Text Text)
  | nothing

/-- What a session asks its surroundings to do. -/
inductive Effect
  | convert
  | save (markdown : Text)
  | copy (markdown : Text)
deriving DecidableEq, Repr

/-- The effect that hands the Markdown over for an action. -/
def transfer (action : Action) (markdown : Text) : Effect :=
  match action with
  | .download => .save markdown
  | .copy => .copy markdown

/-- The status that the outcome of a transfer leaves. -/
def outcome (action : Action) (result : Except Text Text) : Status :=
  match action, result with
  | .download, .ok name => ⟨.success, "Markdown file downloaded: ".toList ++ name⟩
  | .download, .error reason => ⟨.error, "Download failed: ".toList ++ reason⟩
  | .copy, .ok _ => ⟨.success, "Markdown copied to clipboard.".toList⟩
  | .copy, .error _ => ⟨.error, "Copy failed, please try again.".toList⟩

def notSharePage : Status := ⟨.info, "Please open a Gemini share page.".toList⟩

def noMarkdown : Status := ⟨.error, "Failed to get Markdown content.".toList⟩

def begin (_ : Session) (action : Action) : Session := ⟨some action, none, true⟩

def setStatus (s : Session) (status : Status) : Session :=
  { s with status? := some status, dirty := true }

/-- The pending action is over. -/
def finish (s : Session) (status : Status) : Session := { s with pending? := none }.setStatus status

/-- What an event does to a session. -/
def update (s : Session) : Event → Session × List Effect
  | .requested action url =>
    if s.pending?.isSome then (s, [])
    else if Url.isSharePage url then (s.begin action, [.convert])
    else (s.setStatus notSharePage, [])
  | .converted markdown? =>
    match s.pending? with
    | none => (s, [])
    | some action =>
      match markdown?.filter fun t => !Text.isBlank t with
      | some markdown => (s, [transfer action markdown])
      | none => (s.finish noMarkdown, [])
  | .transferred action result =>
    if s.pending? = some action then (s.finish (outcome action result), []) else (s, [])
  | .nothing => (s, [])

/-- Has what is shown changed since the last look? Looking resets that. -/
def look (s : Session) : Bool × Session := (s.dirty, { s with dirty := false })

/-! ## What is shown -/

def StatusKind.tag : StatusKind → Text
  | .success => "ok".toList
  | .error => "error".toList
  | .info => "info".toList

/-- A status as a line. -/
def line (status : Status) : Text :=
  '[' :: StatusKind.tag status.kind ++ "] ".toList ++ status.text

/-- The line that is shown. While an action is pending there is none. -/
def shown? (s : Session) : Option Text :=
  if s.pending?.isSome then none else s.status?.map line

end Session

end ChatScribe
