import ChatScribe.Css.Match
import ChatScribe.Json.Basic

/-!
# The slots of a share page

Where the parts of a conversation stand on a page is said by selectors, one or a list of candidates
for each slot. `SlotTexts` holds them as a user writes them, `Slots` as they are read. A candidate
list is tried in order: the first selector that finds anything wins.
-/

namespace ChatScribe

/-- The parts of a page that selectors describe, in the order in which they are checked. -/
inductive Slot
  | turnContainer
  | userQuery
  | userContent
  | responseContainer
  | responseContent
  | titleHeading
  | publishTime
deriving DecidableEq, Repr

/-- The name of a slot in settings and messages. -/
def Slot.name : Slot → String
  | .turnContainer => "turn_container"
  | .userQuery => "user_query"
  | .userContent => "user_content"
  | .responseContainer => "response_container"
  | .responseContent => "response_content"
  | .titleHeading => "title_heading"
  | .publishTime => "publish_time"

/-- The selectors of a page as texts. -/
structure SlotTexts where
  turnContainer : Text
  userQuery : Text
  userContent : List Text
  responseContainer : Text
  responseContent : List Text
  titleHeading : Text
  publishTime : Text
deriving DecidableEq, Repr

/-- The selectors that fit a share page. Rich content holds uploaded files, so it comes before plain
text. -/
def SlotTexts.standard : SlotTexts where
  turnContainer := "share-turn-viewer".toList
  userQuery := "user-query".toList
  userContent := ["user-query-content".toList, ".query-text".toList]
  responseContainer := "response-container".toList
  responseContent :=
    ["message-content[data-test-id=\"immersive-artifact-content\"]".toList,
      ".markdown.markdown-main-panel".toList]
  titleHeading := "h1".toList
  publishTime := ".publish-time-text".toList

/-- Selectors tried one after the other. -/
abbrev Candidates := List Css.Selector

/-- The element that the first candidate with a find below `l` finds first. -/
def Candidates.firstMatch? (cs : Candidates) (l : Html.Located) : Option Html.Located :=
  cs.findSome? fun sel => sel.firstBelow? l

/-- The selectors of a page, read. -/
structure Slots where
  turnContainer : Css.Selector
  userQuery : Css.Selector
  userContent : Candidates
  responseContainer : Css.Selector
  responseContent : Candidates
  titleHeading : Css.Selector
  publishTime : Css.Selector

/-- A text that is no selector, with the slot it stands in. -/
structure SlotError where
  slot : Slot
  selector : Text
  fault : Css.Fault
deriving DecidableEq, Repr

namespace SlotError

/-- The message with a reason in it. -/
def messageFor (e : SlotError) (reason : Text) : Text :=
  "invalid selector for ".toList ++ e.slot.name.toList ++ " (".toList ++ e.selector ++
    "): ".toList ++ reason

/-- The message, if the fault has a reason that can be told. -/
def message? (e : SlotError) : Option Text := e.fault.reason?.map e.messageFor

end SlotError

namespace SlotTexts

def readOne (slot : Slot) (t : Text) : Except SlotError Css.Selector :=
  match Css.Selector.read t with
  | .ok sel => .ok sel
  | .error f => .error ⟨slot, t, f⟩

def readAll (slot : Slot) (ts : List Text) : Except SlotError Candidates := ts.mapM (readOne slot)

/-- Reads the selectors slot by slot. The first that cannot be read is the error. -/
def read (s : SlotTexts) : Except SlotError Slots := do
  let turnContainer ← readOne .turnContainer s.turnContainer
  let userQuery ← readOne .userQuery s.userQuery
  let userContent ← readAll .userContent s.userContent
  let responseContainer ← readOne .responseContainer s.responseContainer
  let responseContent ← readAll .responseContent s.responseContent
  let titleHeading ← readOne .titleHeading s.titleHeading
  let publishTime ← readOne .publishTime s.publishTime
  return ⟨turnContainer, userQuery, userContent, responseContainer, responseContent, titleHeading,
    publishTime⟩

/-! ## JSON -/

def toJson (s : SlotTexts) : Json :=
  let list (ts : List Text) : Json := .arr (ts.map .ofText)
  .object [(Slot.name .turnContainer, .ofText s.turnContainer),
    (Slot.name .userQuery, .ofText s.userQuery),
    (Slot.name .userContent, list s.userContent),
    (Slot.name .responseContainer, .ofText s.responseContainer),
    (Slot.name .responseContent, list s.responseContent),
    (Slot.name .titleHeading, .ofText s.titleHeading),
    (Slot.name .publishTime, .ofText s.publishTime)]

/-- Reads selectors from values that are looked up by slot. A slot without a value keeps its standard
selectors; a value of another form than the slot has makes the whole unreadable. -/
def ofLookup? (lookup : Slot → Option Json) : Option SlotTexts := do
  let one (slot : Slot) (standard : Text) : Option Text :=
    match lookup slot with
    | none => some standard
    | some v => v.text?
  let many (slot : Slot) (standard : List Text) : Option (List Text) :=
    match lookup slot with
    | none => some standard
    | some v => v.elements?.bind fun vs => vs.mapM Json.text?
  return {
    turnContainer := ← one .turnContainer standard.turnContainer
    userQuery := ← one .userQuery standard.userQuery
    userContent := ← many .userContent standard.userContent
    responseContainer := ← one .responseContainer standard.responseContainer
    responseContent := ← many .responseContent standard.responseContent
    titleHeading := ← one .titleHeading standard.titleHeading
    publishTime := ← one .publishTime standard.publishTime }

def slotOrder : List Slot :=
  [.turnContainer, .userQuery, .userContent, .responseContainer, .responseContent, .titleHeading,
    .publishTime]

/-- Reads selectors from an object with the names of slots, or from an array in their order. Members
with other names are passed over, and an array may not be longer than the list of slots. -/
def ofJson? (v : Json) : Option SlotTexts :=
  match v with
  | .obj _ => ofLookup? fun slot => v.member? slot.name
  | .arr vs =>
    if slotOrder.length < vs.length then none
    else ofLookup? fun slot => (slotOrder.idxOf? slot).bind fun i => vs[i]?
  | _ => none

end SlotTexts

end ChatScribe
