import ChatScribe.Html.Arena
import ChatScribe.Html.Vocabulary

/-!
# The state of tree building

The tree of a page is built from its tokens with the help of a stack of open elements, a list of
formatting elements to open again, and an insertion mode that says in which part of the page the
building is. This module holds that state and the operations on it; `ChatScribe.Html.Rules` says what
each token does.
-/

namespace ChatScribe.Html

/-- The part of a page that is being built. -/
inductive Mode
  | initial
  | beforeHtml
  | beforeHead
  | inHead
  | afterHead
  | inBody
  | text
  | inTable
  | inTableText
  | inCaption
  | inColumnGroup
  | inTableBody
  | inRow
  | inCell
  | inSelect
  | inSelectInTable
  | inTemplate
  | afterBody
  | inFrameset
  | afterFrameset
  | afterAfterBody
  | afterAfterFrameset
deriving DecidableEq, Inhabited

/-- An entry in the list of formatting elements: an element with the tag it was made from, or a mark
that the search for formatting elements does not pass. -/
inductive Formatting
  | marker
  | element (id : Nat) (tag : Tag)
deriving Inhabited

/-- The state of tree building. The stack of open elements has the current node in front, the list
of formatting elements the one added last. -/
structure Builder where
  arena : Arena
  stack : List Nat
  formatting : List Formatting
  mode : Mode
  /-- The mode to go back to after literal text. -/
  returnMode : Mode
  templateModes : List Mode
  head? : Option Nat
  form? : Option Nat
  /-- May a frameset still take the place of the body? -/
  framesetOk : Bool
  /-- Does misplaced content go in front of the table? -/
  fostering : Bool
  /-- Is a line feed that comes next dropped? -/
  skipLineFeed : Bool
  /-- The characters read inside of a table, last one first. -/
  tableText : List Char
  quirks : Quirks
  /-- Is this a fragment, whose context is the body of a page? -/
  isFragment : Bool
  /-- What the text at hand is the content of. -/
  content : Content

/-- A step of tree building. -/
abbrev Build := StateM Builder

namespace Build

/-! ## Looking at the stack -/

/-- Namespace and tag of a node. Only elements stand on the stack. -/
def nameOf (id : Nat) : Build Vocabulary.Name :=
  return ((← get).arena.name? id).getD (.html, "")

def isHtml (id : Nat) (tag : String) : Build Bool :=
  return (← nameOf id) == (.html, tag)

def isOneOf (id : Nat) (tags : List String) : Build Bool := do
  let (space, tag) ← nameOf id
  return space == .html && tags.contains tag

/-- The innermost open element. Before the root exists it is the page itself. -/
def current : Build Nat := return (← get).stack.head?.getD 0

def currentIs (tag : String) : Build Bool := do isHtml (← current) tag

def currentIsOneOf (tags : List String) : Build Bool := do isOneOf (← current) tags

/-- The element whose rules apply: the current one, or the context of a fragment that has no open
element but its root. -/
def adjustedName : Build Vocabulary.Name := do
  let b ← get
  if b.isFragment && b.stack.length == 1 then return (.html, "body")
  else nameOf (← current)

/-- Walks the stack outwards: is there an element that satisfies `p` before one that satisfies
`stop`? -/
def findInScope (stop : Vocabulary.Name → Bool) (p : Nat → Vocabulary.Name → Bool) :
    List Nat → Build Bool
  | [] => return false
  | id :: rest => do
    let name ← nameOf id
    if p id name then return true
    else if stop name then return false
    else findInScope stop p rest

def inScope (stop : Vocabulary.Name → Bool) (tag : String) : Build Bool := do
  findInScope stop (fun _ n => n == (.html, tag)) (← get).stack

def anyInScope (stop : Vocabulary.Name → Bool) (tags : List String) : Build Bool := do
  findInScope stop (fun _ n => n.1 == .html && tags.contains n.2) (← get).stack

def idInScope (stop : Vocabulary.Name → Bool) (id : Nat) : Build Bool := do
  findInScope stop (fun other _ => other == id) (← get).stack

/-- Is a template open? -/
def inTemplate : Build Bool := do
  (← get).stack.anyM fun id => isHtml id "template"

/-- The body, if it is open. -/
def body? : Build (Option Nat) := do
  match (← get).stack.reverse with
  | _ :: second :: _ => if ← isHtml second "body" then return some second else return none
  | _ => return none

/-! ## Changing the stack -/

def pushOpen (id : Nat) : Build Unit := modify fun b => { b with stack := id :: b.stack }

def pop : Build Unit := modify fun b => { b with stack := b.stack.tail }

def removeOpen (id : Nat) : Build Unit :=
  modify fun b => { b with stack := b.stack.erase id }

def setMode (m : Mode) : Build Unit := modify fun b => { b with mode := m }

def noFrameset : Build Unit := modify fun b => { b with framesetOk := false }

/-- Pops elements up to and including the first that satisfies `p`. -/
def popThrough (p : Vocabulary.Name → Bool) : List Nat → Build Unit
  | [] => modify fun b => { b with stack := [] }
  | id :: rest => do
    if p (← nameOf id) then modify fun b => { b with stack := rest }
    else popThrough p rest

def popThroughTag (tag : String) : Build Unit := do
  popThrough (fun n => n == (.html, tag)) (← get).stack

def popThroughTags (tags : List String) : Build Unit := do
  popThrough (fun n => n.1 == .html && tags.contains n.2) (← get).stack

/-- Pops elements as long as they satisfy `p`. -/
def popWhile (p : Vocabulary.Name → Bool) : List Nat → Build Unit
  | [] => modify fun b => { b with stack := [] }
  | id :: rest => do
    if p (← nameOf id) then popWhile p rest
    else modify fun b => { b with stack := id :: rest }

/-- Pops elements until one of these is current. -/
def clearStackTo (tags : List String) : Build Unit := do
  popWhile (fun n => !(n.1 == .html && tags.contains n.2)) (← get).stack

/-- Closes the elements at the top whose end tag may be left out. -/
def impliedEnds (tags : List String) : Build Unit := do
  popWhile (fun n => n.1 == .html && tags.contains n.2) (← get).stack

def impliedEndsBut (tag : String) : Build Unit := impliedEnds (Vocabulary.impliedEnd.erase tag)

/-- Closes an open paragraph. -/
def closeParagraph : Build Unit := do
  impliedEndsBut "p"
  popThroughTag "p"

/-- Closes the paragraph that a block cannot stand in. -/
def closeParagraphInScope : Build Unit := do
  if ← inScope Vocabulary.endsButtonScope "p" then closeParagraph

/-! ## Placing nodes -/

/-- Where a node goes. -/
inductive Place
  | lastIn (parent : Nat)
  | before (sibling : Nat)

/-- The node that holds the content of an element: for a template its contents. -/
def holder (id : Nat) : Build Nat := do
  if ← isHtml id "template" then
    return ((← get).arena.children id)[0]?.getD id
  else return id

/-- The place of misplaced content: in front of the innermost table, or in an open template. -/
def fosterPlace : List Nat → Build Place
  | [] => return .lastIn ((← get).stack.getLast?.getD 0)
  | id :: rest => do
    if ← isHtml id "template" then return .lastIn (← holder id)
    else if ← isHtml id "table" then
      if ((← get).arena.parent? id).isSome then return .before id
      else return .lastIn (rest.head?.getD 0)
    else fosterPlace rest

/-- The place for a new node inside of an element. -/
def placeIn (target : Nat) : Build Place := do
  let b ← get
  if b.fostering && (← isOneOf target Vocabulary.fosterParents) then fosterPlace b.stack
  else return .lastIn (← holder target)

def place : Build Place := do placeIn (← current)

def putNode (id : Nat) : Place → Build Unit
  | .lastIn parent => modify fun b => { b with arena := b.arena.append parent id }
  | .before sibling => modify fun b => { b with arena := b.arena.insertBefore sibling id }

def putChar (c : Char) : Place → Build Unit
  | .lastIn parent => modify fun b => { b with arena := b.arena.appendChar parent c }
  | .before sibling => modify fun b => { b with arena := b.arena.insertCharBefore sibling c }

/-- Creates a node that stands nowhere yet. -/
def create (k : Kind) : Build Nat := do
  let b ← get
  let id := b.arena.size
  set { b with arena := b.arena.add k }
  return id

/-- Creates an element. A template gets a node for its contents at once. -/
def createElement (space : Namespace) (tag : Tag) : Build Nat := do
  let id ← create (.element space tag.name tag.attrs)
  if space == .html && tag.name == "template" then
    let contents ← create .contents
    modify fun b => { b with arena := b.arena.append id contents }
  return id

def insertChar (c : Char) : Build Unit := do putChar c (← place)

def insertComment (content : Text) : Build Unit := do
  let id ← create (.comment content)
  putNode id (← place)

/-- Puts a comment behind the last child of a node. -/
def commentIn (parent : Nat) (content : Text) : Build Unit := do
  let id ← create (.comment content)
  putNode id (.lastIn parent)

/-- Inserts an element without opening it. -/
def insertClosed (space : Namespace) (tag : Tag) : Build Nat := do
  let id ← createElement space tag
  putNode id (← place)
  return id

/-- Inserts an element and opens it. -/
def insertOpen (space : Namespace) (tag : Tag) : Build Nat := do
  let id ← insertClosed space tag
  pushOpen id
  return id

def insertHtml (tag : Tag) : Build Unit := do let _ ← insertOpen .html tag

def insertVoid (tag : Tag) : Build Unit := do let _ ← insertClosed .html tag

/-- A tag without attributes. -/
def bare (name : String) : Tag := ⟨name, [], false⟩

/-- Creates the root element of the page and opens it. -/
def createRoot (attrs : List Attribute) : Build Unit := do
  let id ← createElement .html { bare "html" with attrs := attrs }
  pushOpen id
  putNode id (.lastIn 0)

/-- Inserts an element whose content is literal text, and reads that text. -/
def insertLiteral (tag : Tag) (content : Content) : Build Unit := do
  insertHtml tag
  modify fun b => { b with returnMode := b.mode, mode := .text, content := content }

/-! ## Formatting elements -/

/-- The entries since the last marker. -/
def sinceMarker : List Formatting → List (Nat × Tag)
  | [] => []
  | .marker :: _ => []
  | .element id tag :: rest => (id, tag) :: sinceMarker rest

def formattingSinceMarker : Build (List (Nat × Tag)) := return sinceMarker (← get).formatting

def isEntryOf (id : Nat) : Formatting → Bool
  | .element other _ => other == id
  | .marker => false

def isFormatting (id : Nat) : Build Bool := return (← get).formatting.any (isEntryOf id)

def removeFormatting (id : Nat) : Build Unit :=
  modify fun b => { b with formatting := b.formatting.eraseP (isEntryOf id) }

def pushMarker : Build Unit := modify fun b => { b with formatting := .marker :: b.formatting }

/-- Forgets the formatting elements since the last marker, and the marker. -/
def clearToMarker : Build Unit :=
  modify fun b =>
    { b with formatting := (b.formatting.dropWhile fun | .marker => false | _ => true).tail }

/-- Do two tags have the same name and attributes, in any order? -/
def sameTag (s t : Tag) : Bool :=
  s.name == t.name && s.attrs.length == t.attrs.length && s.attrs.all fun a => t.attrs.contains a

/-- Inserts a formatting element. Of elements with the same tag at most three are remembered. -/
def insertFormatting (tag : Tag) : Build Unit := do
  let same := (← formattingSinceMarker).filter fun (_, t) => sameTag t tag
  if 3 ≤ same.length then
    match same.getLast? with
    | some (oldest, _) => removeFormatting oldest
    | none => pure ()
  let id ← insertOpen .html tag
  modify fun b => { b with formatting := .element id tag :: b.formatting }

/-- Opens again the formatting elements that are remembered but not open, outermost first. -/
def reopenFormatting : Build Unit := do
  let b ← get
  let isSettled : Formatting → Bool
    | .marker => true
    | .element id _ => b.stack.contains id
  let lost := b.formatting.takeWhile fun e => !isSettled e
  let kept := b.formatting.dropWhile fun e => !isSettled e
  let mut reopened := kept
  for e in lost.reverse do
    match e with
    | .element _ tag =>
      let id ← insertOpen .html tag
      reopened := .element id tag :: reopened
    | .marker => pure ()
  modify fun b => { b with formatting := reopened }

/-! ## End tags -/

/-- Closes the innermost element of this name, unless a special element stands in between. -/
def closeByName (tag : String) : Build Unit := do
  let rec search : List Nat → Build Unit
    | [] => return ()
    | id :: rest => do
      if ← isHtml id tag then
        impliedEndsBut tag
        modify fun b => { b with stack := rest }
      else if ← isOneOf id Vocabulary.special then return ()
      else search rest
  search (← get).stack

/-- Where the formatting element that is split goes in the list of formatting elements. -/
inductive Bookmark
  | replace
  | after (id : Nat)

/-- Puts an entry right in front of the entry of `id`, that is, as the next younger one. -/
def insertAfterEntry (id : Nat) (entry : Formatting) : List Formatting → List Formatting
  | [] => [entry]
  | e :: rest => if isEntryOf id e then entry :: e :: rest else e :: insertAfterEntry id entry rest

/-- The inner loop of splitting a formatting element. Walks outwards over the elements between the
furthest block and the formatting element, each given as it stands on the stack. An element that is
not remembered, or lies more than three steps out, leaves the stack; any other is replaced by a copy
of itself, into which what was gathered so far moves. -/
def splitInner (block : Nat) : Nat → List Nat → Nat → Bookmark → Build (Nat × Bookmark)
  | _, [], last, mark => return (last, mark)
  | count, node :: rest, last, mark => do
    let entry? := (← get).formatting.find? (isEntryOf node)
    match entry? with
    | some (.element _ tag) =>
      if 3 < count then
        removeFormatting node
        removeOpen node
        splitInner block (count + 1) rest last mark
      else
        let copy ← createElement .html tag
        modify fun b =>
          { b with
            stack := b.stack.map fun id => if id = node then copy else id
            formatting := b.formatting.map fun e =>
              if isEntryOf node e then .element copy tag else e }
        let mark := if last = block then .after copy else mark
        modify fun b => { b with arena := b.arena.append copy last }
        splitInner block (count + 1) rest copy mark
    | _ =>
      removeOpen node
      splitInner block (count + 1) rest last mark

/-- Closes a formatting element that may hold blocks which are still open: up to eight times the
innermost remembered element of this name is split around the outermost special element in it. -/
def adoption (tag : String) : Nat → Build Unit
  | 0 => return ()
  | n + 1 => do
    match (← formattingSinceMarker).find? fun (_, t) => t.name == tag with
    | none => closeByName tag
    | some (id, idTag) =>
      let stack := (← get).stack
      if !stack.contains id then removeFormatting id
      else if !(← idInScope Vocabulary.endsScope id) then return ()
      else
        let inside := stack.takeWhile (· != id)
        let outside := (stack.dropWhile (· != id)).tail
        let blocks ← inside.filterM fun e => isOneOf e Vocabulary.special
        match blocks.getLast? with
        | none =>
          modify fun b => { b with stack := outside }
          removeFormatting id
        | some block =>
          let between := (inside.dropWhile (· != block)).tail
          let (last, mark) ← splitInner block 1 between block .replace
          -- what was gathered moves to where the formatting element stands
          modify fun b => { b with arena := b.arena.detach last }
          putNode last (← placeIn (outside.head?.getD 0))
          let copy ← createElement .html idTag
          modify fun b =>
            { b with arena := (b.arena.moveChildren block copy).append block copy }
          let entry := Formatting.element copy idTag
          match mark with
          | .replace =>
            modify fun b =>
              { b with formatting := b.formatting.map fun e => if isEntryOf id e then entry else e }
          | .after previous =>
            modify fun b => { b with formatting := insertAfterEntry previous entry b.formatting }
            removeFormatting id
          removeOpen id
          modify fun b =>
            { b with
              stack := b.stack.flatMap fun e => if e = block then [copy, block] else [e] }
          adoption tag n

/-- Closes a formatting element by its end tag. -/
def closeFormatting (tag : String) : Build Unit := do
  if (← currentIs tag) && !(← isFormatting (← current)) then pop
  else adoption tag 8

/-! ## The insertion mode of what is open -/

/-- The mode that fits the open elements, innermost first. -/
def modeOf (b : Builder) : List Nat → Mode
  | [] => .inBody
  | id :: rest =>
    let last := rest.isEmpty
    let name? := if last && b.isFragment then some (.html, "body") else b.arena.name? id
    match name? with
    | some (.html, tag) =>
      if tag == "select" then selectMode last rest
      else if tag == "td" || tag == "th" then if last then modeOf b rest else .inCell
      else if tag == "tr" then .inRow
      else if tag == "tbody" || tag == "thead" || tag == "tfoot" then .inTableBody
      else if tag == "caption" then .inCaption
      else if tag == "colgroup" then .inColumnGroup
      else if tag == "table" then .inTable
      else if tag == "template" then b.templateModes.head?.getD .inBody
      else if tag == "head" then if last then modeOf b rest else .inHead
      else if tag == "body" then .inBody
      else if tag == "frameset" then .inFrameset
      else if tag == "html" then if b.head?.isNone then .beforeHead else .afterHead
      else modeOf b rest
    | _ => modeOf b rest
where
  /-- A selection inside of a table has a mode of its own. -/
  selectMode (last : Bool) (outer : List Nat) : Mode :=
    if last then .inSelect
    else
      match outer.find? fun id =>
        b.arena.name? id == some (.html, "template") || b.arena.name? id == some (.html, "table") with
      | some id => if b.arena.name? id == some (.html, "table") then .inSelectInTable else .inSelect
      | none => .inSelect

/-- Goes to the mode that fits the open elements. -/
def resetMode : Build Unit := modify fun b => { b with mode := modeOf b b.stack }

end Build

end ChatScribe.Html
