import ChatScribe.Html.Tree

/-!
# Trees under construction

While a page is read, nodes move: content that cannot stand in a table goes in front of it, and
formatting left open is opened again elsewhere. So the tree is built in an arena, where a node is a
number and its place is known from both ends, and becomes a `Node` when it is finished.

Neighbouring text is one node, as far as it is appended.
-/

namespace ChatScribe.Html

/-- What stands at a number of an arena. -/
inductive Kind
  | root
  /-- A text, last character first. -/
  | text (backwards : Text)
  | comment (content : Text)
  | doctype (name : Text)
  | contents
  | element (space : Namespace) (tag : String) (attrs : List Attribute)
deriving Inhabited

structure Entry where
  kind : Kind
  parent? : Option Nat
  children : Array Nat
deriving Inhabited

/-- The nodes created so far, in the order of their creation. Number zero is the root. -/
abbrev Arena := Array Entry

namespace Arena

/-- An arena with nothing but a root. -/
def initial : Arena := #[⟨.root, none, #[]⟩]

def kind (a : Arena) (id : Nat) : Kind := (a[id]?.map Entry.kind).getD .root

def parent? (a : Arena) (id : Nat) : Option Nat := a[id]?.bind Entry.parent?

def children (a : Arena) (id : Nat) : Array Nat := (a[id]?.map Entry.children).getD #[]

/-- Namespace and tag of an element. -/
def name? (a : Arena) (id : Nat) : Option (Namespace × String) :=
  match a.kind id with
  | .element space tag _ => some (space, tag)
  | _ => none

/-- Adds a node that stands nowhere yet. Its number is the size of the arena. -/
def add (a : Arena) (k : Kind) : Arena := a.push ⟨k, none, #[]⟩

/-- Takes a node out of its place. -/
def detach (a : Arena) (id : Nat) : Arena :=
  match a.parent? id with
  | none => a
  | some p =>
    let a := a.modify p fun e => { e with children := e.children.filter (· != id) }
    a.modify id fun e => { e with parent? := none }

/-- Puts a node behind the last child of another. -/
def append (a : Arena) (parent id : Nat) : Arena :=
  let a := a.detach id
  let a := a.modify id fun e => { e with parent? := some parent }
  a.modify parent fun e => { e with children := e.children.push id }

/-- Puts a node in front of another that has a parent. -/
def insertBefore (a : Arena) (sibling id : Nat) : Arena :=
  let a := a.detach id
  match a.parent? sibling with
  | none => a
  | some p =>
    let a := a.modify id fun e => { e with parent? := some p }
    a.modify p fun e =>
      { e with children := e.children.flatMap fun c => if c = sibling then #[id, c] else #[c] }

/-- Adds a character to a text. -/
def extendText (a : Arena) (id : Nat) (c : Char) : Arena :=
  a.modify id fun e =>
    match e.kind with
    | .text backwards => { e with kind := .text (c :: backwards) }
    | _ => e

def isText (a : Arena) (id : Nat) : Bool :=
  match a.kind id with
  | .text _ => true
  | _ => false

/-- Adds a character behind the last child of a node. -/
def appendChar (a : Arena) (parent : Nat) (c : Char) : Arena :=
  match (a.children parent).back? with
  | some last =>
    if a.isText last then a.extendText last c
    else (a.add (.text [c])).append parent a.size
  | none => (a.add (.text [c])).append parent a.size

/-- Adds a character in front of a node that has a parent. -/
def insertCharBefore (a : Arena) (sibling : Nat) (c : Char) : Arena :=
  match a.parent? sibling with
  | none => a
  | some p =>
    let siblings := a.children p
    let previous? := (siblings.idxOf? sibling).bind fun i => if i = 0 then none else siblings[i - 1]?
    match previous? with
    | some previous =>
      if a.isText previous then a.extendText previous c
      else (a.add (.text [c])).insertBefore sibling a.size
    | none => (a.add (.text [c])).insertBefore sibling a.size

/-- Moves the children of a node behind those of another. -/
def moveChildren (a : Arena) (source target : Nat) : Arena :=
  (a.children source).foldl (fun a child => a.append target child) a

/-- Gives an element those attributes whose names it does not have. -/
def addAttrs (a : Arena) (id : Nat) (attrs : List Attribute) : Arena :=
  a.modify id fun e =>
    match e.kind with
    | .element space tag old =>
      { e with kind := .element space tag (old ++ attrs.filter fun x => !old.any (·.name == x.name)) }
    | _ => e

/-- The finished trees at some numbers. No tree is deeper than the arena is large, so its size bounds
the depth of the walk. -/
def toNodes (a : Arena) : Nat → List Nat → List Node
  | 0, _ => []
  | fuel + 1, ids =>
    ids.map fun id =>
      let children := a.toNodes fuel (a.children id).toList
      match a.kind id with
      | .text backwards => .text backwards.reverse
      | .comment content => .comment content
      | .doctype name => .doctype name
      | .root | .contents => .contents children
      | .element space tag attrs => .element ⟨space, tag, attrs, id, none⟩ children

/-- The numbers of the nodes that were cut off with children below them. -/
def cutOff (a : Arena) : List Nat :=
  (List.range a.size).filter fun id =>
    id != 0 && (a.parent? id).isNone && !(a.children id).isEmpty

/-- The finished page. -/
def toDocument (a : Arena) (isPage : Bool) : Document :=
  ⟨isPage, a.toNodes (a.size + 1) (a.children 0).toList, a.toNodes (a.size + 1) a.cutOff⟩

end Arena

end ChatScribe.Html
