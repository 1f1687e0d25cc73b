import ChatScribe.Text.Basic

/-!
# Document trees

The tree of a parsed page. Elements carry what the rest of the library asks of them: namespace, tag,
attributes, the number under which the parser created them, and, once code has been lifted out of a
tree, the number of the span that stands for them.

Every function over a tree comes as a pair, one for a node and one for a list of nodes.
-/

namespace ChatScribe.Html

/-- The vocabularies an element can belong to. -/
inductive Namespace
  | html
  | svg
  | mathml
deriving Repr, DecidableEq, Inhabited

/-- The namespaces of attributes. Nearly all attributes have none. -/
inductive AttrNamespace
  | none
  | xlink
  | xml
  | xmlns
deriving Repr, DecidableEq

/-- An attribute: its name without any namespace mark, and its value. -/
structure Attribute where
  space : AttrNamespace
  name : String
  value : Text
deriving Repr, DecidableEq

/-- What an element is, apart from its children. -/
structure Element where
  space : Namespace
  tag : String
  attrs : List Attribute
  /-- The number under which the parser created the element. -/
  order : Nat
  /-- The number of the code span lifted out of the tree that this element is. -/
  span? : Option Nat
deriving Repr, DecidableEq

/-- A node of a tree. The children of a template hang under a node of their own. -/
inductive Node
  | text (content : Text)
  | comment (content : Text)
  | doctype (name : Text)
  | contents (children : List Node)
  | element (e : Element) (children : List Node)
deriving Repr

namespace Element

/-- The value of an attribute without namespace. -/
def attr? (e : Element) (name : String) : Option Text :=
  (e.attrs.find? fun a => a.space == .none && a.name == name).map Attribute.value

/-- Does the attribute hold this value? -/
def attrIs (e : Element) (name value : String) : Bool := e.attr? name == some value.toList

/-- Does the raw class attribute hold this text, anywhere? -/
def classHas (e : Element) (part : String) : Bool :=
  (e.attr? "class").any (Text.occursIn part.toList)

/-- The classes of an element: the words of its class attribute. -/
def classes (e : Element) : List Text :=
  (e.attrs.filter (·.name == "class")).flatMap fun a => Text.words a.value

/-- The identifier of an element. -/
def id? (e : Element) : Option Text := (e.attrs.find? (·.name == "id")).map Attribute.value

end Element

namespace Node

/-- The element at a node, if it is one. -/
def element? : Node → Option Element
  | .element e _ => some e
  | _ => none

def children : Node → List Node
  | .element _ children => children
  | .contents children => children
  | _ => []

def isElement (n : Node) : Bool := n.element?.isSome

mutual

/-- All text below a node, in order. -/
def allText : Node → Text
  | .text content => content
  | .element _ children => allTexts children
  | .contents children => allTexts children
  | _ => []

/-- All text of a list of nodes. -/
def allTexts : List Node → Text
  | [] => []
  | n :: ns => allText n ++ allTexts ns

end

mutual

/-- The elements of a tree that satisfy a test, in document order, each as the node it is. The root
of the tree is one of them. -/
def elementsFrom (p : Element → Bool) : Node → List Node
  | .element e children =>
    if p e then .element e children :: elementsIn p children else elementsIn p children
  | .contents children => elementsIn p children
  | _ => []

/-- The elements of a list of trees that satisfy a test. -/
def elementsIn (p : Element → Bool) : List Node → List Node
  | [] => []
  | n :: ns => elementsFrom p n ++ elementsIn p ns

end

end Node

/-- How closely a parser follows the habits of old pages. -/
inductive Quirks
  | none
  | limited
  | full
deriving Repr, DecidableEq

/-- A parsed page: its top nodes, and the trees that parsing cut off from it. -/
structure Document where
  /-- Is this a page of its own, and not a fragment of one? -/
  isPage : Bool
  nodes : List Node
  detached : List Node
deriving Repr

/-- The root element of a page. -/
def Document.root? (d : Document) : Option Node := d.nodes.find? Node.isElement

end ChatScribe.Html
