import ChatScribe.Html.Tree

/-!
# Elements in their place

A selector asks about the surroundings of an element: what it stands in and what it stands beside.
`Located` is an element that knows both. The elements of a tree are listed in document order, and each
has a number of its own, under which the parser created it.
-/

namespace ChatScribe.Html

/-- An element in its place. The siblings in front of it are listed nearest first. An element at the
top of a page, of a fragment or of the contents of a template has no parent. -/
structure Located where
  element : Element
  children : List Node
  before : List Node
  after : List Node
  parent? : Option Located
  /-- Is it at the top of a page? -/
  isTop : Bool

namespace Located

def node (l : Located) : Node := .element l.element l.children

mutual

/-- The elements of a tree. The contents of templates are looked into if `through` says so. -/
def inTree (through : Bool) (parent? : Option Located) (isTop : Bool) (before after : List Node) :
    Node → List Located
  | .element e children =>
    let l : Located := ⟨e, children, before, after, parent?, isTop⟩
    l :: inForest through (some l) false [] children
  | .contents children => if through then inForest through none false [] children else []
  | _ => []

/-- The elements of a list of neighbouring trees. -/
def inForest (through : Bool) (parent? : Option Located) (isTop : Bool) (before : List Node) :
    List Node → List Located
  | [] => []
  | n :: ns =>
    inTree through parent? isTop before ns n ++ inForest through parent? isTop (n :: before) ns

end

/-- The elements below an element, in document order. -/
def descendants (l : Located) : List Located := inForest true (some l) false [] l.children

/-- The elements below an element, apart from those in templates. -/
def properDescendants (l : Located) : List Located := inForest false (some l) false [] l.children

/-- The elements above an element, nearest first. -/
def ancestors : Located → List Located
  | ⟨_, _, _, _, some p, _⟩ => p :: ancestors p
  | ⟨_, _, _, _, none, _⟩ => []

/-- The place of a sibling: the first element of a list of nodes, nearest first on its side. -/
def firstElement (parent? : Option Located) (isTop : Bool) (behind : List Node) :
    List Node → Option Located
  | [] => none
  | .element e children :: rest => some ⟨e, children, rest, behind, parent?, isTop⟩
  | n :: rest => firstElement parent? isTop (n :: behind) rest

/-- The nearest element in front of an element, beside it. -/
def previous? (l : Located) : Option Located :=
  firstElement l.parent? l.isTop (l.node :: l.after) l.before

/-- All places of the elements in front of one, nearest first. -/
def allBefore (parent? : Option Located) (isTop : Bool) (behind : List Node) :
    List Node → List Located
  | [] => []
  | n :: rest =>
    match n with
    | .element e children =>
      ⟨e, children, rest, behind, parent?, isTop⟩ :: allBefore parent? isTop (n :: behind) rest
    | _ => allBefore parent? isTop (n :: behind) rest

/-- The elements in front of an element, beside it, nearest first. -/
def earlier (l : Located) : List Located :=
  allBefore l.parent? l.isTop (l.node :: l.after) l.before

/-- The elements behind an element and below those, in document order. -/
def laterAndBelow (l : Located) : List Located :=
  inForest false l.parent? l.isTop (l.node :: l.before) l.after

end Located

/-- The elements of a page in the order in which the parser created them, those in trees that were cut
off from the page included. An element that nothing contains is not one of them. -/
def Document.elements (d : Document) : List Located :=
  let attached := Located.inForest true none d.isPage [] d.nodes
  let cutOff := d.detached.flatMap fun n => (Located.inTree true none false [] [] n).drop 1
  (attached ++ cutOff).mergeSort fun a b => a.element.order ≤ b.element.order

/-- The root element of a page. -/
def Document.top? (d : Document) : Option Located :=
  (Located.inForest false none d.isPage [] d.nodes).head?

end ChatScribe.Html
