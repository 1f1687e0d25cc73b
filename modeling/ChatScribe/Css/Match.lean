import ChatScribe.Css.Selector
import ChatScribe.Html.Located

/-!
# Which elements a selector matches

The meaning of a selector: a test on elements in their place. `Selector.below` lists what it matches
below an element, in document order, and `Selector.inPage` what it matches in a page, in the order in
which the elements were created.
-/

namespace ChatScribe.Css

open Html

/-- What a selector is matched relative to: the element that `:scope` stands for, and the one that a
relative selector starts from. -/
structure Setting where
  scope? : Option Nat
  anchor? : Option Nat

/-! ## Tests on the element alone -/

/-- In HTML elements, names are compared in lower case. -/
def nameFor (e : Element) (name : String) : String :=
  if e.space == .html then String.ofList (Text.lower name.toList) else name

/-- How an attribute value compares with another, letter case apart. -/
def Comparison.holds (c : Comparison) (value wanted : Text) : Bool :=
  match c with
  | .equals => value == wanted
  | .includes => !wanted.isEmpty && (blankWords value).contains wanted
  | .dash => value == wanted || Text.startsWith value (wanted ++ ['-'])
  | .starts => !wanted.isEmpty && Text.startsWith value wanted
  | .ends => !wanted.isEmpty && Text.endsWith value wanted
  | .contains => !wanted.isEmpty && Text.occursIn wanted value
where
  /-- The pieces between blanks. -/
  blankWords : Text → List Text
    | [] => [[]]
    | c :: r =>
      if Text.isMarkupSpace c then [] :: blankWords r
      else
        match blankWords r with
        | [] => [[c]]
        | w :: ws => (c :: w) :: ws

def AttributeTest.matches (t : AttributeTest) (e : Element) : Bool :=
  let name := nameFor e t.name
  e.attrs.any fun a =>
    (t.anySpace || a.space == .none) && a.name == name &&
      match t.value? with
      | none => true
      | some (c, wanted, valueCase) =>
        if valueCase == .ignored || (valueCase == .ignoredInHtml && e.space == .html) then
          c.holds (Text.lower a.value) (Text.lower wanted)
        else c.holds a.value wanted

/-! ## Tests on the place -/

/-- Do two elements have the same type? -/
def sameType (e f : Element) : Bool := e.space == f.space && e.tag == f.tag

/-- Is the number `step * n + offset` for some `n` that is not negative? -/
def Place.reaches (p : Place) (index : Int) : Bool :=
  let d := index - p.offset
  if p.step = 0 then d == 0 else d % p.step == 0 && 0 ≤ d / p.step

/-- The place of an element among its siblings, counted from one. -/
def Place.index (p : Place) (l : Located) : Nat :=
  let siblings := if p.fromEnd then l.after else l.before
  let counted (n : Node) : Bool :=
    match n with
    | .element f _ => !p.ofType || sameType l.element f
    | _ => false
  1 + (siblings.filter counted).length

/-- Does an element have neither text nor elements in it? -/
def isEmpty (l : Located) : Bool :=
  l.children.all fun n =>
    match n with
    | .element .. | .text _ => false
    | _ => true

/-! ## Selectors -/

mutual

def Simple.matches (s : Setting) (l : Located) : Simple → Bool
  | .tag name => l.element.tag == nameFor l.element name
  | .inNoSpace => false
  | .id name => l.element.id? == some name
  | .classed name => l.element.classes.contains name
  | .attr test => test.matches l.element
  | .place p => p.reaches (p.index l)
  | .root => l.isTop
  | .empty => isEmpty l
  | .scope =>
    match s.scope? with
    | some order => l.element.order == order
    | none => l.isTop
  | .isAny alternatives => matchesAny s l alternatives
  | .isNone alternatives => !matchesAny s l alternatives
  | .has relatives =>
    (l.properDescendants ++ l.laterAndBelow).any fun m =>
      matchesAny { s with anchor? := some l.element.order } m relatives
  | .never => false

/-- Does an element match one of these selectors? -/
def matchesAny (s : Setting) (l : Located) : List Complex → Bool
  | [] => false
  | c :: cs => c.matches s l || matchesAny s l cs

/-- Does an element pass all of these tests? -/
def matchesAll (s : Setting) (l : Located) : List Simple → Bool
  | [] => true
  | t :: ts => t.matches s l && matchesAll s l ts

def Complex.matches (s : Setting) (l : Located) : Complex → Bool
  | .anchor => s.anchor? == some l.element.order
  | .compound tests => matchesAll s l tests
  | .after left c tests =>
    matchesAll s l tests &&
      match c with
      | .child => l.parent?.any fun m => left.matches s m
      | .descendant => l.ancestors.any fun m => left.matches s m
      | .adjacent => l.previous?.any fun m => left.matches s m
      | .sibling => l.earlier.any fun m => left.matches s m

end

namespace Selector

/-- The elements below an element that the selector matches. The element itself is its scope. -/
def below (sel : Selector) (l : Located) : List Located :=
  l.descendants.filter fun m => matchesAny ⟨some l.element.order, none⟩ m sel.alternatives

/-- The first element below an element that the selector matches. -/
def firstBelow? (sel : Selector) (l : Located) : Option Located := (sel.below l).head?

/-- The elements of a page that the selector matches. -/
def inPage (sel : Selector) (d : Document) : List Located :=
  d.elements.filter fun m => matchesAny ⟨none, none⟩ m sel.alternatives

def firstInPage? (sel : Selector) (d : Document) : Option Located := (sel.inPage d).head?

end Selector

end ChatScribe.Css
