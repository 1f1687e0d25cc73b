import ChatScribe.Html.Tree

/-!
# Formulas

Pages show formulas as drawings, but keep their source in an attribute or a hidden element. An
element is a formula if it looks like one and its source can be found; it is then written as source
between dollar signs, and nothing else of it is.
-/

namespace ChatScribe.Markdown

open Html

/-- The source of a formula, and whether it stands on lines of its own. -/
structure Formula where
  source : Text
  isBlock : Bool
deriving Repr, DecidableEq

namespace Formula

/-- The first element below that holds the source of a formula as its text. -/
def sourceElement? (children : List Node) : Option Node :=
  (Node.elementsIn (fun e => e.classes.contains "math-tex".toList) children).head?

/-- Does the element by itself look like a formula? -/
def isOwn (e : Element) : Bool :=
  e.classHas "math" || e.tag == "mjx-container" || (e.attr? "data-math").isSome

/-- The places where the source may be, best one first. -/
def candidates (e : Element) (children : List Node) : List (Option Text) :=
  [e.attr? "data-math", (sourceElement? children).map Node.allText, e.attr? "data-latex",
    e.attr? "data-value", (e.attr? "aria-label").bind (Text.dropPrefix? "LaTeX:".toList)]

/-- The first source that is not blank, trimmed. -/
def source? (e : Element) (children : List Node) : Option Text :=
  ((candidates e children).filterMap id |>.map Text.trim).find? fun s => !s.isEmpty

def standsAlone (e : Element) : Bool :=
  e.tag == "div" || e.classHas "math-block" || e.attrIs "display" "block"

/-- The formula that an element is, if it is one. -/
def ofElement? (e : Element) (children : List Node) : Option Formula :=
  if isOwn e || (sourceElement? children).isSome then
    (source? e children).map fun source => ⟨source, standsAlone e⟩
  else none

/-- A formula as Markdown. On lines of its own it follows the indent of the list it stands in. -/
def render (indent : Text) (f : Formula) : Text :=
  if f.isBlock then
    '\n' :: indent ++ "$$\n".toList ++ indent ++ f.source ++ '\n' :: indent ++ "$$\n".toList
  else '$' :: f.source ++ ['$']

end Formula

end ChatScribe.Markdown
