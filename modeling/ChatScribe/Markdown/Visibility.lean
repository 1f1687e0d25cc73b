import ChatScribe.Html.Tree

/-!
# What a reader sees of a page

Chat pages carry text for screen readers, controls and scripts next to the conversation. None of it
belongs into a transcript. The tests here look at one element at a time; a hidden element hides all
that is below it.
-/

namespace ChatScribe.Html

namespace Element

/-- Elements that are part of the page's machinery. -/
def droppedTags : List String := ["script", "style", "noscript", "template", "button"]

def isDropped (e : Element) : Bool := droppedTags.contains e.tag

/-- A style sheet text without white space and in lower case, in which declarations can be found. -/
def compactStyle (style : Text) : Text := Text.lower (style.filter fun c => !Text.isSpace c)

def hidingStyle (style : Text) : Bool :=
  let compact := compactStyle style
  Text.occursIn "display:none".toList compact || Text.occursIn "visibility:hidden".toList compact

/-- Is the element kept from the eye by a class, an attribute, or its style? -/
def isHidden (e : Element) : Bool :=
  e.classHas "cdk-visually-hidden" || e.attrIs "aria-hidden" "true" ||
    (e.attr? "style").any hidingStyle

/-- A link around the image-search mark of an uploaded picture. -/
def isLensLink (e : Element) : Bool := e.tag == "a" && e.classHas "lens-icon-container"

/-- Does the element, with all below it, have no part in the text of a page? -/
def isOmitted (e : Element) : Bool := e.isHidden || e.isDropped

end Element

namespace Node

mutual

/-- The text of a node as a reader sees it: omitted elements are left out, and a line break is a
line feed. -/
def shownText : Node → Text
  | .text content => content
  | .element e children =>
    if e.isOmitted then [] else if e.tag == "br" then ['\n'] else shownTexts children
  | _ => []

/-- The text of a list of nodes as a reader sees it. -/
def shownTexts : List Node → Text
  | [] => []
  | n :: ns => shownText n ++ shownTexts ns

end

/-- The text inside of an element. The element itself is not asked whether it is hidden. -/
def innerText (n : Node) : Text := shownTexts n.children

end Node

end ChatScribe.Html
