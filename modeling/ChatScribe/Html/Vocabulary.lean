import ChatScribe.Html.Token

/-!
# The vocabulary of HTML

Which elements the rules of tree building treat alike, how foreign elements spell their names, and
which document types ask for the habits of old pages.
-/

namespace ChatScribe.Html.Vocabulary

/-! ## Kinds of elements -/

/-- Elements whose start a paragraph gives way to. -/
def blocks : List String :=
  ["address", "article", "aside", "blockquote", "center", "details", "dialog", "dir", "div", "dl",
    "fieldset", "figcaption", "figure", "footer", "header", "hgroup", "main", "menu", "nav", "ol",
    "p", "search", "section", "summary", "ul"]

/-- Elements whose end tag closes what still stands open in them. -/
def closers : List String :=
  ["address", "article", "aside", "blockquote", "button", "center", "details", "dialog", "dir",
    "div", "dl", "fieldset", "figcaption", "figure", "footer", "header", "hgroup", "listing",
    "main", "menu", "nav", "ol", "pre", "search", "section", "summary", "ul"]

def headings : List String := ["h1", "h2", "h3", "h4", "h5", "h6"]

/-- Elements of formatting, which are opened again in the next block if they are left open. -/
def formatting : List String :=
  ["b", "big", "code", "em", "font", "i", "s", "small", "strike", "strong", "tt", "u"]

/-- Elements that belong into the head of a page, wherever they stand. -/
def headOnly : List String :=
  ["base", "basefont", "bgsound", "link", "meta", "noframes", "script", "style", "template",
    "title"]

/-- Elements without content that a line of text can hold. -/
def voidInline : List String := ["area", "br", "embed", "img", "keygen", "wbr", "input"]

/-- Elements whose end tag may be left out. -/
def impliedEnd : List String :=
  ["dd", "dt", "li", "option", "optgroup", "p", "rb", "rp", "rt", "rtc"]

/-- Those, and the parts of a table. -/
def impliedEndThorough : List String :=
  impliedEnd ++ ["caption", "colgroup", "tbody", "td", "tfoot", "th", "thead", "tr"]

/-- Elements that an end tag of another name does not reach across. -/
def special : List String :=
  ["address", "applet", "area", "article", "aside", "base", "basefont", "bgsound", "blockquote",
    "body", "br", "button", "caption", "center", "col", "colgroup", "dd", "details", "dir", "div",
    "dl", "dt", "embed", "fieldset", "figcaption", "figure", "footer", "form", "frame", "frameset",
    "h1", "h2", "h3", "h4", "h5", "h6", "head", "header", "hgroup", "hr", "html", "iframe", "img",
    "input", "isindex", "li", "link", "listing", "main", "marquee", "menu", "meta", "nav",
    "noembed", "noframes", "noscript", "object", "ol", "p", "param", "plaintext", "pre", "script",
    "section", "select", "source", "style", "summary", "table", "tbody", "td", "template",
    "textarea", "tfoot", "th", "thead", "title", "tr", "track", "ul", "wbr", "xmp"]

/-- The special elements that a list item does not reach across. -/
def itemBarrier : List String :=
  special.filter fun n => n ∉ ["address", "div", "p"]

/-- The parts of a table that put misplaced content in front of the table. -/
def fosterParents : List String := ["table", "tbody", "tfoot", "thead", "tr"]

def tableParts : List String :=
  ["caption", "col", "colgroup", "tbody", "td", "tfoot", "th", "thead", "tr"]

/-! ## Scopes -/

/-- An element by namespace and tag. -/
abbrev Name := Namespace × String

def isMathText (n : Name) : Bool :=
  n.1 == .mathml && ["mi", "mo", "mn", "ms", "mtext"].contains n.2

/-- Elements of a drawing whose content is ordinary markup. -/
def isMarkupInDrawing (n : Name) : Bool :=
  n.1 == .svg && ["foreignObject", "desc", "title"].contains n.2

/-- Elements that hide those outside of them from an end tag. -/
def endsScope (n : Name) : Bool :=
  (n.1 == .html && ["applet", "caption", "html", "table", "td", "th", "marquee", "object",
    "template"].contains n.2) || isMathText n || isMarkupInDrawing n

def endsItemScope (n : Name) : Bool :=
  endsScope n || (n.1 == .html && ["ol", "ul"].contains n.2)

def endsButtonScope (n : Name) : Bool := endsScope n || n == (.html, "button")

def endsTableScope (n : Name) : Bool :=
  n.1 == .html && ["html", "table", "template"].contains n.2

/-- The select scope is the other way round: only options and their groups let it pass. -/
def endsSelectScope (n : Name) : Bool :=
  !(n.1 == .html && ["optgroup", "option"].contains n.2)

/-! ## Foreign elements -/

/-- Start tags that end foreign content. -/
def breakouts : List String :=
  ["b", "big", "blockquote", "body", "br", "center", "code", "dd", "div", "dl", "dt", "em",
    "embed", "h1", "h2", "h3", "h4", "h5", "h6", "head", "hr", "i", "img", "li", "listing", "menu",
    "meta", "nobr", "ol", "p", "pre", "ruby", "s", "small", "span", "strong", "strike", "sub",
    "sup", "table", "tt", "u", "ul", "var"]

/-- Names of drawing elements that are not all in lower case. -/
def svgTags : List String :=
  ["altGlyph", "altGlyphDef", "altGlyphItem", "animateColor", "animateMotion", "animateTransform",
    "clipPath", "feBlend", "feColorMatrix", "feComponentTransfer", "feComposite",
    "feConvolveMatrix", "feDiffuseLighting", "feDisplacementMap", "feDistantLight", "feDropShadow",
    "feFlood", "feFuncA", "feFuncB", "feFuncG", "feFuncR", "feGaussianBlur", "feImage", "feMerge",
    "feMergeNode", "feMorphology", "feOffset", "fePointLight", "feSpecularLighting", "feSpotLight",
    "feTile", "feTurbulence", "foreignObject", "glyphRef", "linearGradient", "radialGradient",
    "textPath"]

/-- Names of drawing attributes that are not all in lower case. -/
def svgAttrs : List String :=
  ["attributeName", "attributeType", "baseFrequency", "baseProfile", "calcMode", "clipPathUnits",
    "diffuseConstant", "edgeMode", "filterUnits", "glyphRef", "gradientTransform", "gradientUnits",
    "kernelMatrix", "kernelUnitLength", "keyPoints", "keySplines", "keyTimes", "lengthAdjust",
    "limitingConeAngle", "markerHeight", "markerUnits", "markerWidth", "maskContentUnits",
    "maskUnits", "numOctaves", "pathLength", "patternContentUnits", "patternTransform",
    "patternUnits", "pointsAtX", "pointsAtY", "pointsAtZ", "preserveAlpha", "preserveAspectRatio",
    "primitiveUnits", "refX", "refY", "repeatCount", "repeatDur", "requiredExtensions",
    "requiredFeatures", "specularConstant", "specularExponent", "spreadMethod", "startOffset",
    "stdDeviation", "stitchTiles", "surfaceScale", "systemLanguage", "tableValues", "targetX",
    "targetY", "textLength", "viewBox", "viewTarget", "xChannelSelector", "yChannelSelector",
    "zoomAndPan"]

/-- The spelling in the list that equals a name up to letter case, or the name itself. -/
def respell (spellings : List String) (name : String) : String :=
  (spellings.find? fun s => Text.lower s.toList == name.toList).getD name

/-- An attribute of a foreign element: some names carry a namespace mark. -/
def foreignAttr (a : Attribute) : Attribute :=
  match a.name with
  | "xlink:actuate" => { a with space := .xlink, name := "actuate" }
  | "xlink:arcrole" => { a with space := .xlink, name := "arcrole" }
  | "xlink:href" => { a with space := .xlink, name := "href" }
  | "xlink:role" => { a with space := .xlink, name := "role" }
  | "xlink:show" => { a with space := .xlink, name := "show" }
  | "xlink:title" => { a with space := .xlink, name := "title" }
  | "xlink:type" => { a with space := .xlink, name := "type" }
  | "xml:lang" => { a with space := .xml, name := "lang" }
  | "xml:space" => { a with space := .xml, name := "space" }
  | "xmlns" => { a with space := .xmlns, name := "xmlns" }
  | "xmlns:xlink" => { a with space := .xmlns, name := "xlink" }
  | _ => a

/-- A tag as an element of a foreign namespace spells it. -/
def foreignTag (space : Namespace) (t : Tag) : Tag :=
  let attrs : List Attribute := match space with
    | .svg => t.attrs.map fun a => { a with name := respell svgAttrs a.name }
    | .mathml =>
      t.attrs.map fun a => { a with name := if a.name == "definitionurl" then "definitionURL" else a.name }
    | .html => t.attrs
  { t with attrs := attrs.map foreignAttr }

/-! ## Document types -/

/-- Public identifiers that ask for full quirks by their beginning. -/
def quirkyPublicStarts : List String :=
  ["-//advasoft ltd//dtd html 3.0 aswedit + extensions//", "-//as//dtd html 3.0 aswedit + extensions//",
    "-//ietf//dtd html 2.0 level 1//", "-//ietf//dtd html 2.0 level 2//",
    "-//ietf//dtd html 2.0 strict level 1//", "-//ietf//dtd html 2.0 strict level 2//",
    "-//ietf//dtd html 2.0 strict//", "-//ietf//dtd html 2.0//", "-//ietf//dtd html 2.1e//",
    "-//ietf//dtd html 3.0//", "-//ietf//dtd html 3.2 final//", "-//ietf//dtd html 3.2//",
    "-//ietf//dtd html 3//", "-//ietf//dtd html level 0//", "-//ietf//dtd html level 1//",
    "-//ietf//dtd html level 2//", "-//ietf//dtd html level 3//",
    "-//ietf//dtd html strict level 0//", "-//ietf//dtd html strict level 1//",
    "-//ietf//dtd html strict level 2//", "-//ietf//dtd html strict level 3//",
    "-//ietf//dtd html strict//", "-//ietf//dtd html//",
    "-//metrius//dtd metrius presentational//",
    "-//microsoft//dtd internet explorer 2.0 html strict//",
    "-//microsoft//dtd internet explorer 2.0 html//",
    "-//microsoft//dtd internet explorer 2.0 tables//",
    "-//microsoft//dtd internet explorer 3.0 html strict//",
    "-//microsoft//dtd internet explorer 3.0 html//",
    "-//microsoft//dtd internet explorer 3.0 tables//", "-//netscape comm. corp.//dtd html//",
    "-//netscape comm. corp.//dtd strict html//", "-//o'reilly and associates//dtd html 2.0//",
    "-//o'reilly and associates//dtd html extended 1.0//",
    "-//o'reilly and associates//dtd html extended relaxed 1.0//",
    "-//softquad software//dtd hotmetal pro 6.0::19990601::extensions to html 4.0//",
    "-//softquad//dtd hotmetal pro 4.0::19971010::extensions to html 4.0//",
    "-//spyglass//dtd html 2.0 extended//", "-//sq//dtd html 2.0 hotmetal + extensions//",
    "-//sun microsystems corp.//dtd hotjava html//",
    "-//sun microsystems corp.//dtd hotjava strict html//",
    "-//w3c//dtd html 3 1995-03-24//", "-//w3c//dtd html 3.2 draft//",
    "-//w3c//dtd html 3.2 final//", "-//w3c//dtd html 3.2//", "-//w3c//dtd html 3.2s draft//",
    "-//w3c//dtd html 4.0 frameset//", "-//w3c//dtd html 4.0 transitional//",
    "-//w3c//dtd html experimental 19960712//", "-//w3c//dtd html experimental 970421//",
    "-//w3c//dtd w3 html//", "-//w3o//dtd w3 html 3.0//", "-//webtechs//dtd mozilla html 2.0//",
    "-//webtechs//dtd mozilla html//"]

/-- Public identifiers that ask for full quirks as a whole. -/
def quirkyPublic : List String :=
  ["-//w3o//dtd w3 html strict 3.0//en//", "-/w3c/dtd html 4.0 transitional/en", "html"]

/-- Public identifiers of the framed and transitional variants of HTML 4. -/
def framedPublicStarts : List String :=
  ["-//w3c//dtd html 4.01 frameset//", "-//w3c//dtd html 4.01 transitional//"]

/-- Public identifiers that ask for limited quirks by their beginning. -/
def limitedPublicStarts : List String :=
  ["-//w3c//dtd xhtml 1.0 frameset//", "-//w3c//dtd xhtml 1.0 transitional//"]

/-- The system identifier that asks for full quirks. -/
def quirkySystem : Text :=
  "http:".toList ++ "//www.ibm.com/data/dtd/v11/ibmxhtml1-transitional.dtd".toList

/-- How closely a page with this document type follows the habits of old pages. -/
def quirksOf (d : Doctype) : Quirks :=
  let publicId? := d.publicId?.map Text.lower
  let systemId? := d.systemId?.map Text.lower
  let starts (ids : List String) : Bool :=
    publicId?.any fun id => ids.any fun s => Text.startsWith id s.toList
  if d.forceQuirks || d.name? != some "html".toList ||
      publicId?.any (fun id => quirkyPublic.any fun s => id == s.toList) ||
      systemId? == some quirkySystem || starts quirkyPublicStarts ||
      (systemId?.isNone && starts framedPublicStarts) then .full
  else if starts limitedPublicStarts || (systemId?.isSome && starts framedPublicStarts) then .limited
  else .none

end ChatScribe.Html.Vocabulary
