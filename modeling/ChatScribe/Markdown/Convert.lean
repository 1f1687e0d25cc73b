import ChatScribe.Markdown.Code
import ChatScribe.Markdown.Table

/-!
# From a tree to Markdown

The structural walk over the content of a turn. Code has been marked before, and stands in the text
as placeholders until the walk is over. Omitted elements write nothing, and a formula is written as
its source; every other element follows the rule for its tag, and one without a rule writes what its
children write.
-/

namespace ChatScribe.Markdown

open Html

/-! ## Plain text -/

mutual

/-- The text of a node inside of a construct that keeps no structure: placeholders stay, omitted
elements are left out. -/
def plainText : Node → Text
  | .text content => content
  | .element e children =>
    match e.span? with
    | some n => Code.placeholder n
    | none => if e.isOmitted then [] else plainTexts children
  | _ => []

/-- The plain text of a list of nodes. -/
def plainTexts : List Node → Text
  | [] => []
  | n :: ns => plainText n ++ plainTexts ns

end

/-! ## Constructs without structure inside -/

/-- Puts marks around the trimmed text. White space at an end becomes one space outside of the mark,
and a blank text becomes nothing. -/
def wrapInline (opening closing text : Text) : Text :=
  let inner := text.trim
  if inner.isEmpty then []
  else
    (if text.startsWithSpace then [' '] else []) ++ opening ++ inner ++ closing ++
      (if text.endsWithSpace then [' '] else [])

/-- The level of a heading element. -/
def headingLevel? (tag : String) : Option Nat :=
  match tag with
  | "h1" => some 1
  | "h2" => some 2
  | "h3" => some 3
  | "h4" => some 4
  | "h5" => some 5
  | "h6" => some 6
  | _ => none

def headingText (level : Nat) (text : Text) : Text :=
  '\n' :: List.replicate level '#' ++ ' ' :: text.trim ++ ['\n']

/-- A link. One without address is its text, and one around an image-search mark is nothing. -/
def linkText (e : Element) (text : Text) : Text :=
  if e.isLensLink then []
  else
    let target := Text.trim ((e.attr? "href").getD [])
    if target.isEmpty then text else '[' :: text.trim ++ "](".toList ++ target ++ [')']

/-- A picture, if it was uploaded into the conversation and has an address. -/
def imageText (e : Element) : Text :=
  let uploaded := (e.attr? "data-test-id").any (Text.occursIn "uploaded-img".toList)
  let source := Text.trim ((e.attr? "src").getD [])
  if uploaded && !source.isEmpty then
    "![".toList ++ (e.attr? "alt").getD [] ++ "](".toList ++ source ++ [')']
  else []

/-- A quote: each line of the trimmed text behind a mark. -/
def quoteText (text : Text) : Text :=
  let text := text.trim
  if text.isEmpty then []
  else
    '\n' :: Text.unlines (text.lines.map fun line => "> ".toList ++ line) ++ ['\n']

/-- The cells of a row: its visible cell elements, as trimmed plain text. -/
def rowCells (row : Node) : List Text :=
  row.children.filterMap fun cell =>
    match cell with
    | .element e children =>
      if (e.tag == "td" || e.tag == "th") && !e.isHidden then some (Text.trim (plainTexts children))
      else none
    | _ => none

/-- The rows below a table: all visible row elements, at any depth. -/
def tableRows (children : List Node) : List (List Text) :=
  (Node.elementsIn (fun e => e.tag == "tr" && !e.isHidden) children).map rowCells

/-! ## The walk -/

/-- The mark in front of an item of a list. -/
def itemMark (ordered : Bool) (number : Nat) : Text :=
  if ordered then Text.ofNat number ++ ". ".toList else "- ".toList

/-- An item of a list as a line: what it holds, without blank lines in front and without white space
behind. -/
def itemLine (indent mark content : Text) : Text :=
  indent ++ mark ++ Text.trimEnd (content.dropWhile (· == '\n')) ++ ['\n']

/-- A nested list is indented by two more spaces. -/
def deeper (indent : Text) : Text := indent ++ "  ".toList

/-- Adds a text node to the content of an item. Leading white space goes as long as nothing else is
there. -/
def addText (content text : Text) : Text :=
  if Text.isBlank content then text.trimStart else content ++ text

/-- Starts a new line for a nested list, unless one has just begun. -/
def breakLine (content : Text) : Text :=
  if content.getLast? != some '\n' && !Text.isBlank content then content ++ ['\n'] else content

def isList (e : Element) : Bool := e.tag == "ul" || e.tag == "ol"

mutual

/-- What a node becomes. -/
def walk (indent : Text) : Node → Text
  | .text content => content
  | .element e children =>
    match e.span? with
    | some n => Code.placeholder n
    | none =>
      if e.isOmitted then []
      else
        match Formula.ofElement? e children with
        | some f => f.render indent
        | none =>
          let tag := String.ofList (Text.lower e.tag.toList)
          match headingLevel? tag with
          | some level => headingText level (plainTexts children)
          | none =>
            match tag with
            | "p" => '\n' :: walkAll indent children ++ ['\n']
            | "br" => ['\n']
            | "hr" => "\n---\n".toList
            | "strong" | "b" => wrapInline "**".toList "**".toList (plainTexts children)
            | "em" | "i" => wrapInline "*".toList "*".toList (plainTexts children)
            | "sub" => wrapInline "<sub>".toList "</sub>".toList (plainTexts children)
            | "sup" => wrapInline "<sup>".toList "</sup>".toList (plainTexts children)
            | "ul" => '\n' :: items false indent 1 children
            | "ol" => '\n' :: items true indent 1 children
            | "a" => linkText e (plainTexts children)
            | "img" => imageText e
            | "table" => Table.render (tableRows children)
            | "blockquote" => quoteText (plainTexts children)
            | _ => walkAll indent children
  | _ => []

/-- What a list of nodes becomes. -/
def walkAll (indent : Text) : List Node → Text
  | [] => []
  | n :: ns => walk indent n ++ walkAll indent ns

/-- The items of a list from a number on. Hidden items are passed over and take no number. -/
def items (ordered : Bool) (indent : Text) (number : Nat) : List Node → Text
  | [] => []
  | .element e children :: rest =>
    if e.tag == "li" && !e.isHidden then
      itemLine indent (itemMark ordered number) (itemContent (deeper indent) [] children) ++
        items ordered indent (number + 1) rest
    else items ordered indent number rest
  | _ :: rest => items ordered indent number rest

/-- What an item of a list holds, added to what has been read of it. -/
def itemContent (indent content : Text) : List Node → Text
  | [] => content
  | .text text :: rest => itemContent indent (addText content text) rest
  | .element e children :: rest =>
    if isList e && !e.isHidden then
      itemContent indent (breakLine content ++ items (e.tag == "ol") indent 1 children) rest
    else itemContent indent (content ++ walk indent (.element e children)) rest
  | _ :: rest => itemContent indent content rest

end

/-! ## The conversion -/

/-- The content of an element with its code marked, and the code on record. -/
structure Lifted where
  nodes : List Node
  records : List Text

def lift (root : Node) : Lifted :=
  let (nodes, records) := Code.markAll 0 root.children
  ⟨nodes, records⟩

/-- The text of the walk, placeholders in it. -/
def Lifted.draft (l : Lifted) : Text := walkAll [] l.nodes

/-- The content of an element as Markdown. -/
def ofNode (root : Node) : Text :=
  let l := lift root
  Text.trim (Code.restore l.records l.draft)

end ChatScribe.Markdown
