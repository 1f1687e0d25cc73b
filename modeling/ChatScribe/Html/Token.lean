import ChatScribe.Html.Reference
import ChatScribe.Html.Tree

/-!
# Tokens of a page

`Token.next` cuts the next token off the text of a page: a tag, a comment, a document type, or a
single character. What a less-than sign means depends on where it stands, and the tree being built
decides that: `Content` says whether the text is ordinary markup or the inside of an element whose
content is taken literally up to its end tag.

A construct that the page breaks off in its middle leaves no token behind.
-/

namespace ChatScribe.Html

/-- A document type. -/
structure Doctype where
  name? : Option Text
  publicId? : Option Text
  systemId? : Option Text
  forceQuirks : Bool

/-- A tag. Names are in lower case, and of attributes with one name the first is kept. -/
structure Tag where
  name : String
  attrs : List Attribute
  selfClosing : Bool
deriving Inhabited

inductive Token
  | doctype (d : Doctype)
  | startTag (tag : Tag)
  | endTag (name : String)
  | comment (content : Text)
  | char (c : Char)
  /-- The null character, which markup may hold but a tree may not. -/
  | null
  /-- The end of the page. -/
  | stop

/-- How far a script has come with hiding its text in a comment. -/
inductive ScriptPart
  | plain
  | escaped
  | nested
deriving DecidableEq

/-- What the text at hand is the content of. -/
inductive Content
  | markup
  /-- Literal text with character references, up to the end tag with this name. -/
  | rcdata (name : String)
  /-- Literal text up to the end tag with this name. -/
  | rawText (name : String)
  | script (part : ScriptPart)
  /-- Literal text up to the end of the page. -/
  | plaintext
deriving DecidableEq

namespace Token

/-- In names, values and comments a replacement character stands for the null character. -/
def unNull (c : Char) : Char := if c = '\x00' then Reference.replacement else c

/-! ## Attributes and tags -/

/-- Reads the value of an attribute up to a closing quote. -/
def quotedValue (quote : Char) : Nat → Text → Option (Text × Text)
  | 0, _ => none
  | _, [] => none
  | fuel + 1, c :: r =>
    if c = quote then some ([], r)
    else if c = '&' then
      match Reference.read true r with
      | some (cs, rest) => (quotedValue quote fuel rest).map fun (v, r) => (cs ++ v, r)
      | none => (quotedValue quote fuel r).map fun (v, r) => ('&' :: v, r)
    else (quotedValue quote fuel r).map fun (v, r) => (unNull c :: v, r)

/-- Reads the value of an attribute up to a blank or the end of the tag. -/
def bareValue : Nat → Text → Option (Text × Text)
  | 0, _ => none
  | _, [] => none
  | fuel + 1, c :: r =>
    if Text.isMarkupSpace c || c = '>' then some ([], c :: r)
    else if c = '&' then
      match Reference.read true r with
      | some (cs, rest) => (bareValue fuel rest).map fun (v, r) => (cs ++ v, r)
      | none => (bareValue fuel r).map fun (v, r) => ('&' :: v, r)
    else (bareValue fuel r).map fun (v, r) => (unNull c :: v, r)

def skipBlanks (t : Text) : Text := t.dropWhile Text.isMarkupSpace

/-- Does the character end the name of a tag? -/
def endsTagName (c : Char) : Bool := Text.isMarkupSpace c || c == '/' || c == '>'

/-- Does the character end the name of an attribute? -/
def endsAttrName (c : Char) : Bool := endsTagName c || c == '='

/-- Reads what follows the name of an attribute: its value, empty if it has none. -/
def attrValue (t : Text) : Option (Text × Text) :=
  match skipBlanks t with
  | '=' :: r =>
    match skipBlanks r with
    | '"' :: r => quotedValue '"' (r.length + 1) r
    | '\x27' :: r => quotedValue '\x27' (r.length + 1) r
    | '>' :: r => some ([], '>' :: r)
    | r => bareValue (r.length + 1) r
  | _ => some ([], t)

/-- A name in lower case, with no null character in it. -/
def cleanName (t : Text) : String := String.ofList (t.map fun c => unNull (Text.lowerChar c))

/-- Reads the attributes of a tag and its end: the attributes, last one first, whether the tag
closes itself, and the text behind it. -/
def attributes : Nat → List Attribute → Text → Option (List Attribute × Bool × Text)
  | 0, _, _ => none
  | fuel + 1, seen, t =>
    match skipBlanks t with
    | [] => none
    | '>' :: r => some (seen, false, r)
    | '/' :: '>' :: r => some (seen, true, r)
    | '/' :: r => attributes fuel seen r
    | c :: r =>
      let name := cleanName (c :: r.takeWhile fun c => !endsAttrName c)
      match attrValue (r.dropWhile fun c => !endsAttrName c) with
      | none => none
      | some (value, rest) =>
        let seen := if seen.any (·.name == name) then seen else ⟨.none, name, value⟩ :: seen
        attributes fuel seen rest

/-- Reads a tag at the first letter of its name. -/
def readTag (t : Text) : Option (Tag × Text) :=
  let name := cleanName (t.takeWhile fun c => !endsTagName c)
  let rest := t.dropWhile fun c => !endsTagName c
  (attributes (rest.length + 1) [] rest).map fun (attrs, selfClosing, rest) =>
    (⟨name, attrs.reverse, selfClosing⟩, rest)

/-! ## Comments and document types -/

/-- Reads a comment that was started wrongly: it runs up to the next greater-than sign. -/
def bogusComment (t : Text) : Token × Text :=
  (.comment ((t.takeWhile (· != '>')).map unNull), (t.dropWhile (· != '>')).drop 1)

/-- Reads a comment behind its two hyphens. -/
def readComment (t : Text) : Token × Text :=
  match t with
  | '>' :: r => (.comment [], r)
  | '-' :: '>' :: r => (.comment [], r)
  | _ => let (content, rest) := body t; (.comment content, rest)
where
  /-- The content of a comment and the text behind it. A page that ends inside of a comment ends the
  comment, and hyphens at its very end do not count. -/
  body : Text → Text × Text
    | [] => ([], [])
    | '-' :: '-' :: '>' :: r => ([], r)
    | '-' :: '-' :: '!' :: '>' :: r => ([], r)
    | ['-', '-', '!'] => ([], [])
    | ['-', '-'] => ([], [])
    | ['-'] => ([], [])
    | c :: r => let (content, rest) := body r; (unNull c :: content, rest)

/-- Reads a quoted identifier of a document type: the identifier, whether it came to its end, and the
text behind it. A greater-than sign breaks it off. -/
def quotedId (quote : Char) (t : Text) : Text × Bool × Text :=
  let inside (c : Char) : Bool := c != quote && c != '>'
  let id := (t.takeWhile inside).map unNull
  match t.dropWhile inside with
  | [] => (id, false, [])
  | c :: r => if c = quote then (id, true, r) else (id, false, c :: r)

/-- Reads a quoted identifier if there is one at the front. -/
def quotedId? (t : Text) : Option (Text × Bool × Text) :=
  match t with
  | '"' :: r => some (quotedId '"' r)
  | '\x27' :: r => some (quotedId '\x27' r)
  | _ => none

/-- The text behind the next greater-than sign. -/
def afterClose (t : Text) : Text := (t.dropWhile (· != '>')).drop 1

/-- Finishes a document type behind its last identifier. -/
def closeDoctype (d : Doctype) (t : Text) : Doctype × Text :=
  match skipBlanks t with
  | [] => ({ d with forceQuirks := true }, [])
  | r => (d, afterClose r)

/-- Reads the system identifier of a document type, which must be there if `required` says so. -/
def systemId (required : Bool) (d : Doctype) (t : Text) : Doctype × Text :=
  match skipBlanks t with
  | [] => ({ d with forceQuirks := true }, [])
  | '>' :: r => ({ d with forceQuirks := required }, r)
  | r =>
    match quotedId? r with
    | some (id, true, rest) => closeDoctype { d with systemId? := some id } rest
    | some (id, false, rest) => ({ d with systemId? := some id, forceQuirks := true }, afterClose rest)
    | none => ({ d with forceQuirks := true }, afterClose r)

/-- Reads the public identifier of a document type and what may follow it. -/
def publicId (d : Doctype) (t : Text) : Doctype × Text :=
  match skipBlanks t with
  | [] => ({ d with forceQuirks := true }, [])
  | r =>
    match quotedId? r with
    | some (id, true, rest) => systemId false { d with publicId? := some id } rest
    | some (id, false, rest) => ({ d with publicId? := some id, forceQuirks := true }, afterClose rest)
    | none => ({ d with forceQuirks := true }, afterClose r)

/-- Reads a document type behind its keyword. -/
def readDoctype (t : Text) : Token × Text :=
  match skipBlanks t with
  | [] => (.doctype ⟨none, none, none, true⟩, [])
  | '>' :: r => (.doctype ⟨none, none, none, true⟩, r)
  | r =>
    let ends (c : Char) : Bool := Text.isMarkupSpace c || c == '>'
    let name := (r.takeWhile fun c => !ends c).map fun c => unNull (Text.lowerChar c)
    let d : Doctype := ⟨some name, none, none, false⟩
    let (d, rest) :=
      match skipBlanks (r.dropWhile fun c => !ends c) with
      | [] => ({ d with forceQuirks := true }, [])
      | '>' :: r => (d, r)
      | r =>
        if Text.eqIgnoreCase (r.take 6) "public".toList then publicId d (r.drop 6)
        else if Text.eqIgnoreCase (r.take 6) "system".toList then systemId true d (r.drop 6)
        else ({ d with forceQuirks := true }, afterClose r)
    (.doctype d, rest)

/-- Reads what a less-than sign and an exclamation mark open. -/
def declaration (t : Text) : Token × Text :=
  match t with
  | '-' :: '-' :: r => readComment r
  | _ =>
    if Text.eqIgnoreCase (t.take 7) "doctype".toList then readDoctype (t.drop 7) else bogusComment t

/-! ## Markup -/

/-- A character of markup as a token. -/
def ofChar (c : Char) : Token := if c = '\x00' then .null else .char c

/-- The text up to the end of a bracketed literal, and the text behind that end. -/
def literalBody : Text → Text × Text
  | [] => ([], [])
  | ']' :: ']' :: '>' :: r => ([], r)
  | c :: r => let (content, rest) := literalBody r; (c :: content, rest)

/-- The next tokens of markup: mostly one, none for a construct without meaning. Bracketed literals
exist only in foreign content. -/
def nextMarkup (inForeign : Bool) : Text → List Token × Text
  | [] => ([], [])
  | '&' :: r =>
    match Reference.read false r with
    | some (cs, rest) => (cs.map .char, rest)
    | none => ([.char '&'], r)
  | '<' :: '!' :: r =>
    match if inForeign then Text.dropPrefix? "[CDATA[".toList r else none with
    | some r => let (content, rest) := literalBody r; (content.map ofChar, rest)
    | none => let (t, rest) := declaration r; ([t], rest)
  | '<' :: '?' :: r => let (t, rest) := bogusComment ('?' :: r); ([t], rest)
  | '<' :: '/' :: c :: r =>
    if Text.isAsciiAlpha c then
      match readTag (c :: r) with
      | some (tag, rest) => ([.endTag tag.name], rest)
      | none => ([], [])
    else if c = '>' then ([], r)
    else let (t, rest) := bogusComment (c :: r); ([t], rest)
  | '<' :: c :: r =>
    if Text.isAsciiAlpha c then
      match readTag (c :: r) with
      | some (tag, rest) => ([.startTag tag], rest)
      | none => ([], [])
    else ([.char '<'], c :: r)
  | c :: r => ([ofChar c], r)

/-! ## Literal content -/

/-- The end tag that closes literal content, and the text behind it: the name must be this one, and
a blank, a slash or a greater-than sign must follow it. A page that ends inside of the tag ends
without it. -/
def closingTag? (name : String) (t : Text) : Option (List Token × Text) :=
  match t with
  | '<' :: '/' :: r =>
    let n := name.length
    if Text.eqIgnoreCase (r.take n) name.toList && (r.drop n).head?.any endsTagName then
      match readTag r with
      | some (tag, rest) => some ([.endTag tag.name], rest)
      | none => some ([], [])
    else none
  | _ => none

/-- The next tokens of literal text, which ends at its end tag. -/
def nextLiteral (inContent : Content) (name : String) (references : Bool) (t : Text) :
    List Token × Content × Text :=
  match closingTag? name t with
  | some (ts, rest) => (ts, .markup, rest)
  | none =>
    match t with
    | [] => ([], inContent, [])
    | c :: r =>
      if references && c = '&' then
        match Reference.read false r with
        | some (cs, rest) => (cs.map .char, inContent, rest)
        | none => ([.char '&'], inContent, r)
      else ([.char (unNull c)], inContent, r)

/-- Does the text go on with the name of a script tag, and a character that ends the name? -/
def isScriptName (t : Text) : Bool :=
  Text.eqIgnoreCase (t.take 6) "script".toList && (t.drop 6).head?.any endsTagName

/-- The next tokens of a script. Text between comment marks is hidden: there a script element inside
of the script has its own end tag. -/
def nextScript (part : ScriptPart) (t : Text) : List Token × Content × Text :=
  let closed? := if part = .nested then none else closingTag? "script" t
  match closed? with
  | some (ts, rest) => (ts, .markup, rest)
  | none =>
    match part, t with
    | _, [] => ([], .script part, [])
    | .plain, '<' :: '!' :: '-' :: '-' :: r =>
      ([.char '<', .char '!'], .script .escaped, '-' :: '-' :: r)
    | .plain, c :: r => ([.char (unNull c)], .script .plain, r)
    | _, '-' :: '-' :: '>' :: r => ([.char '-', .char '-', .char '>'], .script .plain, r)
    | .escaped, '<' :: r =>
      ([.char '<'], .script (if isScriptName r then .nested else .escaped), r)
    | .nested, '<' :: '/' :: r =>
      ([.char '<', .char '/'], .script (if isScriptName r then .escaped else .nested), r)
    | part, c :: r => ([.char (unNull c)], .script part, r)

/-- The next tokens of a page, what the rest is the content of, and the rest. -/
def next (content : Content) (inForeign : Bool) (t : Text) : List Token × Content × Text :=
  match content with
  | .markup => let (ts, rest) := nextMarkup inForeign t; (ts, .markup, rest)
  | .rcdata name => nextLiteral content name true t
  | .rawText name => nextLiteral content name false t
  | .script part => nextScript part t
  | .plaintext =>
    match t with
    | [] => ([], .plaintext, [])
    | c :: r => ([.char (unNull c)], .plaintext, r)

end Token

/-- The text of a page as it is read: without a byte order mark at its front, and with line feeds
alone at the ends of lines. -/
def cleanInput (t : Text) : Text :=
  lineFeeds (match t with | '\uFEFF' :: r => r | _ => t)
where
  lineFeeds : Text → Text
    | [] => []
    | '\r' :: '\n' :: r => '\n' :: lineFeeds r
    | '\r' :: r => '\n' :: lineFeeds r
    | c :: r => c :: lineFeeds r

end ChatScribe.Html
