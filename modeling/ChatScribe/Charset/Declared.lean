import ChatScribe.Charset.Basic
import ChatScribe.Text.Utf8

/-!
# Declared encodings

A page can say how it is encoded: by a mark at its front, by the content type it was sent with, or by a
meta tag among its first bytes. This module finds what each of them says.
-/

namespace ChatScribe.Charset

/-! ## The byte order mark -/

/-- The encoding that a mark at the front names, and the bytes behind the mark. -/
def ofMark? : List UInt8 → Option (Charset × List UInt8)
  | 0xEF :: 0xBB :: 0xBF :: r => some (.utf8, r)
  | 0xFE :: 0xFF :: r => some (.utf16 .big, r)
  | 0xFF :: 0xFE :: r => some (.utf16 .little, r)
  | _ => none

/-! ## The content type -/

def isQuote (c : Char) : Bool := c == '"' || c == '\x27'

/-- A text without the quotes at its ends. -/
def unquote (t : Text) : Text := ((t.dropWhile isQuote).reverse.dropWhile isQuote).reverse

/-- The value of the first charset parameter of a content type. -/
def parameter? (contentType : Text) : Option Text :=
  (Text.splitOn ';' contentType).findSome? fun part =>
    match Text.splitOnce '=' part with
    | some (key, value) =>
      if Text.eqIgnoreCase (Text.trim key) "charset".toList then some (unquote (Text.trim value))
      else none
    | none => none

def ofContentType? (contentType : Text) : Option Charset := (parameter? contentType).bind ofLabel?

/-! ## The meta tag -/

/-- The characters of a page as far as its bytes are UTF-8. A byte that belongs to no character is
nothing. Every step takes a byte, so the number of bytes bounds the steps. -/
def scalars : Nat → List UInt8 → List (Option Char)
  | 0, _ => []
  | _, [] => []
  | fuel + 1, b :: bs =>
    match Utf8.next? (b :: bs) with
    | some (c, rest) => some c :: scalars fuel rest
    | none => none :: scalars fuel bs

/-- Letters are compared without regard to case. The long s is a capital of the letter s. -/
def foldLetter (c : Char) : Char := if c = 'ſ' then 's' else Text.lowerChar c

/-- What follows a word at the front of a text, in any letter case. -/
def dropWord? : Text → Text → Option Text
  | [], t => some t
  | _ :: _, [] => none
  | w :: ws, c :: r => if foldLetter c = w then dropWord? ws r else none

/-- A character of a label. In any letter case, the Kelvin sign and the long s are letters too. -/
def isLabelChar (c : Char) : Bool :=
  Text.isAsciiAlphanum c || c == '_' || c == ':' || c == '.' || c == '-' || c == 'ſ' || c == '\u212A'

/-- The label that a declaration at the front of a text gives. -/
def declared? (t : Text) : Option Text :=
  match (dropWord? "charset".toList t).map fun r => r.dropWhile Text.isSpace with
  | some ('=' :: r) =>
    let value := r.dropWhile Text.isSpace
    let value := if value.head?.any isQuote then value.tail else value
    match value.takeWhile isLabelChar with
    | [] => none
    | label => some label
  | _ => none

/-- The label of the last declaration in a text. -/
def lastDeclared? : Text → Option Text
  | [] => none
  | c :: r => (lastDeclared? r).or (declared? (c :: r))

/-- The characters up to the next greater-than sign or malformed byte. -/
def tagText : List (Option Char) → Text
  | some c :: r => if c = '>' then [] else c :: tagText r
  | _ => []

/-- The label in a meta tag at the front. Something must stand between the name and the declaration. -/
def metaLabel? (t : List (Option Char)) : Option Text :=
  match dropWord? "<meta".toList (tagText t) with
  | some (_ :: r) => lastDeclared? r
  | _ => none

/-- The label in the first meta tag that has one. -/
def findMeta? : List (Option Char) → Option Text
  | [] => none
  | c :: r => (metaLabel? (c :: r)).or (findMeta? r)

/-- The bytes in which a meta tag is looked for. -/
def metaLength : Nat := 1024

/-- The encoding that a meta tag names. -/
def ofMeta? (bs : List UInt8) : Option Charset :=
  let front := bs.take metaLength
  (findMeta? (scalars front.length front)).bind ofLabel?

end ChatScribe.Charset
