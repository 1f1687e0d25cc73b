import ChatScribe.Charset.Declared
import ChatScribe.Charset.Detect
import ChatScribe.Text.Quoted

/-!
# Reading the bytes of a page

The encoding of a page is chosen by the first of four witnesses that names one: a byte order mark, the
content type, a meta tag, and the look of the bytes. Then all bytes must spell characters in it.
-/

namespace ChatScribe.Charset

/-- Which witness chose the encoding. -/
inductive Witness
  | byteOrderMark
  | contentType
  | metaTag
  | detected
deriving DecidableEq, Repr

/-- The text of a page, with the encoding it was read in. -/
structure Reading where
  text : Text
  charset : Charset
  witness : Witness
deriving DecidableEq, Repr

/-- A page whose bytes are not well formed in the encoding chosen for it. -/
structure Malformed where
  charset : Charset
deriving DecidableEq, Repr

def Malformed.message (e : Malformed) : Text :=
  "failed to decode bytes with ".toList ++ e.charset.name.toList ++
    ": malformed byte sequence".toList

/-- The encoding of bytes without a mark, and the witness for it. -/
def choose (bs : List UInt8) (contentType? : Option Text) : Charset × Witness :=
  match contentType?.bind ofContentType? with
  | some c => (c, .contentType)
  | none =>
    match ofMeta? bs with
    | some c => (c, .metaTag)
    | none => (detect bs, .detected)

def readIn (c : Charset) (w : Witness) (bs : List UInt8) : Except Malformed Reading :=
  match decode? c bs with
  | some t => .ok ⟨t, c, w⟩
  | none => .error ⟨c⟩

/-- Reads the bytes of a page. The mark is no part of its text. -/
def read (bs : List UInt8) (contentType? : Option Text) : Except Malformed Reading :=
  match ofMark? bs with
  | some (c, rest) => readIn c .byteOrderMark rest
  | none =>
    let (c, w) := choose bs contentType?
    readIn c w bs

end ChatScribe.Charset
