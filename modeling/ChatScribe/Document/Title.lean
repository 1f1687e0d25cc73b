import ChatScribe.Text.Basic

/-!
# Titles

The heading of a shared page becomes the title of the document, and the title becomes a part of the
file name. Both drop the brand in front and all punctuation, and join the words by underscores.
-/

namespace ChatScribe.Title

/-- The title of a page that has no usable one. -/
def fallback : Text := "Chat_Record".toList

/-- The product name that pages put into their titles. -/
def brand : Text := "gemini".toList

/-- The text behind the brand, in any letter case, if it starts with it. -/
def dropBrand? (t : Text) : Option Text :=
  if Text.eqIgnoreCase (t.take brand.length) brand then some (t.drop brand.length) else none

/-- Drops a leading brand together with the blanks, underscores and hyphens behind it. -/
def stripBrand (t : Text) : Text :=
  match dropBrand? t with
  | some rest => rest.dropWhile fun c => Text.isSpace c || c == '_' || c == '-'
  | none => t

/-- A title keeps ASCII letters and digits, CJK ideographs, and white space. -/
def isTitleChar (c : Char) : Bool :=
  Text.isAsciiAlphanum c || ('\u4E00' ≤ c && c ≤ '\u9FFF') || Text.isSpace c

/-- The words of a text joined by underscores. -/
def joinWords (t : Text) : Text := Text.join ['_'] t.words

/-- The title of a document, from the heading or the title of its page. -/
def clean (raw : Text) : Text :=
  let kept := (stripBrand raw.trim).filter isTitleChar
  let title := joinWords (stripBrand (Text.trim kept))
  if title.isEmpty then fallback else title

/-- Drops the ending that browsers show in the title of a page: a hyphen and the brand. -/
def stripSite (pageTitle : Text) : Text :=
  let t := pageTitle.trim
  let cut := t.length - brand.length
  if brand.length ≤ t.length ∧ Text.eqIgnoreCase (t.drop cut) brand then
    let before : Text := Text.trimEnd (t.take cut)
    match before.getLast? with
    | some '-' => Text.trim before.dropLast
    | _ => t
  else t

end ChatScribe.Title
