import ChatScribe.Text.Basic

/-!
# JSON values and their text

A JSON value as a tree, and the one way the library writes it: without white space, members in the
order in which they stand, and only those characters escaped that must be.

A string of a JSON text can spell half of a surrogate pair. It then denotes no text, and the tree
holds `none` in its place.
-/

namespace ChatScribe

/-- A JSON value. Numbers keep their spelling; strings whose escapes denote no text are `none`. -/
inductive Json
  | null
  | bool (b : Bool)
  | num (spelling : Text)
  | str (content : Option Text)
  | arr (elements : List Json)
  | obj (members : List (Option Text × Json))

namespace Json

/-- Two hexadecimal digits, in lower case. -/
def hexByte (n : Nat) : Text :=
  let digit (d : Nat) : Char := Char.ofNat (if d < 10 then 48 + d else 87 + d)
  [digit (n / 16 % 16), digit (n % 16)]

/-- A character inside a string: quote, backslash and control characters are escaped, in the short
form where there is one. -/
def escapeChar (c : Char) : Text :=
  if c = '"' then ['\\', '"']
  else if c = '\\' then ['\\', '\\']
  else if c = '\n' then ['\\', 'n']
  else if c = '\r' then ['\\', 'r']
  else if c = '\t' then ['\\', 't']
  else if c = '\x08' then ['\\', 'b']
  else if c = '\x0c' then ['\\', 'f']
  else if c.toNat < 0x20 then ['\\', 'u', '0', '0'] ++ hexByte c.toNat
  else [c]

/-- A string with its quotes. -/
def quote (t : Text) : Text := '"' :: t.flatMap escapeChar ++ ['"']

/-- A string that denotes no text is written as an empty one. -/
def quote? (t : Option Text) : Text := quote (t.getD [])

mutual

/-- The text of a value. -/
def render : Json → Text
  | .null => "null".toList
  | .bool true => "true".toList
  | .bool false => "false".toList
  | .num spelling => spelling
  | .str content => quote? content
  | .arr elements => '[' :: renderElements elements ++ [']']
  | .obj members => '\x7b' :: renderMembers members ++ ['\x7d']

/-- The elements of an array, with commas between them. -/
def renderElements : List Json → Text
  | [] => []
  | [v] => render v
  | v :: w :: r => render v ++ ',' :: renderElements (w :: r)

/-- The members of an object, with commas between them. -/
def renderMembers : List (Option Text × Json) → Text
  | [] => []
  | [(k, v)] => quote? k ++ ':' :: render v
  | (k, v) :: m :: r => quote? k ++ ':' :: render v ++ ',' :: renderMembers (m :: r)

end

/-! ## Making and taking apart -/

/-- A string value. -/
def ofText (t : Text) : Json := .str (some t)

/-- A string value, or null where there is none. -/
def ofText? : Option Text → Json
  | some t => ofText t
  | none => .null

def ofNat (n : Nat) : Json := .num (Text.ofNat n)

/-- An object from named members. -/
def object (members : List (String × Json)) : Json :=
  .obj (members.map fun (k, v) => (some k.toList, v))

/-- The value of a member. Of members with one name the last one counts. -/
def member? (v : Json) (name : String) : Option Json :=
  match v with
  | .obj members => (members.reverse.find? fun (k, _) => k == some name.toList).map Prod.snd
  | _ => none

def text? : Json → Option Text
  | .str content => content
  | _ => none

def elements? : Json → Option (List Json)
  | .arr elements => some elements
  | _ => none

/-- The whole number a value spells, if it spells one without fraction and exponent. -/
def int? : Json → Option Int
  | .num ('-' :: digits) =>
    if digits.all Text.isAsciiDigit then some (-(Text.decimal digits : Int)) else none
  | .num digits => if digits.all Text.isAsciiDigit then some (Text.decimal digits) else none
  | _ => none

end Json

end ChatScribe
