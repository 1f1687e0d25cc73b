import ChatScribe.Json.Basic

/-!
# Reading JSON

`Json.read?` reads one value and nothing after it but white space. The grammar is that of the JSON
standard: no comments, no trailing commas, no leading zeros, and no control character inside a
string.
-/

namespace ChatScribe.Json

def isSpace (c : Char) : Bool := c == ' ' || c == '\t' || c == '\n' || c == '\r'

def skipSpace (t : Text) : Text := t.dropWhile isSpace

/-- The number that four hexadecimal digits denote. -/
def hexQuad? (a b c d : Char) : Option Nat :=
  if [a, b, c, d].all Text.isHexDigit then
    some (((Text.hexValue a * 16 + Text.hexValue b) * 16 + Text.hexValue c) * 16 + Text.hexValue d)
  else none

def isHighSurrogate (n : Nat) : Bool := 0xD800 ≤ n && n < 0xDC00

def isLowSurrogate (n : Nat) : Bool := 0xDC00 ≤ n && n < 0xE000

/-- The character that a high and a low surrogate denote together. -/
def pairChar (high low : Nat) : Char :=
  Char.ofNat (0x10000 + (high - 0xD800) * 0x400 + (low - 0xDC00))

/-- The character of an escape with one letter. -/
def shortEscape? : Char → Option Char
  | '"' => some '"'
  | '\\' => some '\\'
  | '/' => some '/'
  | 'b' => some '\x08'
  | 'f' => some '\x0c'
  | 'n' => some '\n'
  | 'r' => some '\r'
  | 't' => some '\t'
  | _ => none

/-- A piece of a string: a character, spelled in any way but by its number, or a unit of sixteen bits
given by its number. -/
inductive Piece
  | char (c : Char)
  | unit (n : Nat)

/-- Reads the pieces of a string behind its opening quote, and the text behind its closing quote. -/
def readPieces : Text → Option (List Piece × Text)
  | [] => none
  | '"' :: r => some ([], r)
  | '\\' :: 'u' :: a :: b :: c :: d :: r =>
    match hexQuad? a b c d with
    | some n => (readPieces r).map fun (ps, rest) => (.unit n :: ps, rest)
    | none => none
  | '\\' :: c :: r =>
    match shortEscape? c with
    | some e => (readPieces r).map fun (ps, rest) => (.char e :: ps, rest)
    | none => none
  | c :: r =>
    if c.toNat < 0x20 || c = '\\' then none
    else (readPieces r).map fun (ps, rest) => (.char c :: ps, rest)

/-- The text that pieces denote. Two surrogates denote one character; a surrogate without its partner
denotes none, and then the string denotes no text. -/
def textOfPieces : List Piece → Option Text
  | [] => some []
  | .char c :: r => (textOfPieces r).map (c :: ·)
  | .unit high :: .unit low :: r =>
    if isHighSurrogate high then
      if isLowSurrogate low then (textOfPieces r).map (pairChar high low :: ·) else none
    else if isLowSurrogate high then none
    else (textOfPieces (.unit low :: r)).map (Char.ofNat high :: ·)
  | .unit n :: r =>
    if isHighSurrogate n || isLowSurrogate n then none
    else (textOfPieces r).map (Char.ofNat n :: ·)

/-- Reads a string behind its opening quote: what it denotes, and the text behind it. -/
def readString (t : Text) : Option (Option Text × Text) :=
  (readPieces t).map fun (ps, rest) => (textOfPieces ps, rest)

/-- The digits at the front of a text, and what follows them; none if there is no digit. -/
def readDigits (t : Text) : Option (Text × Text) :=
  let digits := t.takeWhile Text.isAsciiDigit
  if digits.isEmpty then none else some (digits, t.dropWhile Text.isAsciiDigit)

/-- The fraction at the front of a text, with its point, empty if there is no point. -/
def readFraction : Text → Option (Text × Text)
  | '.' :: r => (readDigits r).map fun (ds, rest) => ('.' :: ds, rest)
  | t => some ([], t)

/-- The exponent at the front of a text, with its letter, empty if there is none. -/
def readExponent : Text → Option (Text × Text)
  | c :: r =>
    if c = 'e' || c = 'E' then
      match r with
      | '+' :: r' => (readDigits r').map fun (ds, rest) => (c :: '+' :: ds, rest)
      | '-' :: r' => (readDigits r').map fun (ds, rest) => (c :: '-' :: ds, rest)
      | _ => (readDigits r).map fun (ds, rest) => (c :: ds, rest)
    else some ([], c :: r)
  | [] => some ([], [])

/-- A number without its sign. -/
def readUnsigned (t : Text) : Option (Text × Text) := do
  let (digits, r) ← readDigits t
  if digits.length > 1 ∧ digits.head? = some '0' then none
  else
    let (fraction, r) ← readFraction r
    let (exponent, r) ← readExponent r
    return (digits ++ fraction ++ exponent, r)

def readNumber : Text → Option (Text × Text)
  | '-' :: r => (readUnsigned r).map fun (n, rest) => ('-' :: n, rest)
  | t => readUnsigned t

mutual

/-- Reads a value at the front of a text. The first argument bounds the depth of the reading. -/
def readValue : Nat → Text → Option (Json × Text)
  | 0, _ => none
  | fuel + 1, t =>
    match t with
    | 'n' :: 'u' :: 'l' :: 'l' :: r => some (.null, r)
    | 't' :: 'r' :: 'u' :: 'e' :: r => some (.bool true, r)
    | 'f' :: 'a' :: 'l' :: 's' :: 'e' :: r => some (.bool false, r)
    | '"' :: r => (readString r).map fun (content, rest) => (.str content, rest)
    | '[' :: r =>
      match skipSpace r with
      | ']' :: r => some (.arr [], r)
      | r => (readElements fuel r).map fun (es, rest) => (.arr es, rest)
    | '\x7b' :: r =>
      match skipSpace r with
      | '\x7d' :: r => some (.obj [], r)
      | r => (readMembers fuel r).map fun (ms, rest) => (.obj ms, rest)
    | t => (readNumber t).map fun (n, rest) => (.num n, rest)

/-- Reads the elements of an array that has at least one, and its closing bracket. -/
def readElements : Nat → Text → Option (List Json × Text)
  | 0, _ => none
  | fuel + 1, t =>
    match readValue fuel (skipSpace t) with
    | none => none
    | some (v, r) =>
      match skipSpace r with
      | ']' :: r => some ([v], r)
      | ',' :: r => (readElements fuel r).map fun (vs, rest) => (v :: vs, rest)
      | _ => none

/-- Reads the members of an object that has at least one, and its closing brace. -/
def readMembers : Nat → Text → Option (List (Option Text × Json) × Text)
  | 0, _ => none
  | fuel + 1, t =>
    match skipSpace t with
    | '"' :: r =>
      match readString r with
      | none => none
      | some (k, r) =>
        match skipSpace r with
        | ':' :: r =>
          match readValue fuel (skipSpace r) with
          | none => none
          | some (v, r) =>
            match skipSpace r with
            | '\x7d' :: r => some ([(k, v)], r)
            | ',' :: r => (readMembers fuel r).map fun (ms, rest) => ((k, v) :: ms, rest)
            | _ => none
        | _ => none
    | _ => none

end

/-- The value that a text spells. -/
def read? (t : Text) : Option Json :=
  match readValue (2 * t.length + 2) (skipSpace t) with
  | some (v, rest) => if (skipSpace rest).isEmpty then some v else none
  | none => none

end ChatScribe.Json
