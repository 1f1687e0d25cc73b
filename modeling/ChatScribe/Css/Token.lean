import ChatScribe.Css.Single
import ChatScribe.Text.Quoted

/-!
# Tokens of a style sheet

Selectors are written in the tokens of CSS. `Component.ofText` reads a text as a list of components: a
component is a token, or a bracketed block with the components in it. A bracket that the text leaves
open is closed by the end of the text, and one that closes nothing is a token of its own.

`Token.render` writes a token the way a message shows it.
-/

namespace ChatScribe.Css

inductive Bracket
  | paren
  | square
  | curly
deriving DecidableEq, Repr

/-- What opens a block: a bracket, or the name of a function with a parenthesis behind it. -/
inductive Opening
  | bracket (b : Bracket)
  | function (name : Text)
deriving DecidableEq, Repr

/-- The bracket that closes a block. -/
def Opening.closing : Opening → Bracket
  | .bracket b => b
  | .function _ => .paren

/-- A number: its sign if one is written, its digits without the point, and the power of ten of the
last of them. -/
structure Numeral where
  sign? : Option Char
  digits : Nat
  exponent : Int
  /-- Is it written without point and without exponent? -/
  isInteger : Bool
deriving DecidableEq, Repr

/-- The operators that compare an attribute with a value. -/
inductive Comparison
  | equals
  | includes
  | dash
  | starts
  | ends
  | contains
deriving DecidableEq, Repr

inductive Token
  | ident (name : Text)
  | atKeyword (name : Text)
  /-- A number sign with a name behind it, which may be an identifier or not. -/
  | hash (name : Text) (isIdent : Bool)
  | string (content : Text)
  | badString (content : Text)
  | url (content : Text)
  | badUrl (content : Text)
  | delim (c : Char)
  | number (n : Numeral)
  | percentage (n : Numeral)
  | dimension (n : Numeral) (unit : Text)
  | blank (content : Text)
  /-- A comparison of two characters. The equals sign alone is a `delim`. -/
  | comparison (c : Comparison)
  | colon
  | semicolon
  | comma
  | commentOpen
  | commentClose
  /-- The start of a block. -/
  | opening (o : Opening)
  /-- A closing bracket. -/
  | closing (b : Bracket)
deriving DecidableEq, Repr

namespace Token

/-! ## Names -/

def replacement : Char := '\uFFFD'

def isNonAscii (c : Char) : Bool := 0x80 ≤ c.toNat

/-- May the character start a name? The null character counts as the replacement character. -/
def isNameStart (c : Char) : Bool :=
  Text.isAsciiAlpha c || c == '_' || c == '\x00' || isNonAscii c

def isNameChar (c : Char) : Bool := isNameStart c || Text.isAsciiDigit c || c == '-'

def isNewline (c : Char) : Bool := c == '\n' || c == '\r' || c == '\x0c'

/-- Does a backslash with this text behind it spell a character? -/
def isEscape (t : Text) : Bool := !t.head?.any isNewline

/-- Does the text start with an identifier? -/
def startsIdent : Text → Bool
  | '-' :: '\\' :: _ => true
  | '-' :: c :: _ => isNameStart c || c == '-'
  | '\\' :: r => isEscape r
  | c :: _ => isNameStart c
  | [] => false

/-- Drops one blank, where a carriage return and a line feed are one. -/
def dropBlank : Text → Text
  | '\r' :: '\n' :: r => r
  | c :: r => if Text.isMarkupSpace c then r else c :: r
  | [] => []

/-- Reads the character that is spelt behind a backslash: up to six hexadecimal digits and a blank,
or a character as it is. -/
def escape (t : Text) : Char × Text :=
  match t with
  | [] => (replacement, [])
  | c :: r =>
    if Text.isHexDigit c then
      let digits := (t.take 6).takeWhile Text.isHexDigit
      let n := digits.foldl (fun n d => 16 * n + Text.hexValue d) 0
      let spelt := if n = 0 || !Nat.isValidChar n then replacement else Char.ofNat n
      (spelt, dropBlank (t.drop digits.length))
    else (if c = '\x00' then replacement else c, r)

/-- Reads a name: its characters and the text behind it. -/
def name : Nat → Text → Text × Text
  | 0, t => ([], t)
  | _, [] => ([], [])
  | fuel + 1, c :: r =>
    if c = '\\' then
      if isEscape r then
        let (spelt, rest) := escape r
        let (cs, rest) := name fuel rest
        (spelt :: cs, rest)
      else ([], c :: r)
    else if isNameChar c then
      let (cs, rest) := name fuel r
      ((if c = '\x00' then replacement else c) :: cs, rest)
    else ([], c :: r)

def readName (t : Text) : Text × Text := name (t.length + 1) t

/-! ## Numbers -/

/-- Does the text start with a number, behind a sign? -/
def startsDigits : Text → Bool
  | '.' :: d :: _ => Text.isAsciiDigit d
  | d :: _ => Text.isAsciiDigit d
  | [] => false

/-- Reads the digits behind the point of a number. -/
def fraction (t : Text) : Text × Text :=
  match t with
  | '.' :: r =>
    match r.takeWhile Text.isAsciiDigit with
    | [] => ([], t)
    | ds => (ds, r.dropWhile Text.isAsciiDigit)
  | _ => ([], t)

/-- Reads the exponent of a number. -/
def exponent? (t : Text) : Option (Int × Text) :=
  match t with
  | e :: r =>
    if e = 'e' || e = 'E' then
      let (negative, ds) := match r with
        | '-' :: r => (true, r)
        | '+' :: r => (false, r)
        | r => (false, r)
      match ds.takeWhile Text.isAsciiDigit with
      | [] => none
      | digits =>
        let n : Int := Text.decimal digits
        some (if negative then -n else n, ds.dropWhile Text.isAsciiDigit)
    else none
  | [] => none

/-- Reads a number at its sign or first digit. -/
def readNumeral (t : Text) : Numeral × Text :=
  let (sign?, r) := match t with
    | '+' :: r => (some '+', r)
    | '-' :: r => (some '-', r)
    | r => (none, r)
  let whole := r.takeWhile Text.isAsciiDigit
  let (part, r) := fraction (r.dropWhile Text.isAsciiDigit)
  let digits := Text.decimal (whole ++ part)
  let shift : Int := -(part.length : Int)
  match exponent? r with
  | some (e, r) => (⟨sign?, digits, shift + e, false⟩, r)
  | none => (⟨sign?, digits, shift, part.isEmpty⟩, r)

def numeric (t : Text) : Token × Text :=
  let (n, r) := readNumeral t
  match r with
  | '%' :: r => (.percentage n, r)
  | r =>
    if startsIdent r then
      let (unit, r) := readName r
      (.dimension n unit, r)
    else (.number n, r)

/-! ## Strings and addresses -/

/-- Reads a string up to its closing quote: its content, whether it is good, and the text behind it. A
line that ends inside of it makes it a bad one. -/
def stringBody (quote : Char) : Nat → Text → Text × Bool × Text
  | 0, t => ([], true, t)
  | _, [] => ([], true, [])
  | fuel + 1, c :: r =>
    if c = quote then ([], true, r)
    else if isNewline c then ([], false, c :: r)
    else if c = '\\' then
      match r with
      | [] => ([], true, [])
      | d :: _ =>
        if isNewline d then stringBody quote fuel (dropBlank r)
        else
          let (spelt, rest) := escape r
          let (cs, good, rest) := stringBody quote fuel rest
          (spelt :: cs, good, rest)
    else
      let (cs, good, rest) := stringBody quote fuel r
      ((if c = '\x00' then replacement else c) :: cs, good, rest)

def readString (quote : Char) (t : Text) : Token × Text :=
  let (content, good, rest) := stringBody quote (t.length + 1) t
  (if good then .string content else .badString content, rest)

/-- The text behind the parenthesis that ends a bad address, and the text in front of it. -/
def badUrlBody : Text → Text × Text
  | [] => ([], [])
  | '\\' :: c :: r => let (cs, rest) := badUrlBody r; ('\\' :: c :: cs, rest)
  | c :: r => if c = ')' then ([], r) else let (cs, rest) := badUrlBody r; (c :: cs, rest)

def isUnprintable (c : Char) : Bool :=
  let n := c.toNat
  (1 ≤ n && n ≤ 8) || n == 0xB || (0xE ≤ n && n ≤ 0x1F) || n == 0x7F

/-- Reads an address without quotes up to its parenthesis. Nothing is answered for a bad one. -/
def urlBody? : Nat → Text → Option (Text × Text)
  | 0, t => some ([], t)
  | _, [] => some ([], [])
  | fuel + 1, c :: r =>
    if c = ')' then some ([], r)
    else if Text.isMarkupSpace c then
      match r.dropWhile Text.isMarkupSpace with
      | [] => some ([], [])
      | d :: r => if d = ')' then some ([], r) else none
    else if c = '"' || c = '\x27' || c = '(' || isUnprintable c then none
    else if c = '\\' then
      if isEscape r then
        let (spelt, rest) := escape r
        (urlBody? fuel rest).map fun (cs, rest) => (spelt :: cs, rest)
      else none
    else
      (urlBody? fuel r).map fun (cs, rest) => ((if c = '\x00' then replacement else c) :: cs, rest)

/-- Reads the address behind the parenthesis of a `url` function. A quoted one makes the function an
ordinary one. -/
def readUrl (fn : Text) (t : Text) : Token × Text :=
  match t.dropWhile Text.isMarkupSpace with
  | '"' :: _ => (.opening (.function fn), t)
  | '\x27' :: _ => (.opening (.function fn), t)
  | r =>
    match urlBody? (r.length + 1) r with
    | some (content, rest) => (.url content, rest)
    | none => let (content, rest) := badUrlBody r; (.badUrl content, rest)

/-- Reads what starts with a name: an identifier, a function or an address. -/
def identLike (t : Text) : Token × Text :=
  match readName t with
  | (fn, '(' :: r) =>
    if Text.eqIgnoreCase fn "url".toList then readUrl fn r else (.opening (.function fn), r)
  | (id, r) => (.ident id, r)

/-! ## Tokens -/

/-- The text behind a comment. -/
def afterComment : Text → Text
  | '*' :: '/' :: r => r
  | _ :: r => afterComment r
  | [] => []

/-- Reads the next token of a text that is not empty. Nothing is answered for a comment. -/
def next (c : Char) (r : Text) : Option Token × Text :=
  if Text.isMarkupSpace c then
    (some (.blank (c :: r.takeWhile Text.isMarkupSpace)), r.dropWhile Text.isMarkupSpace)
  else if Text.isAsciiDigit c then some' (numeric (c :: r))
  else
    match c, r with
    | '/', '*' :: r => (none, afterComment r)
    | '~', '=' :: r => (some (.comparison .includes), r)
    | '|', '=' :: r => (some (.comparison .dash), r)
    | '^', '=' :: r => (some (.comparison .starts), r)
    | '$', '=' :: r => (some (.comparison .ends), r)
    | '*', '=' :: r => (some (.comparison .contains), r)
    | '<', '!' :: '-' :: '-' :: r => (some .commentOpen, r)
    | '"', r => some' (readString '"' r)
    | '\x27', r => some' (readString '\x27' r)
    | '(', r => (some (.opening (.bracket .paren)), r)
    | '[', r => (some (.opening (.bracket .square)), r)
    | '\x7b', r => (some (.opening (.bracket .curly)), r)
    | ')', r => (some (.closing .paren), r)
    | ']', r => (some (.closing .square), r)
    | '\x7d', r => (some (.closing .curly), r)
    | ',', r => (some .comma, r)
    | ':', r => (some .colon, r)
    | ';', r => (some .semicolon, r)
    | '#', r =>
      if startsIdent r then let (n, r) := readName r; (some (.hash n true), r)
      else if r.head?.any fun d => Text.isAsciiDigit d || d == '-' then
        let (n, r) := readName r
        (some (.hash n false), r)
      else (some (.delim '#'), r)
    | '@', r =>
      if startsIdent r then let (n, r) := readName r; (some (.atKeyword n), r)
      else (some (.delim '@'), r)
    | '+', r => if startsDigits r then some' (numeric ('+' :: r)) else (some (.delim '+'), r)
    | '.', r => if startsDigits ('.' :: r) then some' (numeric ('.' :: r)) else (some (.delim '.'), r)
    | '-', r =>
      if startsDigits r then some' (numeric ('-' :: r))
      else
        match r with
        | '-' :: '>' :: r => (some .commentClose, r)
        | r => if startsIdent ('-' :: r) then some' (identLike ('-' :: r)) else (some (.delim '-'), r)
    | c, r => if startsIdent (c :: r) then some' (identLike (c :: r)) else (some (.delim c), r)
where
  some' (p : Token × Text) : Option Token × Text := (some p.1, p.2)

/-- The tokens of a text. Every step takes at least one character, so their number bounds the steps. -/
def all : Nat → Text → List Token
  | 0, _ => []
  | _, [] => []
  | fuel + 1, c :: r =>
    match next c r with
    | (some t, rest) => t :: all fuel rest
    | (none, rest) => all fuel rest

def ofText (t : Text) : List Token := all (t.length + 1) t

/-! ## How a token is shown -/

/-- A number as it is shown: one that is written with a sign has a sign in front of its value, and
the value of a negative one has its own. -/
def renderNumeral (n : Numeral) : Text :=
  let value := Single.renderDecimal n.digits n.exponent
  match n.sign? with
  | none => value
  | some '-' => '-' :: '-' :: value
  | some _ => (if value = ['0'] then '-' else '+') :: value

def openChar : Bracket → Char
  | .paren => '('
  | .square => '['
  | .curly => '\x7b'

def closeChar : Bracket → Char
  | .paren => ')'
  | .square => ']'
  | .curly => '\x7d'

/-- A token as it is shown. A bracket has a mark in front, and a percentage is shown as a part of
one. -/
def render : Token → Text
  | .ident n => n
  | .atKeyword n => '@' :: n
  | .hash n _ => '#' :: n
  | .string content => '"' :: content ++ ['"']
  | .badString content => "<Bad String ".toList ++ Text.quoted content ++ ['>']
  | .url content => content
  | .badUrl content => "<Bad URL ".toList ++ Text.quoted content ++ ['>']
  | .delim c => [c]
  | .number n => renderNumeral n
  | .percentage n => renderNumeral { n with exponent := n.exponent - 2 } ++ ['%']
  | .dimension n unit => renderNumeral n ++ unit
  | .blank _ => [' ']
  | .comparison .equals => ['=']
  | .comparison .includes => "~=".toList
  | .comparison .dash => "|=".toList
  | .comparison .starts => "^=".toList
  | .comparison .ends => "$=".toList
  | .comparison .contains => "*=".toList
  | .colon => [':']
  | .semicolon => [';']
  | .comma => [',']
  | .commentOpen => "<!--".toList
  | .commentClose => "-->".toList
  | .opening (.bracket b) => ['<', openChar b]
  | .opening (.function n) => n ++ "()".toList
  | .closing b => ['<', closeChar b]

end Token

/-- A token that is no bracket, or a block with what stands in it. -/
inductive Component
  | token (t : Token)
  | block (o : Opening) (content : List Component)
deriving Repr

namespace Component

/-- The token that a component starts with. -/
def head : Component → Token
  | .token t => t
  | .block o _ => .opening o

/-- A block that is not closed yet: how it was opened, and the components in front of it, last one
first. -/
structure Frame where
  opening : Opening
  outer : List Component

/-- Closes all open blocks. -/
def closeAll (current : List Component) : List Frame → List Component
  | [] => current.reverse
  | f :: frames => closeAll (.block f.opening current.reverse :: f.outer) frames

/-- Builds the blocks. `current` holds the components of the innermost open block, last one first. -/
def nest (current : List Component) (frames : List Frame) : List Token → List Component
  | [] => closeAll current frames
  | .opening o :: ts => nest [] (⟨o, current⟩ :: frames) ts
  | .closing b :: ts =>
    match frames with
    | f :: outer =>
      if f.opening.closing = b then nest (.block f.opening current.reverse :: f.outer) outer ts
      else nest (.token (.closing b) :: current) frames ts
    | [] => nest (.token (.closing b) :: current) frames ts
  | t :: ts => nest (.token t :: current) frames ts

/-- The components of a text. -/
def ofText (t : Text) : List Component := nest [] [] (Token.ofText t)

mutual

/-- The number of components in a component. -/
def size : Component → Nat
  | .token _ => 1
  | .block _ content => 1 + sizeAll content

def sizeAll : List Component → Nat
  | [] => 0
  | c :: cs => size c + sizeAll cs

end

end Component

end ChatScribe.Css
