import ChatScribe.Text.Basic

/-!
# The notation of the settings file

Settings are written in an object notation with named structures: `Name(field: value, …)`, where the
name may be left out, lists in square brackets, maps in braces, strings with escapes or raw, numbers,
characters and names. Blanks and comments may stand between any two pieces.

`Value.read?` reads a whole text as one value. Numbers, characters and byte strings have no part in the
settings, so that they were there is all that is kept of them.
-/

namespace ChatScribe.Settings

/-- A value as it is written. -/
inductive Value
  | text (t : Text)
  /-- A name alone, such as a choice or a truth value. -/
  | name (n : Text)
  /-- A number, a character or a byte string. -/
  | scalar
  | list (elements : List Value)
  | map (entries : List (Value × Value))
  /-- A structure with named fields. -/
  | fields (name? : Option Text) (members : List (Text × Value))
  /-- A structure without field names, which may be empty. -/
  | tuple (name? : Option Text) (elements : List Value)

/-- What a text that starts with extensions switches on. -/
structure Header where
  /-- Must every structure have its name? -/
  explicitNames : Bool

namespace Value

/-! ## Blanks and comments -/

def isBlankChar (c : Char) : Bool :=
  let n := c.toNat
  (0x9 ≤ n && n ≤ 0xD) || n == 0x20 || n == 0x85 || n == 0x200E || n == 0x200F || n == 0x2028 ||
    n == 0x2029

/-- The text behind a comment that may hold other comments. `depth` counts the open ones. -/
def afterComment? : Nat → Text → Option Text
  | _, [] => none
  | 0, t => some t
  | depth + 1, '*' :: '/' :: r => if depth = 0 then some r else afterComment? depth r
  | depth, '/' :: '*' :: r => afterComment? (depth + 1) r
  | depth, _ :: r => afterComment? depth r

/-- Skips blanks and comments. A comment without end is an error. -/
def skip? : Nat → Text → Option Text
  | 0, t => some t
  | fuel + 1, t =>
    match t.dropWhile isBlankChar with
    | '/' :: '/' :: r => skip? fuel (r.dropWhile (· != '\n'))
    | '/' :: '*' :: r => (afterComment? 1 r).bind (skip? fuel)
    | '/' :: _ => none
    | r => some r

def skipAll? (t : Text) : Option Text := skip? (t.length + 1) t

/-! ## Names, strings and other scalars -/

def isNameStart (c : Char) : Bool := Text.isAsciiAlpha c || c == '_' || 0xAA ≤ c.toNat

def isNameChar (c : Char) : Bool := isNameStart c || Text.isAsciiDigit c

/-- Reads a name. A mark in front lets it hold points and signs. -/
def readName? (t : Text) : Option (Text × Text) :=
  match t with
  | 'r' :: '#' :: r =>
    let inName (c : Char) : Bool := isNameChar c || c == '.' || c == '+' || c == '-'
    match r.takeWhile inName with
    | [] => none
    | n => some (n, r.dropWhile inName)
  | c :: _ => if isNameStart c then some (t.takeWhile isNameChar, t.dropWhile isNameChar) else none
  | [] => none

/-- The character that hexadecimal digits spell. -/
def spelt? (digits : Text) : Option Char :=
  let n := digits.foldl (fun n d => 16 * n + Text.hexValue d) 0
  if n.isValidChar then some (Char.ofNat n) else none

/-- Reads what follows a backslash. -/
def escape? (t : Text) : Option (Char × Text) :=
  match t with
  | 'n' :: r => some ('\n', r)
  | 'r' :: r => some ('\r', r)
  | 't' :: r => some ('\t', r)
  | '0' :: r => some ('\x00', r)
  | '\\' :: r => some ('\\', r)
  | '"' :: r => some ('"', r)
  | '\x27' :: r => some ('\x27', r)
  | 'x' :: h :: l :: r =>
    if Text.isHexDigit h && Text.isHexDigit l then (spelt? [h, l]).map (·, r) else none
  | 'u' :: '\x7b' :: r =>
    let digits := (r.take 6).takeWhile Text.isHexDigit
    match digits, r.drop digits.length with
    | _ :: _, '\x7d' :: rest => (spelt? digits).map (·, rest)
    | _, _ => none
  | _ => none

/-- Reads a string up to its closing quote. -/
def stringBody? (quote : Char) : Nat → Text → Option (Text × Text)
  | 0, _ => none
  | _, [] => none
  | fuel + 1, c :: r =>
    if c = quote then some ([], r)
    else if c = '\\' then do
      let (d, rest) ← escape? r
      let (cs, rest) ← stringBody? quote fuel rest
      return (d :: cs, rest)
    else do
      let (cs, rest) ← stringBody? quote fuel r
      return (c :: cs, rest)

def readString? (t : Text) : Option (Text × Text) := stringBody? '"' (t.length + 1) t

/-- Reads a raw string up to a quote with this ending behind it. -/
def rawBody? (ending : Text) : Text → Option (Text × Text)
  | [] => none
  | '"' :: r =>
    match Text.dropPrefix? ending r with
    | some rest => some ([], rest)
    | none => (rawBody? ending r).map fun (cs, rest) => ('"' :: cs, rest)
  | c :: r => (rawBody? ending r).map fun (cs, rest) => (c :: cs, rest)

/-- Reads a raw string behind its letter. -/
def readRaw? (t : Text) : Option (Text × Text) :=
  let marks := t.takeWhile (· == '#')
  match t.drop marks.length with
  | '"' :: r => rawBody? marks r
  | _ => none

def isNumberStart (t : Text) : Bool :=
  match t with
  | '+' :: r | '-' :: r => r.head?.any fun d => Text.isAsciiDigit d || d == '.' || d == 'i' || d == 'N'
  | '.' :: d :: _ => Text.isAsciiDigit d
  | d :: _ => Text.isAsciiDigit d
  | [] => false

/-- The text behind a number. -/
def afterNumber (t : Text) : Text :=
  let inNumber (c : Char) : Bool := Text.isAsciiAlphanum c || c == '_' || c == '.' || c == '+' || c == '-'
  t.dropWhile inNumber

/-- Reads a character literal behind its quote. -/
def afterChar? (t : Text) : Option Text :=
  match t with
  | '\\' :: r =>
    match escape? r with
    | some (_, '\x27' :: rest) => some rest
    | _ => none
  | _ :: '\x27' :: rest => some rest
  | _ => none

/-! ## Values -/

/-- Reads the pieces of a bracketed list up to its end: a piece, and a comma unless the end follows. -/
def pieces? {α : Type} (closing : Char) (piece? : Text → Option (α × Text)) :
    Nat → Text → Option (List α × Text)
  | 0, _ => none
  | fuel + 1, t => do
    match ← skipAll? t with
    | c :: r =>
      if c = closing then return ([], r)
      else
        let (x, rest) ← piece? (c :: r)
        match ← skipAll? rest with
        | ',' :: rest =>
          let (xs, rest) ← pieces? closing piece? fuel rest
          return (x :: xs, rest)
        | d :: rest => if d = closing then return ([x], rest) else none
        | [] => none
    | [] => none

/-- Reads the name of a field and its colon, if a field stands at the front. -/
def fieldName? (t : Text) : Option (Text × Text) := do
  let (n, rest) ← readName? t
  match ← skipAll? rest with
  | ':' :: rest => return (n, rest)
  | _ => none

/-- Reads a value at the front of a text that starts with no blank. The fuel bounds the depth. -/
def value? : Nat → Text → Option (Value × Text)
  | 0, _ => none
  | fuel + 1, t =>
    let next? (t : Text) : Option (Value × Text) := (skipAll? t).bind (value? fuel)
    let entry? (t : Text) : Option ((Value × Value) × Text) := do
      let (k, rest) ← next? t
      match ← skipAll? rest with
      | ':' :: rest =>
        let (v, rest) ← next? rest
        return ((k, v), rest)
      | _ => none
    let member? (t : Text) : Option ((Text × Value) × Text) := do
      let (n, rest) ← fieldName? t
      let (v, rest) ← next? rest
      return ((n, v), rest)
    let body? (name? : Option Text) (t : Text) : Option (Value × Text) := do
      let inner ← skipAll? t
      if (fieldName? inner).isSome then
        let (ms, rest) ← pieces? ')' member? (t.length + 1) t
        return (.fields name? ms, rest)
      else
        let (vs, rest) ← pieces? ')' next? (t.length + 1) t
        return (.tuple name? vs, rest)
    match t with
    | '"' :: r => (readString? r).map fun (s, rest) => (.text s, rest)
    | '(' :: r => body? none r
    | '[' :: r => (pieces? ']' next? (r.length + 1) r).map fun (vs, rest) => (.list vs, rest)
    | '\x7b' :: r => (pieces? '\x7d' entry? (r.length + 1) r).map fun (es, rest) => (.map es, rest)
    | '\x27' :: r => (afterChar? r).map fun rest => (.scalar, rest)
    | 'r' :: '"' :: r => (readRaw? ('"' :: r)).map fun (s, rest) => (.text s, rest)
    | 'b' :: '"' :: r => (readString? r).map fun (_, rest) => (.scalar, rest)
    | 'b' :: '\x27' :: r => (afterChar? r).map fun rest => (.scalar, rest)
    | 'b' :: 'r' :: '"' :: r => (readRaw? ('"' :: r)).map fun (_, rest) => (.scalar, rest)
    | 'b' :: 'r' :: '#' :: r => (readRaw? ('#' :: r)).map fun (_, rest) => (.scalar, rest)
    | _ =>
      if isNumberStart t then some (.scalar, afterNumber t)
      else
        match if Text.startsWith t ['r', '#'] then readRaw? t.tail else none with
        | some (s, rest) => some (.text s, rest)
        | none => do
          let (n, rest) ← readName? t
          match ← skipAll? rest with
          | '(' :: r => body? (some n) r
          | _ => return (.name n, rest)

/-! ## Extensions and the whole text -/

/-- The extensions that a text may switch on. -/
def extensions : List String :=
  ["implicit_some", "unwrap_newtypes", "unwrap_variant_newtypes", "explicit_struct_names"]

/-- Reads the lines at the front that switch extensions on. -/
def header? (h : Header) : Nat → Text → Option (Header × Text)
  | 0, t => some (h, t)
  | fuel + 1, t => do
    let t ← skipAll? t
    match Text.dropPrefix? ['#', '!', '['] t with
    | none => return (h, t)
    | some r =>
      let r ← Text.dropPrefix? "enable".toList (← skipAll? r)
      let r ← Text.dropPrefix? ['('] (← skipAll? r)
      let (names, r) ← pieces? ')' readName? (r.length + 1) r
      let r ← Text.dropPrefix? [']'] (← skipAll? r)
      if names.all fun n => extensions.contains (String.ofList n) then
        header? ⟨h.explicitNames || names.contains "explicit_struct_names".toList⟩ fuel r
      else none

/-- Reads a whole text as one value. -/
def read? (t : Text) : Option (Header × Value) := do
  let (h, r) ← header? ⟨false⟩ (t.length + 1) t
  let (v, rest) ← value? (t.length + 1) (← skipAll? r)
  match ← skipAll? rest with
  | [] => return (h, v)
  | _ => none

/-! ## Taking values apart -/

def text? : Value → Option Text
  | .text t => some t
  | _ => none

def texts? : Value → Option (List Text)
  | .list vs => vs.mapM text?
  | _ => none

/-- The members of a structure, if it has this name or, where that is allowed, none. A structure without
any members can be written either way. -/
def members? (h : Header) (wanted : String) (v : Value) : Option (List (Text × Value)) :=
  let named (name? : Option Text) : Bool :=
    match name? with
    | some n => n == wanted.toList
    | none => !h.explicitNames
  match v with
  | .fields name? ms => if named name? then some ms else none
  | .tuple name? [] => if named name? then some [] else none
  | _ => none

/-- The value of a member, or a standard one when it is left out. No member may stand twice. -/
def member? {α : Type} (ms : List (Text × Value)) (key : String) (standard : α)
    (read? : Value → Option α) : Option α :=
  match ms.filter fun (k, _) => k == key.toList with
  | [] => some standard
  | [(_, v)] => read? v
  | _ => none

end Value

end ChatScribe.Settings
