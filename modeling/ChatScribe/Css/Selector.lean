import ChatScribe.Css.Token

/-!
# Selectors

A selector is a test for elements of a tree. `Selector.read` reads a comma-separated list of them and
says what is wrong with a text that is none.

The arguments of `:is` and `:where` are read leniently: an alternative that cannot be read matches
nothing.
-/

namespace ChatScribe.Css

/-- How the element of a test lies to the element of the test in front of it. -/
inductive Combinator
  | descendant
  | child
  | adjacent
  | sibling
deriving DecidableEq, Repr

/-- A test on the place of an element among its siblings, counted from one: it is `step * n + offset`
for some `n` that is not negative. -/
structure Place where
  step : Int
  offset : Int
  fromEnd : Bool
  /-- Are only siblings of the same type counted? -/
  ofType : Bool
deriving DecidableEq, Repr

/-- When letter case is ignored in the value of an attribute. -/
inductive ValueCase
  | exact
  | ignored
  /-- In HTML elements, for an attribute whose values are keywords. -/
  | ignoredInHtml
deriving DecidableEq, Repr

/-- A test on an attribute: that it is there, and how its value compares. -/
structure AttributeTest where
  name : String
  /-- Does any namespace do, or only none? -/
  anySpace : Bool
  value? : Option (Comparison × Text × ValueCase)
deriving DecidableEq, Repr

mutual

/-- A test on one element. -/
inductive Simple
  | tag (name : String)
  /-- An element without namespace. No page has one. -/
  | inNoSpace
  | id (name : Text)
  | classed (name : Text)
  | attr (test : AttributeTest)
  | place (p : Place)
  | root
  | empty
  | scope
  | isAny (alternatives : List Complex)
  | isNone (alternatives : List Complex)
  /-- Something lies relative to the element. -/
  | has (relatives : List Complex)
  | never

/-- Tests on an element and on elements around it. -/
inductive Complex
  /-- The element that a relative selector starts from. -/
  | anchor
  | compound (tests : List Simple)
  | after (left : Complex) (c : Combinator) (tests : List Simple)

end

/-- A list of selectors. An element matches it when it matches one of them. -/
structure Selector where
  alternatives : List Complex

/-- What is wrong with a selector. -/
inductive Fault
  | endOfInput
  | unexpected (t : Token)
  /-- A colon without a name behind it. -/
  | nameless (t : Token)
  /-- Anything that has no message of its own. -/
  | unsupported
deriving DecidableEq, Repr

/-- What a message says of a fault. -/
def Fault.reason? : Fault → Option Text
  | .endOfInput => some "Unexpected EOL".toList
  | .unexpected t => some ("Token ".toList ++ Text.quoted t.render ++ " was not expected".toList)
  | .nameless t =>
    some ("Expected identity for pseudoelement, got ".toList ++ Text.quoted t.render ++
      " instead".toList)
  | .unsupported => none

/-- Reads components from the front of a list. A reader that fails keeps what it has taken. -/
abbrev Reader := EStateM Fault (List Component)

namespace Reader

/-- The next component. -/
def next? : Reader (Option Component) := do
  match ← get with
  | [] => return none
  | c :: rest =>
    set rest
    return some c

def isBlank : Component → Bool
  | .token (.blank _) => true
  | _ => false

def skipBlanks : Reader Unit := modify fun cs => cs.dropWhile isBlank

def next : Reader Component := do
  match ← next? with
  | some c => return c
  | none => throw .endOfInput

/-- The next component that is no blank. -/
def nextVisible : Reader Component := do
  skipBlanks
  next

/-- The fault of a list that should hold nothing but blanks. -/
def leftover? (cs : List Component) : Option Fault :=
  (cs.find? fun c => !isBlank c).map fun c => .unexpected c.head

/-- Reads the whole of a list. -/
def runAll {α : Type} (r : Reader α) (cs : List Component) : Except Fault α :=
  match r.run cs with
  | .ok a rest =>
    match leftover? rest with
    | none => .ok a
    | some f => .error f
  | .error f _ => .error f

/-- Reads the whole content of a block. -/
def inBlock {α : Type} (r : Reader α) (content : List Component) : Reader α :=
  match runAll r content with
  | .ok a => return a
  | .error f => throw f

/-! ## Names -/

/-- A name in front of which a namespace may stand. -/
inductive Qualified
  /-- No name is there. -/
  | absent (t : Token)
  /-- A name, or all names, without a namespace mark. -/
  | plain (name? : Option Text)
  | anySpace (name? : Option Text)
  | noSpace (name? : Option Text)

/-- The name behind a namespace mark. -/
def markedName (inAttribute : Bool) : Reader (Option Text) := do
  match ← next with
  | .token (.delim '*') => if inAttribute then throw .unsupported else return none
  | .token (.ident n) => return some n
  | _ => throw .unsupported

def isBar : List Component → Bool
  | .token (.delim '|') :: _ => true
  | _ => false

def qualified (inAttribute : Bool) : Reader Qualified := do
  match ← get with
  | [] => throw .endOfInput
  | .token (.ident n) :: rest =>
    -- no namespace has a name
    if isBar rest then
      set rest.tail
      throw .unsupported
    else
      set rest
      return .plain (some n)
  | .token (.delim '*') :: rest =>
    if isBar rest then
      set rest.tail
      return .anySpace (← markedName inAttribute)
    else if inAttribute then
      set rest
      if rest.isEmpty then throw .endOfInput else throw .unsupported
    else
      set rest
      return .plain none
  | .token (.delim '|') :: rest =>
    set rest
    return .noSpace (← markedName inAttribute)
  | c :: _ => return .absent c.head

/-- The type tests at the front of a compound, if there are any. A text that ends in the middle of a
name has none. -/
def typeTests? : Reader (Option (List Simple)) := do
  let tagTests (name? : Option Text) : List Simple :=
    match name? with
    | some n => [.tag (String.ofList n)]
    | none => []
  match (qualified false).run (← get) with
  | .ok q rest =>
    match q with
    | .absent _ => return none
    | .plain name? | .anySpace name? =>
      set rest
      return some (tagTests name?)
    | .noSpace name? =>
      set rest
      return some (.inNoSpace :: tagTests name?)
  | .error .endOfInput rest =>
    set rest
    return none
  | .error f rest =>
    set rest
    throw f

/-! ## Attributes -/

/-- Attributes of HTML whose values are compared without regard to letter case. -/
def keywordAttributes : List String :=
  ["accept", "accept-charset", "align", "alink", "axis", "bgcolor", "charset", "checked", "clear",
    "codetype", "color", "compact", "declare", "defer", "dir", "direction", "disabled", "enctype",
    "face", "frame", "hreflang", "http-equiv", "lang", "language", "link", "media", "method",
    "multiple", "nohref", "noresize", "noshade", "nowrap", "readonly", "rel", "rev", "rules",
    "scope", "scrolling", "selected", "shape", "target", "text", "type", "valign", "valuetype",
    "vlink"]

/-- The letter that may stand behind the value of an attribute. -/
def valueCase (name : Text) (anySpace : Bool) : Reader ValueCase := do
  skipBlanks
  match ← next? with
  | none =>
    if !anySpace && keywordAttributes.contains (String.ofList (Text.lower name)) then
      return .ignoredInHtml
    else return .exact
  | some (.token (.ident flag)) =>
    if Text.lower flag == ['i'] then return .ignored
    else if Text.lower flag == ['s'] then return .exact
    else throw (.unexpected (.ident flag))
  | some c => throw (.unexpected c.head)

def attributeTest : Reader AttributeTest := do
  skipBlanks
  let test (name : Text) (anySpace : Bool) : Reader AttributeTest := do
    skipBlanks
    let comparison ← match ← next? with
      | none => return ⟨String.ofList name, anySpace, none⟩
      | some (.token (.delim '=')) => pure .equals
      | some (.token (.comparison c)) => pure c
      | some _ => throw .unsupported
    let value ← match ← nextVisible with
      | .token (.ident v) => pure v
      | .token (.string v) => pure v
      | _ => throw .unsupported
    return ⟨String.ofList name, anySpace, some (comparison, value, ← valueCase name anySpace)⟩
  match ← qualified true with
  | .plain (some n) | .noSpace (some n) => test n false
  | .anySpace (some n) => test n true
  | _ => throw .unsupported

/-! ## Places -/

/-- The value of a whole number, kept within 32 bits. -/
def intValue? (n : Numeral) : Option Int :=
  if n.isInteger then
    let v : Int := if n.sign? = some '-' then -n.digits else n.digits
    some (max (-2147483648) (min 2147483647 v))
  else none

/-- The offset that a name spells behind its letter n. -/
def namedOffset? (t : Text) : Option Int :=
  match t with
  | n :: '-' :: digits =>
    if Text.lowerChar n = 'n' && !digits.isEmpty && digits.all Text.isAsciiDigit then
      intValue? ⟨some '-', Text.decimal digits, 0, true⟩
    else none
  | _ => none

/-- The number behind a sign that stands alone. -/
def unsignedOffset (step sign : Int) : Reader (Int × Int) := do
  let c ← nextVisible
  match c with
  | .token (.number n) =>
    match n.sign?, intValue? n with
    | none, some b => return (step, sign * b)
    | _, _ => throw (.unexpected c.head)
  | _ => throw (.unexpected c.head)

/-- What follows the letter n: nothing, or an offset with its sign. -/
def offset (step : Int) : Reader (Int × Int) := do
  match (← get).dropWhile isBlank with
  | .token (.delim '+') :: rest =>
    set rest
    unsignedOffset step 1
  | .token (.delim '-') :: rest =>
    set rest
    unsignedOffset step (-1)
  | .token (.number n) :: rest =>
    match n.sign?, intValue? n with
    | some _, some b =>
      set rest
      return (step, b)
    | _, _ => return (step, 0)
  | _ => return (step, 0)

/-- What a name says of a step and an offset. -/
def namedStep (name : Text) (step : Int) (shown : Text) : Reader (Int × Int) := do
  let lowered := Text.lower name
  if lowered == ['n'] then offset step
  else if lowered == ['n', '-'] then unsignedOffset step (-1)
  else
    match namedOffset? name with
    | some b => return (step, b)
    | none => throw (.unexpected (.ident shown))

/-- Reads a step and an offset, such as `2n+1`, `odd` or a number alone. -/
def stepAndOffset : Reader (Int × Int) := do
  let c ← nextVisible
  match c with
  | .token (.number n) =>
    match intValue? n with
    | some b => return (0, b)
    | none => throw (.unexpected c.head)
  | .token (.dimension n unit) =>
    match intValue? n with
    | some a => namedStep unit a unit
    | none => throw (.unexpected c.head)
  | .token (.ident name) =>
    let lowered := Text.lower name
    if lowered == "even".toList then return (2, 0)
    else if lowered == "odd".toList then return (2, 1)
    else
      match name with
      | '-' :: r => namedStep r (-1) name
      | _ => namedStep name 1 name
  | .token (.delim '+') =>
    let d ← next
    match d with
    | .token (.ident name) => namedStep name 1 name
    | _ => throw (.unexpected d.head)
  | _ => throw (.unexpected c.head)

def place (fromEnd ofType : Bool) : Reader Simple := do
  let (step, offset) ← stepAndOffset
  return .place ⟨step, offset, fromEnd, ofType⟩

/-! ## Selectors -/

/-- The combinator between two compounds. Blanks alone are one, unless nothing follows them. -/
def combinator? : Reader (Option Combinator) := do
  let cs ← get
  let rest := cs.dropWhile isBlank
  match rest with
  | [] => set rest; return none
  | .token (.delim '>') :: r => set r; return some .child
  | .token (.delim '+') :: r => set r; return some .adjacent
  | .token (.delim '~') :: r => set r; return some .sibling
  | _ =>
    set rest
    return if cs.head?.any isBlank then some .descendant else none

/-- The lists between the commas. -/
def splitAtCommas : List Component → List (List Component)
  | [] => [[]]
  | .token .comma :: cs => [] :: splitAtCommas cs
  | c :: cs =>
    match splitAtCommas cs with
    | [] => [[c]]
    | piece :: pieces => (c :: piece) :: pieces

/-- Is the token an error wherever it stands? -/
def isError : Token → Bool
  | .badString _ | .badUrl _ | .closing _ => true
  | _ => false

mutual

/-- The first token of a component that is an error wherever it stands. -/
def errorIn? : Component → Option Token
  | .token t => if isError t then some t else none
  | .block _ content => errorInAll? content

def errorInAll? : List Component → Option Token
  | [] => none
  | c :: cs => (errorIn? c).or (errorInAll? cs)

end

/-- The pseudo-classes without arguments. -/
def plainClass? (name : Text) : Option (List Simple) :=
  let first (fromEnd ofType : Bool) : Simple := .place ⟨0, 1, fromEnd, ofType⟩
  match String.ofList (Text.lower name) with
  | "first-child" => some [first false false]
  | "last-child" => some [first true false]
  | "only-child" => some [first false false, first true false]
  | "first-of-type" => some [first false true]
  | "last-of-type" => some [first true true]
  | "only-of-type" => some [first false true, first true true]
  | "root" => some [.root]
  | "empty" => some [.empty]
  | "scope" => some [.scope]
  | _ => none

mutual

/-- The tests of a pseudo-class with arguments. Inside of `:has` there is no other `:has`. -/
def functionTests (fuel : Nat) (inHas : Bool) (name : Text) (content : List Component) :
    Reader (List Simple) :=
  match fuel with
  | 0 => throw .unsupported
  | fuel + 1 =>
    let list (inHas lenient relative : Bool) : Reader (List Complex) :=
      match alternatives fuel inHas lenient relative (splitAtCommas content) with
      | .ok cs => return cs
      | .error f => throw f
    match String.ofList (Text.lower name) with
    | "nth-child" => return [← inBlock (place false false) content]
    | "nth-last-child" => return [← inBlock (place true false) content]
    | "nth-of-type" => return [← inBlock (place false true) content]
    | "nth-last-of-type" => return [← inBlock (place true true) content]
    | "is" | "where" => return [.isAny (← list inHas true false)]
    | "not" => return [.isNone (← list inHas false false)]
    | "has" =>
      if inHas then throw .unsupported
      else return [.has (← list true false true)]
    | "host" => do
      -- it is read, but no page has a host
      let _ ← inBlock (do
        match ← complex fuel inHas false with
        | .compound _ => return ()
        | _ => throw .unsupported) content
      return [.never]
    | _ => throw .unsupported

/-- The next tests of a compound: those of one identifier, class, attribute or pseudo-class. -/
def simple? (fuel : Nat) (inHas : Bool) : Reader (Option (List Simple)) :=
  match fuel with
  | 0 => throw .unsupported
  | fuel + 1 => do
    match ← get with
    | .token (.hash n true) :: rest =>
      set rest
      return some [.id n]
    | .token (.delim '.') :: rest =>
      set rest
      match ← next with
      | .token (.ident n) => return some [.classed n]
      | _ => throw .unsupported
    | .block (.bracket .square) content :: rest =>
      set rest
      return some [.attr (← inBlock attributeTest content)]
    | .token .colon :: rest =>
      set rest
      match ← next with
      | .token (.ident n) =>
        match plainClass? n with
        | some tests => return some tests
        | none => throw .unsupported
      | .block (.function n) content => return some (← functionTests fuel inHas n content)
      | .token .colon =>
        match ← next with
        | .token (.ident _) | .block (.function _) _ => throw .unsupported
        | c => throw (.nameless c.head)
      | c => throw (.nameless c.head)
    | _ => return none

/-- The tests of a compound behind its type tests. -/
def simples (fuel : Nat) (inHas : Bool) : Reader (List (List Simple)) :=
  match fuel with
  | 0 => throw .unsupported
  | fuel + 1 => do
    match ← simple? fuel inHas with
    | none => return []
    | some tests => return tests :: (← simples fuel inHas)

/-- A compound. It must test something. -/
def compound (fuel : Nat) (inHas : Bool) : Reader (List Simple) :=
  match fuel with
  | 0 => throw .unsupported
  | fuel + 1 => do
    skipBlanks
    match ← typeTests?, ← simples fuel inHas with
    | none, [] => throw .unsupported
    | types?, tests => return types?.getD [] ++ tests.flatten

/-- The compounds behind the first one. -/
def chain (fuel : Nat) (inHas : Bool) (left : Complex) : Reader Complex :=
  match fuel with
  | 0 => throw .unsupported
  | fuel + 1 => do
    match ← combinator? with
    | none => return left
    | some c => chain fuel inHas (.after left c (← compound fuel inHas))

/-- A selector without commas. A relative one may start with a combinator. -/
def complex (fuel : Nat) (inHas relative : Bool) : Reader Complex :=
  match fuel with
  | 0 => throw .unsupported
  | fuel + 1 => do
    skipBlanks
    if relative then
      let c := (← combinator?).getD .descendant
      chain fuel inHas (.after .anchor c (← compound fuel inHas))
    else
      chain fuel inHas (.compound (← compound fuel inHas))

/-- The selectors between commas. -/
def alternatives (fuel : Nat) (inHas lenient relative : Bool) :
    List (List Component) → Except Fault (List Complex) :=
  match fuel with
  | 0 => fun _ => .error .unsupported
  | fuel + 1 => fun pieces => pieces.mapM fun piece =>
    let lost (rest : List Component) : Except Fault Complex :=
      match errorInAll? rest with
      | some t => .error (.unexpected t)
      | none => .ok (.compound [.never])
    match (complex fuel inHas relative).run piece with
    | .ok c rest =>
      match leftover? rest with
      | none => .ok c
      | some f => if lenient then lost rest else .error f
    | .error f rest => if lenient then lost rest else .error f

end

end Reader

/-- Reads a selector. Each step of the reader goes past a component or into a block, so the number of
components bounds the steps. -/
def Selector.read (t : Text) : Except Fault Selector :=
  let cs := Component.ofText t
  let fuel := 8 * Component.sizeAll cs + 16
  (Reader.alternatives fuel false false false (Reader.splitAtCommas cs)).map Selector.mk

end ChatScribe.Css
