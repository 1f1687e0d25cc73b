import ChatScribe.Url.Host

/-!
# Addresses of shared conversations

The actions run only on pages of one site and below one path. `isSharePage` reads an address the way a
browser does, as far as that decides the question: blanks around it do not count, backslashes are
slashes, a user and a port may stand beside the host, and dots in the path are resolved.
-/

namespace ChatScribe.Url

/-- Drops control characters and spaces at the two ends, and tabs and line ends everywhere. -/
def clean (t : Text) : Text :=
  let isEdge (c : Char) : Bool := c.toNat ≤ 0x20
  let inner := ((t.dropWhile isEdge).reverse.dropWhile isEdge).reverse
  inner.filter fun c => c != '\t' && c != '\n' && c != '\r'

def isSchemeChar (c : Char) : Bool :=
  Text.isAsciiAlphanum c || c == '+' || c == '-' || c == '.'

/-- The scheme of an address, in small letters, and what stands behind its colon. -/
def splitScheme? (t : Text) : Option (Text × Text) :=
  match t.takeWhile isSchemeChar, t.dropWhile isSchemeChar with
  | c :: r, ':' :: rest =>
    if Text.isAsciiAlpha c then some (Text.lower (c :: r), rest) else none
  | _, _ => none

def isSlash (c : Char) : Bool := c == '/' || c == '\\'

def endsAuthority (c : Char) : Bool := isSlash c || c == '?' || c == '#'

/-- A port is empty, or a number that sixteen bits can hold. -/
def isPort (t : Text) : Bool :=
  t.all Text.isAsciiDigit && Text.decimal t ≤ 0xFFFF

/-- The host in the authority of an address, if its user and its port are well formed. Brackets and
what they hold are never a part of the host that is asked for. -/
def hostOf? (authority : Text) : Option Text :=
  let behindUser := match Text.splitLast '@' authority with
    | some (_, t) => t
    | none => authority
  match Text.splitOnce ':' behindUser with
  | none => some behindUser
  | some (host, port) => if isPort port then some host else none

/-- A segment that names the place it stands in. -/
def isHere (segment : Text) : Bool :=
  let s := Text.lower segment
  s == ['.'] || s == "%2e".toList

/-- A segment that names the place above. -/
def isAbove (segment : Text) : Bool :=
  let s := Text.lower segment
  s == "..".toList || s == ".%2e".toList || s == "%2e.".toList || s == "%2e%2e".toList

/-- The pieces between slashes of either kind. -/
def segments : Text → List Text
  | [] => [[]]
  | c :: r =>
    if isSlash c then [] :: segments r
    else
      match segments r with
      | [] => [[c]]
      | s :: ss => (c :: s) :: ss

/-- Resolves the dots among the segments of a path. `above` holds the segments so far, last one first.
A path that ends in dots ends in a slash. -/
def resolve (above : List Text) : List Text → List Text
  | [] => above.reverse
  | [s] =>
    if isAbove s then ([] :: above.tail).reverse
    else if isHere s then ([] :: above).reverse
    else (s :: above).reverse
  | s :: ss =>
    if isAbove s then resolve above.tail ss
    else if isHere s then resolve above ss
    else resolve (s :: above) ss

/-- The resolved segments of the path that an address goes on with behind its authority. -/
def pathOf (t : Text) : List Text :=
  resolve [] (segments ((t.takeWhile fun c => c != '?' && c != '#').drop 1))

/-- The first segment of the path to shared conversations. -/
def shareSegment : Text := "share".toList

/-- Does something follow the first segment of the path? -/
def isSharePath : List Text → Bool
  | first :: second :: rest => first == shareSegment && (!second.isEmpty || !rest.isEmpty)
  | _ => false

/-- Is it the address of a shared conversation? -/
def isSharePage (t : Text) : Bool :=
  match splitScheme? (clean (Text.trim t)) with
  | none => false
  | some (scheme, rest) =>
    let body := rest.dropWhile isSlash
    let authority := body.takeWhile fun c => !endsAuthority c
    let behind := body.dropWhile fun c => !endsAuthority c
    scheme == "https".toList && ((hostOf? authority).bind Host.fold?) == some shareHost &&
      isSharePath (pathOf behind)

end ChatScribe.Url
