/-!
# Text as a list of characters

Every pass of the exporter reads and writes `Text`, a plain list of characters, so that a pass is a
recursion on its input and a cut of a text is an append. This module holds the vocabulary the passes
share: the white-space class, trimming, lines, and substring search.

The cuts lose nothing: `unlines_lines` says that the lines of a text, joined again, are the text.
-/

namespace ChatScribe

/-- A text is the list of its characters. -/
abbrev Text := List Char

namespace Text

/-! ## White space -/

/-- The characters of the property `White_Space`: the ASCII blanks, the next-line control, the
no-break space, and the blanks of the general punctuation and CJK blocks. -/
def isSpace (c : Char) : Bool :=
  let n := c.toNat
  (0x9 ≤ n && n ≤ 0xD) || n == 0x20 || n == 0x85 || n == 0xA0 || n == 0x1680 ||
    (0x2000 ≤ n && n ≤ 0x200A) || n == 0x2028 || n == 0x2029 || n == 0x202F || n == 0x205F ||
    n == 0x3000

/-- The blanks of HTML and CSS: tab, line feed, form feed, carriage return and space. -/
def isMarkupSpace (c : Char) : Bool :=
  c == '\t' || c == '\n' || c == '\x0c' || c == '\r' || c == ' '

/-- A text without a visible character. -/
def isBlank (t : Text) : Bool := t.all isSpace

def trimStart (t : Text) : Text := t.dropWhile isSpace

def trimEnd (t : Text) : Text := (t.reverse.dropWhile isSpace).reverse

/-- The text without the white space at its two ends. -/
def trim (t : Text) : Text := trimEnd (trimStart t)

def startsWithSpace (t : Text) : Bool := t.head?.any isSpace

def endsWithSpace (t : Text) : Bool := t.getLast?.any isSpace

/-- The maximal runs of characters that are no white space, in order. -/
def words (t : Text) : List Text :=
  go t []
where
  /-- `run` holds the characters of the word being read, last one first. -/
  go : Text → Text → List Text
    | [], run => if run.isEmpty then [] else [run.reverse]
    | c :: r, run =>
      if isSpace c then
        if run.isEmpty then go r [] else run.reverse :: go r []
      else go r (c :: run)

/-! ## Letter case -/

def isAsciiUpper (c : Char) : Bool := 'A' ≤ c && c ≤ 'Z'

def isAsciiLower (c : Char) : Bool := 'a' ≤ c && c ≤ 'z'

def isAsciiAlpha (c : Char) : Bool := isAsciiUpper c || isAsciiLower c

def isAsciiDigit (c : Char) : Bool := '0' ≤ c && c ≤ '9'

def isAsciiAlphanum (c : Char) : Bool := isAsciiAlpha c || isAsciiDigit c

def isHexDigit (c : Char) : Bool :=
  isAsciiDigit c || ('a' ≤ c && c ≤ 'f') || ('A' ≤ c && c ≤ 'F')

/-- The value of a hexadecimal digit; zero for any other character. -/
def hexValue (c : Char) : Nat :=
  if isAsciiDigit c then c.toNat - '0'.toNat
  else if 'a' ≤ c && c ≤ 'f' then c.toNat - 'a'.toNat + 10
  else if 'A' ≤ c && c ≤ 'F' then c.toNat - 'A'.toNat + 10
  else 0

/-- The number that digits in base ten denote. -/
def decimal (digits : Text) : Nat := digits.foldl (fun n d => 10 * n + hexValue d) 0

/-- Lower case on the ASCII letters, all else unchanged. -/
def lowerChar (c : Char) : Char :=
  if isAsciiUpper c then Char.ofNat (c.toNat + 32) else c

def lower (t : Text) : Text := t.map lowerChar

/-- Equality up to the case of ASCII letters. -/
def eqIgnoreCase (s t : Text) : Bool := lower s == lower t

/-! ## Substrings -/

/-- What follows `p` in `t`, if `t` starts with `p`. -/
def dropPrefix? : Text → Text → Option Text
  | [], t => some t
  | _ :: _, [] => none
  | p :: ps, c :: r => if p = c then dropPrefix? ps r else none

theorem eq_append_of_dropPrefix? {p t r : Text} (h : dropPrefix? p t = some r) : t = p ++ r := by
  fun_induction dropPrefix? p t with
  | case1 t => simpa using h
  | case2 => simp at h
  | case3 ps c r' ih => simp [ih h]
  | case4 => simp at h

def startsWith (t p : Text) : Bool := (dropPrefix? p t).isSome

def endsWith (t p : Text) : Bool := startsWith t.reverse p.reverse

/-- `t` without the ending `p`, if it has that ending. -/
def dropSuffix? (p t : Text) : Option Text :=
  (dropPrefix? p.reverse t.reverse).map List.reverse

/-- Does `p` occur in the text? -/
def occursIn (p : Text) : Text → Bool
  | [] => p.isEmpty
  | c :: r => startsWith (c :: r) p || occursIn p r

/-- The text before and after the first `sep`, if there is one. -/
def splitOnce (sep : Char) : Text → Option (Text × Text)
  | [] => none
  | c :: r =>
    if c = sep then some ([], r)
    else (splitOnce sep r).map fun (before, after) => (c :: before, after)

theorem eq_append_of_splitOnce {sep : Char} {t before after : Text}
    (h : splitOnce sep t = some (before, after)) : t = before ++ sep :: after := by
  induction t generalizing before with
  | nil => simp [splitOnce] at h
  | cons c r ih =>
    rw [splitOnce] at h
    split at h
    · rename_i hc; simp at h; obtain ⟨rfl, rfl⟩ := h; simp [hc]
    · obtain ⟨⟨b, a⟩, hb, he⟩ := Option.map_eq_some_iff.1 h
      simp at he
      obtain ⟨rfl, rfl⟩ := he
      simp [ih hb]

/-- The text before and after the last `sep`, if there is one. -/
def splitLast (sep : Char) (t : Text) : Option (Text × Text) :=
  (splitOnce sep t.reverse).map fun (after, before) => (before.reverse, after.reverse)

/-- The pieces between the separators: one more than there are separators. -/
def splitOn (sep : Char) : Text → List Text
  | [] => [[]]
  | c :: r =>
    if c = sep then [] :: splitOn sep r
    else
      match splitOn sep r with
      | [] => [[c]]
      | piece :: pieces => (c :: piece) :: pieces

/-- The pieces of a list joined by a separator. -/
def join (sep : Text) : List Text → Text
  | [] => []
  | [t] => t
  | t :: u :: r => t ++ sep ++ join sep (u :: r)

/-! ## Lines -/

/-- The lines of a text. A line ends at a line feed and does not contain it; a text that ends in a
line feed has an empty last line. -/
def lines (t : Text) : List Text := splitOn '\n' t

def unlines (ls : List Text) : Text := join ['\n'] ls

theorem splitOn_ne_nil (sep : Char) (t : Text) : splitOn sep t ≠ [] := by
  cases t with
  | nil => simp [splitOn]
  | cons c r =>
    rw [splitOn]
    split
    · simp
    · split <;> simp

/-- Joining the pieces by their separator gives the text back. -/
theorem join_splitOn (sep : Char) (t : Text) : join [sep] (splitOn sep t) = t := by
  induction t with
  | nil => rfl
  | cons c r ih =>
    rw [splitOn]
    have hne := splitOn_ne_nil sep r
    split
    · rename_i hc
      subst hc
      cases hr : splitOn c r with
      | nil => exact absurd hr hne
      | cons p ps => rw [hr] at ih; simp [join, ih]
    · cases hr : splitOn sep r with
      | nil => exact absurd hr hne
      | cons p ps =>
        rw [hr] at ih
        cases ps with
        | nil => simpa [join] using ih
        | cons q qs => simpa [join] using ih

theorem unlines_lines (t : Text) : unlines (lines t) = t := join_splitOn '\n' t

/-- A carriage return before a line feed is dropped, so that every line ends in a line feed alone. -/
def unifyLineEnds : Text → Text
  | [] => []
  | '\r' :: '\n' :: r => '\n' :: unifyLineEnds r
  | c :: r => c :: unifyLineEnds r

/-- The digits of a number in base ten. -/
def ofNat (n : Nat) : Text := (toString n).toList

end Text

end ChatScribe
