import ChatScribe.Markdown.Fence

/-!
# Heading levels of a turn

Levels one to three belong to the document: its title and the heading of each turn. `demote` moves
the headings of a turn below them, all by the same number of levels, and leaves code alone.
-/

namespace ChatScribe.Markdown

/-- The level the shallowest heading of a turn is moved to. -/
def firstContentLevel : Nat := 4

/-- The deepest level a heading can have. -/
def maxLevel : Nat := 6

/-- A heading line in three parts: its indent, its level, and the rest, which starts with the blank
that makes the hashes a heading. -/
structure HeadingLine where
  indent : Text
  level : Nat
  rest : Text
deriving Repr, DecidableEq

/-- Blanks inside a line: space and tab. -/
def isIndent (c : Char) : Bool := c == ' ' || c == '\t'

/-- Reads a heading: blanks, one to six hashes, and a blank. -/
def headingLine? (line : Text) : Option HeadingLine :=
  let indent := line.takeWhile isIndent
  let body := line.dropWhile isIndent
  let hashes := body.takeWhile (· == '#')
  let rest := body.dropWhile (· == '#')
  if 1 ≤ hashes.length ∧ hashes.length ≤ maxLevel ∧ rest.head?.any isIndent then
    some ⟨indent, hashes.length, rest⟩
  else none

/-- A heading as a line of text. -/
def HeadingLine.render (h : HeadingLine) : Text := h.indent ++ List.replicate h.level '#' ++ h.rest

/-- The heading `shift` levels deeper, but no deeper than the deepest level. -/
def HeadingLine.shifted (shift : Nat) (h : HeadingLine) : HeadingLine :=
  { h with level := min (h.level + shift) maxLevel }

/-- The levels of the headings of a text that stand outside of code, in order. -/
def headingLevels (t : Text) : List Nat :=
  (markedLines t).filterMap fun line =>
    if line.fenced then none else (headingLine? line.text).map HeadingLine.level

/-- By how many levels headings go down when the shallowest one has level `top`. -/
def levelShift (top : Nat) : Nat := min (firstContentLevel - top) (maxLevel - top)

/-- The line with its heading moved down; code and other lines are left as they are. -/
def Line.demoted (shift : Nat) (line : Line) : Text :=
  if line.fenced then line.text
  else
    match headingLine? line.text with
    | some h => (h.shifted shift).render
    | none => line.text

/-- Moves the headings of a turn down so that the shallowest one has level four, none past six. -/
def demote (t : Text) : Text :=
  match (headingLevels t).min? with
  | none => t
  | some top =>
    if levelShift top = 0 then t
    else Text.unlines ((markedLines t).map (Line.demoted (levelShift top)))

end ChatScribe.Markdown
