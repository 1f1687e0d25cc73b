import ChatScribe.Markdown.Fence

/-!
# Blank lines of a document

`respace` drops the blank lines of a document and then puts one back before each heading, rule and
source line that follows a line with text. Lines of code blocks are kept as they are.
`spacedLines` is the list of lines it arrives at, before the document is trimmed.
-/

namespace ChatScribe.Markdown

/-- A line that shows nothing: white space, and the two invisible marks that editors leave behind. -/
def isBlankLine (line : Text) : Bool :=
  line.all fun c => Text.isSpace c || c == '\uFEFF' || c == '\u180E'

/-- The text that starts the metadata line of a document. -/
def sourceLabel : Text := "**Source:**".toList

/-- Lines that open a new part of the document: headings, rules, and the source line. -/
def opensPart (line : Text) : Bool :=
  (line.head? == some '#' && (line.dropWhile (· == '#')).head? == some ' ') ||
    Text.startsWith line "---".toList || Text.startsWith line sourceLabel

/-- The lines to write, given the line written last. -/
def spacedFrom : Option Text → List Line → List Text
  | _, [] => []
  | last, line :: rest =>
    if line.fenced then line.text :: spacedFrom (some line.text) rest
    else if isBlankLine line.text then spacedFrom last rest
    else if opensPart line.text && last.any (!·.isEmpty) then
      [] :: line.text :: spacedFrom (some line.text) rest
    else line.text :: spacedFrom (some line.text) rest

/-- The lines of the normalised document, before its two ends are trimmed. -/
def spacedLines (t : Text) : List Text := spacedFrom none (markedLines t.unifyLineEnds)

/-- Normalises the blank lines of a document. -/
def respace (t : Text) : Text := (Text.unlines (spacedLines t)).trim

end ChatScribe.Markdown
