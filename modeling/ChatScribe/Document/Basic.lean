import ChatScribe.Markdown.Spacing

/-!
# The Markdown document

A document is a title block with the address and the date of the page, a rule, and one section per
turn of the conversation, in order. The blank lines are normalised over the whole document.
-/

namespace ChatScribe

/-- Who wrote a turn of the conversation. -/
inductive Speaker
  | user
  | assistant
deriving Repr, DecidableEq

/-- The name that heads the sections of a speaker. -/
def Speaker.label : Speaker → Text
  | .user => "User".toList
  | .assistant => "Gemini".toList

/-- What a document says about its page. -/
structure Metadata where
  title : Text
  sourceUrl : Text
  createdAt : Text
deriving Repr, DecidableEq

/-- A turn as Markdown. -/
structure Turn where
  speaker : Speaker
  markdown : Text
deriving Repr, DecidableEq

namespace Document

/-- The title block, up to and including the rule and the blank line under it. -/
def header (m : Metadata) : Text :=
  "# ".toList ++ m.title ++ "\n\n**Source:** [".toList ++ m.sourceUrl ++ "](".toList ++
    m.sourceUrl ++ ")\n**Created:** ".toList ++ m.createdAt ++ "\n\n---\n\n".toList

/-- The section of a turn, with the blank line behind it. -/
def sectionOf (t : Turn) : Text :=
  "## ".toList ++ t.speaker.label ++ '\n' :: t.markdown ++ "\n\n".toList

/-- Title block and sections, before blank lines are normalised. -/
def draft (m : Metadata) (turns : List Turn) : Text := header m ++ turns.flatMap sectionOf

/-- The finished document. -/
def build (m : Metadata) (turns : List Turn) : Text := Markdown.respace (draft m turns)

end Document

end ChatScribe
