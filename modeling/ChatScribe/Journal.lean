import ChatScribe.Charset.Reading
import ChatScribe.Page.Transcript
import ChatScribe.Settings.Basic

/-!
# Log records

What a run tells about itself, part by part, in the order in which things happen. Records are values
here; where they go is decided when they are written.
-/

namespace ChatScribe

/-- The part of the program that a record comes from. -/
inductive Area
  | decoding
  | extraction
  | conversion
  | pageData
  | exporting
  | saving
  | effects
  | program
deriving DecidableEq, Repr

/-- The name of an area as records show it. -/
def Area.name : Area → String
  | .decoding => "transcript_engine::decode"
  | .extraction => "transcript_engine::extract"
  | .conversion => "transcript_engine::convert"
  | .pageData => "transcript_engine::page"
  | .exporting => "transcript_engine::pipeline"
  | .saving => "transcript_engine::persist"
  | .effects => "gemini_transcript::platform::effects"
  | .program => "gemini_transcript::platform::app"

structure Record where
  level : LogLevel
  area : Area
  text : Text
deriving DecidableEq, Repr

namespace Record

/-- The thread that a record comes from stands in the records of the two finest levels. -/
def thread (r : Record) : Text :=
  if LogLevel.debug.rank ≤ r.level.rank then "(1) ".toList else []

/-- A record as a line, without the time in front. -/
def line (r : Record) : Text :=
  '[' :: r.level.name.toList ++ "] ".toList ++ r.thread ++ r.area.name.toList ++ ": ".toList ++ r.text

end Record

/-! ## What there is to tell -/

namespace Charset

def Witness.name : Witness → String
  | .byteOrderMark => "ByteOrderMark"
  | .contentType => "ContentType"
  | .metaTag => "MetaTag"
  | .detected => "Detected"

/-- The record of a page whose bytes could be read. -/
def Reading.record (r : Reading) (byteCount : Nat) : Record :=
  ⟨.debug, .decoding, "decoded ".toList ++ Text.ofNat byteCount ++ " bytes as ".toList ++
    r.charset.name.toList ++ " (".toList ++ r.witness.name.toList ++ [')']⟩

end Charset

namespace Page

/-- What a turn container lacks. -/
def Exchange.records (index : Nat) (x : Exchange) : List Record :=
  let lacks (what : String) : Record :=
    ⟨.debug, .extraction, "turn ".toList ++ Text.ofNat index ++ ": no ".toList ++ what.toList ++
      " content".toList⟩
  (if x.question?.isNone then [lacks "user"] else []) ++
    (if x.answer?.isNone then [lacks "response"] else [])

/-- The code that is kept apart from a turn while it is converted. -/
def Found.record (f : Found) : Record :=
  ⟨.trace, .conversion, "lifted ".toList ++
    Text.ofNat (Markdown.lift f.content.node).records.length ++ " code spans".toList⟩

/-- What the head of a document lacks on the page. -/
def metadataRecords (p : Page) (slots : Slots) : List Record :=
  (if (p.heading? slots).isNone then
    [⟨.debug, .pageData, "no title heading on page; falling back to <title>".toList⟩] else []) ++
  (if (p.publishTime? slots).isNone then
    [⟨.debug, .pageData, "no publish time on page".toList⟩] else [])

/-- The records of an export up to its end: what was found, and what became of it. -/
def exportRecords (p : Page) (slots : Slots) : List Record :=
  let exchanges := p.exchanges slots
  let found := ((List.range exchanges.length).zip exchanges).flatMap fun (i, x) => x.records i
  let turns := p.turns slots
  let ending := match p.exportMarkdown slots with
    | .error .noTurns =>
      [⟨.warn, .exporting, "no chat turns found at ".toList ++ p.url⟩]
    | .error .emptyOutput =>
      [⟨.warn, .exporting, "all ".toList ++ Text.ofNat turns.length ++
        " turns rendered empty".toList⟩]
    | .ok _ =>
      p.metadataRecords slots ++
        [⟨.info, .exporting, "exported ".toList ++ Text.ofNat turns.length ++
          " turns titled ".toList ++ Text.quoted (p.metadata slots).title ++ " from ".toList ++ p.url⟩]
  found ++ turns.map Found.record ++ ending

end Page

end ChatScribe
