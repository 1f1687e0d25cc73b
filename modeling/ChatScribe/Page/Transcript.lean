import ChatScribe.Document.Basic
import ChatScribe.Document.Title
import ChatScribe.Html.Rules
import ChatScribe.Markdown.Convert
import ChatScribe.Markdown.Heading
import ChatScribe.Page.Slots
import ChatScribe.Response

/-!
# The transcript of a page

A page holds turn containers, and each of them at most one question and one answer. The transcript
lists the elements that hold them, in order; exporting converts each to Markdown and builds the
document.
-/

namespace ChatScribe

/-- A page as it was read, with the address that it came from. -/
structure Page where
  document : Html.Document
  url : Text

namespace Page

def ofText (html url : Text) : Page := ⟨Html.Document.parsePage html, url⟩

/-! ## Turns -/

/-- What one turn container holds. -/
structure Exchange where
  question? : Option Html.Located
  answer? : Option Html.Located

/-- The element of a turn, and who wrote it. -/
structure Found where
  speaker : Speaker
  content : Html.Located

/-- Looks for question and answer in a turn container. -/
def exchangeIn (slots : Slots) (container : Html.Located) : Exchange where
  question? := (slots.userQuery.firstBelow? container).bind slots.userContent.firstMatch?
  answer? := (slots.responseContainer.firstBelow? container).bind slots.responseContent.firstMatch?

/-- The exchanges of a page, one for each turn container. -/
def exchanges (p : Page) (slots : Slots) : List Exchange :=
  (slots.turnContainer.inPage p.document).map (exchangeIn slots)

def Exchange.turns (x : Exchange) : List Found :=
  (x.question?.map (Found.mk .user)).toList ++ (x.answer?.map (Found.mk .assistant)).toList

/-- The turns of a page. What is missing makes the list shorter. -/
def turns (p : Page) (slots : Slots) : List Found := (p.exchanges slots).flatMap Exchange.turns

/-- A turn as Markdown: fences are closed, and headings stand below those of the document. -/
def Found.render (f : Found) : Turn :=
  ⟨f.speaker, Markdown.demote (Markdown.closeFence (Markdown.ofNode f.content.node))⟩

/-! ## Metadata -/

/-- The labels in front of the time of publication, in the languages of the page. -/
def publishLabels : List Text :=
  ["发布时间：".toList, "發布時間：".toList, "Published".toList]

def stripPublishLabel (raw : Text) : Text :=
  let t := Text.trim raw
  Text.trim ((publishLabels.findSome? fun label => Text.dropPrefix? label t).getD t)

/-- The text of the main heading, unless it is blank. -/
def heading? (p : Page) (slots : Slots) : Option Text :=
  ((slots.titleHeading.firstInPage? p.document).map fun l => Text.trim l.node.innerText).filter
    fun t => !t.isEmpty

/-- The text of the title element, without the name of the site. -/
def pageTitle (p : Page) : Text :=
  match (⟨[.compound [.tag "title"]]⟩ : Css.Selector).firstInPage? p.document with
  | some l => Title.stripSite l.node.allText
  | none => []

/-- The time of publication, unless it is blank. -/
def publishTime? (p : Page) (slots : Slots) : Option Text :=
  ((slots.publishTime.firstInPage? p.document).map fun l => stripPublishLabel l.node.innerText).filter
    fun t => !t.isEmpty

/-- What stands for the date when the page does not tell it. -/
def unknownDate : Text := "Unknown Date".toList

def metadata (p : Page) (slots : Slots) : Metadata where
  title := Title.clean ((p.heading? slots).getD p.pageTitle)
  sourceUrl := p.url
  createdAt := (p.publishTime? slots).getD unknownDate

/-! ## Export -/

/-- Why a page has no document. -/
inductive ExportError
  | noTurns
  | emptyOutput
deriving DecidableEq, Repr

def ExportError.message : ExportError → Text
  | .noTurns => "no chat turns found on the page".toList
  | .emptyOutput => "every chat turn rendered to empty markdown".toList

def renderedTurns (p : Page) (slots : Slots) : List Turn := (p.turns slots).map Found.render

/-- The document of a page. -/
def exportMarkdown (p : Page) (slots : Slots) : Except ExportError Text :=
  let turns := p.renderedTurns slots
  if turns.isEmpty then .error .noTurns
  else if turns.all fun t => Text.isBlank t.markdown then .error .emptyOutput
  else .ok (Document.build (p.metadata slots) turns)

/-- The document as the answer to a request. A page without document is an empty answer. -/
def respond (p : Page) (slots : Slots) : Response := ⟨(p.exportMarkdown slots).toOption⟩

end Page

end ChatScribe
