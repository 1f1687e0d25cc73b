import ChatScribe.Page.Transcript
import ChatScribe.Proofs.Code.Restore
import ChatScribe.Proofs.Document.Blocks

/-!
# Code blocks from page to document

The way of one code block through an export. Once the walk has written its placeholder into the draft
of a turn, `exportMarkdown_block` says what the block is put into, and with that when it is found in
the document character by character, and when a fence is added to the turn.
-/

namespace ChatScribe.Page

open Html Markdown Document

/-! ## Surroundings of a block on a page -/

/-- The sections of some turns. -/
def sections (fs : List Found) : Text := (fs.map Found.render).flatMap sectionOf

/-- A section ends in an empty line, and so does the title block. -/
theorem getLast?_header_append_sections (m : Metadata) (fs : List Found) :
    (header m ++ sections fs).getLast? = some '\n' := by
  rcases List.eq_nil_or_concat' fs with rfl | ⟨gs, g, rfl⟩
  · have hnone : sections [] = [] := rfl
    rw [hnone, List.append_nil]
    exact getLast?_header m
  · unfold sections
    rw [List.map_append, List.flatMap_append, List.map_singleton, List.flatMap_singleton,
      List.getLast?_append, List.getLast?_append, getLast?_sectionOf]
    rfl

/-- What a block is put into, if the walk over turn `f` writes `a` in front of its placeholder and `b`
behind it, and `before` and `after` are the other turns of the page. -/
def around (p : Page) (slots : Slots) (before : List Found) (f : Found) (after : List Found)
    (a b : Text) : Surroundings where
  front := header (p.metadata slots) ++ sections before
  speaker := f.speaker
  lead := Code.restore (lift f.content.node).records a
  tail := Code.restore (lift f.content.node).records b
  back := sections after
  front_ends := getLast?_header_append_sections _ _

/-- A page with a document has turns, and the document is made of all of them. -/
theorem eq_build_of_exportMarkdown {p : Page} {slots : Slots} {md : Text}
    (h : p.exportMarkdown slots = .ok md) :
    md = build (p.metadata slots) (p.renderedTurns slots) := by
  unfold exportMarkdown at h
  dsimp only at h
  split at h
  · cases h
  · split at h
    · cases h
    · exact (Except.ok.inj h).symm

/-- The block of a placeholder in its turn: the record, between what is restored around it. -/
theorem ofNode_of_draft {root : Node} {a b : Text} {i : Nat} {record : Text}
    (hdraft : (lift root).draft = a ++ Code.placeholder i ++ b)
    (hrecord : (lift root).records[i]? = some record) :
    ofNode root = Text.trim (Code.restore (lift root).records a ++ record ++
      Code.restore (lift root).records b) := by
  show Text.trim (Code.restore (lift root).records (lift root).draft) = _
  rw [hdraft, Code.restore_placeholder a b hrecord]

/-- A code block from page to document. Its placeholder stands in the draft of a turn of an exported
page. The document is what the surroundings make of the code. They keep the code of a block exactly if
they are clear, and a fence is added to the turn exactly if the scan ends inside of a fenced span. -/
theorem exportMarkdown_block {p : Page} {slots : Slots} {md : Text}
    (hok : p.exportMarkdown slots = .ok md) {before after : List Found} {f : Found}
    (hturns : p.turns slots = before ++ f :: after) {a b : Text} {i : Nat} {children : List Node}
    (hdraft : (lift f.content.node).draft = a ++ Code.placeholder i ++ b)
    (hrecord : (lift f.content.node).records[i]? = some (Code.block children)) :
    md = (p.around slots before f after a b).document (Code.blockText children) ∧
      ((p.around slots before f after a b).isClear = true →
        Surroundings.Blocklike (Code.blockText children) →
        fencedText (Code.blockText children) <:+: md) ∧
      ((p.around slots before f after a b).KeepsBlocks ↔
        (p.around slots before f after a b).isClear = true) ∧
      (closeFence (ofNode f.content.node) = ofNode f.content.node ↔
        ∀ k, Mode.outside.run (ofNode f.content.node) ≠ .fenced k) := by
  have hrender : f.render = ⟨f.speaker, demote ((p.around slots before f after a b).closedTurn
      (Code.blockText children))⟩ := by
    unfold Found.render
    rw [ofNode_of_draft hdraft hrecord]
    rfl
  -- the section of the turn is the only one that the block is in
  have hmd : md = (p.around slots before f after a b).document (Code.blockText children) := by
    have hsections : ((before ++ f :: after).map Found.render).flatMap sectionOf
        = sections before ++ (sectionOf f.render ++ sections after) := by
      rw [List.map_append, List.flatMap_append, List.map_cons, List.flatMap_cons]
      rfl
    rw [eq_build_of_exportMarkdown hok]
    unfold build draft renderedTurns Surroundings.document Surroundings.sectionWith
    rw [hturns, hsections, hrender, ← List.append_assoc, ← List.append_assoc]
    rfl
  refine ⟨hmd, ?_, Surroundings.keepsBlocks_iff _, ?_⟩
  · intro hclear hbody
    rw [hmd]
    exact Surroundings.keepsBlocks_of_isClear _ hclear _ hbody
  · apply closeFence_eq_self_iff
    exact Text.trim_trim _

/-! ## A page with one question -/

/-- A page with one question, some prose and a code block. -/
def questionPage (prose code : Text) : Page :=
  let element (tag : String) (order : Nat) (children : List Node) : Node :=
    .element ⟨.html, tag, [], order, none⟩ children
  ⟨⟨true, [element "share-turn-viewer" 1 [element "user-query" 2 [element "user-query-content" 3
    [.text prose, element "pre" 4 [.text code]]]]], []⟩, "u".toList⟩

/-- Slots that are found by their tags. -/
def tagSlots : Slots :=
  let named (tag : String) : Css.Selector := ⟨[.compound [.tag tag]]⟩
  { turnContainer := named "share-turn-viewer"
    userQuery := named "user-query"
    userContent := [named "user-query-content"]
    responseContainer := named "response-container"
    responseContent := [named "message-content"]
    titleHeading := named "h1"
    publishTime := named "time" }

/-- The element that holds the question. -/
def question (prose code : Text) : Node :=
  .element ⟨.html, "user-query-content", [], 3, none⟩
    [.text prose, .element ⟨.html, "pre", [], 4, none⟩ [.text code]]

theorem elements_questionPage (prose code : Text) : (questionPage prose code).document.elements
    = Located.inForest true none true [] (questionPage prose code).document.nodes := by
  unfold Html.Document.elements
  apply List.mergeSort_of_pairwise
  have horders : ((Located.inForest true none true [] (questionPage prose code).document.nodes).map
      fun l => l.element.order) = [1, 2, 3, 4] := rfl
  have hsorted : List.Pairwise (fun m n : Nat => decide (m ≤ n) = true) [1, 2, 3, 4] := by decide
  rw [← horders] at hsorted
  exact List.pairwise_map.mp hsorted

theorem turns_questionPage (prose code : Text) :
    ∃ l : Located, (questionPage prose code).turns tagSlots = [⟨.user, l⟩] ∧
      l.node = question prose code := by
  unfold turns exchanges Css.Selector.inPage
  rw [elements_questionPage]
  exact ⟨_, rfl, rfl⟩

/-- A page without heading, title and time. -/
def bareMetadata : Metadata := ⟨"Chat_Record".toList, "u".toList, unknownDate⟩

theorem metadata_questionPage (prose code : Text) :
    (questionPage prose code).metadata tagSlots = bareMetadata := by
  have hheading : (questionPage prose code).heading? tagSlots = none := by
    unfold heading? Css.Selector.firstInPage? Css.Selector.inPage
    rw [elements_questionPage]
    rfl
  have htime : (questionPage prose code).publishTime? tagSlots = none := by
    unfold publishTime? Css.Selector.firstInPage? Css.Selector.inPage
    rw [elements_questionPage]
    rfl
  have htitle : (questionPage prose code).pageTitle = [] := by
    unfold pageTitle Css.Selector.firstInPage? Css.Selector.inPage
    rw [elements_questionPage]
    rfl
  have hclean : Title.clean [] = "Chat_Record".toList := by decide +kernel
  unfold metadata
  rw [hheading, htime, htitle]
  show (⟨Title.clean [], "u".toList, unknownDate⟩ : Metadata) = bareMetadata
  rw [hclean]
  rfl

theorem metadata_withUrl (p : Page) (slots : Slots) (url : Text) :
    ({ p with url := url } : Page).metadata slots = { p.metadata slots with sourceUrl := url } := by
  simp only [metadata, heading?, publishTime?, pageTitle]

/-- The address of a page stands in its document, and has no part in its turns. -/
theorem exportMarkdown_questionPage_withUrl {prose code markdown : Text} (url : Text)
    (hmarkdown : demote (closeFence (ofNode (question prose code))) = markdown)
    (hblank : Text.isBlank markdown = false) :
    ({ questionPage prose code with url := url } : Page).exportMarkdown tagSlots
      = .ok (build { bareMetadata with sourceUrl := url } [⟨.user, markdown⟩]) := by
  obtain ⟨l, hturns, hnode⟩ := turns_questionPage prose code
  have hrendered : ({ questionPage prose code with url := url } : Page).renderedTurns tagSlots
      = [⟨.user, markdown⟩] := by
    show ((questionPage prose code).turns tagSlots).map Found.render = _
    rw [hturns, List.map_singleton]
    unfold Found.render
    rw [hnode, hmarkdown]
  have hall : ([(⟨.user, markdown⟩ : Turn)].all fun t => Text.isBlank t.markdown) = false := by
    rw [List.all_cons, hblank]
    rfl
  unfold exportMarkdown
  dsimp only
  rw [hrendered, hall, metadata_withUrl, metadata_questionPage]
  rfl

theorem exportMarkdown_questionPage {prose code markdown : Text}
    (hmarkdown : demote (closeFence (ofNode (question prose code))) = markdown)
    (hblank : Text.isBlank markdown = false) :
    (questionPage prose code).exportMarkdown tagSlots
      = .ok (build bareMetadata [⟨.user, markdown⟩]) :=
  exportMarkdown_questionPage_withUrl "u".toList hmarkdown hblank

/-- Inline code in front of a block does it no harm: headings and blank lines of the code stay. -/
theorem exportMarkdown_block_of_inline_code :
    let prose := "Try \x60f\x60:".toList
    let code := "# a\n\n\n# b".toList
    ∃ md f, (questionPage prose code).exportMarkdown tagSlots = .ok md ∧
      (questionPage prose code).turns tagSlots = [] ++ f :: [] ∧
      (lift f.content.node).draft = prose ++ Code.placeholder 0 ++ [] ∧
      (lift f.content.node).records[0]? = some (Code.block [.text code]) ∧
      fencedText (Code.blockText [.text code]) <:+: md := by
  intro prose code
  obtain ⟨l, hturns, hnode⟩ := turns_questionPage prose code
  have hok : (questionPage prose code).exportMarkdown tagSlots = .ok (build bareMetadata
      [⟨.user, "Try \x60f\x60:\n\x60\x60\x60\n# a\n\n\n# b\n\x60\x60\x60".toList⟩]) :=
    exportMarkdown_questionPage (by decide +kernel) (by decide +kernel)
  have hdraft : (lift l.node).draft = prose ++ Code.placeholder 0 ++ [] := by
    rw [hnode]
    decide +kernel
  have hrecord : (lift l.node).records[0]? = some (Code.block [.text code]) := by
    rw [hnode]
    decide +kernel
  have honly : (questionPage prose code).turns tagSlots = [] ++ (⟨.user, l⟩ : Found) :: [] := hturns
  obtain ⟨-, hkept, -, -⟩ := exportMarkdown_block hok honly hdraft hrecord
  refine ⟨_, _, hok, honly, hdraft, hrecord, hkept ?_ (by unfold Surroundings.Blocklike; decide +kernel)⟩
  unfold around Surroundings.isClear Surroundings.heading Surroundings.opening
  dsimp only
  rw [hnode, metadata_questionPage]
  decide +kernel

/-- A single backtick in prose takes the fence of the block for its partner: the blank line of the code
is lost, and the turn gets another fence. -/
theorem exportMarkdown_loses_block :
    let prose := "a \x60 b".toList
    let code := "x\n\ny".toList
    ∃ md f, (questionPage prose code).exportMarkdown tagSlots = .ok md ∧
      (questionPage prose code).turns tagSlots = [f] ∧
      (lift f.content.node).draft = prose ++ Code.placeholder 0 ++ [] ∧
      (lift f.content.node).records[0]? = some (Code.block [.text code]) ∧
      Surroundings.Blocklike (Code.blockText [.text code]) ∧
      ¬ fencedText (Code.blockText [.text code]) <:+: md ∧
      ¬ fenceMark <:+: Node.allText f.content.node ∧
      closeFence (ofNode f.content.node) ≠ ofNode f.content.node := by
  intro prose code
  obtain ⟨l, hturns, hnode⟩ := turns_questionPage prose code
  have hok : (questionPage prose code).exportMarkdown tagSlots = .ok (build bareMetadata
      [⟨.user, "a \x60 b\n\x60\x60\x60\nx\n\ny\n\x60\x60\x60\n\x60\x60\x60".toList⟩]) :=
    exportMarkdown_questionPage (by decide +kernel) (by decide +kernel)
  refine ⟨_, _, hok, hturns, ?_, ?_, ?_, ?_, ?_, ?_⟩
  · rw [hnode]
    decide +kernel
  · rw [hnode]
    decide +kernel
  · unfold Surroundings.Blocklike
    decide +kernel
  · decide +kernel
  · rw [hnode]
    decide +kernel
  · rw [hnode]
    decide +kernel

end ChatScribe.Page
