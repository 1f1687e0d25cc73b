import ChatScribe.Proofs.Code.Alike
import ChatScribe.Proofs.Code.Renumbered
import ChatScribe.Proofs.Walk.Threads

/-!
# The walk does not see numbers

The walk over trees whose code is under other numbers writes drafts that are alike, rule by rule
(`Code.Renumbered.walkAlike`). Two facts come out of that.

A tree has the numbers of its code from its own records, so every placeholder in its draft is whole and
has a record, and no opening mark is left in the Markdown (`openMark_not_mem_ofNode`).

And a part of a tree can be converted on its own: what stands in front of it only shifts its numbers
(`untrimmed_append`).
-/

namespace ChatScribe.Markdown

open Html Code

variable {records records' : List Text}

/-! ## Constructs -/

section

variable {t t' : Text}

theorem alike_wrapInline {opening closing : Text} (hopening : openMark ∉ opening)
    (hclosing : openMark ∉ closing) (h : Alike records records' t t') :
    Alike records records' (wrapInline opening closing t) (wrapInline opening closing t') := by
  have hspace : ∀ b : Bool, openMark ∉ (if b = true then [' '] else [] : Text) := by decide
  unfold wrapInline Text.startsWithSpace Text.endsWithSpace
  dsimp only
  rw [h.trim.isEmpty_eq, h.head?_eq, h.getLast?_eq]
  split
  · exact .nil
  · rw [List.append_assoc (_ ++ opening ++ _), List.append_assoc (_ ++ opening ++ _)]
    exact h.trim.between (List.not_mem_append (hspace _) hopening)
      (List.not_mem_append hclosing (hspace _))

theorem alike_headingText (level : Nat) (h : Alike records records' t t') :
    Alike records records' (headingText level t) (headingText level t') := by
  have hlevel : openMark ∉ List.replicate level '#' := by
    intro hmem
    exact absurd (List.eq_of_mem_replicate hmem) (by decide)
  have hsplit : ∀ u, headingText level u
      = (['\n'] ++ List.replicate level '#' ++ [' ']) ++ Text.trim u ++ ['\n'] := by
    intro u
    simp [headingText]
  rw [hsplit, hsplit]
  exact h.trim.between (List.not_mem_append (List.not_mem_append (by decide) hlevel) (by decide))
    (by decide)

theorem alike_quoteText (h : Alike records records' t t') :
    Alike records records' (quoteText t) (quoteText t') := by
  have hquoted := h.trim.flatMap (fun _ _ hc => behind_of_mem_placeholder "> ".toList hc)
    (fun _ hc => openMark_not_mem_behind (by decide) hc)
  unfold quoteText
  dsimp only
  rw [h.trim.isEmpty_eq]
  split
  · exact .nil
  · rw [Text.unlines_map_lines, Text.unlines_map_lines]
    exact (hquoted.prepend (by decide : openMark ∉ "\n> ".toList)).postpend (by decide)

theorem alike_itemLine {indent mark : Text} (hindent : openMark ∉ indent) (hmark : openMark ∉ mark)
    (h : Alike records records' t t') :
    Alike records records' (itemLine indent mark t) (itemLine indent mark t') := by
  have hcontent := (h.dropWhile (· == '\n') (by decide)).trimEnd
  exact hcontent.between (List.not_mem_append hindent hmark) (by decide)

theorem alike_addText {text : Text} (h : Alike records records' t t') (htext : openMark ∉ text) :
    Alike records records' (addText t text) (addText t' text) := by
  unfold addText
  rw [h.isBlank_eq]
  split
  · exact (Alike.of_not_mem htext).trimStart
  · exact h.postpend htext

theorem alike_breakLine (h : Alike records records' t t') :
    Alike records records' (breakLine t) (breakLine t') := by
  unfold breakLine
  rw [h.getLast?_eq, h.isBlank_eq]
  split
  · exact h.postpend (by decide)
  · exact h

theorem alike_linkText {e : Element} (he : ∀ a ∈ e.attrs, openMark ∉ a.value)
    (h : Alike records records' t t') : Alike records records' (linkText e t) (linkText e t') := by
  have htarget := openMark_not_mem_trim (openMark_not_mem_attr?_getD he "href")
  unfold linkText
  dsimp only
  split
  · exact .nil
  split
  · exact h
  · have hsplit : ∀ u target : Text, '[' :: Text.trim u ++ "](".toList ++ target ++ [')']
        = ['['] ++ Text.trim u ++ ("](".toList ++ target ++ [')']) := by
      intro u target
      simp
    rw [hsplit, hsplit]
    exact h.trim.between (by decide)
      (List.not_mem_append (List.not_mem_append (by decide) htarget) (by decide))

end

/-! ## Tables -/

/-- Lists of texts that are alike, one by one. -/
abbrev AllAlike (records records' : List Text) : List Text → List Text → Prop :=
  List.Forall₂ (Alike records records')

theorem alike_join {sep : Text} (hsep : openMark ∉ sep) {ts ts' : List Text}
    (h : AllAlike records records' ts ts') :
    Alike records records' (Text.join sep ts) (Text.join sep ts') := by
  induction h with
  | nil => exact .nil
  | cons ht hts ih =>
    cases hts with
    | nil => exact ht
    | cons _ _ => exact (ht.postpend hsep).append ih

theorem alike_rowLine {cells cells' : List Text} (h : AllAlike records records' cells cells') :
    Alike records records' (Table.rowLine cells) (Table.rowLine cells') := by
  have hbar : openMark ∉ " | ".toList := by decide
  have hopening : openMark ∉ "| ".toList := by decide
  have hclosing : openMark ∉ " |\n".toList := by decide
  exact (alike_join hbar h).between hopening hclosing

/-- The line under the first row goes by the number of its cells. -/
theorem alike_ruleLine {cells cells' : List Text} (h : AllAlike records records' cells cells') :
    Alike records records' (Table.ruleLine cells) (Table.ruleLine cells') := by
  have hhyphens : openMark ∉ "---".toList := by decide
  apply alike_rowLine
  unfold AllAlike
  rw [List.forall₂_map_left_iff, List.forall₂_map_right_iff]
  exact h.imp fun _ _ _ => .of_not_mem hhyphens

theorem alike_render {rows rows' : List (List Text)}
    (h : List.Forall₂ (AllAlike records records') rows rows') :
    Alike records records' (Table.render rows) (Table.render rows') := by
  cases h with
  | nil => exact .nil
  | @cons first first' rest rest' hfirst hrest =>
    have hlines : Alike records records' (rest.flatMap Table.rowLine) (rest'.flatMap Table.rowLine) := by
      induction hrest with
      | nil => exact .nil
      | cons hcells _ ih =>
        rw [List.flatMap_cons, List.flatMap_cons]
        exact (alike_rowLine hcells).append ih
    have hfeed : openMark ∉ ['\n'] := by decide
    exact ((((alike_rowLine hfirst).prepend hfeed).append (alike_ruleLine hfirst)).append hlines).postpend
      hfeed

/-! ## The walk -/

/-- What the walk and its parts write for two lists of nodes is alike. -/
structure WalkAlike (records records' : List Text) (ns ns' : List Node) : Prop where
  plain : Alike records records' (plainTexts ns) (plainTexts ns')
  walk : ∀ {indent : Text}, openMark ∉ indent →
    Alike records records' (walkAll indent ns) (walkAll indent ns')
  items : ∀ (ordered : Bool) {indent : Text} (number : Nat), openMark ∉ indent →
    Alike records records' (items ordered indent number ns) (items ordered indent number ns')
  content : ∀ {indent before before' : Text}, openMark ∉ indent → Alike records records' before before' →
    Alike records records' (itemContent indent before ns) (itemContent indent before' ns')
  cells : AllAlike records records' (ns.filterMap cellText?) (ns'.filterMap cellText?)
  rows : List.Forall₂ (AllAlike records records') (tableRows ns) (tableRows ns')

namespace WalkAlike

variable {e : Element} {c c' ns ns' : List Node}

theorem nil : WalkAlike records records' [] [] where
  plain := .nil
  walk _ := .nil
  items _ _ _ _ := .nil
  content _ hbefore := hbefore
  cells := .nil
  rows := .nil

/-- A rule writes for an element what is alike if that is so for the nodes below it. -/
theorem write (h : WalkAlike records records' c c') (hattrs : ∀ a ∈ e.attrs, openMark ∉ a.value)
    {indent : Text} (hindent : openMark ∉ indent) :
    Alike records records' ((ruleOf e).write indent e c) ((ruleOf e).write indent e c') := by
  have hfeed : openMark ∉ ['\n'] := by decide
  cases ruleOf e with
  | heading level => exact alike_headingText level h.plain
  | paragraph => exact (h.walk hindent).between hfeed hfeed
  | lineBreak => exact .of_not_mem hfeed
  | divider =>
    have hclean : openMark ∉ "\n---\n".toList := by decide
    exact .of_not_mem hclean
  | emphasis m =>
    have hmarks : openMark ∉ m.opening ∧ openMark ∉ m.closing := by
      cases m <;> decide
    exact alike_wrapInline hmarks.1 hmarks.2 h.plain
  | list ordered => exact (h.items ordered 1 hindent).prepend hfeed
  | link => exact alike_linkText hattrs h.plain
  | picture => exact .of_not_mem (openMark_not_mem_imageText hattrs)
  | table => exact alike_render h.rows
  | quote => exact alike_quoteText h.plain
  | flow => exact h.walk hindent

variable {number : Option Nat}

section

variable (h : WalkAlike records records' c c') (hnumber : SameCode records records' e.span? number)

include h hnumber

theorem plainText_element :
    Alike records records' (plainText (.element e c))
      (plainText (.element { e with span? := number } c')) := by
  have homitted : ({ e with span? := number } : Element).isOmitted = e.isOmitted := rfl
  rw [plainText, plainText, homitted]
  dsimp only
  generalize e.span? = span? at hnumber
  cases hnumber with
  | some hi hj => exact .placeholder hi hj
  | none =>
    dsimp only
    split
    · exact .nil
    · exact h.plain

theorem walk_element (hc : Renumbered records records' c c')
    (hattrs : ∀ a ∈ e.attrs, openMark ∉ a.value) {indent : Text} (hindent : openMark ∉ indent) :
    Alike records records' (Markdown.walk indent (.element e c))
      (Markdown.walk indent (.element { e with span? := number } c')) := by
  generalize hspan : e.span? = span? at hnumber
  cases hnumber with
  | some hi hj =>
    rw [walk_of_span hspan, walk_of_span rfl]
    exact .placeholder hi hj
  | none =>
    have hsame : ({ e with span? := none } : Element) = e := by rw [← hspan]
    have hformula := hc.ofElement?_eq e
    rw [hsame]
    by_cases homitted : e.isOmitted = true
    · rw [walk_of_isOmitted hspan homitted, walk_of_isOmitted hspan homitted]
      exact .nil
    · rw [Bool.not_eq_true] at homitted
      cases hf : Formula.ofElement? e c with
      | some f =>
        rw [hf] at hformula
        rw [walk_of_formula hspan homitted hf, walk_of_formula hspan homitted hformula]
        exact .of_not_mem (openMark_not_mem_render
          (openMark_not_mem_source hattrs hc.openMark_not_mem_allTexts hf) hindent)
      | none =>
        rw [hf] at hformula
        rw [walk_of_rule hspan homitted hf, walk_of_rule hspan homitted hformula]
        exact h.write hattrs hindent

end

/-- Nodes that are no elements are written alike. Rows may stand below them. -/
theorem cons_other (h : WalkAlike records records' ns ns') {n : Node} (hn : n.isElement = false)
    (hclean : openMark ∉ n.allText) (hbelow : WalkAlike records records' n.children n.children) :
    WalkAlike records records' (n :: ns) (n :: ns') := by
  cases n with
  | element e c => cases hn
  | text content =>
    refine ⟨?_, fun hindent => ?_, fun ordered indent number hindent => ?_,
      fun hindent hbefore => ?_, ?_, ?_⟩
    · exact h.plain.prepend hclean
    · exact (h.walk hindent).prepend hclean
    · exact h.items ordered number hindent
    · exact h.content hindent (alike_addText hbefore hclean)
    · exact h.cells
    · exact h.rows
  | contents d =>
    refine ⟨h.plain, h.walk, h.items, h.content, h.cells, ?_⟩
    rw [tableRows_cons, tableRows_cons]
    exact List.rel_append hbelow.rows h.rows
  | _ => exact ⟨h.plain, h.walk, h.items, h.content, h.cells, h.rows⟩

theorem cons_element (h : WalkAlike records records' ns ns') (hbelow : WalkAlike records records' c c')
    (hc : Renumbered records records' c c') (hnumber : SameCode records records' e.span? number)
    (hattrs : ∀ a ∈ e.attrs, openMark ∉ a.value) :
    WalkAlike records records' (.element e c :: ns) (.element { e with span? := number } c' :: ns') := by
  have hwalk : ∀ {indent : Text}, openMark ∉ indent →
      Alike records records' (Markdown.walk indent (.element e c))
        (Markdown.walk indent (.element { e with span? := number } c')) :=
    fun hindent => hbelow.walk_element hnumber hc hattrs hindent
  refine ⟨?_, fun hindent => ?_, fun ordered indent start hindent => ?_,
    fun {indent before before'} hindent hbefore => ?_, ?_, ?_⟩
  · exact (hbelow.plainText_element hnumber).append h.plain
  · exact (hwalk hindent).append (h.walk hindent)
  · -- whether a node is an item, a list, a cell or a row does not depend on its number
    rw [Markdown.items, Markdown.items]
    show Alike records records' (if (e.tag == "li" && !e.isHidden) = true then _ else _)
      (if (e.tag == "li" && !e.isHidden) = true then _ else _)
    split
    · have hcontent := hbelow.content (openMark_not_mem_deeper hindent) .nil
      exact (alike_itemLine hindent (openMark_not_mem_itemMark ordered start) hcontent).append
        (h.items ordered (start + 1) hindent)
    · exact h.items ordered start hindent
  · rw [itemContent, itemContent]
    show Alike records records' (if (isList e && !e.isHidden) = true then _ else _)
      (if (isList e && !e.isHidden) = true then _ else _)
    split
    · exact h.content hindent ((alike_breakLine hbefore).append (hbelow.items _ 1 hindent))
    · exact h.content hindent (hbefore.append (hwalk hindent))
  · rw [cells_cons_element, cells_cons_element]
    show AllAlike records records' (if isCell e = true then _ else _) (if isCell e = true then _ else _)
    split
    · exact .cons hbelow.plain.trim h.cells
    · exact h.cells
  · rw [tableRows_cons, tableRows_cons, rows_element, rows_element]
    refine List.rel_append ?_ h.rows
    show List.Forall₂ (AllAlike records records') (if isRow e = true then _ else _)
      (if isRow e = true then _ else _)
    split
    · exact .cons hbelow.cells hbelow.rows
    · exact hbelow.rows

end WalkAlike

/-- The walk over trees with their code under other numbers writes what is alike. -/
theorem Code.Renumbered.walkAlike {ns ns' : List Node} (h : Renumbered records records' ns ns') :
    WalkAlike records records' ns ns' := by
  induction h with
  | nil => exact .nil
  | other hn hclean _ _ ihbelow ih => exact ih.cons_other hn hclean ihbelow
  | element hnumber hattrs hc _ ihc ih => exact ih.cons_element ihc hc hnumber hattrs

/-! ## Placeholders do not leak -/

/-- All placeholders in the draft of a tree are whole and have a record, whatever they have been through,
and there is no other opening mark in it. So none is left in the Markdown. -/
theorem openMark_not_mem_ofNode {root : Node} (h : IsMarkFree root.children) :
    (∃ ns, (∀ n ∈ ns, n < (lift root).records.length) ∧ Threads ns (lift root).draft) ∧
      openMark ∉ ofNode root := by
  have hself := renumbered_markAll 0 0 h (List.prefix_refl _) (List.prefix_refl _)
  have halike : Alike (lift root).records (lift root).records (lift root).draft (lift root).draft :=
    hself.walkAlike.walk List.not_mem_nil
  have hrecords : ∀ record ∈ (lift root).records, openMark ∉ record :=
    openMark_not_mem_of_mem_markAll 0 root.children h.texts
  exact ⟨halike.exists_threads, openMark_not_mem_trim (halike.openMark_not_mem_restore hrecords)⟩

/-- Code in a cell of a table in a cell, in a list outside of its items, and in a link. -/
def mixedRoot : Node :=
  let code : Node := .element (plain "code") [.text "x".toList]
  let table (cell : List Node) : Node :=
    .element (plain "table") [.element (plain "tr") [.element (plain "td") cell]]
  let link : Element := { plain "a" with attrs := [⟨.none, "href", " y ".toList⟩] }
  .element (plain "div")
    [table [table [code]], .element (plain "ul") [code, .element (plain "li") [code]],
      .element link [code]]

theorem isMarkFree_mixedRoot : IsMarkFree mixedRoot.children :=
  ⟨by decide +kernel, by decide +kernel, by decide +kernel⟩

/-- The code in the inner table is in the draft twice, for a row of that table is a row of the outer one
as well. The code beside the item is in it not at all. -/
theorem openMark_not_mem_ofNode_mixedRoot :
    IsMarkFree mixedRoot.children ∧ (lift mixedRoot).records.length = 4 ∧
      (lift mixedRoot).draft.count openMark = 4 ∧ openMark ∉ ofNode mixedRoot := by
  have hfree := isMarkFree_mixedRoot
  exact ⟨hfree, by decide +kernel, by decide +kernel, (openMark_not_mem_ofNode hfree).2⟩

/-! ## Parts of a tree -/

/-- The Markdown of an element before it is trimmed. -/
def untrimmed (root : Node) : Text := Code.restore (lift root).records (lift root).draft

/-- The Markdown of two parts of a tree is that of the one and then that of the other: the numbers that
code has in the whole make no difference. Trimming comes after that. -/
theorem untrimmed_append (root : Element) {left right : List Node} (hleft : IsMarkFree left)
    (hright : IsMarkFree right) :
    untrimmed (.element root (left ++ right))
        = untrimmed (.element root left) ++ untrimmed (.element root right) ∧
      ∀ node, ofNode node = Text.trim (untrimmed node) := by
  refine ⟨?_, fun _ => rfl⟩
  show Code.restore (markAll 0 (left ++ right)).2 (walkAll [] (markAll 0 (left ++ right)).1)
    = Code.restore (markAll 0 left).2 (walkAll [] (markAll 0 left).1) ++
      Code.restore (markAll 0 right).2 (walkAll [] (markAll 0 right).1)
  rw [markAll_append, Nat.zero_add, walkAll_append]
  -- the numbers of the first part stay, and those of the second part begin behind them
  have hfirst : (markAll 0 left).2 <+:
      ((markAll 0 left).2 ++ (markAll (markAll 0 left).2.length right).2).drop 0 :=
    List.prefix_append _ _
  have hsecond : (markAll (markAll 0 left).2.length right).2 <+:
      ((markAll 0 left).2 ++ (markAll (markAll 0 left).2.length right).2).drop
        (markAll 0 left).2.length := by
    simp only [List.drop_left, List.prefix_refl]
  have hindent : openMark ∉ ([] : Text) := List.not_mem_nil
  have hsame := (renumbered_markAll 0 0 hleft hfirst (List.prefix_refl _)).walkAlike.walk hindent
  have hshifted := (renumbered_markAll _ 0 hright hsecond (List.prefix_refl _)).walkAlike.walk hindent
  rw [hsame.restore_append_eq, hshifted.restore_eq]

/-- Two times the same nodes. The code of the second part has the numbers from four on. -/
theorem untrimmed_append_mixedRoot :
    IsMarkFree mixedRoot.children ∧
      (lift (.element (plain "div") (mixedRoot.children ++ mixedRoot.children))).records.length = 8 ∧
      untrimmed (.element (plain "div") (mixedRoot.children ++ mixedRoot.children))
        = untrimmed mixedRoot ++ untrimmed mixedRoot := by
  have hfree := isMarkFree_mixedRoot
  exact ⟨hfree, by decide +kernel, (untrimmed_append (plain "div") hfree hfree).1⟩

end ChatScribe.Markdown
