import ChatScribe.Proofs.Code.Restore
import ChatScribe.Proofs.Text.Continued
import ChatScribe.Proofs.Walk.Outline

/-!
# Formulas in lists

A block formula in an item is written on lines of its own, behind the text of the item. The walk cuts and
indents the item at each level of the lists around it, but only at its ends, so the lines of the formula
reach the Markdown as they were written (`blockLines_infix_ofNode`). They follow the indent of the list
only as far as the formula has one line: the lines of its source behind the first are not indented.
-/

namespace ChatScribe.Markdown

open Html Code

/-! ## Lines that follow an indent -/

/-- Do all lines that are not empty start with the indent? -/
def IsIndented (indent : Text) (ls : List Text) : Prop := ∀ l ∈ ls, l ≠ [] → indent <+: l

instance (indent : Text) (ls : List Text) : Decidable (IsIndented indent ls) :=
  inferInstanceAs (Decidable (∀ l ∈ ls, _))

namespace Formula

/-- A block formula without the line feeds around it. -/
def display (indent source : Text) : Text :=
  indent ++ "$$\n".toList ++ indent ++ source ++ '\n' :: indent ++ "$$".toList

/-- The lines of a block formula. -/
def blockLines (indent source : Text) : List Text :=
  (indent ++ "$$".toList) :: (indent ++ source).lines ++ [indent ++ "$$".toList]

variable {f : Formula} {indent : Text}

theorem render_of_isBlock (h : f.isBlock = true) :
    f.render indent = '\n' :: display indent f.source ++ ['\n'] := by
  rw [render, if_pos h, display]
  simp

theorem endsShown_display (indent source : Text) : Text.EndsShown (display indent source) :=
  ⟨indent ++ "$$\n".toList ++ indent ++ source ++ '\n' :: indent ++ ['$'], '$', by simp [display],
    by decide⟩

theorem lines_display (hindent : '\n' ∉ indent) (source : Text) :
    (display indent source).lines = blockLines indent source := by
  have hmark : '\n' ∉ indent ++ "$$".toList := by
    rw [List.mem_append, not_or]
    exact ⟨hindent, by decide⟩
  have hsplit : display indent source
      = (indent ++ "$$".toList) ++ '\n' :: ((indent ++ source) ++ '\n' :: (indent ++ "$$".toList)) := by
    simp [display]
  rw [hsplit, Text.lines_append_newline, Text.lines_append_newline, Text.lines_of_not_mem hmark]
  rfl

/-- What is put back into a formula is put back into its source. -/
theorem restore_display (records : List Text) (hindent : openMark ∉ indent) (source : Text) :
    restore records (display indent source) = display indent (restore records source) := by
  have hfront : openMark ∉ indent ++ "$$\n".toList ++ indent := by
    rw [List.mem_append, List.mem_append, not_or, not_or]
    exact ⟨⟨hindent, by decide⟩, hindent⟩
  have hbehind : openMark ∉ '\n' :: indent ++ "$$".toList := by
    rw [List.cons_append, List.mem_cons, List.mem_append, not_or, not_or]
    exact ⟨by decide, hindent, by decide⟩
  have hfeed : ∀ c, ('\n' :: indent ++ "$$".toList).head? = some c → continues c = false := by
    rintro c ⟨⟩
    decide
  have hsplit : ∀ s : Text, display indent s
      = (indent ++ "$$\n".toList ++ indent) ++ (s ++ ('\n' :: indent ++ "$$".toList)) := by
    intro s
    simp [display]
  rw [hsplit, hsplit, restore_append_of_not_mem hfront, restore_append _ hfeed,
    restore_of_not_mem hbehind]

/-- The lines of a block formula follow the indent if those of its source behind the first one do. -/
theorem isIndented_blockLines_iff (hindent : '\n' ∉ indent) (source : Text) :
    IsIndented indent (blockLines indent source) ↔ IsIndented indent source.lines.tail := by
  -- the indent in front of the source is part of its first line
  have hlines : (indent ++ source).lines
      = (indent ++ source.lines.headD []) :: source.lines.tail := by
    induction indent with
    | nil =>
      obtain ⟨l, ls, hl⟩ := List.exists_cons_of_ne_nil (Text.lines_ne_nil source)
      rw [List.nil_append, hl]
      rfl
    | cons c indent ih =>
      rw [List.mem_cons, not_or] at hindent
      rw [List.cons_append, Text.lines_cons_of_ne (Ne.symm hindent.1), ih hindent.2]
      rfl
  rw [blockLines, hlines]
  constructor
  · intro h l hl
    exact h l (by simp [hl])
  · intro h l hl
    simp only [List.cons_append, List.mem_cons, List.mem_append, List.not_mem_nil, or_false] at hl
    rcases hl with rfl | rfl | hl | rfl
    · exact fun _ => List.prefix_append _ _
    · exact fun _ => List.prefix_append _ _
    · exact h l hl
    · exact fun _ => List.prefix_append _ _

end Formula

/-! ## Texts on lines of their own -/

section

variable {p q : Char → Prop} {body t : Text}

/-- Does a text stand on lines of its own in another one, behind some character of a kind? -/
def OnLines (p : Char → Prop) (body t : Text) : Prop :=
  ∃ front c rest behind, p c ∧ t = front ++ c :: rest ++ '\n' :: body ++ '\n' :: behind

/-- Does a character show? -/
def Shows (c : Char) : Prop := Text.isSpace c = false

/-- Does a character show, and stand in no placeholder? -/
def IsFirm (c : Char) : Prop := Shows c ∧ Stops c

/-- The mark of an item stays when records are put in place of placeholders. -/
theorem exists_itemMark_eq_append (ordered : Bool) (number : Nat) :
    ∃ front c rest, itemMark ordered number = front ++ c :: rest ∧ IsFirm c := by
  cases ordered with
  | false => exact ⟨[], '-', [' '], rfl, rfl, by decide, by decide⟩
  | true => exact ⟨Text.ofNat number, '.', [' '], rfl, rfl, by decide, by decide⟩

/-- Trimming behind takes nothing of the lines of a text that shows at its end. -/
theorem trimEnd_behind_lines (hends : Text.EndsShown body) (front behind : Text) :
    Text.trimEnd (front ++ '\n' :: body ++ '\n' :: behind) = front ++ '\n' :: body ∨
      ∃ rest, Text.trimEnd (front ++ '\n' :: body ++ '\n' :: behind)
        = front ++ '\n' :: body ++ '\n' :: rest := by
  have hshown : Text.EndsShown (front ++ '\n' :: body) := by
    rw [← List.singleton_append, ← List.append_assoc]
    exact hends.append _
  by_cases hbehind : Text.isBlank behind = true
  · left
    have hblank : Text.isBlank ('\n' :: behind) = true := hbehind
    rw [Text.trimEnd_append_of_isBlank hblank, Text.trimEnd_of_endsShown hshown]
  · right
    refine ⟨Text.trimEnd behind, ?_⟩
    have hsplit : ∀ s : Text, front ++ '\n' :: body ++ '\n' :: s
        = front ++ '\n' :: body ++ ['\n'] ++ s := by simp
    rw [hsplit behind, hsplit (Text.trimEnd behind),
      Text.trimEnd_append (Bool.eq_false_iff.mpr hbehind)]

namespace OnLines

theorem mono (h : OnLines p body t) (hpq : ∀ c, p c → q c) : OnLines q body t := by
  obtain ⟨front, c, rest, behind, hc, rfl⟩ := h
  exact ⟨front, c, rest, behind, hpq c hc, rfl⟩

theorem prepend (h : OnLines p body t) (s : Text) : OnLines p body (s ++ t) := by
  obtain ⟨front, c, rest, behind, hc, rfl⟩ := h
  exact ⟨s ++ front, c, rest, behind, hc, by simp⟩

theorem postpend (h : OnLines p body t) (s : Text) : OnLines p body (t ++ s) := by
  obtain ⟨front, c, rest, behind, hc, rfl⟩ := h
  exact ⟨front, c, rest, behind ++ s, hc, by simp⟩

theorem isBlank_eq (h : OnLines Shows body t) : Text.isBlank t = false := by
  obtain ⟨front, c, rest, behind, hc, rfl⟩ := h
  simp [Text.isBlank, show Text.isSpace c = false from hc]

/-- The cuts that make the content of an item its line take nothing of the lines of a text. -/
theorem itemLine (h : OnLines Shows body t) (hends : Text.EndsShown body) (indent : Text)
    (ordered : Bool) (number : Nat) :
    OnLines IsFirm body (itemLine indent (itemMark ordered number) t) := by
  obtain ⟨front, c, rest, behind, hc, rfl⟩ := h
  obtain ⟨u, d, v, hmark, hd⟩ := exists_itemMark_eq_append ordered number
  have hfeed : (c == '\n') = false := by
    rw [beq_eq_false_iff_ne]
    rintro rfl
    cases hc
  have hstart : (front ++ c :: rest ++ '\n' :: body ++ '\n' :: behind).dropWhile (· == '\n')
      = (front.dropWhile (· == '\n') ++ c :: rest) ++ '\n' :: body ++ '\n' :: behind := by
    rw [List.append_assoc, List.append_assoc, List.cons_append,
      Text.dropWhile_append_cons (p := (· == '\n')) hfeed]
    simp
  rw [Markdown.itemLine, hstart, hmark]
  -- if nothing shows behind the body, the line feed behind it is that of the item
  rcases trimEnd_behind_lines hends (front.dropWhile (· == '\n') ++ c :: rest) behind with heq | ⟨w, heq⟩
  · exact ⟨indent ++ u, d, v ++ front.dropWhile (· == '\n') ++ c :: rest, [], hd, by
      rw [heq]
      simp⟩
  · exact ⟨indent ++ u, d, v ++ front.dropWhile (· == '\n') ++ c :: rest, w ++ ['\n'], hd, by
      rw [heq]
      simp⟩

/-- The lines of a text reach the Markdown, once the records are put back into them. -/
theorem lines_infix_trim_restore (h : OnLines IsFirm body t) (records : List Text)
    (hends : Text.EndsShown (restore records body)) :
    (restore records body).lines <:+: (Text.trim (restore records t)).lines := by
  obtain ⟨front, c, rest, behind, ⟨hshows, hgoes, hopen⟩, rfl⟩ := h
  have hfeed : Stops '\n' := stops_of_isSpace (by decide)
  have hcut : ∀ (u v : Text) {d : Char}, Stops d →
      restore records (u ++ d :: v) = restore records u ++ d :: restore records v := by
    rintro u v d ⟨hd, hne⟩
    rw [restore_append u (by rintro _ ⟨⟩; exact hd), restore_cons_of_ne hne]
  -- no placeholder reaches over the firm character or over the line feeds around the body
  have hrestore : restore records (front ++ c :: rest ++ '\n' :: body ++ '\n' :: behind)
      = (restore records front ++ c :: restore records rest) ++ '\n' :: restore records body ++
        '\n' :: restore records behind := by
    rw [hcut _ _ hfeed, hcut _ _ hfeed, hcut _ _ ⟨hgoes, hopen⟩]
  have hblank : Text.isBlank (restore records front ++ c :: restore records rest) = false := by
    rw [Text.isBlank, List.all_append, List.all_cons, show Text.isSpace c = false from hshows,
      Bool.false_and, Bool.and_false]
  rw [Text.trim, hrestore, List.append_assoc, Text.trimStart_append hblank, ← List.append_assoc]
  generalize Text.trimStart (restore records front ++ c :: restore records rest) = start
  rcases trimEnd_behind_lines hends start (restore records behind) with heq | ⟨w, heq⟩
  · rw [heq, Text.lines_append_newline]
    exact (List.suffix_append _ _).isInfix
  · rw [heq, Text.lines_append_newline, Text.lines_append_newline]
    exact List.infix_append _ _ _

end OnLines

end

/-! ## The content of an item -/

theorem itemContent_append (indent content : Text) (ns ms : List Node) :
    itemContent indent content (ns ++ ms) = itemContent indent (itemContent indent content ns) ms := by
  induction ns generalizing content with
  | nil => rw [List.nil_append, itemContent]
  | cons n ns ih =>
    cases n with
    | element e children =>
      rw [List.cons_append, itemContent, itemContent]
      split
      · exact ih _
      · exact ih _
    | text s =>
      rw [List.cons_append, itemContent, itemContent]
      exact ih _
    | comment _ | doctype _ | contents _ => exact ih content

/-- What shows of an item stays, and the rest is added behind it. -/
theorem exists_itemContent_eq_append (indent : Text) {content : Text}
    (h : Text.isBlank content = false) (ns : List Node) :
    ∃ rest, itemContent indent content ns = content ++ rest := by
  induction ns generalizing content with
  | nil => exact ⟨[], by rw [itemContent, List.append_nil]⟩
  | cons n ns ih =>
    have hadd : ∀ s, ∃ rest, itemContent indent (content ++ s) ns = content ++ rest := by
      intro s
      have hshown : Text.isBlank (content ++ s) = false := by
        rw [Text.isBlank, List.all_append, show content.all Text.isSpace = false from h,
          Bool.false_and]
      obtain ⟨rest, hrest⟩ := ih hshown
      exact ⟨s ++ rest, by rw [hrest, List.append_assoc]⟩
    cases n with
    | text s =>
      rw [itemContent, addText, if_neg (Bool.eq_false_iff.mp h)]
      exact hadd s
    | element e children =>
      rw [itemContent]
      split
      · have hbreak : ∃ s, breakLine content = content ++ s := by
          unfold breakLine
          split
          · exact ⟨['\n'], rfl⟩
          · exact ⟨[], (List.append_nil _).symm⟩
        obtain ⟨s, hs⟩ := hbreak
        rw [hs, List.append_assoc]
        exact hadd _
      · exact hadd _
    | comment _ | doctype _ | contents _ => exact ih h

/-! ## Formulas in the walk -/

/-- What the walk reads some nodes as: as they come, as the items of a list, or as what an item holds. -/
inductive Reading
  | flow
  | list
  | item

/-- A formula is a child of an item below `depth` lists, behind a text of the item that shows. The walk
comes to it from some nodes, which stand below `k` lists themselves. -/
inductive Formula.IsBelow (f : Formula) (depth : Nat) : Reading → Nat → List Node → Prop
  | here (before : List Node) {after : List Node} {e : Element} {children : List Node}
      (htext : Text.isBlank (itemContent (Outline.pad depth) [] before) = false)
      (hlist : isList e = false) (hspan : e.span? = none) (homitted : e.isOmitted = false)
      (hformula : ofElement? e children = some f) :
      IsBelow f depth .item depth (before ++ .element e children :: after)
  | nested {k : Nat} {ns : List Node} {e : Element} {children : List Node}
      (hmem : .element e children ∈ ns) (hlist : isList e = true) (hshown : e.isHidden = false)
      (h : IsBelow f depth .list k children) : IsBelow f depth .item k ns
  | inside {k : Nat} {ns : List Node} {e : Element} {children : List Node}
      (hmem : .element e children ∈ ns) (hlist : isList e = false)
      (h : IsBelow f depth .flow k [.element e children]) : IsBelow f depth .item k ns
  | item {k : Nat} {ns : List Node} {e : Element} {children : List Node}
      (hmem : .element e children ∈ ns) (htag : e.tag = "li") (hshown : e.isHidden = false)
      (h : IsBelow f depth .item (k + 1) children) : IsBelow f depth .list k ns
  | within {k : Nat} {ns : List Node} {e : Element} {children : List Node}
      (hmem : .element e children ∈ ns) (hspan : e.span? = none) (homitted : e.isOmitted = false)
      (hformula : ofElement? e children = none) (hrule : ruleOf e = .flow ∨ ruleOf e = .paragraph)
      (h : IsBelow f depth .flow k children) : IsBelow f depth .flow k ns
  | list {k : Nat} {ns : List Node} {e : Element} {children : List Node} {ordered : Bool}
      (hmem : .element e children ∈ ns) (hspan : e.span? = none) (homitted : e.isOmitted = false)
      (hformula : ofElement? e children = none) (hrule : ruleOf e = .list ordered)
      (h : IsBelow f depth .list k children) : IsBelow f depth .flow k ns

/-- What is written of some nodes below `k` lists has a text on lines of its own. -/
def Reading.Keeps (body : Text) (k : Nat) (ns : List Node) : Reading → Prop
  | .flow => OnLines IsFirm body (walkAll (Outline.pad k) ns)
  | .list => ∀ ordered number, OnLines IsFirm body (items ordered (Outline.pad k) number ns)
  | .item => OnLines Shows body (itemContent (Outline.pad k) [] ns)

section

variable {body indent : Text} {ns : List Node}

/-- What the walk writes of one node is part of what it writes of all. -/
theorem OnLines.walkAll_of_mem {p : Char → Prop} {n : Node} (hmem : n ∈ ns)
    (h : OnLines p body (walk indent n)) : OnLines p body (walkAll indent ns) := by
  obtain ⟨before, after, rfl⟩ := List.append_of_mem hmem
  rw [walkAll_append, walkAll]
  exact (h.postpend _).prepend _

/-- What is written of one item is part of what is written of all. -/
theorem OnLines.items_of_mem {e : Element} {children : List Node} (hmem : .element e children ∈ ns)
    (htag : e.tag = "li") (hshown : e.isHidden = false)
    (h : ∀ ordered number, OnLines IsFirm body
      (Markdown.itemLine indent (itemMark ordered number) (itemContent (deeper indent) [] children)))
    (ordered : Bool) (number : Nat) : OnLines IsFirm body (items ordered indent number ns) := by
  induction ns generalizing number with
  | nil => cases hmem
  | cons n ns ih =>
    rcases List.mem_cons.mp hmem with rfl | hrest
    · have hitem : (e.tag == "li" && !e.isHidden) = true := by
        rw [htag, hshown]
        rfl
      rw [items, if_pos hitem]
      exact (h ordered number).postpend _
    · cases n with
      | element e' children' =>
        rw [items]
        split
        · exact (ih hrest _).prepend _
        · exact ih hrest _
      | text _ | comment _ | doctype _ | contents _ => exact ih hrest number

/-- What shows of a node in an item stays there, whatever follows in the item. -/
theorem OnLines.itemContent_append_cons {before : List Node} {n : Node}
    (h : OnLines Shows body (itemContent indent (itemContent indent [] before) [n]))
    (after : List Node) : OnLines Shows body (itemContent indent [] (before ++ n :: after)) := by
  obtain ⟨rest, hrest⟩ := exists_itemContent_eq_append indent h.isBlank_eq after
  rw [itemContent_append, ← List.singleton_append, itemContent_append, hrest]
  exact h.postpend rest

theorem OnLines.itemContent_of_mem {n : Node} (hmem : n ∈ ns)
    (h : ∀ content, OnLines Shows body (itemContent indent content [n])) :
    OnLines Shows body (itemContent indent [] ns) := by
  obtain ⟨before, after, rfl⟩ := List.append_of_mem hmem
  exact OnLines.itemContent_append_cons (h _) after

end

/-- The lines of a formula are written wherever the walk comes from. -/
theorem Formula.IsBelow.keeps {f : Formula} {depth k : Nat} {r : Reading} {ns : List Node}
    (hblock : f.isBlock = true) (h : f.IsBelow depth r k ns) :
    r.Keeps (display (Outline.pad depth) f.source) k ns := by
  have hends := endsShown_display (Outline.pad depth) f.source
  -- what stands in front of the formula gets firm when the item is given its mark, and not before
  induction h with
  | @here before after e children htext hlist hspan homitted hformula =>
    obtain ⟨front, c, rest, hbefore, hc⟩ := Text.exists_split_of_not_isBlank htext
    have hwalk := (walk_of_formula hspan homitted hformula (Outline.pad depth)).trans
      (render_of_isBlock hblock)
    refine OnLines.itemContent_append_cons ?_ after
    rw [itemContent, if_neg (by simp [hlist]), itemContent, hbefore, hwalk]
    exact ⟨front, c, rest, [], hc, by simp⟩
  | nested hmem hlist hshown _ ih =>
    refine OnLines.itemContent_of_mem hmem fun content => ?_
    rw [itemContent, if_pos (by simp [hlist, hshown]), itemContent]
    exact ((ih _ _).mono fun _ hc => hc.1).prepend _
  | @inside k ns e children hmem hlist _ ih =>
    have hwalk : OnLines IsFirm _ (walkAll (Outline.pad k) [.element e children]) := ih
    rw [walkAll_singleton] at hwalk
    refine OnLines.itemContent_of_mem hmem fun content => ?_
    rw [itemContent, if_neg (by simp [hlist]), itemContent]
    exact (hwalk.mono fun _ hc => hc.1).prepend _
  | item hmem htag hshown _ ih =>
    refine OnLines.items_of_mem hmem htag hshown fun ordered number => ?_
    rw [Outline.deeper_pad]
    exact ih.itemLine hends _ ordered number
  | @within k ns e children hmem hspan homitted hformula hrule _ ih =>
    refine OnLines.walkAll_of_mem hmem ?_
    have hwalk : OnLines IsFirm _ (walkAll (Outline.pad k) children) := ih
    rw [walk_of_rule hspan homitted hformula]
    rcases hrule with hrule | hrule
    · rw [hrule]
      exact hwalk
    · rw [hrule]
      exact (hwalk.prepend ['\n']).postpend ['\n']
  | list hmem hspan homitted hformula hrule _ ih =>
    refine OnLines.walkAll_of_mem hmem ?_
    rw [walk_of_rule hspan homitted hformula, hrule]
    exact (ih _ 1).prepend ['\n']

/-- A block formula in an item stands in the Markdown on lines of its own. These follow the indent of the
list exactly if the lines of its source behind the first one bring the indent along. -/
theorem blockLines_infix_ofNode {root : Node} {f : Formula} {depth : Nat} (hblock : f.isBlock = true)
    (h : f.IsBelow depth .flow 0 (lift root).nodes) :
    let source := restore (lift root).records f.source
    Formula.blockLines (Outline.pad depth) source <:+: (ofNode root).lines ∧
      (IsIndented (Outline.pad depth) (Formula.blockLines (Outline.pad depth) source) ↔
        IsIndented (Outline.pad depth) source.lines.tail) := by
  intro source
  have hfeed : '\n' ∉ Outline.pad depth := fun hmem => absurd (List.eq_of_mem_replicate hmem) (by decide)
  have hopen : openMark ∉ Outline.pad depth :=
    fun hmem => absurd (List.eq_of_mem_replicate hmem) (by decide)
  have hdraft : OnLines IsFirm _ (lift root).draft := h.keeps hblock
  have hrestore := Formula.restore_display (lift root).records hopen f.source
  have hends := hrestore ▸ Formula.endsShown_display (Outline.pad depth) source
  have hlines := hdraft.lines_infix_trim_restore (lift root).records hends
  rw [hrestore, Formula.lines_display hfeed] at hlines
  exact ⟨hlines, Formula.isIndented_blockLines_iff hfeed source⟩

/-- An element with the source of a formula. -/
def formulaWith (source : Text) : Element :=
  { plain "div" with attrs := [⟨.none, "data-math", source⟩] }

/-- A formula of two lines in an inner list. Its second line brings the indent along. -/
theorem blockLines_infix_ofNode_nested :
    let source := "p\n    q".toList
    let inner : List Node := [.element (plain "li") [.element (plain "code") [.text "c".toList],
      .text " x".toList, .element (formulaWith source) []]]
    let root := Node.element (plain "body") [.element (plain "ul")
      [.element (plain "li") [.text "a".toList, .element (plain "ol") inner]]]
    Formula.IsBelow ⟨source, true⟩ 2 .flow 0 (lift root).nodes ∧
      ofNode root = "- a\n  1. \x60c\x60 x\n    $$\n    p\n    q\n    $$".toList ∧
      Formula.blockLines (Outline.pad 2) source <:+: (ofNode root).lines ∧
      IsIndented (Outline.pad 2) (Formula.blockLines (Outline.pad 2) source) := by
  intro source inner root
  have hbelow : Formula.IsBelow ⟨source, true⟩ 2 .flow 0 (lift root).nodes := by
    refine .list (List.mem_singleton_self _) rfl rfl rfl rfl ?_
    refine .item (List.mem_singleton_self _) rfl rfl ?_
    refine .nested (List.mem_cons_of_mem _ (List.mem_singleton_self _)) rfl rfl ?_
    refine .item (List.mem_singleton_self _) rfl rfl ?_
    let marked : Element := { plain "code" with span? := some 0 }
    exact .here [.element marked [.text "c".toList], .text " x".toList] (by decide +kernel)
      rfl rfl rfl rfl
  have hsource : restore (lift root).records source = source := restore_of_not_mem (by decide)
  have hlines := blockLines_infix_ofNode rfl hbelow
  rw [hsource] at hlines
  exact ⟨hbelow, by decide +kernel, hlines.1, hlines.2.mpr (by decide)⟩

/-- Not every line of a formula follows the indent: the second line of its source does not. -/
theorem not_isIndented_blockLines :
    let source := "a\nb".toList
    let root := Node.element (plain "body") [.element (plain "ul")
      [.element (plain "li") [.text "x".toList, .element (formulaWith source) []]]]
    Formula.IsBelow ⟨source, true⟩ 1 .flow 0 (lift root).nodes ∧
      ofNode root = "- x\n  $$\n  a\nb\n  $$".toList ∧
      Formula.blockLines (Outline.pad 1) source <:+: (ofNode root).lines ∧
      ¬ IsIndented (Outline.pad 1) (Formula.blockLines (Outline.pad 1) source) := by
  intro source root
  refine ⟨?_, by decide +kernel, by decide +kernel, by decide +kernel⟩
  refine .list (List.mem_singleton_self _) rfl rfl rfl rfl ?_
  refine .item (List.mem_singleton_self _) rfl rfl ?_
  exact .here [.text "x".toList] (by decide +kernel) rfl rfl rfl rfl

end ChatScribe.Markdown
