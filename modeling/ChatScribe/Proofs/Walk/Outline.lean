import ChatScribe.Proofs.Code.Mark
import ChatScribe.Proofs.Code.Restore
import ChatScribe.Proofs.Text.Ends
import ChatScribe.Proofs.Walk.Rules

/-!
# Lists as outlines

A list whose items are a text and further lists becomes its outline (`ofNode_list`): a line for each item,
the item before what is below it, indented by its depth. Items and lists that are hidden leave no trace,
and hidden items take no number.

The walk writes what is below an item into the item, and trims it there before it is indented as a whole
with the item. That nothing of it is lost rests on one fact: lines of an outline end in a character that
shows, so trimming takes away the last line feed and no more (`Text.trimEnd_terminated`).
-/

namespace ChatScribe.Markdown

open Html

namespace Outline

/-! ## List trees -/

/-- What is left of an element that has no attributes when its tag is taken away. -/
structure Bare where
  space : Namespace
  order : Nat

def Bare.withTag (b : Bare) (tag : String) : Element := ⟨b.space, tag, [], b.order, none⟩

/-- An element that is kept from the eye, with all that is below it. The source of a formula is not among
that, for it would be found there. -/
structure Veiled where
  element : Element
  children : List Node
  hidden : element.isHidden = true
  unmarked : element.span? = none
  noSource : Node.elementsIn isSource [.element element children] = []

def Veiled.node (v : Veiled) : Node := .element v.element v.children

/-- The text of an item: some text on one line, without white space around it. -/
structure Label where
  text : Text
  ne_nil : text ≠ []
  oneLine : '\n' ∉ text
  trimmed : Text.trim text = text

mutual

/-- The items of a list, in order. Each has a text, and lists below it. -/
inductive Items
  | nil
  | shown (b : Bare) (label : Label) (below : Lists) (rest : Items)
  | hidden (v : Veiled) (rest : Items)

/-- The lists below an item, in order. -/
inductive Lists
  | nil
  | shown (b : Bare) (ordered : Bool) (items : Items) (rest : Lists)
  | hidden (v : Veiled) (rest : Lists)

end

def listTag (ordered : Bool) : String := if ordered then "ol" else "ul"

mutual

/-- The items as they stand in a page. -/
def Items.nodes : Items → List Node
  | .nil => []
  | .shown b label below rest =>
    .element (b.withTag "li") (.text label.text :: below.nodes) :: rest.nodes
  | .hidden v rest => v.node :: rest.nodes

/-- The lists as they stand in a page. -/
def Lists.nodes : Lists → List Node
  | .nil => []
  | .shown b ordered items rest => .element (b.withTag (listTag ordered)) items.nodes :: rest.nodes
  | .hidden v rest => v.node :: rest.nodes

end

/-! ## Outlines -/

/-- Two spaces for each level. -/
def pad (depth : Nat) : Text := List.replicate (2 * depth) ' '

/-- What stands in front of the text of an item. -/
def lead (ordered : Bool) (depth number : Nat) : Text :=
  pad depth ++ if ordered then Text.ofNat number ++ ". ".toList else "- ".toList

mutual

/-- The lines of the items of a list, which are counted from some number on. -/
def Items.lines (ordered : Bool) (depth number : Nat) : Items → List Text
  | .nil => []
  | .shown _ label below rest =>
    (lead ordered depth number ++ label.text) ::
      (below.lines (depth + 1) ++ rest.lines ordered depth (number + 1))
  | .hidden _ rest => rest.lines ordered depth number

/-- The lines of the lists below an item. Each of them is counted from one on. -/
def Lists.lines (depth : Nat) : Lists → List Text
  | .nil => []
  | .shown _ ordered items rest => items.lines ordered depth 1 ++ rest.lines depth
  | .hidden _ rest => rest.lines depth

end

/-! ## Lines of an outline -/

theorem Label.endsShown (label : Label) : Text.EndsShown label.text :=
  Text.endsShown_of_trimEnd_eq label.ne_nil (Text.trimStart_and_trimEnd_of_trim_eq label.trimmed).2

mutual

/-- Every line of an outline ends in the text of an item. -/
theorem Items.endsShown_of_mem_lines {ordered : Bool} {depth number : Nat} {l : Text} :
    ∀ its : Items, l ∈ its.lines ordered depth number → Text.EndsShown l
  | .nil, h => by cases h
  | .shown _ label below rest, h => by
    rw [Items.lines] at h
    -- the line of the item, a line below it, or one of the items that follow
    rcases List.mem_cons.mp h with rfl | h
    · exact label.endsShown.append _
    · rcases List.mem_append.mp h with h | h
      · exact below.endsShown_of_mem_lines h
      · exact rest.endsShown_of_mem_lines h
  | .hidden _ rest, h => by
    rw [Items.lines] at h
    exact rest.endsShown_of_mem_lines h

theorem Lists.endsShown_of_mem_lines {depth : Nat} {l : Text} :
    ∀ ls : Lists, l ∈ ls.lines depth → Text.EndsShown l
  | .nil, h => by cases h
  | .shown _ _ its rest, h => by
    rw [Lists.lines] at h
    rcases List.mem_append.mp h with h | h
    · exact its.endsShown_of_mem_lines h
    · exact rest.endsShown_of_mem_lines h
  | .hidden _ rest, h => by
    rw [Lists.lines] at h
    exact rest.endsShown_of_mem_lines h

end

/-- Marks of items show from their first character on. -/
theorem exists_itemMark_eq_cons (ordered : Bool) (number : Nat) :
    ∃ c r, itemMark ordered number = c :: r ∧ Text.isSpace c = false := by
  cases ordered with
  | false => exact ⟨'-', " ".toList, rfl, by decide⟩
  | true =>
    obtain ⟨c, r, hdigits⟩ := List.exists_cons_of_ne_nil (Text.ofNat_ne_nil number)
    have hc : Text.isSpace c = false :=
      Text.isSpace_of_isAsciiDigit
        (Text.isAsciiDigit_of_mem_ofNat (hdigits ▸ List.mem_cons_self : c ∈ Text.ofNat number))
    refine ⟨c, r ++ ". ".toList, ?_, hc⟩
    rw [itemMark, if_pos rfl, hdigits, List.cons_append]

/-- The outline of a whole list starts with the mark of its first item. -/
theorem Items.trimStart_lines {ordered : Bool} {number : Nat} : ∀ its : Items,
    Text.trimStart (Text.terminated (its.lines ordered 0 number))
      = Text.terminated (its.lines ordered 0 number)
  | .nil => rfl
  | .shown _ label below rest => by
    obtain ⟨c, r, hmark, hc⟩ := exists_itemMark_eq_cons ordered number
    have hlead : lead ordered 0 number = c :: r := hmark
    rw [Items.lines, Text.terminated_cons, hlead, List.cons_append, List.cons_append, Text.trimStart,
      List.dropWhile_cons, hc]
    rfl
  | .hidden _ rest => by
    rw [Items.lines]
    exact rest.trimStart_lines

/-! ## The page of a list tree -/

/-- The tags of items and lists. -/
def outlineTags : List String := ["li", "ul", "ol"]

theorem listTag_mem (ordered : Bool) : listTag ordered ∈ outlineTags := by
  cases ordered with
  | false => decide
  | true => decide

theorem Bare.isHidden_withTag (b : Bare) (tag : String) : (b.withTag tag).isHidden = false := rfl

theorem Bare.isSource_withTag (b : Bare) (tag : String) : isSource (b.withTag tag) = false := rfl

section

variable {tag : String} {c : List Node}

theorem Bare.isOmitted_withTag (b : Bare) (htag : tag ∈ outlineTags) :
    (b.withTag tag).isOmitted = false := by
  have hdropped : ∀ tag ∈ outlineTags, Element.droppedTags.contains tag = false := by decide
  have hnot : (b.withTag tag).isDropped = false := hdropped tag htag
  rw [Element.isOmitted, b.isHidden_withTag, hnot]
  rfl

theorem Bare.ofElement?_withTag (b : Bare) (htag : tag ∈ outlineTags)
    (hnone : Node.elementsIn isSource c = []) : Formula.ofElement? (b.withTag tag) c = none := by
  have hother : ∀ tag ∈ outlineTags, (tag == "mjx-container") = false := by decide
  exact ofElement?_of_no_attrs rfl (hother tag htag) hnone

/-- In an item or a list, code is marked as elsewhere. -/
theorem Bare.mark_withTag (b : Bare) (htag : tag ∈ outlineTags)
    (hnone : Node.elementsIn isSource c = []) (n : Nat) :
    Code.mark n (.element (b.withTag tag) c)
      = (.element (b.withTag tag) (Code.markAll n c).1, (Code.markAll n c).2) := by
  have hother : ∀ tag ∈ outlineTags,
      (tag == "a") = false ∧ (tag == "pre") = false ∧ (tag == "code") = false := by decide
  obtain ⟨hlink, hpre, hcode⟩ := hother tag htag
  have hlens : (b.withTag tag).isLensLink = false := by
    rw [Element.isLensLink]
    exact Bool.and_eq_false_imp.mpr fun h => absurd (hlink.symm.trans h) Bool.false_ne_true
  have hopen : Code.isSealed (b.withTag tag) c = false := by
    rw [Code.isSealed, b.isOmitted_withTag htag, hlens, b.ofElement?_withTag htag hnone]
    rfl
  exact Code.mark_of_other hopen hpre hcode n

end

theorem Veiled.isOmitted (v : Veiled) : v.element.isOmitted = true := by
  rw [Element.isOmitted, v.hidden, Bool.true_or]

theorem Veiled.mark (v : Veiled) (n : Nat) : Code.mark n v.node = (v.node, []) := by
  have hsealed : Code.isSealed v.element v.children = true := by
    rw [Code.isSealed, v.isOmitted, Bool.true_or, Bool.true_or]
  exact Code.mark_of_isSealed hsealed n

theorem Veiled.elementsFrom_isSource (v : Veiled) : Node.elementsFrom isSource v.node = [] := by
  have hv := v.noSource
  rw [Node.elementsIn, Node.elementsIn, List.append_nil] at hv
  exact hv

mutual

theorem Items.elementsIn_isSource : ∀ its : Items, Node.elementsIn isSource its.nodes = []
  | .nil => rfl
  | .shown b label below rest => by
    rw [Items.nodes, Node.elementsIn, Node.elementsFrom, b.isSource_withTag, Node.elementsIn,
      below.elementsIn_isSource, rest.elementsIn_isSource]
    rfl
  | .hidden v rest => by
    rw [Items.nodes, Node.elementsIn, v.elementsFrom_isSource, rest.elementsIn_isSource]
    rfl

/-- No source of a formula stands in a list tree, so nothing of it is a formula. -/
theorem Lists.elementsIn_isSource : ∀ ls : Lists, Node.elementsIn isSource ls.nodes = []
  | .nil => rfl
  | .shown b ordered its rest => by
    rw [Lists.nodes, Node.elementsIn, Node.elementsFrom, b.isSource_withTag,
      its.elementsIn_isSource, rest.elementsIn_isSource]
    rfl
  | .hidden v rest => by
    rw [Lists.nodes, Node.elementsIn, v.elementsFrom_isSource, rest.elementsIn_isSource]
    rfl

end

/-! ## Nothing in a list tree is marked -/

mutual

theorem Items.markAll_nodes (n : Nat) : ∀ its : Items, Code.markAll n its.nodes = (its.nodes, [])
  | .nil => by rw [Items.nodes, Code.markAll]
  | .shown b label below rest => by
    have hnone : Node.elementsIn isSource (.text label.text :: below.nodes) = [] := by
      rw [Node.elementsIn, below.elementsIn_isSource]
      rfl
    have htext : Code.markAll n (.text label.text :: below.nodes)
        = (.text label.text :: below.nodes, []) := by
      rw [Code.markAll_cons, Code.mark_of_not_element rfl, below.markAll_nodes]
      rfl
    rw [Items.nodes, Code.markAll_cons, b.mark_withTag (by decide) hnone, htext, rest.markAll_nodes]
    rfl
  | .hidden v rest => by
    rw [Items.nodes, Code.markAll_cons, v.mark, rest.markAll_nodes]
    rfl

theorem Lists.markAll_nodes (n : Nat) : ∀ ls : Lists, Code.markAll n ls.nodes = (ls.nodes, [])
  | .nil => by rw [Lists.nodes, Code.markAll]
  | .shown b ordered its rest => by
    rw [Lists.nodes, Code.markAll_cons, b.mark_withTag (listTag_mem ordered) its.elementsIn_isSource,
      its.markAll_nodes, rest.markAll_nodes]
    rfl
  | .hidden v rest => by
    rw [Lists.nodes, Code.markAll_cons, v.mark, rest.markAll_nodes]
    rfl

end

/-! ## The walk over a list tree

What is below an item is added to a content that is not blank any more, since the text of the item comes
first. So the induction is over all such contents. -/

theorem deeper_pad (depth : Nat) : deeper (pad depth) = pad (depth + 1) := by
  unfold deeper pad
  rw [Nat.mul_add, List.replicate_add]
  rfl

/-- The break in front of a list is there afterwards. -/
theorem getLast?_breakLine {content : Text} (h : Text.isBlank content = false) :
    (breakLine content).getLast? = some '\n' := by
  unfold breakLine
  rw [h]
  split
  · rw [List.getLast?_concat]
  · rename_i hnot
    simpa using hnot

theorem breakLine_of_newline {content : Text} (h : content.getLast? = some '\n') :
    breakLine content = content := by
  unfold breakLine
  rw [h]
  rfl

theorem isBlank_breakLine_append {content : Text} (h : Text.isBlank content = false) (t : Text) :
    Text.isBlank (breakLine content ++ t) = false := by
  unfold Text.isBlank at h
  unfold breakLine Text.isBlank
  split
  · simp [h]
  · simp [h]

theorem Label.breakLine_eq (label : Label) : breakLine label.text = label.text ++ ['\n'] := by
  have hlast : label.text.getLast? ≠ some '\n' := fun hl => label.oneLine (List.mem_of_getLast? hl)
  unfold breakLine
  rw [label.endsShown.isBlank_eq, if_pos (by simp [hlast])]

/-- An item as it is written, if below its text are lines that end in what shows. -/
theorem itemLine_eq (label : Label) (ordered : Bool) (depth number : Nat) {content : Text}
    {ls : List Text} (hls : ∀ l ∈ ls, Text.EndsShown l)
    (hcontent : content = label.text ∧ ls = [] ∨
      content = breakLine label.text ++ Text.terminated ls) :
    itemLine (pad depth) (itemMark ordered number) content
      = Text.terminated ((lead ordered depth number ++ label.text) :: ls) := by
  obtain ⟨c, r, htext⟩ := List.exists_cons_of_ne_nil label.ne_nil
  have hc : (c == '\n') = false := by
    rw [beq_eq_false_iff_ne]
    rintro rfl
    exact label.oneLine (htext ▸ List.mem_cons_self)
  have hkeep : ∀ u, (label.text ++ u).dropWhile (· == '\n') = label.text ++ u := by
    intro u
    rw [htext, List.cons_append, List.dropWhile_cons, hc, if_neg Bool.false_ne_true]
  have htrim : Text.trimEnd (content.dropWhile (· == '\n')) = Text.unlines (label.text :: ls) := by
    rcases hcontent with ⟨rfl, rfl⟩ | rfl
    · have hwhole := hkeep []
      rw [List.append_nil] at hwhole
      rw [hwhole, Text.trimEnd_of_endsShown label.endsShown]
      rfl
    · have hshown : ∀ l ∈ label.text :: ls, Text.EndsShown l :=
        List.forall_mem_cons.mpr ⟨label.endsShown, hls⟩
      rw [label.breakLine_eq, List.append_assoc, hkeep, ← Text.trimEnd_terminated hshown,
        Text.terminated_cons]
      rfl
  -- the line feed behind the item ends the last line below it
  have hended := Text.unlines_concat_newline (List.cons_ne_nil label.text ls)
  rw [itemLine, htrim, List.append_assoc, hended, Text.terminated_cons, Text.terminated_cons,
    ← List.append_assoc]
  rfl

mutual

/-- The items of a list are written as their lines. -/
theorem Items.items_nodes (ordered : Bool) (depth number : Nat) : ∀ its : Items,
    items ordered (pad depth) number its.nodes = Text.terminated (its.lines ordered depth number)
  | .nil => rfl
  | .shown b label below rest => by
    have hvisible : ((b.withTag "li").tag == "li" && !(b.withTag "li").isHidden) = true := rfl
    have hstart : addText [] label.text = label.text :=
      (Text.trimStart_and_trimEnd_of_trim_eq label.trimmed).1
    -- what the lists below are added to is the text of the item, which shows
    have hbelow := below.itemContent_nodes (depth + 1) label.endsShown.isBlank_eq
    rw [Items.nodes, items, if_pos hvisible, itemContent, hstart, deeper_pad,
      itemLine_eq label ordered depth number (fun l => below.endsShown_of_mem_lines) hbelow,
      rest.items_nodes, ← Text.terminated_append, Items.lines, List.cons_append]
  | .hidden v rest => by
    have hhidden : (v.element.tag == "li" && !v.element.isHidden) = false := by
      rw [v.hidden, Bool.not_true, Bool.and_false]
    rw [Items.nodes, Veiled.node, items, hhidden, if_neg Bool.false_ne_true, Items.lines,
      rest.items_nodes]

/-- The lists below an item are written as their lines, behind what there is of the item. -/
theorem Lists.itemContent_nodes (depth : Nat) {content : Text} (h : Text.isBlank content = false) :
    ∀ ls : Lists,
      itemContent (pad depth) content ls.nodes = content ∧ ls.lines depth = [] ∨
        itemContent (pad depth) content ls.nodes
          = breakLine content ++ Text.terminated (ls.lines depth)
  | .nil => Or.inl ⟨rfl, rfl⟩
  | .shown b ordered its rest => by
    have hlist : (isList (b.withTag (listTag ordered)) &&
        !(b.withTag (listTag ordered)).isHidden) = true := by
      rw [b.isHidden_withTag]
      cases ordered <;> rfl
    have hordered : ((b.withTag (listTag ordered)).tag == "ol") = ordered := by
      cases ordered <;> rfl
    rw [Lists.nodes, itemContent, if_pos hlist, hordered, its.items_nodes ordered depth 1, Lists.lines,
      Text.terminated_append, ← List.append_assoc]
    -- what there is of the item now ends in a line feed, so no further line is broken
    have hlast := Text.getLast?_append_terminated (getLast?_breakLine h) (its.lines ordered depth 1)
    have hblank := isBlank_breakLine_append h (Text.terminated (its.lines ordered depth 1))
    right
    rcases rest.itemContent_nodes depth hblank with ⟨heq, hnil⟩ | heq
    · rw [heq, hnil]
      exact (List.append_nil _).symm
    · rw [heq, breakLine_of_newline hlast]
  | .hidden v rest => by
    have hhidden : (isList v.element && !v.element.isHidden) = false := by
      rw [v.hidden, Bool.not_true, Bool.and_false]
    rw [Lists.nodes, Veiled.node, itemContent, hhidden, if_neg Bool.false_ne_true,
      walk_of_isOmitted v.unmarked v.isOmitted, List.append_nil, Lists.lines]
    exact rest.itemContent_nodes depth h

end

theorem ruleOf_listTag (b : Bare) (ordered : Bool) :
    ruleOf (b.withTag (listTag ordered)) = .list ordered := by
  have htag : (b.withTag (listTag ordered)).tag = listTag ordered := rfl
  unfold ruleOf
  rw [htag]
  cases ordered with
  | false => rfl
  | true => rfl

/-- A list becomes its outline. What is hidden in it leaves no trace. -/
theorem ofNode_list (root : Element) (b : Bare) (ordered : Bool) (its : Items) :
    ofNode (.element root [.element (b.withTag (listTag ordered)) its.nodes])
      = Text.unlines (its.lines ordered 0 1) := by
  have htag := listTag_mem ordered
  have hnone := its.elementsIn_isSource
  have hmark : Code.markAll 0 [.element (b.withTag (listTag ordered)) its.nodes]
      = ([.element (b.withTag (listTag ordered)) its.nodes], []) := by
    rw [Code.markAll_cons, b.mark_withTag htag hnone, its.markAll_nodes, Code.markAll]
    rfl
  have hwalk : walkAll [] [.element (b.withTag (listTag ordered)) its.nodes]
      = '\n' :: Text.terminated (its.lines ordered 0 1) := by
    have hpad : ([] : Text) = pad 0 := rfl
    rw [walkAll, walkAll, List.append_nil, walk_of_rule rfl (b.isOmitted_withTag htag)
      (b.ofElement?_withTag htag hnone), ruleOf_listTag, Rule.write, hpad, its.items_nodes ordered 0 1]
  have hstart : Text.trimStart ('\n' :: Text.terminated (its.lines ordered 0 1))
      = Text.terminated (its.lines ordered 0 1) := by
    rw [Text.trimStart, List.dropWhile_cons]
    exact its.trimStart_lines
  -- no code was found, so nothing is restored; trimming takes the two outer line feeds
  rw [ofNode_element, hmark, Code.restore_of_no_records, hwalk, Text.trim, hstart]
  exact Text.trimEnd_terminated fun l => its.endsShown_of_mem_lines

/-- A hidden element with a text. It can stand for an item or for a list. -/
def sampleVeil : Veiled where
  element := veiled "li"
  children := [.text "x".toList]
  hidden := by decide
  unmarked := rfl
  noSource := rfl

/-- An item with two lists below, one of them hidden, a hidden item, and an item alone. -/
def sampleItems : Items :=
  let bare : Bare := ⟨.html, 0⟩
  let inner : Items := .shown bare ⟨"b".toList, by decide, by decide, by decide⟩ .nil .nil
  .shown bare ⟨"a".toList, by decide, by decide, by decide⟩
    (.hidden sampleVeil (.shown bare false inner .nil))
    (.hidden sampleVeil (.shown bare ⟨"c d".toList, by decide, by decide, by decide⟩ .nil .nil))

example : ofNode (.element (plain "div") [.element (plain "ol") sampleItems.nodes])
    = "1. a\n  - b\n2. c d".toList := by decide +kernel

end Outline

end ChatScribe.Markdown
