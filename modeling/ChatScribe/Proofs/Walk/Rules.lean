import ChatScribe.Markdown.Convert
import ChatScribe.Proofs.Text.Digits
import Mathlib.Tactic.Common

/-!
# The rules of the walk

The walk picks a rule for an element by its tag. `ruleOf` names the rules and `Rule.write` says what each
of them writes, so that what is proved about elements is proved rule by rule: `walk_of_rule` is the only
place where tags are looked at.
-/

namespace ChatScribe.Markdown

open Html Code

/-- Kinds of emphasis. -/
inductive Emphasis
  | strong
  | em
  | sub
  | sup
deriving DecidableEq, Repr

def Emphasis.opening : Emphasis → Text
  | strong => "**".toList
  | em => "*".toList
  | sub => "<sub>".toList
  | sup => "<sup>".toList

def Emphasis.closing : Emphasis → Text
  | strong => "**".toList
  | em => "*".toList
  | sub => "</sub>".toList
  | sup => "</sup>".toList

/-- The rules for elements. -/
inductive Rule
  | heading (level : Nat)
  | paragraph
  | lineBreak
  | divider
  | emphasis (m : Emphasis)
  | list (ordered : Bool)
  | link
  | picture
  | table
  | quote
  /-- No rule of its own: what the children write. -/
  | flow
deriving DecidableEq, Repr

/-- The rule for an element. -/
def ruleOf (e : Element) : Rule :=
  let tag := String.ofList (Text.lower e.tag.toList)
  match headingLevel? tag with
  | some level => .heading level
  | none =>
    match tag with
    | "p" => .paragraph
    | "br" => .lineBreak
    | "hr" => .divider
    | "strong" | "b" => .emphasis .strong
    | "em" | "i" => .emphasis .em
    | "sub" => .emphasis .sub
    | "sup" => .emphasis .sup
    | "ul" => .list false
    | "ol" => .list true
    | "a" => .link
    | "img" => .picture
    | "table" => .table
    | "blockquote" => .quote
    | _ => .flow

/-- What a rule writes. -/
def Rule.write (r : Rule) (indent : Text) (e : Element) (children : List Node) : Text :=
  match r with
  | .heading level => headingText level (plainTexts children)
  | .paragraph => '\n' :: walkAll indent children ++ ['\n']
  | .lineBreak => ['\n']
  | .divider => "\n---\n".toList
  | .emphasis m => wrapInline m.opening m.closing (plainTexts children)
  | .list ordered => '\n' :: items ordered indent 1 children
  | .link => linkText e (plainTexts children)
  | .picture => imageText e
  | .table => Table.render (tableRows children)
  | .quote => quoteText (plainTexts children)
  | .flow => walkAll indent children

/-! ## The walk over an element -/

variable {e : Element} {children : List Node}

theorem walk_of_span {n : Nat} (h : e.span? = some n) (indent : Text) :
    walk indent (.element e children) = Code.placeholder n := by
  rw [walk, h]

theorem walk_of_isOmitted (hspan : e.span? = none) (h : e.isOmitted = true) (indent : Text) :
    walk indent (.element e children) = [] := by
  rw [walk, hspan]
  dsimp only
  rw [if_pos h]

theorem walk_of_formula {f : Formula} (hspan : e.span? = none) (homitted : e.isOmitted = false)
    (h : Formula.ofElement? e children = some f) (indent : Text) :
    walk indent (.element e children) = f.render indent := by
  rw [walk, hspan]
  dsimp only
  rw [homitted, h]
  rfl

/-- An element that is neither marked, omitted nor a formula is written by its rule. -/
theorem walk_of_rule (hspan : e.span? = none) (homitted : e.isOmitted = false)
    (hformula : Formula.ofElement? e children = none) (indent : Text) :
    walk indent (.element e children) = (ruleOf e).write indent e children := by
  rw [walk, hspan]
  dsimp only
  rw [if_neg (by rw [homitted]; decide), hformula]
  unfold ruleOf
  generalize String.ofList (Text.lower e.tag.toList) = tag
  dsimp only
  cases headingLevel? tag with
  | some level => rfl
  | none =>
    dsimp only
    -- each case of the walk meets the same case of the rule; the last one is that of no known tag
    split
    case h_16 => simp only [Rule.write, *]
    all_goals rfl

/-- A list is written by the rule for lists. -/
theorem ruleOf_of_isList (h : isList e = true) : ∃ ordered, ruleOf e = .list ordered := by
  unfold isList at h
  rcases Bool.or_eq_true_iff.mp h with htag | htag
  · refine ⟨false, ?_⟩
    unfold ruleOf
    rw [beq_iff_eq.mp htag]
    rfl
  · refine ⟨true, ?_⟩
    unfold ruleOf
    rw [beq_iff_eq.mp htag]
    rfl

/-! ## Formulas -/

/-- Elements that hold the source of a formula. -/
def isSource (e : Element) : Bool := e.classes.contains "math-tex".toList

/-- Whether an element is a formula, and which one, is told by itself and the texts of the sources
below it. -/
theorem ofElement?_eq_of_sources (e : Element) {c c' : List Node}
    (h : (Node.elementsIn isSource c).map Node.allText
      = (Node.elementsIn isSource c').map Node.allText) :
    Formula.ofElement? e c = Formula.ofElement? e c' := by
  have htext : (Formula.sourceElement? c).map Node.allText
      = (Formula.sourceElement? c').map Node.allText := by
    unfold Formula.sourceElement?
    rw [← List.head?_map, ← List.head?_map]
    exact congrArg List.head? h
  have hsome : (Formula.sourceElement? c).isSome = (Formula.sourceElement? c').isSome := by
    rw [← Option.isSome_map, htext, Option.isSome_map]
  unfold Formula.ofElement? Formula.source? Formula.candidates
  rw [htext, hsome]

/-- An element without attributes is no formula unless a source is below it. -/
theorem ofElement?_of_no_attrs {e : Element} (hattrs : e.attrs = [])
    (htag : (e.tag == "mjx-container") = false) {c : List Node}
    (hnone : Node.elementsIn isSource c = []) : Formula.ofElement? e c = none := by
  have hattr : ∀ name, e.attr? name = none := by
    intro name
    rw [Element.attr?, hattrs]
    rfl
  have hown : Formula.isOwn e = false := by
    rw [Formula.isOwn, Element.classHas, hattr, hattr, htag]
    rfl
  have hsource : Formula.sourceElement? c = none := by
    unfold Formula.sourceElement?
    show (Node.elementsIn isSource c).head? = none
    rw [hnone]
    rfl
  unfold Formula.ofElement?
  rw [hown, hsource]
  rfl

/-! ## Rows -/

/-- Rows that belong into a table. -/
def isRow (e : Element) : Bool := e.tag == "tr" && !e.isHidden

/-- The text of a cell, if the node is a visible one. -/
def cellText? : Node → Option Text
  | .element e children =>
    if (e.tag == "td" || e.tag == "th") && !e.isHidden then some (Text.trim (plainTexts children))
    else none
  | _ => none

theorem rowCells_eq_filterMap (row : Node) : rowCells row = row.children.filterMap cellText? := by
  unfold rowCells
  congr 1

theorem tableRows_eq_map (children : List Node) :
    tableRows children = (Node.elementsIn isRow children).map rowCells := rfl

/-- Cells that belong into a row. -/
def isCell (e : Element) : Bool := (e.tag == "td" || e.tag == "th") && !e.isHidden

theorem cells_cons_element (e : Element) (c ns : List Node) :
    (Node.element e c :: ns).filterMap cellText?
      = if isCell e then Text.trim (plainTexts c) :: ns.filterMap cellText?
        else ns.filterMap cellText? := by
  have hcell : cellText? (.element e c)
      = if isCell e then some (Text.trim (plainTexts c)) else none := rfl
  rw [List.filterMap_cons, hcell]
  cases isCell e with
  | true => rfl
  | false => rfl

theorem tableRows_cons (n : Node) (ns : List Node) :
    tableRows (n :: ns) = (Node.elementsFrom isRow n).map rowCells ++ tableRows ns := by
  rw [tableRows_eq_map, Node.elementsIn, List.map_append, tableRows_eq_map]

theorem rows_element (e : Element) (c : List Node) :
    (Node.elementsFrom isRow (.element e c)).map rowCells
      = if isRow e then c.filterMap cellText? :: tableRows c else tableRows c := by
  rw [Node.elementsFrom]
  split
  · rw [List.map_cons, rowCells_eq_filterMap, tableRows_eq_map]
    rfl
  · rw [tableRows_eq_map]

/-- An element of which nothing is known but its tag. -/
def plain (tag : String) : Element := ⟨.html, tag, [], 0, none⟩

/-- An element that is hidden, and of which nothing else is known but its tag. -/
def veiled (tag : String) : Element :=
  { plain tag with attrs := [⟨.none, "aria-hidden", "true".toList⟩] }

/-! ## Texts without opening marks -/

/-- Opening marks in neither of two texts. -/
theorem not_mem_of_append {s t : Text} (h : openMark ∉ s ++ t) : openMark ∉ s ∧ openMark ∉ t := by
  rw [List.mem_append, not_or] at h
  exact h

theorem openMark_not_mem_itemMark (ordered : Bool) (number : Nat) :
    openMark ∉ itemMark ordered number := by
  unfold itemMark
  cases ordered with
  | false =>
    rw [if_neg Bool.false_ne_true]
    decide
  | true =>
    rw [if_pos rfl, List.mem_append, not_or]
    refine ⟨?_, by decide⟩
    intro hmem
    exact absurd (Text.isAsciiDigit_of_mem_ofNat hmem) (by decide)

/-- An indent stays clear of opening marks when it grows. -/
theorem openMark_not_mem_deeper {indent : Text} (h : openMark ∉ indent) : openMark ∉ deeper indent := by
  unfold deeper
  rw [List.mem_append, not_or]
  exact ⟨h, by decide⟩

/-! ## Lists of nodes -/

theorem walkAll_append (indent : Text) (ns ms : List Node) :
    walkAll indent (ns ++ ms) = walkAll indent ns ++ walkAll indent ms := by
  induction ns with
  | nil => rfl
  | cons n ns ih => rw [List.cons_append, walkAll, walkAll, ih, List.append_assoc]

theorem walkAll_singleton (indent : Text) (n : Node) : walkAll indent [n] = walk indent n :=
  List.append_nil _

theorem plainTexts_append (ns ms : List Node) :
    plainTexts (ns ++ ms) = plainTexts ns ++ plainTexts ms := by
  induction ns with
  | nil => rfl
  | cons n ns ih => rw [List.cons_append, plainTexts, plainTexts, ih, List.append_assoc]

theorem plainTexts_singleton (n : Node) : plainTexts [n] = plainText n := List.append_nil _

theorem shownTexts_append (ns ms : List Node) :
    Node.shownTexts (ns ++ ms) = Node.shownTexts ns ++ Node.shownTexts ms := by
  induction ns with
  | nil => rfl
  | cons n ns ih => rw [List.cons_append, Node.shownTexts, Node.shownTexts, ih, List.append_assoc]

theorem shownTexts_singleton (n : Node) : Node.shownTexts [n] = n.shownText := List.append_nil _

theorem elementsIn_append (p : Element → Bool) (ns ms : List Node) :
    Node.elementsIn p (ns ++ ms) = Node.elementsIn p ns ++ Node.elementsIn p ms := by
  induction ns with
  | nil => rfl
  | cons n ns ih => rw [List.cons_append, Node.elementsIn, Node.elementsIn, ih, List.append_assoc]

theorem elementsIn_singleton (p : Element → Bool) (n : Node) :
    Node.elementsIn p [n] = Node.elementsFrom p n := List.append_nil _

/-! ## The conversion -/

/-- The conversion in its four steps: mark, walk, restore, trim. -/
theorem ofNode_element (root : Element) (children : List Node) :
    ofNode (.element root children) = Text.trim
      (Code.restore (Code.markAll 0 children).2 (walkAll [] (Code.markAll 0 children).1)) := rfl

end ChatScribe.Markdown
