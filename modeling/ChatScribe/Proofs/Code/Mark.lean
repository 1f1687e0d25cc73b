import ChatScribe.Markdown.Code
import Mathlib.Tactic.Common

/-!
# Marking code

What `mark` does to an element, one equation for each kind of it. A sealed element is left as it is,
code elements get a number and are not looked into, and all other elements are marked below. Marks are
all that changes: the text of a tree stays.
-/

namespace ChatScribe.Markdown.Code

open Html

variable {e : Element} {children : List Node}

/-! ## Sealed elements -/

theorem isSealed_of_isOmitted (h : e.isOmitted = true) (children : List Node) :
    isSealed e children = true := by
  rw [isSealed, h, Bool.true_or, Bool.true_or]

theorem isSealed_of_isLensLink (h : e.isLensLink = true) (children : List Node) :
    isSealed e children = true := by
  rw [isSealed, h, Bool.or_true, Bool.true_or]

theorem isSealed_of_formula {f : Formula} (h : Formula.ofElement? e children = some f) :
    isSealed e children = true := by
  rw [isSealed, h, Option.isSome_some, Bool.or_true]

/-- What is not sealed is written by its rule, or lifted as code. -/
theorem isSealed_eq_false_iff : isSealed e children = false ↔
    e.isOmitted = false ∧ e.isLensLink = false ∧ Formula.ofElement? e children = none := by
  rw [isSealed, Bool.or_eq_false_iff, Bool.or_eq_false_iff, Option.isSome_eq_false_iff,
    Option.isNone_iff_eq_none, and_assoc]

/-! ## One equation per kind of element -/

/-- Only elements are marked. -/
theorem mark_of_not_element {node : Node} (h : node.isElement = false) (n : Nat) :
    mark n node = (node, []) := by
  cases node with
  | element e children => cases h
  | _ =>
    rw [mark]
    exact fun _ _ heq => by cases heq

theorem mark_of_isSealed (h : isSealed e children = true) (n : Nat) :
    mark n (.element e children) = (.element e children, []) := by
  rw [mark, if_pos h]

theorem mark_of_pre (h : isSealed e children = false) (htag : (e.tag == "pre") = true) (n : Nat) :
    mark n (.element e children) = (.element { e with span? := some n } children, [block children]) := by
  rw [mark, if_neg (by rw [h]; decide), if_pos htag]

theorem mark_of_code (h : isSealed e children = false) (hpre : (e.tag == "pre") = false)
    (htag : (e.tag == "code") = true) (n : Nat) :
    mark n (.element e children)
      = (.element { e with span? := some n } children, [inline children]) := by
  rw [mark, if_neg (by rw [h]; decide), if_neg (by rw [hpre]; decide), if_pos htag]

theorem mark_of_other (h : isSealed e children = false) (hpre : (e.tag == "pre") = false)
    (hcode : (e.tag == "code") = false) (n : Nat) :
    mark n (.element e children)
      = (.element e (markAll n children).1, (markAll n children).2) := by
  rw [mark, if_neg (by rw [h]; decide), if_neg (by rw [hpre]; decide), if_neg (by rw [hcode]; decide)]

/-- What becomes of an element: its marked copy and the records of the code in it. -/
inductive MarkedElement (n : Nat) (e : Element) (children : List Node) : Node × List Text → Prop
  | shut (hsealed : isSealed e children = true) :
      MarkedElement n e children (.element e children, [])
  | block (hsealed : isSealed e children = false) (hpre : (e.tag == "pre") = true) :
      MarkedElement n e children (.element { e with span? := some n } children, [block children])
  | code (hsealed : isSealed e children = false) (hpre : (e.tag == "pre") = false)
      (hcode : (e.tag == "code") = true) :
      MarkedElement n e children (.element { e with span? := some n } children, [inline children])
  | within (hsealed : isSealed e children = false) (hpre : (e.tag == "pre") = false)
      (hcode : (e.tag == "code") = false) :
      MarkedElement n e children (.element e (markAll n children).1, (markAll n children).2)

theorem markedElement_mark (n : Nat) (e : Element) (children : List Node) :
    MarkedElement n e children (mark n (.element e children)) := by
  by_cases hsealed : isSealed e children = true
  · rw [mark_of_isSealed hsealed]
    exact .shut hsealed
  · rw [Bool.not_eq_true] at hsealed
    by_cases hpre : (e.tag == "pre") = true
    · rw [mark_of_pre hsealed hpre]
      exact .block hsealed hpre
    · rw [Bool.not_eq_true] at hpre
      by_cases hcode : (e.tag == "code") = true
      · rw [mark_of_code hsealed hpre hcode]
        exact .code hsealed hpre hcode
      · rw [Bool.not_eq_true] at hcode
        rw [mark_of_other hsealed hpre hcode]
        exact .within hsealed hpre hcode

theorem markAll_cons (n : Nat) (node : Node) (nodes : List Node) :
    markAll n (node :: nodes)
      = ((mark n node).1 :: (markAll (n + (mark n node).2.length) nodes).1,
          (mark n node).2 ++ (markAll (n + (mark n node).2.length) nodes).2) := by
  rw [markAll]

theorem markAll_append (n : Nat) (ns ms : List Node) :
    markAll n (ns ++ ms)
      = ((markAll n ns).1 ++ (markAll (n + (markAll n ns).2.length) ms).1,
          (markAll n ns).2 ++ (markAll (n + (markAll n ns).2.length) ms).2) := by
  induction ns generalizing n with
  | nil => rw [markAll]; rfl
  | cons node ns ih =>
    rw [List.cons_append, markAll_cons, markAll_cons, ih]
    simp only [List.cons_append, List.append_assoc, List.length_append, Nat.add_assoc]

theorem markAll_singleton (n : Nat) (node : Node) :
    markAll n [node] = ([(mark n node).1], (mark n node).2) := by
  rw [markAll_cons, markAll, List.append_nil]

/-- A sealed element alone is left as it is. -/
theorem markAll_of_isSealed (h : isSealed e children = true) (n : Nat) :
    markAll n [.element e children] = ([.element e children], []) := by
  rw [markAll_singleton, mark_of_isSealed h]

/-! ## The text of a block -/

/-- The only text of a list, or else another text. -/
def soleOr (texts : List Text) (other : Text) : Text :=
  match texts with
  | [text] => text
  | _ => other

/-- The text of a block goes by the texts of the code elements below it. -/
theorem blockText_eq_soleOr (children : List Node) :
    blockText children
      = (Text.dropSuffix? ['\n'] (soleOr ((Node.elementsIn (·.tag == "code") children).map
          Node.innerText) (Node.shownTexts children))).getD
        (soleOr ((Node.elementsIn (·.tag == "code") children).map Node.innerText)
          (Node.shownTexts children)) := by
  unfold blockText
  match Node.elementsIn (·.tag == "code") children with
  | [] => rfl
  | [_] => rfl
  | _ :: _ :: _ => rfl

/-! ## The text of elements below -/

mutual

theorem allText_subset_elementsFrom {p : Element → Bool} {m : Node} :
    ∀ n : Node, m ∈ Node.elementsFrom p n → m.allText ⊆ n.allText
  | .text _, h => by cases h
  | .comment _, h => by cases h
  | .doctype _, h => by cases h
  | .contents children, h => allText_subset_elementsIn children h
  | .element e children, h => by
    rw [Node.elementsFrom] at h
    split at h
    · rcases List.mem_cons.mp h with rfl | h
      · exact List.Subset.refl _
      · exact allText_subset_elementsIn children h
    · exact allText_subset_elementsIn children h

/-- An element below has no text but that of the tree. -/
theorem allText_subset_elementsIn {p : Element → Bool} {m : Node} :
    ∀ ns : List Node, m ∈ Node.elementsIn p ns → m.allText ⊆ Node.allTexts ns
  | [], h => by cases h
  | n :: ns, h => by
    rw [Node.elementsIn] at h
    rw [Node.allTexts]
    rcases List.mem_append.mp h with h | h
    · exact List.Subset.trans (allText_subset_elementsFrom n h) (List.subset_append_left _ _)
    · exact List.Subset.trans (allText_subset_elementsIn ns h) (List.subset_append_right _ _)

end

/-! ## Marks leave the text -/

mutual

theorem allText_mark (n : Nat) : ∀ node : Node, Node.allText (mark n node).1 = Node.allText node
  | .text content => by rw [mark_of_not_element rfl]
  | .comment content => by rw [mark_of_not_element rfl]
  | .doctype name => by rw [mark_of_not_element rfl]
  | .contents children => by rw [mark_of_not_element rfl]
  | .element e children => by
    have hcase := markedElement_mark n e children
    generalize mark n (.element e children) = marked at hcase ⊢
    cases hcase with
    | shut => rfl
    | within => rw [Node.allText, Node.allText, allTexts_markAll n children]
    | _ => rw [Node.allText, Node.allText]

/-- Marking code does not change the text of a tree. -/
theorem allTexts_markAll (n : Nat) :
    ∀ nodes : List Node, Node.allTexts (markAll n nodes).1 = Node.allTexts nodes
  | [] => by rw [markAll]
  | node :: nodes => by
    rw [markAll_cons, Node.allTexts, Node.allTexts, allText_mark n node,
      allTexts_markAll _ nodes]

end

end ChatScribe.Markdown.Code
