import ChatScribe.Proofs.Code.Marked
import ChatScribe.Proofs.Code.Places

/-!
# Trees with their code under other numbers

Marking numbers the code of a tree from some number on. `Renumbered records records' ns ns'` says that the
nodes `ns` and `ns'` are the same but for the numbers of their code, and that each number in the one has
the record of its counterpart in the other. Marking the same nodes from two numbers on leads to it
(`renumbered_markAll`), whatever else is among the records.

All this is about trees without opening marks in their texts and attributes, and in which nothing has a
number yet: `IsMarkFree`.
-/

namespace ChatScribe.Markdown.Code

open Html

/-! ## Trees without opening marks -/

/-- Nodes in which no text and no attribute has an opening mark, and no element has a number. -/
structure IsMarkFree (ns : List Node) : Prop where
  texts : openMark ∉ Node.allTexts ns
  attrs : ∀ e ∈ elements ns, ∀ a ∈ e.attrs, openMark ∉ a.value
  fresh : Fresh ns

namespace IsMarkFree

variable {e : Element} {n : Node} {c ns : List Node}

theorem head (h : IsMarkFree (n :: ns)) : IsMarkFree [n] where
  texts hmem := by
    rw [Node.allTexts, Node.allTexts, List.append_nil] at hmem
    exact (not_mem_of_append h.texts).1 hmem
  attrs e he := h.attrs e (by rw [elements_cons]; exact List.mem_append_left _ he)
  fresh := h.fresh.head

theorem tail (h : IsMarkFree (n :: ns)) : IsMarkFree ns where
  texts := (not_mem_of_append h.texts).2
  attrs e he := h.attrs e (by rw [elements_cons]; exact List.mem_append_right _ he)
  fresh := h.fresh.tail

theorem below (h : IsMarkFree [.element e c]) : IsMarkFree c where
  texts := (not_mem_of_append h.texts).1
  attrs e' he := h.attrs e' (by rw [elements_element]; exact List.mem_cons_of_mem _ he)
  fresh := h.fresh.below

theorem contents (h : IsMarkFree [.contents c]) : IsMarkFree c where
  texts := (not_mem_of_append h.texts).1
  attrs e' he := h.attrs e' (by rwa [elements_contents])
  fresh e' he := h.fresh e' (by rwa [elements_contents])

theorem attr (h : IsMarkFree [.element e c]) : ∀ a ∈ e.attrs, openMark ∉ a.value :=
  h.attrs e (by rw [elements_element]; exact List.mem_cons_self)

end IsMarkFree

/-! ## The records of such trees -/

mutual

theorem openMark_not_mem_shownText : ∀ n : Node, openMark ∉ n.allText → openMark ∉ Node.shownText n
  | .text content, h => h
  | .comment content, _ => List.not_mem_nil
  | .doctype name, _ => List.not_mem_nil
  | .contents children, _ => List.not_mem_nil
  | .element e children, h => by
    rw [Node.shownText]
    split
    · exact List.not_mem_nil
    split
    · decide
    · exact openMark_not_mem_shownTexts children h

/-- What a reader sees of a tree is text of the tree, and line feeds. -/
theorem openMark_not_mem_shownTexts :
    ∀ ns : List Node, openMark ∉ Node.allTexts ns → openMark ∉ Node.shownTexts ns
  | [], _ => List.not_mem_nil
  | n :: ns, h => by
    obtain ⟨hn, hns⟩ := not_mem_of_append h
    exact List.not_mem_append (openMark_not_mem_shownText n hn) (openMark_not_mem_shownTexts ns hns)

end

theorem openMark_not_mem_inline {c : List Node} (h : openMark ∉ Node.allTexts c) :
    openMark ∉ inline c := by
  have htick : openMark ∉ ['\x60'] := by decide
  have hinner := List.not_mem_append htick (openMark_not_mem_shownTexts c h)
  exact List.not_mem_append hinner htick

theorem openMark_not_mem_blockText {c : List Node} (h : openMark ∉ Node.allTexts c) :
    openMark ∉ blockText c := by
  have htext : openMark ∉ soleOr ((Node.elementsIn (·.tag == "code") c).map Node.innerText)
      (Node.shownTexts c) := by
    unfold soleOr
    split
    · rename_i text hsole
      have hmem : text ∈ (Node.elementsIn (·.tag == "code") c).map Node.innerText := by simp [hsole]
      obtain ⟨code, hcode, rfl⟩ := List.mem_map.mp hmem
      have hall := allText_subset_elementsIn c hcode
      cases code with
      | element e d => exact openMark_not_mem_shownTexts d fun hmark => h (hall hmark)
      | contents d => exact openMark_not_mem_shownTexts d fun hmark => h (hall hmark)
      | _ => exact List.not_mem_nil
    · exact openMark_not_mem_shownTexts c h
  have hdrop : ∀ t : Text, openMark ∉ t → openMark ∉ (Text.dropSuffix? ['\n'] t).getD t := by
    intro t ht
    cases hsuffix : Text.dropSuffix? ['\n'] t with
    | none => exact ht
    | some u =>
      obtain ⟨r, hr, rfl⟩ := Option.map_eq_some_iff.mp hsuffix
      have hsplit := Text.eq_append_of_dropPrefix? hr
      intro hmem
      apply ht
      rw [← List.mem_reverse, hsplit]
      exact List.mem_append_right _ (List.mem_reverse.mp hmem)
  rw [blockText_eq_soleOr]
  exact hdrop _ htext

theorem openMark_not_mem_block {c : List Node} (h : openMark ∉ Node.allTexts c) :
    openMark ∉ block c := by
  have hfence : openMark ∉ "\n\x60\x60\x60\n".toList := by decide
  exact List.not_mem_append (List.not_mem_append hfence (openMark_not_mem_blockText h)) hfence

mutual

theorem openMark_not_mem_of_mem_mark (n : Nat) :
    ∀ node : Node, openMark ∉ node.allText → ∀ record ∈ (mark n node).2, openMark ∉ record
  | .text content, _, record, hmem => by
    rw [mark_of_not_element rfl] at hmem
    cases hmem
  | .comment content, _, record, hmem => by
    rw [mark_of_not_element rfl] at hmem
    cases hmem
  | .doctype name, _, record, hmem => by
    rw [mark_of_not_element rfl] at hmem
    cases hmem
  | .contents children, _, record, hmem => by
    rw [mark_of_not_element rfl] at hmem
    cases hmem
  | .element e children, h, record, hmem => by
    have hcase := markedElement_mark n e children
    generalize mark n (.element e children) = marked at hcase hmem
    cases hcase with
    | shut => cases hmem
    | block =>
      rw [List.mem_singleton.mp hmem]
      exact openMark_not_mem_block h
    | code =>
      rw [List.mem_singleton.mp hmem]
      exact openMark_not_mem_inline h
    | within => exact openMark_not_mem_of_mem_markAll n children h record hmem

/-- The records of a tree have no text but that of the tree. -/
theorem openMark_not_mem_of_mem_markAll (n : Nat) :
    ∀ nodes : List Node, openMark ∉ Node.allTexts nodes →
      ∀ record ∈ (markAll n nodes).2, openMark ∉ record
  | [], _, record, hmem => by
    rw [markAll] at hmem
    cases hmem
  | node :: nodes, h, record, hmem => by
    obtain ⟨hnode, hnodes⟩ := not_mem_of_append h
    rw [markAll_cons] at hmem
    rcases List.mem_append.mp hmem with hmem | hmem
    · exact openMark_not_mem_of_mem_mark n node hnode record hmem
    · exact openMark_not_mem_of_mem_markAll _ nodes hnodes record hmem

end

/-! ## The relation -/

/-- Two numbers of the same code, each among records of its own, or no number on either side. -/
inductive SameCode (records records' : List Text) : Option Nat → Option Nat → Prop
  | none : SameCode records records' none none
  | some {i j : Nat} {record : Text} (hi : records[i]? = some record)
      (hj : records'[j]? = some record) : SameCode records records' (some i) (some j)

/-- The same nodes, with their code under other numbers. -/
inductive Renumbered (records records' : List Text) : List Node → List Node → Prop
  | nil : Renumbered records records' [] []
  | other {n : Node} {ns ns' : List Node} (hn : n.isElement = false) (hclean : openMark ∉ n.allText)
      (hbelow : Renumbered records records' n.children n.children)
      (h : Renumbered records records' ns ns') : Renumbered records records' (n :: ns) (n :: ns')
  | element {e : Element} {number : Option Nat} {c c' ns ns' : List Node}
      (hnumber : SameCode records records' e.span? number)
      (hattrs : ∀ a ∈ e.attrs, openMark ∉ a.value) (hc : Renumbered records records' c c')
      (h : Renumbered records records' ns ns') :
      Renumbered records records' (.element e c :: ns) (.element { e with span? := number } c' :: ns')

variable {records records' : List Text}

/-- An element without a number stays without one. -/
theorem Renumbered.unnumbered {e : Element} {c c' ns ns' : List Node} (hspan : e.span? = none)
    (hattrs : ∀ a ∈ e.attrs, openMark ∉ a.value) (hc : Renumbered records records' c c')
    (h : Renumbered records records' ns ns') :
    Renumbered records records' (.element e c :: ns) (.element e c' :: ns') := by
  have hsame : e = { e with span? := none } := by rw [← hspan]
  have hnumber : SameCode records records' e.span? none := by
    rw [hspan]
    exact .none
  have helement := Renumbered.element hnumber hattrs hc h
  rwa [← hsame] at helement

/-! ## Marking leads to it -/

mutual

theorem renumbered_cons_self : ∀ {n : Node} {ns ns' : List Node}, IsMarkFree [n] →
    Renumbered records records' ns ns' → Renumbered records records' (n :: ns) (n :: ns')
  | .text _, _, _, h, hns => .other rfl (not_mem_of_append h.texts).1 .nil hns
  | .comment _, _, _, h, hns => .other rfl (not_mem_of_append h.texts).1 .nil hns
  | .doctype _, _, _, h, hns => .other rfl (not_mem_of_append h.texts).1 .nil hns
  | .contents _, _, _, h, hns =>
    .other rfl (not_mem_of_append h.texts).1 (renumbered_self h.contents) hns
  | .element _ _, _, _, h, hns =>
    .unnumbered h.fresh.span?_eq_none h.attr (renumbered_self h.below) hns

/-- Where nothing has a number, there is nothing to renumber. -/
theorem renumbered_self : ∀ {ns : List Node}, IsMarkFree ns → Renumbered records records' ns ns
  | [], _ => .nil
  | _ :: _, h => renumbered_cons_self h.head (renumbered_self h.tail)

end

mutual

theorem renumbered_mark : ∀ {node : Node} (n m : Nat), IsMarkFree [node] →
    (mark n node).2 <+: records.drop n → (mark m node).2 <+: records'.drop m →
    ∀ {ns ns' : List Node}, Renumbered records records' ns ns' →
      Renumbered records records' ((mark n node).1 :: ns) ((mark m node).1 :: ns')
  | .text content, n, m, hfree, _, _, _, _, h => by
    rw [mark_of_not_element rfl, mark_of_not_element rfl]
    exact renumbered_cons_self hfree h
  | .comment content, n, m, hfree, _, _, _, _, h => by
    rw [mark_of_not_element rfl, mark_of_not_element rfl]
    exact renumbered_cons_self hfree h
  | .doctype name, n, m, hfree, _, _, _, _, h => by
    rw [mark_of_not_element rfl, mark_of_not_element rfl]
    exact renumbered_cons_self hfree h
  | .contents children, n, m, hfree, _, _, _, _, h => by
    rw [mark_of_not_element rfl, mark_of_not_element rfl]
    exact renumbered_cons_self hfree h
  | .element e c, n, m, hfree, hn, hm, ns, ns', h => by
    -- what becomes of an element does not depend on the number that marking has come to
    have hlifted : ∀ {record : Text}, [record] <+: records.drop n → [record] <+: records'.drop m →
        Renumbered records records' (.element { e with span? := some n } c :: ns)
          (.element { e with span? := some m } c :: ns') := by
      intro record hn hm
      have hnumber : SameCode records records' (some n) (some m) :=
        .some (getElem?_of_singleton hn) (getElem?_of_singleton hm)
      exact Renumbered.element (e := { e with span? := some n }) hnumber hfree.attr
        (renumbered_self hfree.below) h
    by_cases hsealed : isSealed e c = true
    · rw [mark_of_isSealed hsealed, mark_of_isSealed hsealed]
      exact renumbered_cons_self hfree h
    rw [Bool.not_eq_true] at hsealed
    by_cases hpre : (e.tag == "pre") = true
    · rw [mark_of_pre hsealed hpre] at hn hm ⊢
      rw [mark_of_pre hsealed hpre]
      exact hlifted hn hm
    rw [Bool.not_eq_true] at hpre
    by_cases hcode : (e.tag == "code") = true
    · rw [mark_of_code hsealed hpre hcode] at hn hm ⊢
      rw [mark_of_code hsealed hpre hcode]
      exact hlifted hn hm
    rw [Bool.not_eq_true] at hcode
    rw [mark_of_other hsealed hpre hcode] at hn hm ⊢
    rw [mark_of_other hsealed hpre hcode]
    exact .unnumbered hfree.fresh.span?_eq_none hfree.attr (renumbered_markAll n m hfree.below hn hm) h

/-- Marking from two numbers on: the same code is marked, and each number has its record. -/
theorem renumbered_markAll : ∀ {nodes : List Node} (n m : Nat), IsMarkFree nodes →
    (markAll n nodes).2 <+: records.drop n → (markAll m nodes).2 <+: records'.drop m →
      Renumbered records records' (markAll n nodes).1 (markAll m nodes).1
  | [], n, m, _, _, _ => by
    rw [markAll, markAll]
    exact .nil
  | node :: nodes, n, m, hfree, hn, hm => by
    rw [markAll_cons] at hn hm
    rw [markAll_cons, markAll_cons]
    obtain ⟨hn, hmoren⟩ := drop_of_append hn
    obtain ⟨hm, hmorem⟩ := drop_of_append hm
    exact renumbered_mark n m hfree.head hn hm (renumbered_markAll _ _ hfree.tail hmoren hmorem)

end

/-! ## What numbers leave alone -/

namespace Renumbered

variable {c c' : List Node}

theorem allTexts_eq (h : Renumbered records records' c c') : Node.allTexts c' = Node.allTexts c := by
  induction h with
  | nil => rfl
  | other _ _ _ _ _ ih => rw [Node.allTexts, Node.allTexts, ih]
  | element _ _ _ _ ihc ih => rw [Node.allTexts, Node.allTexts, Node.allText, Node.allText, ihc, ih]

theorem openMark_not_mem_allTexts (h : Renumbered records records' c c') :
    openMark ∉ Node.allTexts c := by
  induction h with
  | nil => exact List.not_mem_nil
  | other _ hclean _ _ _ ih => exact List.not_mem_append hclean ih
  | element _ _ _ _ ihc ih => exact List.not_mem_append ihc ih

theorem sources_eq (h : Renumbered records records' c c') :
    (Node.elementsIn isSource c').map Node.allText = (Node.elementsIn isSource c).map Node.allText := by
  induction h with
  | nil => rfl
  | other _ _ _ _ _ ih => rw [Node.elementsIn, Node.elementsIn, List.map_append, List.map_append, ih]
  | element _ _ hc _ ihc ih => exact sources_cons_eq rfl hc.allTexts_eq ihc ih

theorem ofElement?_eq (h : Renumbered records records' c c') (e : Element) :
    Formula.ofElement? e c' = Formula.ofElement? e c := ofElement?_eq_of_sources e h.sources_eq

end Renumbered

end ChatScribe.Markdown.Code
