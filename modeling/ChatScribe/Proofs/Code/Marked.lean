import ChatScribe.Proofs.Code.Mark
import ChatScribe.Proofs.Walk.Rules

/-!
# Trees with their code marked

`Marked records ns ns'` says that `ns'` is `ns` with code elements marked, and that `records` holds the
Markdown of each under its number. It speaks about one place of a tree at a time and not about the
counting, so an induction on it does not carry numbers along; `marked_markAll` says that marking leads
to it.
-/

namespace ChatScribe.Markdown.Code

open Html

variable {records : List Text}

/-- A list of nodes, and the same nodes with their code marked. -/
inductive Marked (records : List Text) : List Node → List Node → Prop
  | nil : Marked records [] []
  | other {n : Node} {ns ns' : List Node} (hn : n.isElement = false) (h : Marked records ns ns') :
      Marked records (n :: ns) (n :: ns')
  /-- Nothing below a sealed element is marked. -/
  | shut {e : Element} {c ns ns' : List Node} (hsealed : isSealed e c = true)
      (h : Marked records ns ns') : Marked records (.element e c :: ns) (.element e c :: ns')
  | block {e : Element} {c ns ns' : List Node} {i : Nat} (hpre : (e.tag == "pre") = true)
      (hrecord : records[i]? = some (block c)) (h : Marked records ns ns') :
      Marked records (.element e c :: ns) (.element { e with span? := some i } c :: ns')
  | code {e : Element} {c ns ns' : List Node} {i : Nat} (hpre : (e.tag == "pre") = false)
      (hcode : (e.tag == "code") = true) (hrecord : records[i]? = some (inline c))
      (h : Marked records ns ns') :
      Marked records (.element e c :: ns) (.element { e with span? := some i } c :: ns')
  | within {e : Element} {c c' ns ns' : List Node} (hsealed : isSealed e c = false)
      (hpre : (e.tag == "pre") = false) (hcode : (e.tag == "code") = false)
      (hc : Marked records c c') (h : Marked records ns ns') :
      Marked records (.element e c :: ns) (.element e c' :: ns')

/-! ## Marking leads to it -/

/-- A record at the front of the records from a number on is the record of that number. -/
theorem getElem?_of_singleton {n : Nat} {record : Text} (h : [record] <+: records.drop n) :
    records[n]? = some record := by
  obtain ⟨rest, hrest⟩ := h
  have hfirst : (records.drop n)[0]? = some record := by
    rw [← hrest]
    rfl
  rw [List.getElem?_drop, Nat.add_zero] at hfirst
  exact hfirst

/-- Records in two parts from a number on. -/
theorem drop_of_append {n : Nat} {first more : List Text} (h : first ++ more <+: records.drop n) :
    first <+: records.drop n ∧ more <+: records.drop (n + first.length) := by
  obtain ⟨rest, hrest⟩ := h
  refine ⟨⟨more ++ rest, ?_⟩, ⟨rest, ?_⟩⟩
  · rw [← hrest, List.append_assoc]
  · rw [← List.drop_drop, ← hrest, List.append_assoc, List.drop_left]

mutual

theorem marked_mark : ∀ (node : Node) (n : Nat), (mark n node).2 <+: records.drop n →
    ∀ {ns ns' : List Node}, Marked records ns ns' →
      Marked records (node :: ns) ((mark n node).1 :: ns')
  | .text content, n, _, _, _, h => by
    rw [mark_of_not_element rfl]
    exact .other rfl h
  | .comment content, n, _, _, _, h => by
    rw [mark_of_not_element rfl]
    exact .other rfl h
  | .doctype name, n, _, _, _, h => by
    rw [mark_of_not_element rfl]
    exact .other rfl h
  | .contents children, n, _, _, _, h => by
    rw [mark_of_not_element rfl]
    exact .other rfl h
  | .element e children, n, hrecords, ns, ns', h => by
    have hcase := markedElement_mark n e children
    generalize mark n (.element e children) = marked at hcase hrecords ⊢
    cases hcase with
    | shut hsealed => exact .shut hsealed h
    | block _ hpre => exact .block hpre (getElem?_of_singleton hrecords) h
    | code _ hpre hcode => exact .code hpre hcode (getElem?_of_singleton hrecords) h
    | within hsealed hpre hcode =>
      exact .within hsealed hpre hcode (marked_markAll children n hrecords) h

/-- Marking marks the code, if the records are found from its first number on. -/
theorem marked_markAll : ∀ (nodes : List Node) (n : Nat), (markAll n nodes).2 <+: records.drop n →
    Marked records nodes (markAll n nodes).1
  | [], n, _ => by
    rw [markAll]
    exact .nil
  | node :: nodes, n, hrecords => by
    rw [markAll_cons] at hrecords ⊢
    obtain ⟨hfirst, hmore⟩ := drop_of_append hrecords
    exact marked_mark node n hfirst (marked_markAll nodes _ hmore)

end

/-- Two elements have the same sources of formulas below them, and so do the nodes behind them. -/
theorem sources_cons_eq {e e' : Element} {d d' ns ns' : List Node} (he : isSource e' = isSource e)
    (htext : Node.allTexts d' = Node.allTexts d)
    (hd : (Node.elementsIn isSource d').map Node.allText
      = (Node.elementsIn isSource d).map Node.allText)
    (hns : (Node.elementsIn isSource ns').map Node.allText
      = (Node.elementsIn isSource ns).map Node.allText) :
    (Node.elementsIn isSource (.element e' d' :: ns')).map Node.allText
      = (Node.elementsIn isSource (.element e d :: ns)).map Node.allText := by
  rw [Node.elementsIn, Node.elementsIn, Node.elementsFrom, Node.elementsFrom, List.map_append,
    List.map_append, he, hns]
  by_cases hsource : isSource e = true
  · rw [if_pos hsource, if_pos hsource, List.map_cons, List.map_cons, Node.allText, Node.allText,
      htext, hd]
  · rw [if_neg hsource, if_neg hsource, hd]

namespace Marked

variable {c c' : List Node}

/-! ## What marks leave alone -/

theorem allTexts_eq (h : Marked records c c') : Node.allTexts c' = Node.allTexts c := by
  induction h with
  | nil => rfl
  | other hn h ih => rw [Node.allTexts, Node.allTexts, ih]
  | shut hsealed h ih => rw [Node.allTexts, Node.allTexts, ih]
  | block hpre hrecord h ih =>
    rw [Node.allTexts, Node.allTexts, ih, Node.allText, Node.allText]
  | code hpre hcode hrecord h ih =>
    rw [Node.allTexts, Node.allTexts, ih, Node.allText, Node.allText]
  | within hsealed hpre hcode hc h ihc ih =>
    rw [Node.allTexts, Node.allTexts, ih, Node.allText, Node.allText, ihc]

/-- The sources of formulas have the same texts. -/
theorem sources_eq (h : Marked records c c') :
    (Node.elementsIn isSource c').map Node.allText = (Node.elementsIn isSource c).map Node.allText := by
  -- an element and its marked copy are sources alike, and have the same text
  induction h with
  | nil => rfl
  | other hn h ih => rw [Node.elementsIn, Node.elementsIn, List.map_append, List.map_append, ih]
  | shut hsealed h ih => exact sources_cons_eq rfl rfl rfl ih
  | block hpre hrecord h ih => exact sources_cons_eq rfl rfl rfl ih
  | code hpre hcode hrecord h ih => exact sources_cons_eq rfl rfl rfl ih
  | within hsealed hpre hcode hc h ihc ih => exact sources_cons_eq rfl hc.allTexts_eq ihc ih

theorem ofElement?_eq (h : Marked records c c') (e : Element) :
    Formula.ofElement? e c' = Formula.ofElement? e c :=
  ofElement?_eq_of_sources e h.sources_eq

end Marked

end ChatScribe.Markdown.Code
