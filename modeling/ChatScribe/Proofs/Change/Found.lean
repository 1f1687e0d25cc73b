import ChatScribe.Proofs.Change.Searches
import ChatScribe.Proofs.Walk.Alone

/-!
# What the searches find below a child

Whatever a child of an element is, a source below it makes the element a formula, a row below it is a row
of the table, and code below it is the code of the preformatted element. So a child that everything else
passes over may still have a part in the Markdown.
-/

namespace ChatScribe.Markdown

open Html

/-! ## Sources -/

/-- A source below a child of an element makes it a formula, unless it names its source itself. -/
theorem ofElement?_of_source_below {above e source : Element} (habove : namesSource above = false)
    (hsource : isSource source = true) {s : Text} (hs : Text.trim s ≠ []) :
    Formula.ofElement? above [.element e [.element source [.text s]]]
      = some ⟨Text.trim s, Formula.standsAlone above⟩ := by
  have htext : (Formula.sourceElement? [.element e [.element source [.text s]]]).map Node.allText
      = some s := by
    unfold Formula.sourceElement?
    show (Node.elementsIn isSource _).head?.map _ = _
    by_cases he : isSource e = true
    · simp [Node.elementsIn, Node.elementsFrom, he, Node.allText, Node.allTexts]
    · simp [Node.elementsIn, Node.elementsFrom, he, hsource, Node.allText, Node.allTexts]
  have hsome : (Formula.sourceElement? [.element e [.element source [.text s]]]).isSome = true := by
    rw [← Option.isSome_map, htext]
    rfl
  have hshown : (!(Text.trim s).isEmpty) = true := by
    cases hc : Text.trim s with
    | nil => exact absurd hc hs
    | cons c r => rfl
  have hfound : Formula.source? above [.element e [.element source [.text s]]]
      = some (Text.trim s) := by
    unfold namesSource at habove
    unfold Formula.source? Formula.candidates
    rw [htext]
    cases hattr : above.attr? "data-math" with
    | none => rw [List.filterMap_cons, id_eq, List.filterMap_cons, id_eq, List.map_cons,
        List.find?_cons, hshown]
    | some t =>
      rw [hattr] at habove
      have ht : (!(Text.trim t).isEmpty) = false := habove
      rw [List.filterMap_cons, id_eq, List.filterMap_cons, id_eq, List.map_cons, List.map_cons,
        List.find?_cons, ht, List.find?_cons, hshown]
  unfold Formula.ofElement?
  rw [hsome, Bool.or_true, if_pos rfl, hfound]
  rfl

/-- Without a source below it, an element with nothing but a tag is no formula. -/
theorem ofElement?_plain {tag : String} (htag : (tag == "mjx-container") = false)
    {children : List Node} (hnone : Node.elementsIn isSource children = []) :
    Formula.ofElement? (plain tag) children = none := ofElement?_of_no_attrs rfl htag hnone

/-! ## Rows -/

variable {e : Element}

theorem tableRows_of_row_below (hrow : isRow e = false) (s : Text) :
    tableRows [.element e [.element (plain "tr") [.element (plain "td") [.text s]]]]
      = [[Text.trim s]] := by
  have htr : isRow (plain "tr") = true := by decide
  have htd : isRow (plain "td") = false := by decide
  have hcells : rowCells (.element (plain "tr") [.element (plain "td") [.text s]])
      = [Text.trim s] := by
    rw [rowCells_eq_filterMap]
    show [Text.trim (plainTexts [.text s])] = [Text.trim s]
    rw [plainTexts_singleton, plainText]
  rw [tableRows_eq_map]
  simp [Node.elementsIn, Node.elementsFrom, hrow, htr, htd, hcells]

/-- A row below a sealed child is a row of the table. -/
theorem ofNode_of_row_below (hsealed : ∀ children, Code.isSealed e children = true)
    (hrow : isRow e = false) (hsource : isSource e = false) (s : Text) (root : Element) :
    ofNode (.element root [.element (plain "table") [.element e
      [.element (plain "tr") [.element (plain "td") [.text s]]]]])
      = Text.trim (Table.render [[Text.trim s]]) := by
  have hplain : ∀ tag, isSource (plain tag) = false := fun _ => rfl
  have hformula : Formula.ofElement? (plain "table") [.element e
      [.element (plain "tr") [.element (plain "td") [.text s]]]] = none := by
    apply ofElement?_plain rfl
    simp [Node.elementsIn, Node.elementsFrom, hsource, hplain]
  have hmark : Code.mark 0 (.element (plain "table") [.element e
      [.element (plain "tr") [.element (plain "td") [.text s]]]])
      = (.element (plain "table") [.element e
          [.element (plain "tr") [.element (plain "td") [.text s]]]], []) := by
    rw [Code.mark_of_other (Code.isSealed_eq_false_iff.mpr ⟨by decide, by decide, hformula⟩)
      (by decide) (by decide), Code.markAll_of_isSealed (hsealed _)]
  rw [ofNode_of_rule (by decide) rfl hformula hmark, ← tableRows_of_row_below hrow s]
  rfl

/-! ## Code -/

theorem block_of_code_below (hcode : isCode e = false) (s : Text) :
    Code.block [.element e [.element (plain "code") [.text s]]] = Code.block [.text s] := by
  have hfound : Node.elementsIn (·.tag == "code")
      [.element e [.element (plain "code") [.text s]]] = [.element (plain "code") [.text s]] := by
    have htag : (e.tag == "code") = false := hcode
    have hplain : ((plain "code").tag == "code") = true := rfl
    simp [Node.elementsIn, Node.elementsFrom, htag, hplain]
  have hnone : Node.elementsIn (·.tag == "code") [.text s] = [] := rfl
  unfold Code.block Code.blockText
  rw [hfound, hnone]
  rfl

/-- Code below a child is the code of the preformatted element. -/
theorem ofNode_of_code_below (hsource : isSource e = false) (hcode : isCode e = false) (s : Text)
    (root : Element) :
    ofNode (.element root [.element (plain "pre") [.element e
      [.element (plain "code") [.text s]]]])
      = Text.trim (Code.block [.text s]) := by
  have hplain : ∀ tag, isSource (plain tag) = false := fun _ => rfl
  have hformula : Formula.ofElement? (plain "pre") [.element e
      [.element (plain "code") [.text s]]] = none := by
    apply ofElement?_plain rfl
    simp [Node.elementsIn, Node.elementsFrom, hsource, hplain]
  have hmark := Code.mark_of_pre
    (Code.isSealed_eq_false_iff.mpr ⟨by decide, by decide, hformula⟩) (by decide) 0
  rw [ofNode_of_mark hmark, block_of_code_below hcode]

end ChatScribe.Markdown
