import ChatScribe.Proofs.Change.Within

/-!
# A change that makes no difference

If a list of nodes is changed at one place and nothing that comes to the place tells the difference, the
Markdown stays the same (`Within.ofNode_eq`). Marking puts the same code on record and leaves the change
where it is, and the walk writes the same in each of its three forms.
-/

namespace ChatScribe.Markdown.Within

open Html

variable {v : Sights} {e : Element} {c c' : List Node}

/-! ## Marking -/

theorem ofElement?_eq (h : Within SameSights (v.below e) c c') (he : e.isOmitted = false) :
    Formula.ofElement? e c = Formula.ofElement? e c' :=
  ofElement?_eq_of_sameFinds he h.sameFinds

theorem isSealed_eq (h : Within SameSights (v.below e) c c') :
    Code.isSealed e c = Code.isSealed e c' := by
  unfold Code.isSealed
  by_cases he : e.isOmitted = true
  · simp [he]
  · rw [Bool.not_eq_true] at he
    rw [h.ofElement?_eq he]

/-- The code of a preformatted element is the same. -/
theorem block_eq (h : Within SameSights v c c') (hshown : v.shown = true)
    (hcode : v.searches.code = true) : Code.block c = Code.block c' := by
  have hsame : (Node.elementsIn (·.tag == "code") c).map Node.innerText
      = (Node.elementsIn (·.tag == "code") c').map Node.innerText := h.sameFinds.code hcode
  unfold Code.block
  rw [Code.blockText_eq_soleOr, Code.blockText_eq_soleOr, hsame, h.shownTexts_eq hshown]

/-- Below a preformatted element that is lifted the search for code is on, and its text is read. -/
theorem block_below_eq (h : Within SameSights (v.below e) c c') (hv : v.lifted = true)
    (hsealed : Code.isSealed e c = false) (hpre : (e.tag == "pre") = true) :
    Code.block c = Code.block c' := by
  obtain ⟨homitted, hlens, hformula⟩ := Code.isSealed_eq_false_iff.mp hsealed
  have hshown : (v.below e).shown = true := by
    simp [Sights.below, Sights.lifts, homitted, hlens, hv, hpre]
  have hcode : (v.below e).searches.code = true := by
    show (v.searches.below e).code = true
    rw [below_eq_of_no_formula homitted hformula, hpre, Bool.or_true]
  exact h.block_eq hshown hcode

theorem inline_below_eq (h : Within SameSights (v.below e) c c') (hv : v.lifted = true)
    (hsealed : Code.isSealed e c = false) (hcode : (e.tag == "code") = true) :
    Code.inline c = Code.inline c' := by
  obtain ⟨homitted, hlens, -⟩ := Code.isSealed_eq_false_iff.mp hsealed
  have hshown : (v.below e).shown = true := by
    simp [Sights.below, Sights.lifts, isCode, homitted, hlens, hv, hcode]
  rw [Code.inline, Code.inline, h.shownTexts_eq hshown]

/-- Code is lifted below all other elements that are not sealed. -/
theorem lifted_below (hv : v.lifted = true) (hsealed : Code.isSealed e c = false)
    (hpre : (e.tag == "pre") = false) (hcode : (e.tag == "code") = false) :
    (v.below e).lifted = true := by
  obtain ⟨homitted, hlens, -⟩ := Code.isSealed_eq_false_iff.mp hsealed
  simp [Sights.below, isCode, hv, homitted, hlens, hpre, hcode]

/-- Marking puts the same code on record, and leaves the change where it is. -/
theorem markAll (h : Within SameSights v c c') (hv : v.lifted = true) (n : Nat) :
    (Code.markAll n c).2 = (Code.markAll n c').2 ∧
      Within SameSights v (Code.markAll n c).1 (Code.markAll n c').1 := by
  induction h generalizing n with
  | @here v ns ns' rest same =>
    obtain ⟨hleft, hright⟩ := same.unlifted hv n
    rw [Code.markAll_append, Code.markAll_append, hleft, hright]
    exact ⟨rfl, here _ same⟩
  | @inside v f d d' rest text h ih =>
    rw [Code.markAll_cons, Code.markAll_cons]
    by_cases hs : Code.isSealed f d = true
    · rw [Code.mark_of_isSealed hs, Code.mark_of_isSealed (h.isSealed_eq ▸ hs)]
      exact ⟨rfl, inside _ text h⟩
    · rw [Bool.not_eq_true] at hs
      have hs' : Code.isSealed f d' = false := by rw [← h.isSealed_eq, hs]
      by_cases hpre : (f.tag == "pre") = true
      · rw [Code.mark_of_pre hs hpre, Code.mark_of_pre hs' hpre, h.block_below_eq hv hs hpre]
        exact ⟨rfl, inside _ text h⟩
      · rw [Bool.not_eq_true] at hpre
        by_cases hcode : (f.tag == "code") = true
        · rw [Code.mark_of_code hs hpre hcode, Code.mark_of_code hs' hpre hcode,
            h.inline_below_eq hv hs hcode]
          exact ⟨rfl, inside _ text h⟩
        · rw [Bool.not_eq_true] at hcode
          -- nothing is put on record here, so the numbers go on as they are
          obtain ⟨hrecords, hnodes⟩ := ih (lifted_below hv hs hpre hcode) n
          rw [Code.mark_of_other hs hpre hcode, Code.mark_of_other hs' hpre hcode, hrecords]
          refine ⟨rfl, inside _ ?_ hnodes⟩
          intro hsource hf
          rw [Code.allTexts_markAll, Code.allTexts_markAll, text hsource hf]
  | contents rest h ih =>
    rw [Code.markAll_cons, Code.markAll_cons, Code.mark_of_not_element rfl,
      Code.mark_of_not_element rfl]
    exact ⟨rfl, contents _ h⟩
  | later m h ih =>
    obtain ⟨hrecords, hnodes⟩ := ih hv (n + (Code.mark n m).2.length)
    rw [Code.markAll_cons, Code.markAll_cons, hrecords]
    exact ⟨rfl, later _ hnodes⟩

/-! ## The walk -/

/-- What comes to the children of an element that is written by its rule. -/
theorem plain_below_of_write (hv : v.walked = true) (he : e.isOmitted = false)
    (hwrites : writesPlain e = true) : (v.below e).plain = true := by
  simp [Sights.below, hv, he, hwrites]

theorem walked_below_of_write (hv : v.walked = true) (he : e.isOmitted = false)
    (hwrites : writesWalk e = true) : (v.below e).walked = true := by
  simp [Sights.below, hv, he, hwrites]

/-- Elements that lists look at are not omitted if they are not hidden. -/
theorem isOmitted_eq_isHidden {tag : String} (htag : Element.droppedTags.contains tag = false)
    (he : e.tag = tag) : e.isOmitted = e.isHidden := by
  unfold Element.isOmitted Element.isDropped
  rw [he, htag, Bool.or_false]

/-- An element is written in the same way if its children are written in the same way where the walk
goes on below it. -/
theorem walk_eq (h : Within SameSights (v.below e) c c') (hv : v.walked = true) (indent : Text)
    (hwalk : (v.below e).walked = true → walkAll indent c = walkAll indent c')
    (hitems : (v.below e).walked = true →
      ∀ ordered, items ordered indent 1 c = items ordered indent 1 c') :
    walk indent (.element e c) = walk indent (.element e c') := by
  cases hspan : e.span? with
  | some n => rw [walk_of_span hspan, walk_of_span hspan]
  | none =>
    by_cases he : e.isOmitted = true
    · rw [walk_of_isOmitted hspan he, walk_of_isOmitted hspan he]
    · rw [Bool.not_eq_true] at he
      have hsame := h.ofElement?_eq he
      cases hf : Formula.ofElement? e c with
      | some f =>
        rw [hf] at hsame
        rw [walk_of_formula hspan he hf, walk_of_formula hspan he hsame.symm]
      | none =>
        rw [hf] at hsame
        have hplain : writesPlain e = true → plainTexts c = plainTexts c' :=
          fun hwrites => h.plainTexts_eq (plain_below_of_write hv he hwrites)
        have hbelow : writesWalk e = true → (v.below e).walked = true :=
          walked_below_of_write hv he
        rw [walk_of_rule hspan he hf, walk_of_rule hspan he hsame.symm]
        unfold writesPlain at hplain
        unfold writesWalk at hbelow
        cases hrule : ruleOf e with
        | heading level => rw [Rule.write, Rule.write, hplain (by rw [hrule])]
        | paragraph => rw [Rule.write, Rule.write, hwalk (hbelow (by rw [hrule]))]
        | lineBreak => rfl
        | divider => rfl
        | emphasis m => rw [Rule.write, Rule.write, hplain (by rw [hrule])]
        | list ordered => rw [Rule.write, Rule.write, hitems (hbelow (by rw [hrule])) ordered]
        | link =>
          rw [Rule.write, Rule.write]
          cases hlens : e.isLensLink with
          | true => rw [linkText, linkText, if_pos hlens, if_pos hlens]
          | false => rw [hplain (by rw [hrule, hlens]; rfl)]
        | picture => rfl
        | table =>
          have hrows : (v.below e).searches.row = true := by
            show (v.searches.below e).row = true
            rw [below_eq_of_no_formula he hf, isTable, hrule]
            exact Bool.or_true _
          rw [Rule.write, Rule.write]
          exact congrArg Table.render (h.sameFinds.row hrows)
        | quote => rw [Rule.write, Rule.write, hplain (by rw [hrule])]
        | flow => rw [Rule.write, Rule.write, hwalk (hbelow (by rw [hrule]))]

/-- The walk goes on below the items of a list that are not hidden, -/
theorem walked_below_of_item (hv : v.walked = true) (hitem : (e.tag == "li" && !e.isHidden) = true) :
    (v.below e).walked = true := by
  obtain ⟨htag, hseen⟩ := Bool.and_eq_true_iff.mp hitem
  have hrule : ruleOf e = .flow := by
    unfold ruleOf
    rw [beq_iff_eq.mp htag]
    rfl
  refine walked_below_of_write hv ?_ (by rw [writesWalk, hrule])
  rw [isOmitted_eq_isHidden (by decide) (beq_iff_eq.mp htag)]
  simpa using hseen

/-- and below lists that are not hidden. -/
theorem walked_below_of_list (hv : v.walked = true) (hlist : (isList e && !e.isHidden) = true) :
    (v.below e).walked = true := by
  obtain ⟨htag, hseen⟩ := Bool.and_eq_true_iff.mp hlist
  obtain ⟨ordered, hrule⟩ := ruleOf_of_isList htag
  refine walked_below_of_write hv ?_ (by rw [writesWalk, hrule])
  have hhidden : e.isHidden = false := by simpa using hseen
  rcases Bool.or_eq_true_iff.mp htag with htag | htag
  · rw [isOmitted_eq_isHidden (by decide) (beq_iff_eq.mp htag), hhidden]
  · rw [isOmitted_eq_isHidden (by decide) (beq_iff_eq.mp htag), hhidden]

/-- What the walk writes is the same in each of its three forms: for nodes in a row, for the items of a
list, and for the content of an item. -/
theorem walkAll_eq (h : Within SameSights v c c') (hv : v.walked = true) :
    (∀ indent, walkAll indent c = walkAll indent c') ∧
      (∀ ordered indent number, items ordered indent number c = items ordered indent number c') ∧
      (∀ indent content, itemContent indent content c = itemContent indent content c') := by
  induction h with
  | here rest same =>
    refine ⟨?_, ?_, ?_⟩
    · intro indent
      rw [walkAll_append, walkAll_append, same.walk hv]
    · intro ordered indent number
      exact same.items hv ordered indent number rest
    · intro indent content
      exact same.content hv indent content rest
  | @inside v f d d' rest text h ih =>
    have hwalk : ∀ indent, walk indent (.element f d) = walk indent (.element f d') :=
      fun indent => walk_eq h hv indent (fun hbelow => (ih hbelow).1 indent)
        fun hbelow ordered => (ih hbelow).2.1 ordered indent 1
    refine ⟨?_, ?_, ?_⟩
    · intro indent
      rw [walkAll, walkAll, hwalk]
    · intro ordered indent number
      rw [items, items]
      by_cases hitem : (f.tag == "li" && !f.isHidden) = true
      · rw [if_pos hitem, if_pos hitem, (ih (walked_below_of_item hv hitem)).2.2]
      · rw [if_neg hitem, if_neg hitem]
    · intro indent content
      rw [itemContent, itemContent]
      by_cases hlist : (isList f && !f.isHidden) = true
      · rw [if_pos hlist, if_pos hlist, (ih (walked_below_of_list hv hlist)).2.1]
      · rw [if_neg hlist, if_neg hlist, hwalk]
  | contents rest h ih => exact ⟨fun _ => rfl, fun _ _ _ => rfl, fun _ _ => rfl⟩
  | later n h ih =>
    obtain ⟨hwalks, hitems, hcontent⟩ := ih hv
    refine ⟨?_, ?_, ?_⟩
    · intro indent
      rw [walkAll, walkAll, hwalks]
    · intro ordered indent number
      cases n with
      | element f d => rw [items, items, hitems, hitems]
      | _ => exact hitems ordered indent number
    · intro indent content
      cases n with
      | element f d => rw [itemContent, itemContent, hcontent, hcontent]
      | text t => exact hcontent indent _
      | _ => exact hcontent indent content

/-- The Markdown is the same. -/
theorem ofNode_eq (h : Within SameSights .top c c') (root : Element) :
    ofNode (.element root c) = ofNode (.element root c') := by
  obtain ⟨hrecords, hnodes⟩ := h.markAll rfl 0
  rw [ofNode_element, ofNode_element, hrecords, (hnodes.walkAll_eq rfl).1 []]

end ChatScribe.Markdown.Within
