import ChatScribe.Proofs.Change.Convert

/-!
# Replacing what is hidden

The conversion passes over an omitted element without looking below it, with three exceptions: the
source of a formula, the rows of a table and the code of a preformatted element are searched for at any
depth, and these searches do not stop at omitted elements. `Replaced k` relates two lists of nodes of which
one has other nodes below an omitted element, such that the searches of `k` find the same in both.

Nothing else that comes to the omitted element tells such lists apart (`Replaced.within`), so the Markdown
is the same (`Replaced.ofNode_eq`).
-/

namespace ChatScribe.Markdown

open Html

/-! ## The relation -/

/-- Two lists of nodes that differ in what is below one omitted element. What the searches find there
must be the same. -/
inductive Replaced : Searches → List Node → List Node → Prop
  /-- The omitted element. -/
  | here {k : Searches} {e : Element} {c c' : List Node} (rest : List Node)
      (omitted : e.isOmitted = true) (same : k.SameFinds [.element e c] [.element e c']) :
      Replaced k (.element e c :: rest) (.element e c' :: rest)
  /-- An element above it. If its own text is the source of a formula, that text stays. -/
  | inside {k : Searches} {e : Element} {c c' : List Node} (rest : List Node)
      (text : k.source = true → isSource e = true → Node.allTexts c = Node.allTexts c')
      (h : Replaced (k.below e) c c') : Replaced k (.element e c :: rest) (.element e c' :: rest)
  | contents {k : Searches} {c c' : List Node} (rest : List Node) (h : Replaced k c c') :
      Replaced k (.contents c :: rest) (.contents c' :: rest)
  | later {k : Searches} (n : Node) {rest rest' : List Node} (h : Replaced k rest rest') :
      Replaced k (n :: rest) (n :: rest')

/-- Of an omitted element a test that asks for a tag and for sight fails, if no such tag is dropped:
the element must then be hidden. -/
theorem visible_eq_false {e : Element} (h : e.isOmitted = true) {tagged : Bool}
    (htag : tagged = true → Element.droppedTags.contains e.tag = false) :
    (tagged && !e.isHidden) = false := by
  cases ht : tagged with
  | false => rfl
  | true =>
    unfold Element.isOmitted Element.isDropped at h
    rw [htag ht, Bool.or_false] at h
    rw [h]
    rfl

/-- The same for a test that asks for one of two tags. -/
theorem visible_eq_false_of_or {e : Element} (h : e.isOmitted = true) {tag tag' : String}
    (htag : Element.droppedTags.contains tag = false)
    (htag' : Element.droppedTags.contains tag' = false) :
    ((e.tag == tag || e.tag == tag') && !e.isHidden) = false := by
  apply visible_eq_false h
  intro hor
  rcases Bool.or_eq_true_iff.mp hor with heq | heq
  · rw [beq_iff_eq.mp heq, htag]
  · rw [beq_iff_eq.mp heq, htag']

/-! ## What does not tell the lists apart -/

/-- What is below an omitted element is told apart by searches alone. -/
theorem sameSights_of_isOmitted {v : Sights} {e : Element} {c c' : List Node}
    (omitted : e.isOmitted = true) (same : v.searches.SameFinds [.element e c] [.element e c']) :
    SameSights v [.element e c] [.element e c'] := by
  have hwalk : ∀ indent, walk indent (.element e c) = walk indent (.element e c') := by
    intro indent
    rw [walk, walk, if_pos omitted, if_pos omitted]
  -- items, nested lists and cells are asked only whether they are hidden, but no such tag is dropped
  have hitem : (e.tag == "li" && !e.isHidden) = false := by
    apply visible_eq_false omitted
    intro htag
    rw [beq_iff_eq.mp htag]
    rfl
  have hlist : (isList e && !e.isHidden) = false := visible_eq_false_of_or omitted rfl rfl
  have hcell : isCell e = false := visible_eq_false_of_or omitted rfl rfl
  refine ⟨?_, ?_, ?_, ?_, ?_, ?_, ?_, same⟩
  · intro _ n
    rw [Code.markAll_of_isSealed (Code.isSealed_of_isOmitted omitted c),
      Code.markAll_of_isSealed (Code.isSealed_of_isOmitted omitted c')]
    exact ⟨rfl, rfl⟩
  · intro _ indent
    rw [walkAll_singleton, walkAll_singleton, hwalk]
  · intro _ ordered indent number rest
    rw [List.singleton_append, List.singleton_append, items, items, hitem]
    rfl
  · intro _ indent content rest
    rw [List.singleton_append, List.singleton_append, itemContent, itemContent, hlist, hwalk]
    rfl
  · intro _
    rw [plainTexts_singleton, plainTexts_singleton, plainText, plainText, if_pos omitted,
      if_pos omitted]
  · intro _
    rw [shownTexts_singleton, shownTexts_singleton, Node.shownText, Node.shownText, if_pos omitted,
      if_pos omitted]
  · intro _
    rw [cells_cons_element, cells_cons_element, hcell]
    rfl

namespace Replaced

variable {k : Searches} {c c' : List Node}

/-- Whatever else comes to the lists, only the searches tell them apart. -/
theorem within (h : Replaced k c c') {v : Sights} (hv : v.searches = k) :
    Within SameSights v c c' := by
  induction h generalizing v with
  | here rest omitted same =>
    subst hv
    exact .here rest (sameSights_of_isOmitted omitted same)
  | @inside k e d d' rest text h ih =>
    subst hv
    exact .inside rest text (ih rfl)
  | contents rest h ih => exact .contents rest (ih hv)
  | later n h ih => exact .later n (ih hv)

/-- The Markdown is the same. -/
theorem ofNode_eq (h : Replaced .off c c') (root : Element) :
    ofNode (.element root c) = ofNode (.element root c') :=
  (h.within (v := .top) rfl).ofNode_eq root

end Replaced

end ChatScribe.Markdown
