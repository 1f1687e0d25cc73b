import ChatScribe.Proofs.Change.Searches
import ChatScribe.Proofs.Code.Mark

/-!
# Changes at one place of a tree

`Within R` relates two lists of nodes that differ at one place, by a change that `R` allows there. What is
allowed may depend on what of the conversion comes to the place: `Sights` keeps it, and
`Sights.below` says what comes to the children of an element. If the change makes no difference to
anything that comes to the place (`SameSights`), it makes none to anything that looks at the whole:
`Within.plainTexts_eq`, `Within.shownTexts_eq` and `Within.cells_eq` say so of texts, and
`Within.sameFinds` of searches.
-/

namespace ChatScribe.Markdown

open Html

/-! ## What comes to a place -/

/-- Which parts of the conversion come to a place of a tree. -/
structure Sights where
  /-- Is code lifted here? -/
  lifted : Bool
  /-- Does the walk come here? -/
  walked : Bool
  /-- Is the plain text read? -/
  plain : Bool
  /-- Is the text read that a reader sees? -/
  shown : Bool
  /-- Are the cells of a row read? -/
  cells : Bool
  searches : Searches

/-- Does an element write the plain text that is below it? -/
def writesPlain (e : Element) : Bool :=
  match ruleOf e with
  | .heading _ | .emphasis _ | .quote => true
  | .link => !e.isLensLink
  | _ => false

/-- Does the walk go on below an element? -/
def writesWalk (e : Element) : Bool :=
  match ruleOf e with
  | .paragraph | .list _ | .flow => true
  | _ => false

namespace Sights

/-- What comes to the children of what is converted. -/
def top : Sights := ⟨true, true, false, false, false, .off⟩

/-- Only searches come to the content of a template. -/
def inert (v : Sights) : Sights := ⟨false, false, false, false, false, v.searches⟩

/-- Is an element code that is lifted? -/
def lifts (v : Sights) (e : Element) : Bool :=
  v.lifted && !e.isLensLink && (e.tag == "pre" || isCode e)

/-- What comes to the children of an element. -/
def below (v : Sights) (e : Element) : Sights where
  lifted := v.lifted && !e.isOmitted && !e.isLensLink && !(e.tag == "pre" || isCode e)
  walked := v.walked && !e.isOmitted && writesWalk e
  plain := !e.isOmitted && (v.plain || v.walked && writesPlain e) || v.cells && isCell e
  shown := !e.isOmitted && (v.shown || v.lifts e) || v.searches.code && isCode e
  cells := v.searches.row && isRow e
  searches := v.searches.below e

end Sights

/-- Two lists of nodes that nothing that comes to their place tells apart. No code is lifted out of
them. -/
structure SameSights (v : Sights) (ns ns' : List Node) : Prop where
  unlifted : v.lifted = true →
    ∀ n, Code.markAll n ns = (ns, []) ∧ Code.markAll n ns' = (ns', [])
  walk : v.walked = true → ∀ indent, walkAll indent ns = walkAll indent ns'
  items : v.walked = true → ∀ ordered indent number rest,
    items ordered indent number (ns ++ rest) = items ordered indent number (ns' ++ rest)
  content : v.walked = true → ∀ indent content rest,
    itemContent indent content (ns ++ rest) = itemContent indent content (ns' ++ rest)
  plain : v.plain = true → plainTexts ns = plainTexts ns'
  shown : v.shown = true → Node.shownTexts ns = Node.shownTexts ns'
  cells : v.cells = true → ns.filterMap cellText? = ns'.filterMap cellText?
  finds : v.searches.SameFinds ns ns'

/-! ## The closure -/

/-- Two lists of nodes that differ at one place, as `R` allows it with what comes there. If the text of
an element above is the source of a formula, that text stays. -/
inductive Within (R : Sights → List Node → List Node → Prop) : Sights → List Node → List Node → Prop
  | here {v : Sights} {ns ns' : List Node} (rest : List Node) (h : R v ns ns') :
      Within R v (ns ++ rest) (ns' ++ rest)
  | inside {v : Sights} {e : Element} {c c' : List Node} (rest : List Node)
      (text : v.searches.source = true → isSource e = true → Node.allTexts c = Node.allTexts c')
      (h : Within R (v.below e) c c') : Within R v (.element e c :: rest) (.element e c' :: rest)
  | contents {v : Sights} {c c' : List Node} (rest : List Node) (h : Within R v.inert c c') :
      Within R v (.contents c :: rest) (.contents c' :: rest)
  | later {v : Sights} (n : Node) {rest rest' : List Node} (h : Within R v rest rest') :
      Within R v (n :: rest) (n :: rest')

namespace Within

/-- A place where more is allowed. -/
theorem mono {R S : Sights → List Node → List Node → Prop}
    (hRS : ∀ {v : Sights} {ns ns' : List Node}, R v ns ns' → S v ns ns') {v : Sights}
    {c c' : List Node} (h : Within R v c c') : Within S v c c' := by
  induction h with
  | here rest h => exact .here rest (hRS h)
  | inside rest text h ih => exact .inside rest text ih
  | contents rest h ih => exact .contents rest ih
  | later n h ih => exact .later n ih

variable {v : Sights} {c c' : List Node}

/-! ## Texts -/

/-- The plain texts are the same. -/
theorem plainTexts_eq (h : Within SameSights v c c') (hv : v.plain = true) :
    plainTexts c = plainTexts c' := by
  induction h with
  | here rest same => rw [plainTexts_append, plainTexts_append, same.plain hv]
  | @inside v e d d' rest text h ih =>
    have hone : plainText (.element e d) = plainText (.element e d') := by
      cases hspan : e.span? with
      | some n => rw [plainText, plainText, hspan]
      | none =>
        by_cases homitted : e.isOmitted = true
        · rw [plainText, plainText, if_pos homitted, if_pos homitted]
        · rw [Bool.not_eq_true] at homitted
          have hbelow : (v.below e).plain = true := by
            simp [Sights.below, homitted, hv]
          rw [plainText, plainText, ih hbelow]
    rw [plainTexts, plainTexts, hone]
  | contents rest h ih => rfl
  | later n h ih => rw [plainTexts, plainTexts, ih hv]

/-- A reader sees the same. -/
theorem shownTexts_eq (h : Within SameSights v c c') (hv : v.shown = true) :
    Node.shownTexts c = Node.shownTexts c' := by
  induction h with
  | here rest same => rw [shownTexts_append, shownTexts_append, same.shown hv]
  | @inside v e d d' rest text h ih =>
    have hone : Node.shownText (.element e d) = Node.shownText (.element e d') := by
      rw [Node.shownText, Node.shownText]
      by_cases homitted : e.isOmitted = true
      · rw [if_pos homitted, if_pos homitted]
      · have hbelow : (v.below e).shown = true := by
          simp [Sights.below, homitted, hv]
        rw [if_neg homitted, if_neg homitted, ih hbelow]
    rw [Node.shownTexts, Node.shownTexts, hone]
  | contents rest h ih => rfl
  | later n h ih => rw [Node.shownTexts, Node.shownTexts, ih hv]

/-- The cells of a row are the same. -/
theorem cells_eq (h : Within SameSights v c c') (hv : v.cells = true) :
    c.filterMap cellText? = c'.filterMap cellText? := by
  induction h with
  | here rest same => rw [List.filterMap_append, List.filterMap_append, same.cells hv]
  | @inside v e d d' rest text h ih =>
    rw [cells_cons_element, cells_cons_element]
    by_cases hcell : isCell e = true
    · have hbelow : (v.below e).plain = true := by
        simp [Sights.below, hcell, hv]
      rw [if_pos hcell, if_pos hcell, h.plainTexts_eq hbelow]
    · rw [if_neg hcell, if_neg hcell]
  | contents rest h ih => rfl
  | later n h ih => rw [List.filterMap_cons, List.filterMap_cons, ih hv]

/-! ## Searches -/

/-- A search that is on finds the same, as far as `g` shows it, if this holds at the place and of the
elements above it that are found themselves. -/
theorem map_elementsIn_eq {α : Type} {p : Element → Bool} {g : Node → α} {on : Searches → Bool}
    (hon : ∀ (k : Searches) (e : Element), on k = true → on (k.below e) = true)
    (hhere : ∀ (k : Searches) (ns ns' : List Node), k.SameFinds ns ns' → on k = true →
      (Node.elementsIn p ns).map g = (Node.elementsIn p ns').map g)
    (hself : ∀ (v : Sights) (e : Element) (d d' : List Node), on v.searches = true → p e = true →
      (v.searches.source = true → isSource e = true → Node.allTexts d = Node.allTexts d') →
      Within SameSights (v.below e) d d' → g (.element e d) = g (.element e d'))
    (h : Within SameSights v c c') (hv : on v.searches = true) :
    (Node.elementsIn p c).map g = (Node.elementsIn p c').map g := by
  induction h with
  | here rest same =>
    rw [elementsIn_append, elementsIn_append, List.map_append, List.map_append,
      hhere _ _ _ same.finds hv]
  | @inside v e d d' rest text h ih =>
    have hsame := ih (hon v.searches e hv)
    rw [Node.elementsIn, Node.elementsIn, Node.elementsFrom, Node.elementsFrom, List.map_append,
      List.map_append]
    by_cases he : p e = true
    · rw [if_pos he, if_pos he, List.map_cons, List.map_cons, hself v e d d' hv he text h, hsame]
    · rw [if_neg he, if_neg he, hsame]
  | contents rest h ih =>
    rw [Node.elementsIn, Node.elementsIn, Node.elementsFrom, Node.elementsFrom, List.map_append,
      List.map_append, ih hv]
  | later n h ih =>
    rw [Node.elementsIn, Node.elementsIn, List.map_append, List.map_append, ih hv]

/-- The searches that are on find the same. -/
theorem sameFinds (h : Within SameSights v c c') : v.searches.SameFinds c c' := by
  refine ⟨?_, ?_, ?_⟩
  · intro hv
    refine map_elementsIn_eq (fun _ e => Searches.source_below e)
      (fun _ _ _ same => same.source) ?_ h hv
    intro v e d d' hv he text _
    rw [Node.allText, Node.allText, text hv he]
  · intro hv
    refine map_elementsIn_eq (fun _ e => Searches.row_below e)
      (fun _ _ _ same => same.row) ?_ h hv
    intro v e d d' hv he _ hd
    have hbelow : (v.below e).cells = true := by
      simp [Sights.below, hv, he]
    rw [rowCells_eq_filterMap, rowCells_eq_filterMap]
    exact hd.cells_eq hbelow
  · intro hv
    refine map_elementsIn_eq (fun _ e => Searches.code_below e)
      (fun _ _ _ same => same.code) ?_ h hv
    intro v e d d' hv he _ hd
    have hbelow : (v.below e).shown = true := by
      simp [Sights.below, hv, he]
    exact hd.shownTexts_eq hbelow

end Within

end ChatScribe.Markdown
