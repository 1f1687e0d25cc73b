import ChatScribe.Proofs.Walk.Rules

/-!
# Searches below an element

Three parts of the conversion look for elements at any depth and stop at nothing on the way: the source
of a formula, the rows of a table, and the code of a preformatted element are searched for. `Searches`
keeps which of them are on at some place of a tree, and `SameFinds` says that they find the same in two
lists of nodes.
-/

namespace ChatScribe.Markdown

open Html

/-- The searches that are on at a place of a tree. -/
structure Searches where
  /-- Is the source of a formula looked for? -/
  source : Bool
  /-- Are the rows of a table looked for? -/
  row : Bool
  /-- Is the code of a preformatted element looked for? -/
  code : Bool
deriving DecidableEq, Repr

def isCode (e : Element) : Bool := e.tag == "code"

def isTable (e : Element) : Bool := ruleOf e == .table

/-- Does the element name the source of its formula in the attribute that is asked first? -/
def namesSource (e : Element) : Bool :=
  (e.attr? "data-math").any fun t => !(Text.trim t).isEmpty

/-- Is nothing searched for below an element on its behalf? -/
def startsNoSearch (e : Element) : Bool := e.isOmitted || namesSource e

namespace Searches

/-- No search is on at the top of what is converted. -/
def off : Searches := ⟨false, false, false⟩

/-- The searches that are on below an element. -/
def below (k : Searches) (e : Element) : Searches :=
  if startsNoSearch e then k else ⟨true, k.row || isTable e, k.code || e.tag == "pre"⟩

theorem source_below {k : Searches} (e : Element) (h : k.source = true) :
    (k.below e).source = true := by
  unfold below
  split
  · exact h
  · rfl

theorem row_below {k : Searches} (e : Element) (h : k.row = true) : (k.below e).row = true := by
  unfold below
  split
  · exact h
  · simp [h]

theorem code_below {k : Searches} (e : Element) (h : k.code = true) : (k.below e).code = true := by
  unfold below
  split
  · exact h
  · simp [h]

/-- Do the searches find the same below two lists of nodes? -/
structure SameFinds (k : Searches) (ns ns' : List Node) : Prop where
  source : k.source = true →
    (Node.elementsIn isSource ns).map Node.allText = (Node.elementsIn isSource ns').map Node.allText
  row : k.row = true →
    (Node.elementsIn isRow ns).map rowCells = (Node.elementsIn isRow ns').map rowCells
  code : k.code = true →
    (Node.elementsIn isCode ns).map Node.innerText = (Node.elementsIn isCode ns').map Node.innerText

end Searches

/-! ## Formulas -/

/-- An element that names the source of its formula is that formula, whatever is below it. -/
theorem ofElement?_of_namesSource {e : Element} (h : namesSource e = true) :
    ∃ f, ∀ c, Formula.ofElement? e c = some f := by
  unfold namesSource at h
  cases hattr : e.attr? "data-math" with
  | none =>
    rw [hattr] at h
    cases h
  | some t =>
    rw [hattr] at h
    have htrim : (!(Text.trim t).isEmpty) = true := h
    have hown : Formula.isOwn e = true := by
      unfold Formula.isOwn
      rw [hattr, Option.isSome_some, Bool.or_true]
    refine ⟨⟨Text.trim t, Formula.standsAlone e⟩, ?_⟩
    intro c
    have hsource : Formula.source? e c = some (Text.trim t) := by
      unfold Formula.source? Formula.candidates
      rw [hattr, List.filterMap_cons, id_eq, List.map_cons, List.find?_cons, htrim]
    unfold Formula.ofElement?
    rw [hown, Bool.true_or, if_pos rfl, hsource]
    rfl

/-- Where no formula was found, all searches of an element are on. -/
theorem below_eq_of_no_formula {k : Searches} {e : Element} {c : List Node}
    (he : e.isOmitted = false) (h : Formula.ofElement? e c = none) :
    k.below e = ⟨true, k.row || isTable e, k.code || e.tag == "pre"⟩ := by
  have hnames : namesSource e = false := by
    rw [← Bool.not_eq_true]
    intro hnames
    obtain ⟨f, hf⟩ := ofElement?_of_namesSource hnames
    rw [hf] at h
    cases h
  unfold Searches.below startsNoSearch
  rw [he, hnames]
  rfl

/-- Below an element that is not omitted, the source of its formula is looked for if that makes a
difference. -/
theorem ofElement?_eq_of_sameFinds {k : Searches} {e : Element} {c c' : List Node}
    (he : e.isOmitted = false) (h : (k.below e).SameFinds c c') :
    Formula.ofElement? e c = Formula.ofElement? e c' := by
  by_cases hnames : namesSource e = true
  · obtain ⟨f, hf⟩ := ofElement?_of_namesSource hnames
    rw [hf, hf]
  · rw [Bool.not_eq_true] at hnames
    have hon : (k.below e).source = true := by
      unfold Searches.below startsNoSearch
      rw [he, hnames]
      rfl
    exact ofElement?_eq_of_sources e (h.source hon)

end ChatScribe.Markdown
