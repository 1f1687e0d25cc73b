import ChatScribe.Markdown.Convert
import ChatScribe.Proofs.Code.Numbered

/-!
# Where code is lifted

`mark` goes down a tree and stops at sealed elements and at code. Here its result is told without the
recursion, from where an element stands: `placesIn` lists the elements of a tree in document order, each
with the nodes above it, and `Place.isLifted` asks an element and the nodes above it. Both agree, and the
numbers count the lifted places in document order.

The children of a template hang under a node of their own, and marking does not go past it. The template
is dropped, so in most trees that makes no difference. But the root is not asked what it is, and if it is
a template, only that node stands between the root and the code.
-/

namespace ChatScribe.Markdown.Code

open Html

/-! ## Places -/

/-- An element of a tree, with the nodes it stands in: the nearest first, and the root left out. -/
structure Place where
  element : Element
  children : List Node
  above : List Node

mutual

/-- The places of a node that stands in these nodes, in document order. -/
def placesFrom (above : List Node) : Node → List Place
  | .element e children => ⟨e, children, above⟩ :: placesIn (.element e children :: above) children
  | .contents children => placesIn (.contents children :: above) children
  | _ => []

/-- The places of a list of nodes. -/
def placesIn (above : List Node) : List Node → List Place
  | [] => []
  | n :: ns => placesFrom above n ++ placesIn above ns

end

/-- The elements of some nodes, in document order. -/
def elements (ns : List Node) : List Element :=
  (Node.elementsIn (fun _ => true) ns).filterMap Node.element?

/-- None of the elements has a number yet. -/
def Fresh (ns : List Node) : Prop := ∀ e ∈ elements ns, e.span? = none

instance (ns : List Node) : Decidable (Fresh ns) := List.decidableBAll _ _

/-! ## What is to be lifted -/

def isCode (e : Element) : Bool := e.tag == "pre" || e.tag == "code"

/-- Elements with nothing to lift below them. -/
def closesOff : Node → Bool
  | .element e children => isSealed e children || isCode e
  | _ => false

namespace Place

/-- Is the element code that can be seen, and is no element above it code or sealed? -/
def isOutermostCode (p : Place) : Bool :=
  isCode p.element && !isSealed p.element p.children && !p.above.any closesOff

/-- Outermost code, with nothing but elements between the root and it. -/
def isLifted (p : Place) : Bool := p.isOutermostCode && p.above.all Node.isElement

/-- What code becomes. -/
def markdown (p : Place) : Text :=
  if p.element.tag == "pre" then block p.children else inline p.children

end Place

/-! ## Elements -/

theorem elements_cons (n : Node) (ns : List Node) :
    elements (n :: ns) = elements [n] ++ elements ns := by
  simp [elements, Node.elementsIn]

theorem elements_element (e : Element) (c : List Node) :
    elements [.element e c] = e :: elements c := by
  simp [elements, Node.elementsIn, Node.elementsFrom, Node.element?]

theorem elements_contents (c : List Node) : elements [.contents c] = elements c := by
  simp [elements, Node.elementsIn, Node.elementsFrom]

mutual

theorem map_element_placesFrom (above : List Node) :
    ∀ n : Node, (placesFrom above n).map Place.element = elements [n]
  | .text _ => rfl
  | .comment _ => rfl
  | .doctype _ => rfl
  | .contents c => by
    rw [placesFrom, map_element_placesIn, elements_contents]
  | .element e c => by
    rw [placesFrom, List.map_cons, map_element_placesIn, elements_element]

/-- The places of a tree are those of its elements. -/
theorem map_element_placesIn (above : List Node) :
    ∀ ns : List Node, (placesIn above ns).map Place.element = elements ns
  | [] => rfl
  | n :: ns => by
    rw [placesIn, List.map_append, map_element_placesFrom, map_element_placesIn, ← elements_cons]

end

namespace Fresh

variable {e : Element} {n : Node} {c ns : List Node}

theorem head (h : Fresh (n :: ns)) : Fresh [n] := by
  intro e he
  apply h
  rw [elements_cons]
  exact List.mem_append_left _ he

theorem tail (h : Fresh (n :: ns)) : Fresh ns := by
  intro e he
  apply h
  rw [elements_cons]
  exact List.mem_append_right _ he

theorem span?_eq_none (h : Fresh [.element e c]) : e.span? = none := by
  apply h
  rw [elements_element]
  exact List.mem_cons_self

theorem below (h : Fresh [.element e c]) : Fresh c := by
  intro e' he
  apply h
  rw [elements_element]
  exact List.mem_cons_of_mem _ he

end Fresh

theorem exists_mem_elementsIn_of_mem_elements {e : Element} {ns : List Node} (h : e ∈ elements ns) :
    ∃ c, .element e c ∈ Node.elementsIn (fun _ => true) ns := by
  obtain ⟨n, hn, hsome⟩ := List.mem_filterMap.mp h
  cases n with
  | element e' c =>
    obtain rfl : e' = e := Option.some.inj hsome
    exact ⟨c, hn⟩
  | _ => cases hsome

mutual

theorem Fresh.of_mem_elementsFrom {p : Element → Bool} {m : Node} :
    ∀ {n : Node}, Fresh [n] → m ∈ Node.elementsFrom p n → Fresh m.children
  | .text _, _, hm => nomatch hm
  | .comment _, _, hm => nomatch hm
  | .doctype _, _, hm => nomatch hm
  | .contents c, h, hm => by
    have hbelow : Fresh c := by
      rwa [Fresh, elements_contents] at h
    exact hbelow.of_mem_elementsIn hm
  | .element e c, h, hm => by
    rw [Node.elementsFrom] at hm
    split at hm
    · rcases List.mem_cons.mp hm with rfl | hm
      · exact h.below
      · exact h.below.of_mem_elementsIn hm
    · exact h.below.of_mem_elementsIn hm

theorem Fresh.of_mem_elementsIn {p : Element → Bool} {m : Node} :
    ∀ {ns : List Node}, Fresh ns → m ∈ Node.elementsIn p ns → Fresh m.children
  | [], _, hm => nomatch hm
  | n :: ns, h, hm => by
    rw [Node.elementsIn] at hm
    rcases List.mem_append.mp hm with hm | hm
    · exact h.head.of_mem_elementsFrom hm
    · exact h.tail.of_mem_elementsIn hm

end

/-- Whatever element of a parsed page or fragment is taken as the root, nothing has a number yet. -/
theorem fresh_of_mem_parsed (t : Text) {p : Element → Bool} {root : Node}
    (h : root ∈ Node.elementsIn p (Document.parsePage t).nodes ∨
      root ∈ Node.elementsIn p (Document.parseFragment t).nodes) : Fresh root.children := by
  rcases h with h | h
  · refine Fresh.of_mem_elementsIn (fun e he => ?_) h
    obtain ⟨c, hc⟩ := exists_mem_elementsIn_of_mem_elements he
    exact span?_of_mem_parsed t (Or.inl hc)
  · refine Fresh.of_mem_elementsIn (fun e he => ?_) h
    obtain ⟨c, hc⟩ := exists_mem_elementsIn_of_mem_elements he
    exact span?_of_mem_parsed t (Or.inr hc)

/-! ## Out of reach -/

/-- Nodes below which code is lifted. -/
def IsOpen (above : List Node) : Prop := ∀ n ∈ above, n.isElement = true ∧ closesOff n = false

theorem isLifted_iff {p : Place} :
    p.isLifted = true ↔
      isCode p.element = true ∧ isSealed p.element p.children = false ∧ IsOpen p.above := by
  simp only [Place.isLifted, Place.isOutermostCode, Bool.and_eq_true, Bool.not_eq_true',
    List.any_eq_false, Bool.not_eq_true, List.all_eq_true, IsOpen, and_assoc]
  constructor
  · rintro ⟨hcode, hsealed, hcloses, helement⟩
    exact ⟨hcode, hsealed, fun n hn => ⟨helement n hn, hcloses n hn⟩⟩
  · rintro ⟨hcode, hsealed, hopen⟩
    exact ⟨hcode, hsealed, fun n hn => (hopen n hn).2, fun n hn => (hopen n hn).1⟩

mutual

theorem suffix_above_of_mem_placesFrom {above : List Node} {p : Place} :
    ∀ {n : Node}, p ∈ placesFrom above n → above <:+ p.above
  | .text _, h => nomatch h
  | .comment _, h => nomatch h
  | .doctype _, h => nomatch h
  | .contents c, h => by
    rw [placesFrom] at h
    exact (List.suffix_cons _ _).trans (suffix_above_of_mem_placesIn h)
  | .element e c, h => by
    rw [placesFrom] at h
    rcases List.mem_cons.mp h with rfl | h
    · exact List.suffix_rfl
    · exact (List.suffix_cons _ _).trans (suffix_above_of_mem_placesIn h)

/-- What a tree stands in is above all of its places. -/
theorem suffix_above_of_mem_placesIn {above : List Node} {p : Place} :
    ∀ {ns : List Node}, p ∈ placesIn above ns → above <:+ p.above
  | [], h => nomatch h
  | n :: ns, h => by
    rw [placesIn] at h
    rcases List.mem_append.mp h with h | h
    · exact suffix_above_of_mem_placesFrom h
    · exact suffix_above_of_mem_placesIn h

end

/-- Nothing is lifted in a tree that stands in a node which is not open. -/
theorem isLifted_eq_false_of_mem_placesIn {above ns : List Node} {p : Place} (h : ¬ IsOpen above)
    (hp : p ∈ placesIn above ns) : p.isLifted = false := by
  rw [Bool.eq_false_iff]
  intro hlifted
  obtain ⟨-, -, hopen⟩ := isLifted_iff.mp hlifted
  exact h fun n hn => hopen n ((suffix_above_of_mem_placesIn hp).subset hn)

/-! ## Places and their marks -/

/-- The element at a place once the code is marked: it is the same but for its number, and it has one
exactly if it is to be lifted. -/
def Place.MarkedAs (p : Place) (e : Element) : Prop :=
  e = { p.element with span? := e.span? } ∧ e.span?.isSome = p.isLifted

/-- Places, their elements once marked with the numbers from `n` on, and the Markdown on record. -/
structure Marks (n : Nat) (places : List Place) (marked : List Element) (records : List Text) :
    Prop where
  elements : List.Forall₂ Place.MarkedAs places marked
  numbers : marked.filterMap Element.span? = List.range' n records.length
  records : records = (places.filter Place.isLifted).map Place.markdown

namespace Marks

variable {n : Nat} {places places' : List Place} {marked marked' : List Element}
  {records records' : List Text}

theorem append (h : Marks n places marked records)
    (h' : Marks (n + records.length) places' marked' records') :
    Marks n (places ++ places') (marked ++ marked') (records ++ records') where
  elements := List.rel_append h.elements h'.elements
  numbers := by
    rw [List.filterMap_append, h.numbers, h'.numbers, List.length_append, List.range'_append_1]
  records := by
    rw [List.filter_append, List.map_append, ← h.records, ← h'.records]

/-- Places at which nothing is lifted are left as they are. -/
theorem untouched (hplaces : ∀ p ∈ places, p.isLifted = false ∧ p.element.span? = none) :
    Marks n places (places.map Place.element) [] where
  elements := by
    rw [List.forall₂_map_right_iff, List.forall₂_same]
    intro p hp
    obtain ⟨hlifted, hspan⟩ := hplaces p hp
    exact ⟨rfl, by rw [hspan, hlifted]; rfl⟩
  numbers := by
    refine List.filterMap_eq_nil_iff.mpr fun e he => ?_
    obtain ⟨p, hp, rfl⟩ := List.mem_map.mp he
    exact (hplaces p hp).2
  records := by
    rw [List.filter_eq_nil_iff.mpr fun p hp => by rw [(hplaces p hp).1]; decide]
    rfl

theorem lifted {p : Place} (h : p.isLifted = true) :
    Marks n [p] [{ p.element with span? := some n }] [p.markdown] where
  elements := .cons ⟨rfl, h.symm⟩ .nil
  numbers := rfl
  records := by
    rw [List.filter_cons_of_pos h]
    rfl

/-- A tree that is out of reach. -/
theorem outOfReach {above ns : List Node} (habove : ¬ IsOpen above) (hfresh : Fresh ns) :
    Marks n (placesIn above ns) (Code.elements ns) [] := by
  rw [← map_element_placesIn above]
  refine untouched fun p hp => ⟨isLifted_eq_false_of_mem_placesIn habove hp, hfresh _ ?_⟩
  rw [← map_element_placesIn above]
  exact List.mem_map_of_mem hp

/-- An element that is passed by, and what becomes of the tree below it. -/
theorem passed {p : Place} (hlifted : p.isLifted = false) (hspan : p.element.span? = none)
    (h : Marks n places marked records) : Marks n (p :: places) (p.element :: marked) records := by
  have hp : Marks n [p] [p.element] [] :=
    untouched fun q hq => by
      rw [List.mem_singleton.mp hq]
      exact ⟨hlifted, hspan⟩
  exact hp.append h

/-- Code that is lifted, and the tree below it, which is out of reach. -/
theorem taken {p : Place} (hlifted : p.isLifted = true) (h : Marks (n + 1) places marked []) :
    Marks n (p :: places) ({ p.element with span? := some n } :: marked) [p.markdown] :=
  (lifted hlifted).append h

end Marks

/-- Nothing is lifted in an element that closes off, whatever that stands in. -/
theorem not_isOpen_of_closesOff {node : Node} (h : closesOff node = true) (above : List Node) :
    ¬ IsOpen (node :: above) := by
  intro hopen
  rw [(hopen node List.mem_cons_self).2] at h
  cases h

mutual

theorem marks_mark {above : List Node} (habove : IsOpen above) (n : Nat) :
    ∀ node : Node, Fresh [node] →
      Marks n (placesFrom above node) (elements [(mark n node).1]) (mark n node).2
  | .text _, _ => by
    rw [mark_of_not_element rfl]
    exact .untouched fun _ hp => nomatch hp
  | .comment _, _ => by
    rw [mark_of_not_element rfl]
    exact .untouched fun _ hp => nomatch hp
  | .doctype _, _ => by
    rw [mark_of_not_element rfl]
    exact .untouched fun _ hp => nomatch hp
  | .contents c, hfresh => by
    rw [mark_of_not_element rfl, placesFrom]
    rw [Fresh, elements_contents] at hfresh
    rw [elements_contents]
    exact .outOfReach (fun hopen => nomatch (hopen _ List.mem_cons_self).1) hfresh
  | .element e c, hfresh => by
    have hspan := hfresh.span?_eq_none
    have hclosed : closesOff (.element e c) = true → ∀ m,
        Marks m (placesIn (.element e c :: above) c) (elements c) [] :=
      fun hcloses _ => .outOfReach (not_isOpen_of_closesOff hcloses above) hfresh.below
    have htaken : isSealed e c = false → isCode e = true →
        Marks n (⟨e, c, above⟩ :: placesIn (.element e c :: above) c)
          ({ e with span? := some n } :: elements c) [Place.markdown ⟨e, c, above⟩] :=
      fun hsealed hcode => .taken (isLifted_iff.mpr ⟨hcode, hsealed, habove⟩)
        (hclosed (by rw [closesOff, hcode, Bool.or_true]) _)
    have hcase := markedElement_mark n e c
    generalize mark n (.element e c) = marked at hcase ⊢
    rw [placesFrom]
    cases hcase with
    | shut hsealed =>
      rw [elements_element]
      refine .passed ?_ hspan (hclosed (by rw [closesOff, hsealed, Bool.true_or]) n)
      exact Bool.eq_false_iff.mpr fun hlifted => by
        rw [(isLifted_iff.mp hlifted).2.1] at hsealed
        cases hsealed
    | block hsealed hpre =>
      have hrecord : Place.markdown ⟨e, c, above⟩ = block c := if_pos hpre
      rw [elements_element, ← hrecord]
      exact htaken hsealed (by rw [isCode, hpre, Bool.true_or])
    | code hsealed hpre hcode =>
      have hrecord : Place.markdown ⟨e, c, above⟩ = inline c := if_neg (by rw [hpre]; decide)
      rw [elements_element, ← hrecord]
      exact htaken hsealed (by rw [isCode, hcode, Bool.or_true])
    | within hsealed hpre hcode =>
      have hnot : isCode e = false := by rw [isCode, hpre, hcode]; rfl
      have hopen : IsOpen (.element e c :: above) :=
        List.forall_mem_cons.mpr ⟨⟨rfl, by rw [closesOff, hsealed, hnot]; rfl⟩, habove⟩
      rw [elements_element]
      refine .passed ?_ hspan (marks_markAll hopen n c hfresh.below)
      exact Bool.eq_false_iff.mpr fun hlifted => by
        rw [(isLifted_iff.mp hlifted).1] at hnot
        cases hnot

/-- Marking lifts the code at the places where it is to be lifted. -/
theorem marks_markAll {above : List Node} (habove : IsOpen above) (n : Nat) :
    ∀ ns : List Node, Fresh ns →
      Marks n (placesIn above ns) (elements (markAll n ns).1) (markAll n ns).2
  | [], _ => by
    rw [markAll]
    exact .untouched fun _ hp => nomatch hp
  | node :: ns, hfresh => by
    rw [markAll_cons, placesIn, elements_cons]
    exact (marks_mark habove n node hfresh.head).append (marks_markAll habove _ ns hfresh.tail)

end

/-! ## Lifting -/

/-- What stands for an element in the text. -/
def token? (e : Element) : Option Text := e.span?.map placeholder

/-- Exactly the outermost code that can be seen is lifted. In document order its placeholders are those
of 0, 1, 2 and so on, and its Markdown is what is put on record. -/
theorem lift_places (root : Node) (hfresh : Fresh root.children) :
    List.Forall₂ Place.MarkedAs (placesIn [] root.children) (elements (lift root).nodes) ∧
      (elements (lift root).nodes).filterMap token?
        = (List.range (lift root).records.length).map placeholder ∧
      (lift root).records
        = ((placesIn [] root.children).filter Place.isLifted).map Place.markdown := by
  have hmarks : Marks 0 (placesIn [] root.children) (elements (lift root).nodes)
      (lift root).records :=
    marks_markAll (List.forall_mem_nil _) 0 root.children hfresh
  refine ⟨hmarks.elements, ?_, hmarks.records⟩
  rw [List.range_eq_range', ← hmarks.numbers, List.map_filterMap]
  rfl

/-- The first element with a tag in a parsed fragment. -/
def selected (html tag : String) : Node :=
  (Node.elementsIn (·.tag == tag) (Document.parseFragment html.toList).nodes).headD (.contents [])

/-- Code of a line, hidden code, and code on lines of its own. -/
def sampleRoot : Node :=
  selected "<p><code>a</code><i aria-hidden=true><code>b</code></i></p><pre><code>c</code></pre>" "html"

theorem lift_places_of_sampleRoot :
    Fresh sampleRoot.children ∧
      (placesIn [] sampleRoot.children).map Place.isLifted = [false, true, false, false, true, false] ∧
      List.Forall₂ Place.MarkedAs (placesIn [] sampleRoot.children)
        (elements (lift sampleRoot).nodes) ∧
      (elements (lift sampleRoot).nodes).filterMap token? = [placeholder 0, placeholder 1] := by
  obtain ⟨hfresh, hlifted, hlength⟩ : Fresh sampleRoot.children ∧
      (placesIn [] sampleRoot.children).map Place.isLifted
        = [false, true, false, false, true, false] ∧
      (lift sampleRoot).records.length = 2 := by
    decide +kernel
  obtain ⟨hplaces, htokens, -⟩ := lift_places sampleRoot hfresh
  rw [hlength] at htokens
  exact ⟨hfresh, hlifted, hplaces, htokens⟩

def templateRoot : Node := selected "<template><code>x</code></template>" "template"

/-- No element stands between a template and its code, and still that code is not lifted if the template
is the root. -/
theorem not_lifted_outermostCode_of_templateRoot :
    Fresh templateRoot.children ∧
      ¬ List.Forall₂ (fun p e => e.span?.isSome = Place.isOutermostCode p)
        (placesIn [] templateRoot.children) (elements (lift templateRoot).nodes) := by
  decide +kernel

end ChatScribe.Markdown.Code
