import ChatScribe.Page.Transcript
import ChatScribe.Proofs.Html.Listing
import ChatScribe.Proofs.Page.CodeBlocks

/-!
# The turns of a page

What a selector and a list of candidates find is said here by the elements below an element and the
selectors that match them. The turns of a page are then told container by container, and
`turns_inOrder` says that they come in the order of their containers, that none is found twice, and that
none is taken from another container.
-/

namespace ChatScribe

open Html

/-! ## What selectors find -/

namespace Css.Selector

variable {sel : Css.Selector} {l m : Located}

/-- Does a selector match an element when it is looked for below another one? -/
def MatchesBelow (sel : Css.Selector) (l m : Located) : Prop :=
  matchesAny ⟨some l.element.order, none⟩ m sel.alternatives = true

/-- `m` is the first element below `l`, in document order, that the selector matches. -/
def IsFirstBelow (sel : Css.Selector) (l m : Located) : Prop :=
  ∃ front behind, l.descendants = front ++ m :: behind ∧ sel.MatchesBelow l m ∧
    ∀ x ∈ front, ¬ sel.MatchesBelow l x

theorem IsFirstBelow.mem (h : sel.IsFirstBelow l m) : m ∈ l.descendants := by
  obtain ⟨front, behind, heq, -, -⟩ := h
  rw [heq]
  exact List.mem_append_right _ List.mem_cons_self

theorem firstBelow?_eq_some_iff : sel.firstBelow? l = some m ↔ sel.IsFirstBelow l m := by
  rw [firstBelow?, below, List.head?_filter, List.find?_eq_some_iff_append]
  constructor
  · rintro ⟨hm, front, behind, heq, hfront⟩
    exact ⟨front, behind, heq, hm, fun x hx => by simpa [MatchesBelow] using hfront x hx⟩
  · rintro ⟨front, behind, heq, hm, hfront⟩
    exact ⟨hm, front, behind, heq, fun x hx => by simpa [MatchesBelow] using hfront x hx⟩

theorem firstBelow?_eq_none_iff :
    sel.firstBelow? l = none ↔ ∀ x ∈ l.descendants, ¬ sel.MatchesBelow l x := by
  rw [firstBelow?, below, List.head?_filter, List.find?_eq_none]
  rfl

end Css.Selector

namespace Candidates

variable {cs : Candidates} {l m : Located}

/-- `m` is what the earliest candidate that matches anything below `l` matches first. -/
def IsFirstMatch (cs : Candidates) (l m : Located) : Prop :=
  ∃ before sel after, cs = before ++ sel :: after ∧
    (∀ s ∈ before, ∀ x ∈ l.descendants, ¬ s.MatchesBelow l x) ∧ sel.IsFirstBelow l m

theorem IsFirstMatch.mem (h : cs.IsFirstMatch l m) : m ∈ l.descendants := by
  obtain ⟨before, sel, after, -, -, hfirst⟩ := h
  exact hfirst.mem

theorem firstMatch?_eq_some_iff : cs.firstMatch? l = some m ↔ cs.IsFirstMatch l m := by
  rw [firstMatch?, List.findSome?_eq_some_iff]
  constructor
  · rintro ⟨before, sel, after, heq, hfound, hbefore⟩
    exact ⟨before, sel, after, heq,
      fun s hs => Css.Selector.firstBelow?_eq_none_iff.mp (hbefore s hs),
      Css.Selector.firstBelow?_eq_some_iff.mp hfound⟩
  · rintro ⟨before, sel, after, heq, hbefore, hfirst⟩
    exact ⟨before, sel, after, heq, Css.Selector.firstBelow?_eq_some_iff.mpr hfirst,
      fun s hs => Css.Selector.firstBelow?_eq_none_iff.mpr (hbefore s hs)⟩

/-- Something is found if some candidate matches something. -/
theorem firstMatch?_ne_none_iff :
    cs.firstMatch? l ≠ none ↔ ∃ sel ∈ cs, ∃ x ∈ l.descendants, sel.MatchesBelow l x := by
  rw [firstMatch?, Ne, List.findSome?_eq_none_iff]
  simp only [Css.Selector.firstBelow?_eq_none_iff, not_forall, not_not, exists_prop]

end Candidates

/-! ## What a turn container holds -/

namespace Page

/-- What is found for a speaker in a turn container: the match of the candidates below the first element
that the query matches. -/
structure Holds (query : Css.Selector) (content : Candidates) (container : Located)
    (found? : Option Located) : Prop where
  eq_some_iff : ∀ m, found? = some m ↔
    ∃ q, query.IsFirstBelow container q ∧ content.IsFirstMatch q m
  ne_none_iff : found? ≠ none ↔ ∃ q, query.IsFirstBelow container q ∧
    ∃ sel ∈ content, ∃ x ∈ q.descendants, sel.MatchesBelow q x
  /-- It stands in this container. -/
  inside : ∀ m, found? = some m → m ∈ container.descendants

theorem holds_firstMatch? (query : Css.Selector) (content : Candidates) (container : Located) :
    Holds query content container ((query.firstBelow? container).bind content.firstMatch?) := by
  have hsome : ∀ m, (query.firstBelow? container).bind content.firstMatch? = some m ↔
      ∃ q, query.IsFirstBelow container q ∧ content.IsFirstMatch q m := by
    intro m
    simp only [Option.bind_eq_some_iff, Css.Selector.firstBelow?_eq_some_iff,
      Candidates.firstMatch?_eq_some_iff]
  refine ⟨hsome, ?_, ?_⟩
  · cases hquery : query.firstBelow? container with
    | none =>
      have hno := Css.Selector.firstBelow?_eq_none_iff.mp hquery
      refine ⟨fun h => absurd rfl h, ?_⟩
      rintro ⟨q, ⟨front, behind, heq, hq, -⟩, -⟩
      exact absurd hq (hno q (heq ▸ List.mem_append_right _ List.mem_cons_self))
    | some q =>
      have hq := Css.Selector.firstBelow?_eq_some_iff.mp hquery
      constructor
      · intro hfound
        exact ⟨q, hq, Candidates.firstMatch?_ne_none_iff.mp hfound⟩
      · rintro ⟨q', hq', hmatch⟩
        -- there is only one first match
        have hsame := Css.Selector.firstBelow?_eq_some_iff.mpr hq'
        obtain rfl : q = q' := Option.some.inj (hquery.symm.trans hsame)
        exact Candidates.firstMatch?_ne_none_iff.mpr hmatch
  · intro m hm
    obtain ⟨q, hq, hmatch⟩ := (hsome m).mp hm
    exact (Located.infix_descendants hq.mem).subset hmatch.mem

/-- The question and the answer in a turn container. -/
structure Exchange.IsOf (slots : Slots) (container : Located) (x : Exchange) : Prop where
  question : Holds slots.userQuery slots.userContent container x.question?
  answer : Holds slots.responseContainer slots.responseContent container x.answer?

theorem isOf_exchangeIn (slots : Slots) (container : Located) :
    (exchangeIn slots container).IsOf slots container :=
  ⟨holds_firstMatch? _ _ container, holds_firstMatch? _ _ container⟩

/-! ## All turns of a page -/

/-- The elements of the turns of one speaker. -/
def contentsOf (speaker : Speaker) (ts : List Found) : List Located :=
  (ts.filter fun f => f.speaker == speaker).map Found.content

/-- What an exchange has from a speaker. -/
def Exchange.said? (x : Exchange) : Speaker → Option Located
  | .user => x.question?
  | .assistant => x.answer?

theorem contentsOf_turns (speaker : Speaker) (x : Exchange) :
    contentsOf speaker x.turns = (x.said? speaker).toList := by
  obtain ⟨question?, answer?⟩ := x
  cases speaker <;> cases question? <;> cases answer? <;> rfl

/-- What a speaker said, container by container. -/
theorem contentsOf_flatMap_turns (speaker : Speaker) (xs : List Exchange) :
    contentsOf speaker (xs.flatMap Exchange.turns) = xs.filterMap (·.said? speaker) := by
  induction xs with
  | nil => rfl
  | cons x xs ih =>
    have happend : contentsOf speaker (x.turns ++ xs.flatMap Exchange.turns)
        = contentsOf speaker x.turns ++ contentsOf speaker (xs.flatMap Exchange.turns) := by
      rw [contentsOf, List.filter_append, List.map_append]
      rfl
    rw [List.flatMap_cons, happend, contentsOf_turns, ih]
    cases hsaid : x.said? speaker with
    | none => simp only [List.filterMap_cons, hsaid, Option.toList_none, List.nil_append]
    | some m => simp only [List.filterMap_cons, hsaid, Option.toList_some, List.singleton_append]

section

variable (p : Page) (slots : Slots)

/-- The elements of a page that hold a turn each. -/
def containers : List Located := slots.turnContainer.inPage p.document

/-- No turn container stands in another one. -/
def IsApart : Prop :=
  ∀ c ∈ p.containers slots, ∀ inner ∈ p.containers slots, inner ∉ c.descendants

variable {p slots} in
theorem isApart_of_orders
    (h : ∀ below ∈ (p.containers slots).map fun c => c.descendants.map (·.element.order),
      ∀ order ∈ (p.containers slots).map (·.element.order), order ∉ below) : p.IsApart slots :=
  fun _ hc _ hinner hmem =>
    h _ (List.mem_map_of_mem hc) _ (List.mem_map_of_mem hinner) (List.mem_map_of_mem hmem)

theorem contentsOf_turns_page (speaker : Speaker) : contentsOf speaker (p.turns slots)
    = (p.containers slots).filterMap fun c => (exchangeIn slots c).said? speaker := by
  rw [turns, contentsOf_flatMap_turns, exchanges, List.filterMap_map]
  rfl

variable {p slots}

/-- Elements that are picked from containers which stand apart come in document order. -/
theorem IsApart.sublist_filterMap (h : p.IsApart slots) (pick : Located → Option Located)
    (hpick : ∀ l m, pick l = some m → m ∈ l.descendants) :
    ((p.document.inOrder.filter fun m =>
      Css.matchesAny ⟨none, none⟩ m slots.turnContainer.alternatives).filterMap pick).Sublist
        p.document.inOrder := by
  refine Html.sublist_filterMap hpick p.document.hasBlocks_inOrder fun c hc hmatch m hm => ?_
  rw [← Bool.not_eq_true]
  intro hinner
  have hcontainer : c ∈ p.document.elements := p.document.elements_perm.mem_iff.mpr hc
  exact h c (List.mem_filter.mpr ⟨hcontainer, hmatch⟩) m
    (List.mem_filter.mpr ⟨Document.mem_elements_of_mem_descendants hcontainer hm, hinner⟩) hm

theorem mem_descendants_of_said? {speaker : Speaker} {c m : Located}
    (h : (exchangeIn slots c).said? speaker = some m) : m ∈ c.descendants := by
  have hof := isOf_exchangeIn slots c
  cases speaker with
  | user => exact hof.question.inside m h
  | assistant => exact hof.answer.inside m h

end

/-- The turns of a page are those of its containers, one after the other, in each the question before
the answer. If no container stands in another one, no element is found twice for a speaker; and if the
elements of the page were created in document order, containers and contents come in it. -/
theorem turns_inOrder (p : Page) (slots : Slots) (hapart : p.IsApart slots) :
    (∃ xs : List Exchange, List.Forall₂ (fun c x => x.IsOf slots c) (p.containers slots) xs ∧
      p.turns slots = xs.flatMap fun x =>
        (x.question?.map (Found.mk .user)).toList ++ (x.answer?.map (Found.mk .assistant)).toList) ∧
    (∀ speaker, (contentsOf speaker (p.turns slots)).Subperm p.document.inOrder) ∧
    (p.document.IsOrdered → (p.containers slots).Sublist p.document.inOrder ∧
      ∀ speaker, (contentsOf speaker (p.turns slots)).Sublist p.document.inOrder ∧
        (contentsOf speaker (p.turns slots)).Pairwise
          fun l m => l.element.order < m.element.order) := by
  have hsublist := fun speaker => hapart.sublist_filterMap
    (fun c => (exchangeIn slots c).said? speaker) fun _ _ => mem_descendants_of_said?
  refine ⟨⟨p.exchanges slots, ?_, rfl⟩, fun speaker => ?_, fun hordered => ⟨?_, fun speaker => ?_⟩⟩
  · rw [exchanges, List.forall₂_map_right_iff]
    exact List.forall₂_same.mpr fun c _ => isOf_exchangeIn slots c
  · -- selection goes through the elements in another order, but through the same ones
    have hperm := (p.document.elements_perm.filter fun m =>
      Css.matchesAny ⟨none, none⟩ m slots.turnContainer.alternatives).filterMap
        fun c => (exchangeIn slots c).said? speaker
    rw [contentsOf_turns_page]
    exact hperm.subperm.trans (hsublist speaker).subperm
  · rw [containers, Css.Selector.inPage, hordered.elements_eq]
    exact List.filter_sublist
  · have hcontents : (contentsOf speaker (p.turns slots)).Sublist p.document.inOrder := by
      rw [contentsOf_turns_page, containers, Css.Selector.inPage, hordered.elements_eq]
      exact hsublist speaker
    exact ⟨hcontents, hordered.sublist hcontents⟩

/-- A page with two turn containers. The second one has no answer, and its question is that of the
earlier candidate, though the later candidate matches an element in front of it. -/
def dialoguePage : Page :=
  let element (tag : String) (order : Nat) (children : List Node) : Node :=
    .element ⟨.html, tag, [], order, none⟩ children
  ⟨⟨true, [
    element "share-turn-viewer" 1 [
      element "user-query" 2 [element "query-text" 3 []],
      element "response-container" 4 [element "message-content" 5 []]],
    element "share-turn-viewer" 6 [
      element "user-query" 7 [element "query-text" 8 [], element "user-query-content" 9 []]]], []⟩,
    "u".toList⟩

theorem turns_inOrder_dialoguePage :
    let slots := { tagSlots with
      userContent := [⟨[.compound [.tag "user-query-content"]]⟩, ⟨[.compound [.tag "query-text"]]⟩] }
    dialoguePage.IsApart slots ∧ dialoguePage.document.IsOrdered ∧
    (dialoguePage.turns slots).map (fun f => (f.speaker, f.content.element.order))
      = [(.user, 3), (.assistant, 5), (.user, 9)] ∧
    (contentsOf .user (dialoguePage.turns slots)).Pairwise
      fun l m => l.element.order < m.element.order := by
  intro slots
  have hordered : dialoguePage.document.IsOrdered := by decide +kernel
  have hcontainers : dialoguePage.containers slots = dialoguePage.document.inOrder.filter fun m =>
      Css.matchesAny ⟨none, none⟩ m slots.turnContainer.alternatives := by
    rw [containers, Css.Selector.inPage, hordered.elements_eq]
  have horders : (dialoguePage.containers slots).map (·.element.order) = [1, 6] := by
    rw [hcontainers]
    rfl
  have hbelow : (dialoguePage.containers slots).map
      (fun c => c.descendants.map (·.element.order)) = [[2, 3, 4, 5], [7, 8, 9]] := by
    rw [hcontainers]
    rfl
  have hapart : dialoguePage.IsApart slots := by
    apply isApart_of_orders
    rw [horders, hbelow]
    decide
  have hturns : (dialoguePage.turns slots).map (fun f => (f.speaker, f.content.element.order))
      = [(.user, 3), (.assistant, 5), (.user, 9)] := by
    unfold turns exchanges Css.Selector.inPage
    rw [hordered.elements_eq]
    rfl
  obtain ⟨-, -, hinOrder⟩ := turns_inOrder dialoguePage slots hapart
  exact ⟨hapart, hordered, hturns, ((hinOrder hordered).2 .user).2⟩

end Page

end ChatScribe
