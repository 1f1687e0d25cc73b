import ChatScribe.Html.Rules
import ChatScribe.Proofs.Code.Marked
import Mathlib.Data.List.Range

/-!
# The numbers of code in a tree

`Numbered ks ns` says that the code elements of the nodes `ns` carry the numbers `ks`, in document order,
that code is the only thing that is marked, and that nothing is marked below an element which the
conversion does not go into. Marking gives the numbers one after the other (`numbered_markAll`).

The trees are those that the walk can go through without leaving anything out: an element is *regular* if
the walk writes all of its children.
-/

namespace ChatScribe.Markdown

open Html

/-- The tag of an element as the walk reads it. -/
def lowerTag (e : Element) : String := String.ofList (Text.lower e.tag.toList)

/-- An element of which the walk writes all children, and whose attributes have no opening marks. -/
structure IsRegular (e : Element) (children : List Node) : Prop where
  attrs : ∀ a ∈ e.attrs, Code.openMark ∉ a.value
  table : lowerTag e ≠ "table"
  items : lowerTag e = "ul" ∨ lowerTag e = "ol" →
    ∀ item below, .element item below ∈ children → item.tag = "li"
  void : lowerTag e = "br" ∨ lowerTag e = "hr" ∨ lowerTag e = "img" → children = []

/-- The tags that ask something of an element. -/
def specialTags : List String := ["table", "ul", "ol", "br", "hr", "img"]

theorem isRegular_of_not_special {e : Element} (htag : lowerTag e ∉ specialTags)
    (hattrs : ∀ a ∈ e.attrs, Code.openMark ∉ a.value) (children : List Node) :
    IsRegular e children := by
  simp only [specialTags, List.mem_cons, List.not_mem_nil, or_false, not_or] at htag
  obtain ⟨htable, hul, hol, hbr, hhr, himg⟩ := htag
  exact ⟨hattrs, htable, fun hlist => absurd hlist (not_or.mpr ⟨hul, hol⟩),
    fun hvoid => absurd hvoid (not_or.mpr ⟨hbr, not_or.mpr ⟨hhr, himg⟩⟩)⟩

/-- All elements of some trees are regular, and none of them is marked. -/
def AllRegular (ns : List Node) : Prop :=
  ∀ e children, .element e children ∈ Node.elementsIn (fun _ => true) ns →
    e.span? = none ∧ IsRegular e children

namespace AllRegular

variable {e : Element} {n : Node} {c ns : List Node}

theorem nil : AllRegular [] := fun _ _ hmem => (nomatch hmem)

theorem cons_text (t : Text) (h : AllRegular ns) : AllRegular (.text t :: ns) := h

theorem cons_element (hspan : e.span? = none) (he : IsRegular e c) (hc : AllRegular c)
    (h : AllRegular ns) : AllRegular (.element e c :: ns) := by
  intro e' children hmem
  rw [Node.elementsIn, Node.elementsFrom, if_pos rfl] at hmem
  rcases List.mem_append.mp hmem with hmem | hmem
  · rcases List.mem_cons.mp hmem with heq | hmem
    · obtain ⟨rfl, rfl⟩ := Node.element.inj heq
      exact ⟨hspan, he⟩
    · exact hc e' children hmem
  · exact h e' children hmem

theorem tail (h : AllRegular (n :: ns)) : AllRegular ns := by
  intro e children hmem
  apply h e children
  rw [Node.elementsIn]
  exact List.mem_append_right _ hmem

theorem head (h : AllRegular (.element e c :: ns)) : e.span? = none ∧ IsRegular e c := by
  apply h e c
  rw [Node.elementsIn, Node.elementsFrom, if_pos rfl]
  exact List.mem_append_left _ List.mem_cons_self

theorem below (h : AllRegular (.element e c :: ns)) : AllRegular c := by
  intro e' children hmem
  apply h e' children
  rw [Node.elementsIn, Node.elementsFrom, if_pos rfl]
  exact List.mem_append_left _ (List.mem_cons_of_mem _ hmem)

end AllRegular

/-! ## Parsed trees -/

theorem mem_elementsIn_iff {p : Element → Bool} {m : Node} {ns : List Node} :
    m ∈ Node.elementsIn p ns ↔ ∃ n ∈ ns, m ∈ Node.elementsFrom p n := by
  induction ns with
  | nil => simp [Node.elementsIn]
  | cons n ns ih => simp [Node.elementsIn, ih]

/-- A tree that a parser has built is not marked. -/
theorem span?_of_mem_toNodes (a : Arena) {p : Element → Bool} {e : Element} {c : List Node} :
    ∀ (fuel : Nat) (ids : List Nat), .element e c ∈ Node.elementsIn p (a.toNodes fuel ids) →
      e.span? = none
  | 0, ids, h => by
    rw [Arena.toNodes] at h
    cases h
  | fuel + 1, ids, h => by
    rw [Arena.toNodes] at h
    obtain ⟨n, hn, hmem⟩ := mem_elementsIn_iff.mp h
    obtain ⟨id, -, rfl⟩ := List.mem_map.mp hn
    dsimp only at hmem
    cases hkind : a.kind id with
    | element space tag attrs =>
      rw [hkind, Node.elementsFrom] at hmem
      split at hmem
      · rcases List.mem_cons.mp hmem with heq | hmem
        · obtain ⟨rfl, -⟩ := Node.element.inj heq
          rfl
        · exact span?_of_mem_toNodes a fuel _ hmem
      · exact span?_of_mem_toNodes a fuel _ hmem
    | root =>
      rw [hkind] at hmem
      exact span?_of_mem_toNodes a fuel _ hmem
    | contents =>
      rw [hkind] at hmem
      exact span?_of_mem_toNodes a fuel _ hmem
    | _ =>
      rw [hkind] at hmem
      cases hmem

/-- No element of a parsed page is marked, and none of a fragment. -/
theorem span?_of_mem_parsed (t : Text) {p : Element → Bool} {e : Element} {c : List Node}
    (h : .element e c ∈ Node.elementsIn p (Document.parsePage t).nodes ∨
      .element e c ∈ Node.elementsIn p (Document.parseFragment t).nodes) : e.span? = none := by
  rcases h with h | h
  · exact span?_of_mem_toNodes _ _ _ h
  · exact span?_of_mem_toNodes _ _ _ h

namespace Code

/-! ## Numbered trees -/

/-- Nodes whose code elements carry these numbers, in document order. -/
inductive Numbered : List Nat → List Node → Prop
  | nil : Numbered [] []
  | other {n : Node} {ns : List Node} {ks : List Nat} (hn : n.isElement = false)
      (h : Numbered ks ns) : Numbered ks (n :: ns)
  | code {e : Element} {c ns : List Node} {k : Nat} {ks : List Nat}
      (htag : e.tag = "pre" ∨ e.tag = "code") (hspan : e.span? = some k) (h : Numbered ks ns) :
      Numbered (k :: ks) (.element e c :: ns)
  /-- A sealed element has no numbers below it. -/
  | within {e : Element} {c ns : List Node} {js ks : List Nat} (hspan : e.span? = none)
      (hregular : IsRegular e c) (hsealed : isSealed e c = true → js = []) (hc : Numbered js c)
      (h : Numbered ks ns) : Numbered (js ++ ks) (.element e c :: ns)

/-- Trees without marks have no numbers. -/
theorem numbered_nil : ∀ ns : List Node, AllRegular ns → Numbered [] ns
  | [], _ => .nil
  | .element e c :: ns, h => by
    obtain ⟨hspan, hregular⟩ := h.head
    exact .within hspan hregular (fun _ => rfl) (numbered_nil c h.below) (numbered_nil ns h.tail)
  | .text _ :: ns, h => .other rfl (numbered_nil ns h.tail)
  | .comment _ :: ns, h => .other rfl (numbered_nil ns h.tail)
  | .doctype _ :: ns, h => .other rfl (numbered_nil ns h.tail)
  | .contents _ :: ns, h => .other rfl (numbered_nil ns h.tail)

/-! ## What marking leaves alone -/

/-- Whether an element is sealed does not depend on marks below it. -/
theorem isSealed_markAll (e : Element) (n : Nat) (c : List Node) :
    isSealed e (markAll n c).1 = isSealed e c := by
  have hdrop : (List.replicate n [] ++ (markAll n c).2).drop n = (markAll n c).2 :=
    List.drop_left' List.length_replicate
  have hrecords : (markAll n c).2 <+: (List.replicate n [] ++ (markAll n c).2).drop n :=
    ⟨[], by rw [hdrop, List.append_nil]⟩
  unfold isSealed
  rw [(marked_markAll c n hrecords).ofElement?_eq e]

theorem tag_of_mark {node : Node} {n : Nat} {e' : Element} {c' : List Node}
    (h : (mark n node).1 = .element e' c') : ∃ e c, node = .element e c ∧ e.tag = e'.tag := by
  cases node with
  | element e c =>
    refine ⟨e, c, rfl, ?_⟩
    have hcase := markedElement_mark n e c
    generalize mark n (.element e c) = marked at hcase h
    cases hcase <;> (cases h; rfl)
  | _ =>
    rw [mark_of_not_element rfl] at h
    cases h

/-- A marked element is one of the elements as they were, and has its tag. -/
theorem tag_of_mem_markAll {e' : Element} {c' : List Node} :
    ∀ (ns : List Node) (n : Nat), .element e' c' ∈ (markAll n ns).1 →
      ∃ e c, .element e c ∈ ns ∧ e.tag = e'.tag
  | [], n, h => by
    rw [markAll] at h
    cases h
  | node :: ns, n, h => by
    rw [markAll_cons] at h
    rcases List.mem_cons.mp h with heq | h
    · obtain ⟨e, c, rfl, htag⟩ := tag_of_mark heq.symm
      exact ⟨e, c, List.mem_cons_self, htag⟩
    · obtain ⟨e, c, hmem, htag⟩ := tag_of_mem_markAll ns _ h
      exact ⟨e, c, List.mem_cons_of_mem node hmem, htag⟩

/-- Marking leaves an element regular. -/
theorem isRegular_markAll {e : Element} {c : List Node} (h : IsRegular e c) (n : Nat) :
    IsRegular e (markAll n c).1 where
  attrs := h.attrs
  table := h.table
  items := by
    intro hlist item below hmem
    obtain ⟨e', c', hmem', htag⟩ := tag_of_mem_markAll c n hmem
    rw [← htag]
    exact h.items hlist e' c' hmem'
  void := by
    intro hvoid
    rw [h.void hvoid, markAll]

/-! ## Marking numbers the code -/

mutual

theorem numbered_mark : ∀ (node : Node) (n : Nat) {ks : List Nat} {ns : List Node},
    AllRegular (node :: ns) → ∀ {ms : List Node}, Numbered ks ms →
      Numbered (List.range' n (mark n node).2.length ++ ks) ((mark n node).1 :: ms)
  | .text content, n, _, _, _, _, h => by
    rw [mark_of_not_element rfl]
    exact .other rfl h
  | .comment content, n, _, _, _, _, h => by
    rw [mark_of_not_element rfl]
    exact .other rfl h
  | .doctype name, n, _, _, _, _, h => by
    rw [mark_of_not_element rfl]
    exact .other rfl h
  | .contents children, n, _, _, _, _, h => by
    rw [mark_of_not_element rfl]
    exact .other rfl h
  | .element e c, n, ks, ns, hall, ms, h => by
    obtain ⟨hspan, hregular⟩ := hall.head
    have hcase := markedElement_mark n e c
    generalize mark n (.element e c) = marked at hcase ⊢
    cases hcase with
    | shut hsealed => exact .within hspan hregular (fun _ => rfl) (numbered_nil c hall.below) h
    | block _ hpre => exact .code (Or.inl (beq_iff_eq.mp hpre)) rfl h
    | code _ hpre hcode => exact .code (Or.inr (beq_iff_eq.mp hcode)) rfl h
    | within hsealed hpre hcode =>
      refine .within hspan (isRegular_markAll hregular n) (fun hshut => ?_)
        (numbered_markAll c n hall.below) h
      rw [isSealed_markAll, hsealed] at hshut
      cases hshut

/-- Marking numbers the code from a number on, one after the other. -/
theorem numbered_markAll : ∀ (ns : List Node) (n : Nat), AllRegular ns →
    Numbered (List.range' n (markAll n ns).2.length) (markAll n ns).1
  | [], n, _ => by
    rw [markAll]
    exact .nil
  | node :: ns, n, hall => by
    rw [markAll_cons, List.length_append, ← List.range'_append_1]
    exact numbered_mark node n hall (numbered_markAll ns _ hall.tail)

end

end Code

end ChatScribe.Markdown
