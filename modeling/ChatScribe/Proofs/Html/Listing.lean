import ChatScribe.Html.Located
import Mathlib.Data.List.Basic
import Mathlib.Data.List.Perm.Subperm
import Mathlib.Tactic.Common

/-!
# Elements and what is below them, listed

In document order an element is followed by the elements below it, and these by what comes behind
(`HasBlocks`). So a list of the elements of a page is made of blocks, and blocks of which none lies in
another do not overlap. If one element is picked from each of some such blocks, the picked ones come in
the order of the list, and none comes twice (`sublist_filterMap`).
-/

namespace ChatScribe.Html

/-- Every element of a list is followed by the elements below it. -/
inductive HasBlocks : List Located → Prop
  | nil : HasBlocks []
  | cons {l : Located} {rest : List Located} (hblock : l.descendants <+: rest)
      (h : HasBlocks rest) : HasBlocks (l :: rest)

namespace HasBlocks

variable {l : Located} {xs ys : List Located}

theorem append (hxs : HasBlocks xs) (hys : HasBlocks ys) : HasBlocks (xs ++ ys) := by
  induction hxs with
  | nil => exact hys
  | cons hblock _ ih => exact .cons (hblock.trans (List.prefix_append _ _)) ih

theorem of_append (h : HasBlocks (xs ++ ys)) : HasBlocks ys := by
  induction xs with
  | nil => exact h
  | cons x xs ih =>
    cases h with
    | cons _ hrest => exact ih hrest

theorem drop (h : HasBlocks xs) (n : Nat) : HasBlocks (xs.drop n) := by
  rw [← List.take_append_drop n xs] at h
  exact h.of_append

theorem flatMap {α : Type} {f : α → List Located} {as : List α} (h : ∀ a ∈ as, HasBlocks (f a)) :
    HasBlocks (as.flatMap f) := by
  induction as with
  | nil => exact .nil
  | cons a as ih =>
    obtain ⟨ha, has⟩ := List.forall_mem_cons.mp h
    exact ha.append (ih has)

/-- The elements below one of the list are a stretch of it. -/
theorem infix_of_mem (h : HasBlocks xs) (hmem : l ∈ xs) : l.descendants <:+: xs := by
  induction h with
  | nil => cases hmem
  | cons hblock _ ih =>
    rcases List.mem_cons.mp hmem with rfl | hrest
    · exact hblock.isInfix.trans (List.suffix_cons _ _).isInfix
    · exact (ih hrest).trans (List.suffix_cons _ _).isInfix

end HasBlocks

mutual

theorem hasBlocks_inTree (parent? : Option Located) (isTop : Bool) (before after : List Node) :
    ∀ n : Node, HasBlocks (Located.inTree true parent? isTop before after n)
  | .text _ => .nil
  | .comment _ => .nil
  | .doctype _ => .nil
  | .contents children => by
    rw [Located.inTree, if_pos rfl]
    exact hasBlocks_inForest none false [] children
  | .element e children => by
    rw [Located.inTree]
    exact .cons (List.prefix_refl _) (hasBlocks_inForest _ false [] children)

/-- Trees are listed in blocks. -/
theorem hasBlocks_inForest (parent? : Option Located) (isTop : Bool) (before : List Node) :
    ∀ ns : List Node, HasBlocks (Located.inForest true parent? isTop before ns)
  | [] => .nil
  | n :: ns => by
    rw [Located.inForest]
    exact (hasBlocks_inTree parent? isTop before ns n).append
      (hasBlocks_inForest parent? isTop (n :: before) ns)

end

namespace Located

variable {l m : Located}

theorem hasBlocks_descendants (l : Located) : HasBlocks l.descendants :=
  hasBlocks_inForest (some l) false [] l.children

/-- What is below an element that is below another is below this one, too. -/
theorem infix_descendants (h : m ∈ l.descendants) : m.descendants <:+: l.descendants :=
  (hasBlocks_descendants l).infix_of_mem h

end Located

/-! ## Picking from blocks -/

section

variable {p : Located → Bool} {pick : Located → Option Located}

/-- If no element with a property lies below another one, elements that are picked from below them
come in the order of the list. -/
theorem sublist_filterMap (hpick : ∀ l m, pick l = some m → m ∈ l.descendants) :
    ∀ {xs : List Located}, HasBlocks xs →
      (∀ l ∈ xs, p l = true → ∀ m ∈ l.descendants, p m = false) →
      ((xs.filter p).filterMap pick).Sublist xs
  | [], _, _ => List.nil_sublist []
  | l :: rest, h, hapart => by
    obtain ⟨hl, hbelow⟩ := List.forall_mem_cons.mp hapart
    cases h with
    | cons hblock hrest =>
      cases hp : p l with
      | false =>
        rw [List.filter_cons_of_neg (by simp [hp])]
        exact (sublist_filterMap hpick hrest hbelow).cons l
      | true =>
        -- the block of `l` has no further element with the property, so the rest starts behind it
        obtain ⟨behind, rfl⟩ := hblock
        have hnone : l.descendants.filter p = [] := by
          rw [List.filter_eq_nil_iff]
          intro m hm
          rw [hl hp m hm]
          exact Bool.false_ne_true
        have hlater := sublist_filterMap hpick hrest.of_append
          fun k hk => hbelow k (List.mem_append_right _ hk)
        rw [List.filter_cons_of_pos hp, List.filter_append, hnone, List.nil_append]
        cases hfound : pick l with
        | none =>
          rw [List.filterMap_cons_none hfound]
          exact (hlater.trans (List.sublist_append_right _ _)).cons l
        | some m =>
          rw [List.filterMap_cons_some hfound]
          have hfirst := List.singleton_sublist.mpr (hpick l m hfound)
          exact (hfirst.append hlater).cons l
  termination_by xs => xs.length
  decreasing_by
    all_goals
      subst_vars
      simp only [List.length_cons, List.length_append]
      omega

end

/-! ## The elements of a page -/

namespace Document

variable {d : Document}

/-- The elements of a page in document order, those in trees that were cut off from it behind them. -/
def inOrder (d : Document) : List Located :=
  Located.inForest true none d.isPage [] d.nodes ++
    d.detached.flatMap fun n => (Located.inTree true none false [] [] n).drop 1

theorem hasBlocks_inOrder (d : Document) : HasBlocks d.inOrder :=
  (hasBlocks_inForest none d.isPage [] d.nodes).append
    (.flatMap fun n _ => (hasBlocks_inTree none false [] [] n).drop 1)

theorem elements_perm (d : Document) : d.elements.Perm d.inOrder := List.mergeSort_perm _ _

/-- Were the elements of a page created in document order? Not if the parser has moved some of them, such
as what stands between the rows of a table. -/
def IsOrdered (d : Document) : Prop :=
  d.inOrder.Pairwise fun l m => l.element.order < m.element.order

instance (d : Document) : Decidable d.IsOrdered := inferInstanceAs (Decidable (List.Pairwise _ _))

theorem IsOrdered.elements_eq (h : d.IsOrdered) : d.elements = d.inOrder :=
  List.mergeSort_of_pairwise (h.imp fun hlt => decide_eq_true (Nat.le_of_lt hlt))

/-- What is below an element of a page is an element of the page. -/
theorem mem_elements_of_mem_descendants {l m : Located} (hl : l ∈ d.elements)
    (hm : m ∈ l.descendants) : m ∈ d.elements := by
  have hblock := d.hasBlocks_inOrder.infix_of_mem (d.elements_perm.mem_iff.mp hl)
  exact d.elements_perm.mem_iff.mpr (hblock.subset hm)

end Document

end ChatScribe.Html
