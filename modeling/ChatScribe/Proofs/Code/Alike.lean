import ChatScribe.Proofs.Code.Threads
import ChatScribe.Proofs.Text.Ends

/-!
# Drafts that are alike

The number of a placeholder depends on all code in front of it, but what is made of a draft does not:
`Alike records records' t t'` says that `t` and `t'` are the same text, except that where one has a
placeholder the other has one too, and the two have the same record, each among its own records.

Whatever the conversion does to a text, it does to texts that are alike in the same way, since no test it
makes can see the number of a placeholder. And texts that are alike become the same when the records are
put in (`Alike.restore_eq`).
-/

namespace ChatScribe.Markdown.Code

open Html

/-- Two texts that differ in the numbers of their placeholders only, where each placeholder has the
record of the one it stands for. There are no other opening marks. -/
inductive Alike (records records' : List Text) : Text → Text → Prop
  | nil : Alike records records' [] []
  | char {c : Char} {t t' : Text} (hc : c ≠ openMark) (h : Alike records records' t t') :
      Alike records records' (c :: t) (c :: t')
  | code {i j : Nat} {record t t' : Text} (hi : records[i]? = some record)
      (hj : records'[j]? = some record) (h : Alike records records' t t') :
      Alike records records' (placeholder i ++ t) (placeholder j ++ t')

namespace Alike

variable {records records' : List Text} {s s' t t' u v : Text}

/-! ## Building -/

theorem of_not_mem (h : openMark ∉ t) : Alike records records' t t := by
  induction t with
  | nil => exact nil
  | cons c t ih =>
    rw [List.mem_cons, not_or] at h
    exact char (Ne.symm h.1) (ih h.2)

theorem append (hs : Alike records records' s s') (ht : Alike records records' t t') :
    Alike records records' (s ++ t) (s' ++ t') := by
  induction hs with
  | nil => exact ht
  | char hc _ ih => exact char hc ih
  | code hi hj _ ih =>
    rw [List.append_assoc, List.append_assoc]
    exact code hi hj ih

theorem placeholder {i j : Nat} {record : Text} (hi : records[i]? = some record)
    (hj : records'[j]? = some record) :
    Alike records records' (Code.placeholder i) (Code.placeholder j) := by
  rw [← List.append_nil (Code.placeholder i), ← List.append_nil (Code.placeholder j)]
  exact code hi hj nil

theorem prepend (hu : openMark ∉ u) (h : Alike records records' t t') :
    Alike records records' (u ++ t) (u ++ t') := (of_not_mem hu).append h

theorem postpend (h : Alike records records' t t') (hu : openMark ∉ u) :
    Alike records records' (t ++ u) (t' ++ u) := h.append (of_not_mem hu)

theorem between (hu : openMark ∉ u) (h : Alike records records' t t') (hv : openMark ∉ v) :
    Alike records records' (u ++ t ++ v) (u ++ t' ++ v) := (h.prepend hu).postpend hv

/-- A change of single characters that leaves those of placeholders and brings no opening marks. -/
theorem flatMap {f : Char → Text} (hkeep : ∀ n, ∀ c ∈ Code.placeholder n, f c = [c])
    (hclean : ∀ c, c ≠ openMark → openMark ∉ f c) (h : Alike records records' t t') :
    Alike records records' (t.flatMap f) (t'.flatMap f) := by
  have hsame : ∀ n, (Code.placeholder n).flatMap f = Code.placeholder n := by
    intro n
    rw [List.flatMap_congr (hkeep n), List.flatMap_singleton']
  induction h with
  | nil => exact nil
  | char hc _ ih =>
    rw [List.flatMap_cons, List.flatMap_cons]
    exact ih.prepend (hclean _ hc)
  | code hi hj _ ih =>
    rw [List.flatMap_append, List.flatMap_append, hsame, hsame]
    exact code hi hj ih

/-! ## What cannot tell them apart -/

theorem placeholder_append (n : Nat) (t : Text) :
    Code.placeholder n ++ t = openMark :: (label ++ Text.ofNat n ++ [closeMark] ++ t) := by
  simp [Code.placeholder]

/-- They start with the same character. -/
theorem head?_eq (h : Alike records records' t t') : t.head? = t'.head? := by
  cases h with
  | nil => rfl
  | char _ _ => rfl
  | code _ _ _ =>
    rw [placeholder_append, placeholder_append]
    rfl

theorem isEmpty_eq (h : Alike records records' t t') : t.isEmpty = t'.isEmpty := by
  cases h with
  | nil => rfl
  | char _ _ => rfl
  | code _ _ _ =>
    rw [placeholder_append, placeholder_append]
    rfl

theorem getLast?_placeholder_append (n : Nat) (t : Text) :
    (Code.placeholder n ++ t).getLast? = t.getLast?.or (some closeMark) := by
  rw [List.getLast?_append, Code.placeholder, List.getLast?_concat]

/-- They end in the same character. -/
theorem getLast?_eq (h : Alike records records' t t') : t.getLast? = t'.getLast? := by
  induction h with
  | nil => rfl
  | @char c t t' _ _ ih => rw [List.getLast?_cons, List.getLast?_cons, ih]
  | code _ _ _ ih => rw [getLast?_placeholder_append, getLast?_placeholder_append, ih]

theorem isBlank_placeholder_append (n : Nat) (t : Text) :
    Text.isBlank (Code.placeholder n ++ t) = false := by
  rw [placeholder_append, Text.isBlank, List.all_cons]
  rfl

/-- Neither of them is blank, or both are. -/
theorem isBlank_eq (h : Alike records records' t t') : Text.isBlank t = Text.isBlank t' := by
  induction h with
  | nil => rfl
  | char _ _ ih =>
    unfold Text.isBlank at ih ⊢
    rw [List.all_cons, List.all_cons, ih]
  | code _ _ _ _ => rw [isBlank_placeholder_append, isBlank_placeholder_append]

/-! ## Trimming -/

/-- What is dropped in front stops at the first placeholder. -/
theorem dropWhile (h : Alike records records' t t') (p : Char → Bool) (hp : p openMark = false) :
    Alike records records' (t.dropWhile p) (t'.dropWhile p) := by
  have hstop : ∀ n u, (Code.placeholder n ++ u).dropWhile p = Code.placeholder n ++ u := by
    intro n u
    rw [placeholder_append, List.dropWhile_cons, hp, if_neg Bool.false_ne_true]
  induction h with
  | nil => exact nil
  | @char c t t' hc h ih =>
    rw [List.dropWhile_cons, List.dropWhile_cons]
    split
    · exact ih
    · exact char hc h
  | code hi hj h _ =>
    rw [hstop, hstop]
    exact code hi hj h

theorem trimStart (h : Alike records records' t t') :
    Alike records records' (Text.trimStart t) (Text.trimStart t') := h.dropWhile Text.isSpace (by decide)

theorem trimEnd_placeholder (n : Nat) : Text.trimEnd (Code.placeholder n) = Code.placeholder n := by
  have hclose : Text.isSpace closeMark = false := by decide
  exact Text.trimEnd_concat hclose _

theorem trimEnd (h : Alike records records' t t') :
    Alike records records' (Text.trimEnd t) (Text.trimEnd t') := by
  induction h with
  | nil => exact nil
  | @char c t t' hc h ih =>
    have hblank := h.isBlank_eq
    rw [← List.singleton_append (l := t), ← List.singleton_append (l := t')]
    -- the character goes as well exactly if it is white space and nothing behind it shows
    cases ht : Text.isBlank t with
    | true =>
      rw [Text.trimEnd_append_of_isBlank ht, Text.trimEnd_append_of_isBlank (hblank ▸ ht)]
      refine of_not_mem fun hmem => hc ?_
      exact (List.mem_singleton.mp ((Text.prefix_trimEnd [c]).subset hmem)).symm
    | false =>
      rw [Text.trimEnd_append ht, Text.trimEnd_append (hblank ▸ ht)]
      exact char hc ih
  | @code i j _ t t' hi hj h ih =>
    have hblank := h.isBlank_eq
    cases ht : Text.isBlank t with
    | true =>
      rw [Text.trimEnd_append_of_isBlank ht, Text.trimEnd_append_of_isBlank (hblank ▸ ht),
        trimEnd_placeholder, trimEnd_placeholder]
      exact placeholder hi hj
    | false =>
      rw [Text.trimEnd_append ht, Text.trimEnd_append (hblank ▸ ht)]
      exact code hi hj ih

theorem trim (h : Alike records records' t t') :
    Alike records records' (Text.trim t) (Text.trim t') := h.trimStart.trimEnd

/-! ## Putting the records in -/

/-- With the records in they are the same, and what follows is restored on its own. -/
theorem restore_append_eq (h : Alike records records' t t') (v : Text) :
    restore records (t ++ v) = restore records' t' ++ restore records v := by
  induction h with
  | nil => rw [restore_nil]; rfl
  | char hc _ ih => rw [List.cons_append, restore_cons_of_ne hc, restore_cons_of_ne hc, ih]; rfl
  | code hi hj _ ih =>
    rw [List.append_assoc, restore_placeholder_append _ hi, restore_placeholder_append _ hj, ih,
      List.append_assoc]

theorem restore_eq (h : Alike records records' t t') : restore records t = restore records' t' := by
  have hall := h.restore_append_eq []
  rwa [List.append_nil, restore_nil, List.append_nil] at hall

/-- With the records in, opening marks come from records only. -/
theorem openMark_not_mem_restore (h : Alike records records' t t')
    (hrecords : ∀ record ∈ records, openMark ∉ record) : openMark ∉ restore records t := by
  induction h with
  | nil =>
    rw [restore_nil]
    exact List.not_mem_nil
  | char hc _ ih =>
    rw [restore_cons_of_ne hc, List.mem_cons, not_or]
    exact ⟨Ne.symm hc, ih⟩
  | code hi _ _ ih =>
    rw [restore_placeholder_append _ hi]
    exact List.not_mem_append (hrecords _ (List.mem_of_getElem? hi)) ih

/-- All placeholders are whole and have a record. -/
theorem exists_threads (h : Alike records records' t t') :
    ∃ ns, (∀ n ∈ ns, n < records.length) ∧ Threads ns t := by
  induction h with
  | nil => exact ⟨[], List.forall_mem_nil _, .nil⟩
  | @char c t _ hc _ ih =>
    obtain ⟨ns, hns, hthreads⟩ := ih
    refine ⟨ns, hns, hthreads.prepend (u := [c]) ?_⟩
    rw [List.mem_singleton]
    exact Ne.symm hc
  | @code i _ _ t _ hi _ _ ih =>
    obtain ⟨ns, hns, hthreads⟩ := ih
    obtain ⟨hlt, -⟩ := List.getElem?_eq_some_iff.mp hi
    exact ⟨i :: ns, List.forall_mem_cons.mpr ⟨hlt, hns⟩, (Threads.placeholder i).append hthreads⟩

end Alike

end ChatScribe.Markdown.Code
