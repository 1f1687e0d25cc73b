import ChatScribe.Markdown.Convert
import ChatScribe.Proofs.Code.Restore
import ChatScribe.Proofs.Text.Lines

/-!
# Placeholders on a thread

`Threads ns t` says that the placeholders of the numbers `ns` stand in the text `t`, each once and in
this order, and that there is no other opening mark in it. What the conversion does to a text keeps its
thread: placeholders have no white space and no line feed, so trimming stops in front of them, and a text
that holds one is never blank.
-/

namespace ChatScribe

namespace Text

/-- What a character becomes when every line gets a mark in front. -/
def behind (mark : Text) (c : Char) : Text := if c = '\n' then '\n' :: mark else [c]

/-- A mark in front of every line stands at the start of the text and behind each line feed. -/
theorem unlines_map_lines (mark t : Text) :
    unlines (t.lines.map fun l => mark ++ l) = mark ++ t.flatMap (behind mark) := by
  have hjoin : ∀ (u l : Text) (ls : List Text), unlines ((u ++ l) :: ls) = u ++ unlines (l :: ls) := by
    intro u l ls
    cases ls <;> simp [unlines, join]
  induction t with
  | nil => simp [lines, splitOn, unlines, join]
  | cons c t ih =>
    obtain ⟨l, ls, hls⟩ := List.exists_cons_of_ne_nil (lines_ne_nil t)
    rw [hls] at ih
    by_cases hc : c = '\n'
    · subst hc
      have hlines : lines ('\n' :: t) = [] :: l :: ls := by
        rw [← hls]
        exact lines_append_newline [] t
      rw [hlines, List.map_cons, List.flatMap_cons, behind, if_pos rfl, List.append_nil,
        ← List.singleton_append, unlines_append_unlines (List.cons_ne_nil _ _) (by simp), ih]
      simp [unlines, join]
    · have hlines : lines (c :: t) = (c :: l) :: ls := by
        unfold lines at hls ⊢
        rw [splitOn, if_neg hc, hls]
      rw [List.map_cons, hjoin] at ih
      rw [hlines, List.map_cons, List.flatMap_cons, behind, if_neg hc, hjoin,
        ← List.singleton_append (l := l), hjoin, List.append_cancel_left ih]

end Text

namespace Markdown.Code

open Html

/-! ## The characters of a placeholder -/

theorem openMark_mem_placeholder (n : Nat) : openMark ∈ placeholder n := List.mem_cons_self

/-- Marks behind line feeds do not reach into placeholders. -/
theorem behind_of_mem_placeholder (mark : Text) {n : Nat} {c : Char} (h : c ∈ placeholder n) :
    Text.behind mark c = [c] := by
  have hfeed : c ≠ '\n' := by
    rintro rfl
    exact absurd (isSpace_of_mem_placeholder h) (by decide)
  rw [Text.behind, if_neg hfeed]

theorem openMark_not_mem_behind {mark : Text} (hmark : openMark ∉ mark) {c : Char}
    (hc : c ≠ openMark) : openMark ∉ Text.behind mark c := by
  unfold Text.behind
  split
  · rw [List.mem_cons, not_or]
    exact ⟨by decide, hmark⟩
  · rw [List.mem_singleton]
    exact Ne.symm hc

/-! ## Threads -/

/-- A text with the placeholders of some numbers in it, and no other opening mark. -/
inductive Threads : List Nat → Text → Prop
  | plain {t : Text} (h : openMark ∉ t) : Threads [] t
  | step {gap t : Text} {ns : List Nat} (hgap : openMark ∉ gap) (n : Nat) (h : Threads ns t) :
      Threads (n :: ns) (gap ++ placeholder n ++ t)

namespace Threads

variable {ms ns : List Nat} {s t u : Text}

theorem nil : Threads [] [] := plain List.not_mem_nil

/-- A text without opening marks in front. -/
theorem prepend (hu : openMark ∉ u) (h : Threads ns t) : Threads ns (u ++ t) := by
  cases h with
  | plain h => exact plain (List.not_mem_append hu h)
  | @step gap t ns hgap n h =>
    rw [← List.append_assoc, ← List.append_assoc]
    exact step (List.not_mem_append hu hgap) n h

/-- One thread behind another. -/
theorem append (hs : Threads ms s) (ht : Threads ns t) : Threads (ms ++ ns) (s ++ t) := by
  induction hs with
  | plain h => exact ht.prepend h
  | step hgap n h ih =>
    rw [List.append_assoc]
    exact step hgap n ih

/-- A text without opening marks behind. -/
theorem postpend (h : Threads ns t) (hu : openMark ∉ u) : Threads ns (t ++ u) := by
  rw [← List.append_nil ns]
  exact h.append (plain hu)

/-- A text between two without opening marks. -/
theorem between {v : Text} (hu : openMark ∉ u) (h : Threads ns t) (hv : openMark ∉ v) :
    Threads ns (u ++ t ++ v) := (h.prepend hu).postpend hv

theorem placeholder (n : Nat) : Threads [n] (Code.placeholder n) := by
  rw [← List.nil_append (Code.placeholder n), ← List.append_nil ([] ++ Code.placeholder n)]
  exact step List.not_mem_nil n nil

/-- A blank text has no placeholders. -/
theorem eq_nil_of_isBlank (h : Threads ns t) (hblank : Text.isBlank t = true) : ns = [] := by
  cases h with
  | plain _ => rfl
  | @step gap t ns hgap n h =>
    have hspace := List.all_eq_true.mp hblank openMark (by simp [openMark_mem_placeholder])
    exact absurd hspace (by decide)

/-- A change of single characters that leaves those of placeholders and brings no opening marks. -/
theorem flatMap {f : Char → Text} (hkeep : ∀ n, ∀ c ∈ Code.placeholder n, f c = [c])
    (hclean : ∀ c, c ≠ openMark → openMark ∉ f c) (h : Threads ns t) :
    Threads ns (t.flatMap f) := by
  have hplain : ∀ u : Text, openMark ∉ u → openMark ∉ u.flatMap f := by
    intro u hu hmem
    obtain ⟨c, hc, hf⟩ := List.mem_flatMap.mp hmem
    refine hclean c ?_ hf
    rintro rfl
    exact hu hc
  induction h with
  | plain h => exact plain (hplain _ h)
  | @step gap t ns hgap n h ih =>
    have hsame : (Code.placeholder n).flatMap f = Code.placeholder n := by
      rw [List.flatMap_congr (hkeep n), List.flatMap_singleton']
    rw [List.flatMap_append, List.flatMap_append, hsame]
    exact step (hplain gap hgap) n ih

/-! ## Trimming -/

/-- What is dropped in front of a text stops at its first placeholder. -/
theorem dropWhile (h : Threads ns t) (p : Char → Bool) (hp : p openMark = false) :
    Threads ns (t.dropWhile p) := by
  cases h with
  | plain h => exact plain fun hmem => h ((List.dropWhile_suffix p).mem hmem)
  | @step gap t ns hgap n h =>
    have hfirst : gap ++ Code.placeholder n ++ t
        = gap ++ openMark :: (label ++ Text.ofNat n ++ [closeMark] ++ t) := by
      simp [Code.placeholder]
    have hback : gap.dropWhile p ++ openMark :: (label ++ Text.ofNat n ++ [closeMark] ++ t)
        = gap.dropWhile p ++ Code.placeholder n ++ t := by
      simp [Code.placeholder]
    rw [hfirst, Text.dropWhile_append_cons hp, hback]
    exact step (fun hmem => hgap ((List.dropWhile_suffix p).mem hmem)) n h

/-- White space behind a text is not part of its thread. -/
theorem of_append_space {w : Text} (hw : ∀ c ∈ w, Text.isSpace c = true) (h : Threads ns (t ++ w)) :
    Threads ns t := by
  generalize hsplit : t ++ w = x at h
  induction h generalizing t with
  | plain h =>
    rw [← hsplit] at h
    exact plain fun hmem => h (List.mem_append_left w hmem)
  | @step gap rest ns hgap n h ih =>
    rcases List.append_eq_append_iff.mp hsplit with ⟨a, hfront, hrest⟩ | ⟨a, hfront, hrest⟩
    · rcases List.eq_nil_or_concat' a with rfl | ⟨b, c, rfl⟩
      · rw [List.append_nil] at hfront
        have hnil := ih (t := []) hrest
        rw [← hfront, ← List.append_nil (gap ++ _)]
        exact step hgap n hnil
      · -- the white space would reach into the placeholder, whose last character shows
        have hlast : closeMark = c := by
          unfold Code.placeholder at hfront
          simp only [← List.append_assoc] at hfront
          exact List.singleton_inj.mp (List.append_inj' hfront rfl).2
        have hspace := hw c (by rw [hrest]; simp)
        rw [← hlast] at hspace
        exact absurd hspace (by decide)
    · rw [hfront]
      exact step hgap n (ih hrest.symm)

theorem trimEnd (h : Threads ns t) : Threads ns (Text.trimEnd t) := by
  obtain ⟨w, hw, hsplit⟩ := Text.exists_trimEnd t
  rw [hsplit] at h
  exact of_append_space hw h

theorem trimStart (h : Threads ns t) : Threads ns (Text.trimStart t) := h.dropWhile Text.isSpace (by decide)

theorem trim (h : Threads ns t) : Threads ns (Text.trim t) := h.trimStart.trimEnd

/-- A text that trims to nothing has no placeholders. -/
theorem eq_nil_of_trim (h : Threads ns t) (htrim : (Text.trim t).isEmpty = true) : ns = [] := by
  have ht := h.trim
  rw [List.isEmpty_iff.mp htrim] at ht
  exact ht.eq_nil_of_isBlank rfl

end Threads

/-! ## Threads as a weave -/

/-- Each item with what stands behind it. -/
def weave (items gaps : List Text) : Text :=
  (List.zipWith (fun item gap => item ++ gap) items gaps).flatten

theorem weave_nil (gaps : List Text) : weave [] gaps = [] := rfl

theorem weave_cons (item gap : Text) (items gaps : List Text) :
    weave (item :: items) (gap :: gaps) = item ++ gap ++ weave items gaps := rfl

/-- A text on a thread is a weave of placeholders, behind what stands in front of them. -/
theorem Threads.exists_weave {ns : List Nat} {t : Text} (h : Threads ns t) :
    ∃ front gaps, gaps.length = ns.length ∧ openMark ∉ front ∧ (∀ gap ∈ gaps, openMark ∉ gap) ∧
      t = front ++ weave (ns.map Code.placeholder) gaps := by
  induction h with
  | @plain t h =>
    refine ⟨t, [], rfl, h, fun _ hmem => (nomatch hmem), ?_⟩
    rw [List.map_nil, weave_nil, List.append_nil]
  | @step gap t ns hgap n h ih =>
    obtain ⟨front, gaps, hlength, hfront, hgaps, ht⟩ := ih
    refine ⟨gap, front :: gaps, by simp [hlength], hgap, ?_, ?_⟩
    · intro other hmem
      rcases List.mem_cons.mp hmem with rfl | hmem
      · exact hfront
      · exact hgaps other hmem
    · rw [List.map_cons, weave_cons, ht]
      simp only [List.append_assoc]

/-- Putting the records in place of the placeholders in a weave. -/
theorem restore_weave {records items : List Text} {k : Nat} (h : records.drop k = items)
    {front : Text} {gaps : List Text} (hlength : gaps.length = items.length)
    (hfront : openMark ∉ front) (hgaps : ∀ gap ∈ gaps, openMark ∉ gap) :
    restore records (front ++ weave ((List.range' k items.length).map placeholder) gaps)
      = front ++ weave items gaps := by
  induction items generalizing k front gaps with
  | nil =>
    show restore records (front ++ weave [] gaps) = _
    rw [weave_nil, List.append_nil, restore_of_not_mem hfront]
  | cons item items ih =>
    cases gaps with
    | nil => cases hlength
    | cons gap gaps =>
      have hrecord : records[k]? = some item := by
        rw [← Nat.add_zero k, ← List.getElem?_drop, h]
        rfl
      have hdrop : records.drop (k + 1) = items := by
        rw [← List.tail_drop, h]
        rfl
      have hrest := ih hdrop (Nat.succ.inj hlength) (hgaps gap List.mem_cons_self)
        fun other hmem => hgaps other (List.mem_cons_of_mem gap hmem)
      rw [List.length_cons, List.range'_succ, List.map_cons, weave_cons, weave_cons,
        List.append_assoc (placeholder k), ← List.append_assoc front, restore_placeholder front _ hrecord,
        restore_of_not_mem hfront, hrest]
      simp only [List.append_assoc]

end Markdown.Code

end ChatScribe
