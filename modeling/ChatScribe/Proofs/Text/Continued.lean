import ChatScribe.Proofs.Text.Ends
import ChatScribe.Proofs.Text.LineEnds

/-!
# Texts with a mark in front of their lines

A text is `Continued` by a mark if each line behind its first one starts with the mark. Such texts can be
put one behind the other wherever they meet, so a text that is made of parts is continued if each part
is. Conversely, a part that ends in the middle of a line is continued if the whole is.
-/

namespace ChatScribe.Text

/-- Does each line but the first start with the mark? -/
def Continued (mark : Char) (t : Text) : Prop := ∀ l ∈ t.lines.tail, l.head? = some mark

instance (mark : Char) (t : Text) : Decidable (Continued mark t) :=
  inferInstanceAs (Decidable (∀ l ∈ t.lines.tail, l.head? = some mark))

section

variable {mark c : Char} {s t : Text}

/-! ## One character in front -/

theorem continued_nil (mark : Char) : Continued mark [] := fun _ hmem => nomatch hmem

theorem continued_cons_of_ne (hc : c ≠ '\n') : Continued mark (c :: t) ↔ Continued mark t := by
  obtain ⟨l, ls, hls⟩ := List.exists_cons_of_ne_nil (lines_ne_nil t)
  unfold Continued
  rw [lines_cons_of_ne hc, hls]
  rfl

/-- Each line starts with the mark if the text does and is continued. -/
theorem forall_lines_iff (hmark : mark ≠ '\n') :
    (∀ l ∈ t.lines, l.head? = some mark) ↔ t.head? = some mark ∧ Continued mark t := by
  cases t with
  | nil => simp [lines, splitOn]
  | cons c t =>
    by_cases hc : c = '\n'
    · subst hc
      rw [lines_newline_cons, List.forall_mem_cons]
      simp [Ne.symm hmark]
    · obtain ⟨l, ls, hls⟩ := List.exists_cons_of_ne_nil (lines_ne_nil t)
      have hlines : lines (c :: t) = (c :: l) :: ls := by
        rw [lines_cons_of_ne hc, hls]
        rfl
      unfold Continued
      rw [hlines, List.forall_mem_cons]
      rfl

theorem continued_newline_cons (hmark : mark ≠ '\n') :
    Continued mark ('\n' :: t) ↔ t.head? = some mark ∧ Continued mark t := by
  rw [← forall_lines_iff hmark]
  rfl

theorem Continued.tail (h : Continued mark (c :: t)) (hmark : mark ≠ '\n') : Continued mark t := by
  by_cases hc : c = '\n'
  · rw [hc] at h
    exact ((continued_newline_cons hmark).mp h).2
  · exact (continued_cons_of_ne hc).mp h

/-! ## Parts -/

theorem Continued.append (hs : Continued mark s) (ht : Continued mark t) (hmark : mark ≠ '\n') :
    Continued mark (s ++ t) := by
  induction s with
  | nil => exact ht
  | cons c s ih =>
    have hrest := ih (hs.tail hmark)
    by_cases hc : c = '\n'
    · subst hc
      have hhead := ((continued_newline_cons hmark).mp hs).1
      have hhead' : (s ++ t).head? = some mark := by
        rw [List.head?_append, hhead, Option.some_or]
      exact (continued_newline_cons hmark).mpr ⟨hhead', hrest⟩
    · exact (continued_cons_of_ne hc).mpr hrest

theorem Continued.of_append_right (h : Continued mark (s ++ t)) (hmark : mark ≠ '\n') :
    Continued mark t := by
  induction s with
  | nil => exact h
  | cons c s ih => exact ih (Continued.tail h hmark)

/-- A part that does not end in a line feed has no line of which the mark is missing. -/
theorem Continued.of_append_left (h : Continued mark (s ++ t)) (hlast : s.getLast? ≠ some '\n')
    (hmark : mark ≠ '\n') : Continued mark s := by
  induction s with
  | nil => exact continued_nil mark
  | cons c s ih =>
    by_cases hs : s = []
    · subst hs
      have hc : c ≠ '\n' := fun heq => hlast (by rw [heq]; rfl)
      exact (continued_cons_of_ne hc).mpr (continued_nil mark)
    · have hrest : Continued mark s := by
        refine ih (Continued.tail h hmark) fun hfeed => hlast ?_
        rw [List.getLast?_cons, hfeed]
        rfl
      by_cases hc : c = '\n'
      · subst hc
        obtain ⟨d, u, rfl⟩ := List.exists_cons_of_ne_nil hs
        exact (continued_newline_cons hmark).mpr ⟨((continued_newline_cons hmark).mp h).1, hrest⟩
      · exact (continued_cons_of_ne hc).mpr hrest

/-! ## Trimming behind -/

theorem EndsShown.getLast?_ne (h : EndsShown t) : t.getLast? ≠ some '\n' := by
  obtain ⟨u, c, rfl, hc⟩ := h
  rw [List.getLast?_concat]
  intro hfeed
  rw [Option.some.inj hfeed] at hc
  cases hc

/-- Trimming stops where something shows. -/
theorem EndsShown.exists_trimEnd_append (h : EndsShown s) (t : Text) :
    ∃ u, trimEnd (s ++ t) = s ++ u := by
  by_cases ht : isBlank t = true
  · refine ⟨[], ?_⟩
    rw [trimEnd_append_of_isBlank ht, trimEnd_of_endsShown h, List.append_nil]
  · exact ⟨trimEnd t, trimEnd_append (Bool.eq_false_iff.mpr ht) s⟩

/-- What is trimmed starts with the first character that shows. -/
theorem exists_trim_eq_cons {w : Text} (hw : isBlank w = true) (hc : isSpace c = false) (t : Text) :
    ∃ u, trim (w ++ c :: t) = c :: u := by
  have hshown : EndsShown [c] := ⟨[], c, rfl, hc⟩
  obtain ⟨u, hu⟩ := hshown.exists_trimEnd_append t
  refine ⟨u, ?_⟩
  have hstart : trimStart (w ++ c :: t) = [c] ++ t := by
    unfold trimStart
    rw [List.dropWhile_append_of_pos (List.all_eq_true.mp hw), List.dropWhile_cons, hc]
    rfl
  rw [trim, hstart, hu]
  rfl

/-- A part that shows at both of its ends is not trimmed away. -/
theorem infix_trim {r : Text} (hc : isSpace c = false) (hend : EndsShown (c :: r))
    (h : c :: r <:+: t) : c :: r <:+: trim t := by
  obtain ⟨u, v, rfl⟩ := h
  have hstart : trimStart (u ++ c :: r ++ v) = trimStart u ++ (c :: r) ++ v := by
    unfold trimStart
    rw [List.append_assoc, List.cons_append, dropWhile_append_cons hc, List.append_assoc,
      List.cons_append]
  obtain ⟨w, hw⟩ := (hend.append (trimStart u)).exists_trimEnd_append v
  rw [trim, hstart, hw]
  exact ⟨trimStart u, w, rfl⟩

/-- What is left of a text when it is trimmed behind is continued if the text is. -/
theorem Continued.trimEnd (h : Continued mark t) (hmark : mark ≠ '\n') :
    Continued mark (Text.trimEnd t) := by
  by_cases hne : Text.trimEnd t = []
  · rw [hne]
    exact continued_nil mark
  · obtain ⟨w, -, hsplit⟩ := exists_trimEnd t
    rw [hsplit] at h
    exact h.of_append_left (endsShown_of_trimEnd_eq hne (trimEnd_trimEnd t)).getLast?_ne hmark

end

end ChatScribe.Text
