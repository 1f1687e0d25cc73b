import ChatScribe.Proofs.Text.Lines
import Mathlib.Data.List.ModifyLast

/-!
# The two ends of lines

Trimming a text that is made of lines reaches only the first and the last of them, if these two show
something: `trim_unlines`.
-/

namespace ChatScribe.Text

/-- Lines of which the first one is trimmed in front and the last one behind. -/
def trimEnds (ls : List Text) : List Text := (ls.modifyHead trimStart).modifyLast trimEnd

@[simp] theorem trimEnds_nil : trimEnds [] = [] := rfl

@[simp] theorem trimEnds_singleton (l : Text) : trimEnds [l] = [trim l] := rfl

theorem trimEnds_cons_concat (l : Text) (ms : List Text) (k : Text) :
    trimEnds (l :: (ms ++ [k])) = trimStart l :: (ms ++ [trimEnd k]) :=
  List.modifyLast_concat trimEnd k (trimStart l :: ms)

/-- Lines are none, one, or a first and a last one with others in between. -/
theorem eq_nil_or_singleton_or_cons_concat (ls : List Text) :
    ls = [] ∨ (∃ l, ls = [l]) ∨ ∃ l ms k, ls = l :: (ms ++ [k]) := by
  cases ls with
  | nil => exact Or.inl rfl
  | cons l ls =>
    rcases List.eq_nil_or_concat' ls with rfl | ⟨ms, k, rfl⟩
    · exact Or.inr (Or.inl ⟨l, rfl⟩)
    · exact Or.inr (Or.inr ⟨l, ms, k, rfl⟩)

theorem length_trimEnds (ls : List Text) : (trimEnds ls).length = ls.length := by
  rcases eq_nil_or_singleton_or_cons_concat ls with rfl | ⟨l, rfl⟩ | ⟨l, ms, k, rfl⟩
  · rfl
  · rfl
  · rw [trimEnds_cons_concat]
    simp

/-- A trimmed line is a part of the line that it was. -/
theorem exists_infix_of_mem_trimEnds {ls : List Text} {l : Text} (h : l ∈ trimEnds ls) :
    ∃ k ∈ ls, l <:+: k := by
  rcases eq_nil_or_singleton_or_cons_concat ls with rfl | ⟨a, rfl⟩ | ⟨a, ms, k, rfl⟩
  · cases h
  · rw [trimEnds_singleton, List.mem_singleton] at h
    exact ⟨a, List.mem_singleton_self a, h ▸ trim_infix a⟩
  · rw [trimEnds_cons_concat, List.mem_cons, List.mem_append, List.mem_singleton] at h
    rcases h with rfl | h | rfl
    · exact ⟨a, List.mem_cons_self, (suffix_trimStart a).isInfix⟩
    · exact ⟨l, by simp [h], List.infix_rfl⟩
    · exact ⟨k, by simp, (prefix_trimEnd k).isInfix⟩

theorem newline_not_mem_trimEnds {ls : List Text} (h : ∀ l ∈ ls, '\n' ∉ l) :
    ∀ l ∈ trimEnds ls, '\n' ∉ l := by
  intro l hl hmem
  obtain ⟨k, hk, hin⟩ := exists_infix_of_mem_trimEnds hl
  exact h k hk (hin.mem hmem)

theorem dropLast_trimEnds (ls : List Text) :
    (trimEnds ls).dropLast = ls.dropLast.modifyHead trimStart := by
  rcases eq_nil_or_singleton_or_cons_concat ls with rfl | ⟨l, rfl⟩ | ⟨l, ms, k, rfl⟩
  · rfl
  · rfl
  · rw [trimEnds_cons_concat, ← List.cons_append, List.dropLast_concat, ← List.cons_append,
      List.dropLast_concat]
    rfl

/-- A trimmed line that is not the last one ends as before. -/
theorem exists_suffix_of_mem_dropLast_trimEnds {ls : List Text} {l : Text}
    (h : l ∈ (trimEnds ls).dropLast) : ∃ k ∈ ls.dropLast, l <:+ k := by
  rw [dropLast_trimEnds] at h
  cases hls : ls.dropLast with
  | nil =>
    rw [hls] at h
    cases h
  | cons k ks =>
    rw [hls, List.modifyHead_cons] at h
    rcases List.mem_cons.mp h with rfl | h
    · exact ⟨k, List.mem_cons_self, suffix_trimStart k⟩
    · exact ⟨l, List.mem_cons_of_mem k h, List.suffix_rfl⟩

/-! ## Trimming what shows -/

theorem exists_split_of_not_isBlank {t : Text} (h : isBlank t = false) :
    ∃ a c b, t = a ++ c :: b ∧ isSpace c = false := by
  unfold isBlank at h
  rw [List.all_eq_false] at h
  obtain ⟨c, hmem, hc⟩ := h
  obtain ⟨a, b, rfl⟩ := List.append_of_mem hmem
  exact ⟨a, c, b, rfl, by simpa using hc⟩

/-- Trimming in front ends in a text that shows something. -/
theorem trimStart_append {s : Text} (h : isBlank s = false) (t : Text) :
    trimStart (s ++ t) = trimStart s ++ t := by
  obtain ⟨a, c, b, rfl, hc⟩ := exists_split_of_not_isBlank h
  unfold trimStart
  rw [List.append_assoc, List.cons_append, dropWhile_append_cons hc, dropWhile_append_cons hc]
  simp

/-- Trimming behind ends in a text that shows something. -/
theorem trimEnd_append {t : Text} (h : isBlank t = false) (s : Text) :
    trimEnd (s ++ t) = s ++ trimEnd t := by
  have hrev : isBlank t.reverse = false := by
    unfold isBlank at h ⊢
    rw [List.all_reverse, h]
  have hstart := trimStart_append hrev s.reverse
  unfold trimStart at hstart
  unfold trimEnd
  rw [List.reverse_append, hstart, List.reverse_append, List.reverse_reverse]

/-- White space behind a text is trimmed away. -/
theorem trimEnd_append_of_isBlank {t : Text} (h : isBlank t = true) (s : Text) :
    trimEnd (s ++ t) = trimEnd s := by
  have hspace : ∀ c ∈ t.reverse, isSpace c = true := fun c hc =>
    List.all_eq_true.mp h c (List.mem_reverse.mp hc)
  unfold trimEnd
  rw [List.reverse_append, List.dropWhile_append_of_pos hspace]

/-- A text whose last character shows is not trimmed behind. -/
theorem trimEnd_concat {c : Char} (hc : isSpace c = false) (s : Text) :
    trimEnd (s ++ [c]) = s ++ [c] := by
  have hshown : isBlank [c] = false := by simp [isBlank, hc]
  rw [trimEnd_append hshown]
  simp [trimEnd, hc]

/-- A text that stays when it is trimmed stays when it is trimmed at one end. -/
theorem trimStart_and_trimEnd_of_trim_eq {t : Text} (h : trim t = t) :
    trimStart t = t ∧ trimEnd t = t := by
  have hend : (trim t).length ≤ (trimStart t).length := (prefix_trimEnd (trimStart t)).length_le
  rw [h] at hend
  have hstart : trimStart t = t := (suffix_trimStart t).eq_of_length_le hend
  refine ⟨hstart, ?_⟩
  rw [trim, hstart] at h
  exact h

/-- Does the text end in a character that shows? -/
def EndsShown (t : Text) : Prop := ∃ s c, t = s ++ [c] ∧ isSpace c = false

theorem EndsShown.append {t : Text} (h : EndsShown t) (s : Text) : EndsShown (s ++ t) := by
  obtain ⟨u, c, rfl, hc⟩ := h
  exact ⟨s ++ u, c, (List.append_assoc s u [c]).symm, hc⟩

theorem EndsShown.isBlank_eq {t : Text} (h : EndsShown t) : isBlank t = false := by
  obtain ⟨s, c, rfl, hc⟩ := h
  simp [isBlank, hc]

theorem trimEnd_of_endsShown {t : Text} (h : EndsShown t) : trimEnd t = t := by
  obtain ⟨s, c, rfl, hc⟩ := h
  exact trimEnd_concat hc s

theorem endsShown_of_trimEnd_eq {t : Text} (hne : t ≠ []) (h : trimEnd t = t) : EndsShown t := by
  rcases List.eq_nil_or_concat' t with hnil | ⟨s, c, rfl⟩
  · exact absurd hnil hne
  · refine ⟨s, c, rfl, ?_⟩
    rw [← Bool.not_eq_true]
    intro hc
    -- with white space at its end the text would get shorter
    have hblank : isBlank [c] = true := by simp [isBlank, hc]
    have hlen := congrArg List.length h
    have hle := (prefix_trimEnd s).length_le
    rw [trimEnd_append_of_isBlank hblank, List.length_append, List.length_singleton] at hlen
    omega

/-- Behind lines that end in what shows, only the last line feed is trimmed. -/
theorem trimEnd_terminated {ls : List Text} (h : ∀ l ∈ ls, EndsShown l) :
    trimEnd (terminated ls) = unlines ls := by
  rcases List.eq_nil_or_concat' ls with rfl | ⟨ms, l, rfl⟩
  · rfl
  · have hfeed : isBlank ['\n'] = true := by decide
    have hl : EndsShown (terminated ms ++ l) := (h l (by simp)).append _
    have hsplit : terminated (ms ++ [l]) = terminated ms ++ l ++ ['\n'] := by simp [terminated]
    rw [hsplit, trimEnd_append_of_isBlank hfeed, trimEnd_of_endsShown hl, unlines_append ms (by simp)]
    rfl

/-- Trimming a text trims the two ends of its lines, if the first and the last of them show
something. -/
theorem trim_unlines {ls : List Text} (hfirst : ∀ l ∈ ls.head?, isBlank l = false)
    (hlast : ∀ l ∈ ls.getLast?, isBlank l = false) : trim (unlines ls) = unlines (trimEnds ls) := by
  rcases eq_nil_or_singleton_or_cons_concat ls with rfl | ⟨l, rfl⟩ | ⟨l, ms, k, rfl⟩
  · rfl
  · rfl
  · have hl : isBlank l = false := hfirst l rfl
    have hk : isBlank k = false := by
      apply hlast
      rw [← List.cons_append, List.getLast?_concat]
      rfl
    have hunlines : ∀ a b : Text, unlines (a :: (ms ++ [b])) = a ++ ('\n' :: terminated ms ++ b) := by
      intro a b
      have happ := unlines_append (a :: ms) (List.cons_ne_nil b [])
      rw [terminated_cons] at happ
      rw [← List.cons_append, happ, List.append_assoc]
      rfl
    rw [trimEnds_cons_concat, hunlines, hunlines]
    unfold trim
    rw [trimStart_append hl, ← List.append_assoc, trimEnd_append hk, List.append_assoc]

end ChatScribe.Text
