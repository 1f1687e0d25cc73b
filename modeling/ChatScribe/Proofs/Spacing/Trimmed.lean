import ChatScribe.Proofs.Spacing.Respaced

/-!
# The two ends of a finished document

Normalising ends with a trim over the whole text. It reaches the first line from the front and the last
one from behind, and white space is prose: no line becomes code by it, and none stops being code.
`markedLines_respace` gives the lines of a finished document with the marks of a scan of its own.
-/

namespace ChatScribe.Markdown

/-- The line, trimmed in front. -/
def Line.trimStart (l : Line) : Line := ⟨l.text.trimStart, l.fenced⟩

/-- The line, trimmed behind. -/
def Line.trimEnd (l : Line) : Line := ⟨l.text.trimEnd, l.fenced⟩

/-- Lines of which the first one is trimmed in front and the last one behind. -/
def trimMarks (ls : List Line) : List Line :=
  (ls.modifyHead Line.trimStart).modifyLast Line.trimEnd

theorem trimMarks_of_eq {l k : Line} {ls init : List Line} (h : l.trimStart :: ls = init ++ [k]) :
    trimMarks (l :: ls) = init ++ [k.trimEnd] := by
  unfold trimMarks
  rw [List.modifyHead_cons, h, List.modifyLast_concat]

/-- A change of lines at both ends that a function on lines does not see. -/
theorem map_trimMarks {α : Type} {f : Line → α} (hstart : ∀ l, f l.trimStart = f l)
    (hend : ∀ l, f l.trimEnd = f l) (ls : List Line) : (trimMarks ls).map f = ls.map f := by
  cases ls with
  | nil => rfl
  | cons l ls =>
    obtain ⟨init, k, h⟩ := (List.eq_nil_or_concat' (l.trimStart :: ls)).resolve_left
      (List.cons_ne_nil _ _)
    have hmap := congrArg (List.map f) h
    rw [List.map_append, List.map_singleton, List.map_cons, hstart] at hmap
    rw [trimMarks_of_eq h, List.map_append, List.map_singleton, hend, List.map_cons, hmap]

theorem map_text_trimMarks (ls : List Line) :
    (trimMarks ls).map Line.text = Text.trimEnds (ls.map Line.text) := by
  cases ls with
  | nil => rfl
  | cons l ls =>
    obtain ⟨init, k, h⟩ := (List.eq_nil_or_concat' (l.trimStart :: ls)).resolve_left
      (List.cons_ne_nil _ _)
    have hmap := congrArg (List.map Line.text) h
    rw [List.map_append, List.map_singleton, List.map_cons] at hmap
    have hends : Text.trimEnds (l.text :: ls.map Line.text)
        = (l.trimStart.text :: ls.map Line.text).modifyLast Text.trimEnd := rfl
    rw [trimMarks_of_eq h, List.map_append, List.map_singleton, List.map_cons, hends, hmap,
      List.modifyLast_concat]
    rfl

/-- White space at the ends of a line does not make it blank or not. -/
theorem isBlankLine_append (s t : Text) :
    isBlankLine (s ++ t) = (isBlankLine s && isBlankLine t) := List.all_append

theorem isBlankLine_of_isSpace {w : Text} (h : ∀ c ∈ w, Text.isSpace c = true) :
    isBlankLine w = true := by
  unfold isBlankLine
  rw [List.all_eq_true]
  intro c hc
  rw [h c hc]
  rfl

theorem Line.shows_trimStart (l : Line) : l.trimStart.shows = l.shows := by
  obtain ⟨w, hw, ht⟩ := Text.exists_trimStart l.text
  have hblank : isBlankLine l.text = isBlankLine l.text.trimStart := by
    conv_lhs => rw [ht]
    rw [isBlankLine_append, isBlankLine_of_isSpace hw, Bool.true_and]
  unfold Line.shows
  rw [hblank]
  rfl

theorem Line.shows_trimEnd (l : Line) : l.trimEnd.shows = l.shows := by
  obtain ⟨w, hw, ht⟩ := Text.exists_trimEnd l.text
  have hblank : isBlankLine l.text = isBlankLine l.text.trimEnd := by
    conv_lhs => rw [ht]
    rw [isBlankLine_append, isBlankLine_of_isSpace hw, Bool.and_true]
  unfold Line.shows
  rw [hblank]
  rfl

theorem fencedFlags_unlines_trimEnd (ls : List Text) {k : Text} (hk : '\n' ∉ k) :
    fencedFlags (Text.unlines (ls ++ [k.trimEnd])) = fencedFlags (Text.unlines (ls ++ [k])) := by
  obtain ⟨w, hw, ht⟩ := Text.exists_trimEnd k
  have hline : '\n' ∉ w := by
    intro hin
    apply hk
    rw [ht]
    exact List.mem_append_right _ hin
  have hsingle : ∀ t : Text, Text.unlines [t] = t := fun _ => rfl
  rw [Text.unlines_append ls (List.cons_ne_nil _ []), Text.unlines_append ls (List.cons_ne_nil _ []),
    hsingle, hsingle]
  conv_rhs => rw [ht, ← List.append_assoc]
  exact (fencedFlags_append_prose _ (tick_not_mem_of_isSpace hw) hline).symm

theorem fencedFlags_unlines_trimStart {l : Text} (hl : '\n' ∉ l) (ls : List Text) :
    fencedFlags (Text.unlines (l.trimStart :: ls)) = fencedFlags (Text.unlines (l :: ls)) := by
  obtain ⟨w, hw, ht⟩ := Text.exists_trimStart l
  have hline : '\n' ∉ w := by
    intro hin
    apply hl
    rw [ht]
    exact List.mem_append_left _ hin
  have hjoin : Text.unlines (l :: ls) = w ++ Text.unlines (l.trimStart :: ls) := by
    conv_lhs => rw [ht]
    cases ls with
    | nil => rfl
    | cons m ms => simp [Text.unlines, Text.join]
  rw [hjoin]
  exact (fencedFlags_prose_append (tick_not_mem_of_isSpace hw) hline _).symm

/-- Trimming the ends of lines leaves all marks: first that of the last line, then that of the first. -/
theorem fencedFlags_unlines_trimEnds {ls : List Text} (hplain : ∀ l ∈ ls, '\n' ∉ l) :
    fencedFlags (Text.unlines (Text.trimEnds ls)) = fencedFlags (Text.unlines ls) := by
  cases ls with
  | nil => rfl
  | cons l ls =>
    have hl : '\n' ∉ l := hplain l List.mem_cons_self
    obtain ⟨init, k, h⟩ := (List.eq_nil_or_concat' (l.trimStart :: ls)).resolve_left
      (List.cons_ne_nil _ _)
    have hends : Text.trimEnds (l :: ls) = init ++ [k.trimEnd] := by
      have hmodify := congrArg (List.modifyLast Text.trimEnd) h
      rw [List.modifyLast_concat] at hmodify
      exact hmodify
    have hk : '\n' ∉ k := by
      have hmem : k ∈ l.trimStart :: ls := by rw [h]; simp
      rcases List.mem_cons.mp hmem with rfl | hmem
      · exact fun hin => hl ((Text.suffix_trimStart l).isInfix.mem hin)
      · exact hplain k (List.mem_cons_of_mem l hmem)
    rw [hends, fencedFlags_unlines_trimEnd init hk, ← h, fencedFlags_unlines_trimStart hl]

theorem spacedLines_ne_nil_iff (t : Text) : spacedLines t ≠ [] ↔ remark (spacedLines t) ≠ [] := by
  have hmap := map_text_remark_spacedLines t
  constructor
  · intro hne hnil
    rw [hnil] at hmap
    exact hne hmap.symm
  · intro hne hnil
    apply hne
    rw [hnil]
    rfl

/-- The marked lines of a finished document: those written, trimmed at the two ends. -/
theorem markedLines_respace {t : Text} (h : spacedLines t ≠ []) :
    markedLines (respace t) = trimMarks (remark (spacedLines t)) := by
  apply eq_of_map_text_eq
  · rw [map_text_markedLines, lines_respace h, map_text_trimMarks, map_text_remark_spacedLines]
  · rw [map_fenced_markedLines, respace_eq_unlines,
      fencedFlags_unlines_trimEnds (newline_not_mem_spacedLines t),
      map_trimMarks (fun _ => rfl) (fun _ => rfl), remark_of_ne_nil h]
    rfl

/-- The first line of a finished document shows. -/
theorem shows_of_head?_trimMarks {t : Text} {k : Line}
    (h : (trimMarks (remark (spacedLines t))).head? = some k) : k.shows = true := by
  have hmap := congrArg List.head?
    (map_trimMarks Line.shows_trimStart Line.shows_trimEnd (remark (spacedLines t)))
  rw [List.head?_map, List.head?_map, h] at hmap
  obtain ⟨m, hm, hmk⟩ := Option.map_eq_some_iff.mp hmap.symm
  rw [remark_spacedLines] at hm
  rw [← hmk]
  exact shows_of_head? hm

/-- The last line of a finished document shows. -/
theorem shows_of_getLast?_trimMarks {t : Text} {k : Line}
    (h : (trimMarks (remark (spacedLines t))).getLast? = some k) : k.shows = true := by
  have hmap := congrArg List.getLast?
    (map_trimMarks Line.shows_trimStart Line.shows_trimEnd (remark (spacedLines t)))
  rw [List.getLast?_map, List.getLast?_map, h] at hmap
  obtain ⟨m, hm, hmk⟩ := Option.map_eq_some_iff.mp hmap.symm
  rw [remark_spacedLines] at hm
  rw [← hmk]
  exact shows_of_getLast? hm

end ChatScribe.Markdown
