import ChatScribe.Proofs.Spacing.Rescan
import Mathlib.Data.List.Chain

/-!
# Normalising loses nothing and places gaps exactly

`respaced_spacedLines` is the whole contract of the pass over blank lines, told by the marks that a
fresh scan gives to its output. Code is kept line by line, and so is each line that shows something. A
blank line is left only as an empty line in front of a line that opens a part, and each such line but
the first one of the document has one. Trimming at the end touches the first and the last line only.
-/

namespace ChatScribe.Markdown

/-- A line that is kept: code, or a line that is not blank. -/
def Line.shows (l : Line) : Bool := l.fenced || !isBlankLine l.text

/-- Lines `os` that are the lines `ls` with blank lines put in order. -/
structure Respaced (ls os : List Line) : Prop where
  /-- Code is kept line by line, and nothing else became code. -/
  fenced_eq : os.filter Line.fenced = ls.filter Line.fenced
  /-- All that shows is kept. -/
  shows_eq : os.filter Line.shows = ls.filter Line.shows
  /-- A blank line is empty, and the next line opens a part. -/
  gap_opens : ∀ front l back, os = front ++ l :: back → l.shows = false →
    l.text = [] ∧ ∃ m rest, back = m :: rest ∧ m.fenced = false ∧ opensPart m.text = true
  /-- In front of a line that opens a part is an empty line, and in front of that is none. -/
  opens_gap : ∀ front l back, os = front ++ l :: back → front ≠ [] → l.fenced = false →
    opensPart l.text = true → ∃ rest k, front = rest ++ [k, ⟨[], false⟩] ∧ k.text ≠ []

/-! ## Lines that are kept -/

theorem Line.shows_of_fenced {l : Line} (h : l.fenced = true) : l.shows = true := by
  unfold Line.shows
  rw [h, Bool.true_or]

theorem Line.shows_of_not_blank {l : Line} (h : ¬ isBlankLine l.text = true) : l.shows = true := by
  unfold Line.shows
  rw [Bool.not_eq_true] at h
  rw [h, Bool.not_false, Bool.or_true]

theorem Line.shows_eq_false {l : Line} (hf : ¬ l.fenced = true) (hb : isBlankLine l.text = true) :
    l.shows = false := by
  unfold Line.shows
  rw [Bool.not_eq_true] at hf
  rw [hf, hb]
  rfl

/-- An empty line that is no code does not show. -/
theorem shows_gap : (⟨[], false⟩ : Line).shows = false := rfl

/-- What can become of the first line to be read: it is dropped, or written, or written behind an empty
line. -/
theorem spacedMarks_cases (last : Option Text) (l : Line) (ls : List Line) :
    (l.shows = false ∧ spacedMarks last (l :: ls) = spacedMarks last ls) ∨
    (l.shows = true ∧ (l.fenced = true ∨ opensPart l.text = false ∨ last.any (!·.isEmpty) = false) ∧
      spacedMarks last (l :: ls) = l :: spacedMarks (some l.text) ls) ∨
    (l.shows = true ∧ l.fenced = false ∧ opensPart l.text = true ∧ last.any (!·.isEmpty) = true ∧
      spacedMarks last (l :: ls) = ⟨[], false⟩ :: l :: spacedMarks (some l.text) ls) := by
  rw [spacedMarks]
  by_cases hf : l.fenced = true
  · rw [if_pos hf]
    exact Or.inr (Or.inl ⟨Line.shows_of_fenced hf, Or.inl hf, rfl⟩)
  · rw [if_neg hf]
    by_cases hb : isBlankLine l.text = true
    · rw [if_pos hb]
      exact Or.inl ⟨Line.shows_eq_false hf hb, rfl⟩
    · rw [if_neg hb]
      have hshows := Line.shows_of_not_blank hb
      by_cases hopens : (opensPart l.text && last.any (!·.isEmpty)) = true
      · rw [if_pos hopens]
        rw [Bool.and_eq_true] at hopens
        exact Or.inr (Or.inr ⟨hshows, by simpa using hf, hopens.1, hopens.2, rfl⟩)
      · rw [if_neg hopens]
        rw [Bool.and_eq_true, not_and_or, Bool.not_eq_true, Bool.not_eq_true] at hopens
        exact Or.inr (Or.inl ⟨hshows, Or.inr hopens, rfl⟩)

/-- Whatever is picked from the lines that show is the same before and after. -/
theorem filter_spacedMarks {p : Line → Bool} (hp : ∀ l, p l = true → l.shows = true)
    (last : Option Text) (ls : List Line) : (spacedMarks last ls).filter p = ls.filter p := by
  have hdrop : ∀ {l : Line} {ms : List Line}, l.shows = false → (l :: ms).filter p = ms.filter p := by
    intro l ms hl
    apply List.filter_cons_of_neg
    intro hpl
    rw [hp l hpl] at hl
    cases hl
  induction ls generalizing last with
  | nil => rfl
  | cons l ls ih =>
    rcases spacedMarks_cases last l ls with ⟨hl, heq⟩ | ⟨-, -, heq⟩ | ⟨-, -, -, -, heq⟩
    · rw [heq, ih, hdrop hl]
    · rw [heq, List.filter_cons, List.filter_cons, ih]
    · rw [heq, hdrop shows_gap, List.filter_cons, List.filter_cons, ih]

/-! ## Gaps

What is said about gaps is said about neighbours, so it is proved along the lines that are written, with
the line written last in front of those still to be read. -/

/-- What holds of two lines that are written one after the other. -/
structure Neighbours (l m : Line) : Prop where
  gap_opens : l.shows = false → l.text = [] ∧ m.fenced = false ∧ opensPart m.text = true
  opens_gap : m.fenced = false → opensPart m.text = true → l = ⟨[], false⟩
  text_before_gap : m.shows = false → l.text ≠ []

/-- A line that shows and is empty stands in a block that goes on. -/
theorem fenced_of_text_eq_nil {l : Line} (hl : l.shows = true) (hnil : l.text = []) :
    l.fenced = true := by
  by_contra hf
  rw [Line.shows_eq_false hf (by rw [hnil]; rfl)] at hl
  cases hl

theorem Neighbours.of_shows {l m : Line} (hl : l.shows = true) (hm : m.shows = true)
    (h : m.fenced = true ∨ opensPart m.text = false) : Neighbours l m := by
  refine ⟨?_, ?_, ?_⟩
  · intro hno
    rw [hl] at hno
    cases hno
  · intro hf hopens
    rw [hf, hopens] at h
    rcases h with h | h <;> cases h
  · intro hno
    rw [hm] at hno
    cases hno

/-- The lines written behind a line that shows. -/
theorem isChain_spacedMarks_some {l : Line} {ls : List Line} (hl : l.shows = true)
    (hclosed : LinesClosed (l :: ls)) :
    (l :: spacedMarks (some l.text) ls).IsChain Neighbours := by
  induction ls generalizing l with
  | nil => exact List.isChain_singleton l
  | cons m ls ih =>
    rcases spacedMarks_cases (some l.text) m ls with
      ⟨hm, heq⟩ | ⟨hm, hwhy, heq⟩ | ⟨hm, hf, hopens, hany, heq⟩
    · -- a line is dropped outside of blocks only
      have hrest : LinesClosed (l :: ls) := by
        refine ⟨?_, hclosed.2.2⟩
        intro hlf hnil
        obtain ⟨k, ks, hks, hk⟩ := hclosed.1 hlf hnil
        rw [← (List.cons.inj hks).1] at hk
        rw [Line.shows_of_fenced hk] at hm
        cases hm
      rw [heq]
      exact ih hl hrest
    · have hplain : m.fenced = true ∨ opensPart m.text = false := by
        rcases hwhy with hmf | hno | hany
        · exact Or.inl hmf
        · exact Or.inr hno
        · -- behind an empty line that shows, a block goes on
          have hnil : l.text = [] := by simpa using hany
          obtain ⟨k, ks, hks, hk⟩ := hclosed.1 (fenced_of_text_eq_nil hl hnil) hnil
          rw [← (List.cons.inj hks).1] at hk
          exact Or.inl hk
      rw [heq, List.isChain_cons_cons]
      exact ⟨Neighbours.of_shows hl hm hplain, ih hm hclosed.2⟩
    · have hne : l.text ≠ [] := by simpa using hany
      have hgap : Neighbours l ⟨[], false⟩ := by
        refine ⟨?_, ?_, fun _ => hne⟩
        · intro hno
          rw [hl] at hno
          cases hno
        · intro _ hno
          cases hno
      have hbehind : Neighbours ⟨[], false⟩ m := by
        refine ⟨fun _ => ⟨rfl, hf, hopens⟩, fun _ _ => rfl, ?_⟩
        intro hno
        rw [hm] at hno
        cases hno
      rw [heq, List.isChain_cons_cons, List.isChain_cons_cons]
      exact ⟨hgap, hbehind, ih hm hclosed.2⟩

/-- A document begins with the first line that shows. -/
theorem spacedMarks_none_cases (ls : List Line) :
    spacedMarks none ls = [] ∨ ∃ front l rest, ls = front ++ l :: rest ∧ l.shows = true ∧
      spacedMarks none ls = l :: spacedMarks (some l.text) rest := by
  induction ls with
  | nil => exact Or.inl rfl
  | cons m ls ih =>
    rcases spacedMarks_cases none m ls with ⟨-, heq⟩ | ⟨hm, -, heq⟩ | ⟨-, -, -, hany, -⟩
    · rw [heq]
      rcases ih with hnil | ⟨front, l, rest, rfl, hl, hrest⟩
      · exact Or.inl hnil
      · exact Or.inr ⟨m :: front, l, rest, rfl, hl, hrest⟩
    · exact Or.inr ⟨[], m, ls, rfl, hm, heq⟩
    · cases hany

theorem isChain_spacedMarks_none {ls : List Line} (h : LinesClosed ls) :
    (spacedMarks none ls).IsChain Neighbours := by
  rcases spacedMarks_none_cases ls with hnil | ⟨front, l, rest, rfl, hl, heq⟩
  · rw [hnil]
    exact List.IsChain.nil
  · rw [heq]
    exact isChain_spacedMarks_some hl h.of_append

/-- The first line of a document shows. -/
theorem shows_of_head? {ls : List Line} {l : Line} (h : (spacedMarks none ls).head? = some l) :
    l.shows = true := by
  rcases spacedMarks_none_cases ls with hnil | ⟨front, k, rest, rfl, hk, heq⟩
  · rw [hnil] at h
    cases h
  · rw [heq] at h
    rw [← Option.some.inj h]
    exact hk

/-- The last line written shows. -/
theorem shows_of_getLast? {last : Option Text} {ls : List Line} {l : Line}
    (h : (spacedMarks last ls).getLast? = some l) : l.shows = true := by
  induction ls generalizing last with
  | nil => cases h
  | cons m ls ih =>
    have hstep : m.shows = true → (m :: spacedMarks (some m.text) ls).getLast? = some l →
        l.shows = true := by
      intro hm hlast
      rw [List.getLast?_cons] at hlast
      cases hrest : (spacedMarks (some m.text) ls).getLast? with
      | none =>
        rw [hrest] at hlast
        rw [← Option.some.inj hlast]
        exact hm
      | some k =>
        rw [hrest] at hlast
        obtain rfl := Option.some.inj hlast
        exact ih hrest
    rcases spacedMarks_cases last m ls with ⟨-, heq⟩ | ⟨hm, -, heq⟩ | ⟨hm, -, -, -, heq⟩
    · exact ih (heq ▸ h)
    · exact hstep hm (heq ▸ h)
    · rw [heq, List.getLast?_cons_cons] at h
      exact hstep hm h

/-- The lines of a document are the lines it is made from, with blank lines put in order. -/
theorem respaced_spacedMarks {ls : List Line} (h : LinesClosed ls) :
    Respaced ls (spacedMarks none ls) := by
  have hchain := isChain_spacedMarks_none h
  refine ⟨filter_spacedMarks (fun l hl => Line.shows_of_fenced hl) none ls,
    filter_spacedMarks (fun l hl => hl) none ls, ?_, ?_⟩
  · intro front l back heq hl
    cases back with
    | nil =>
      have hlast : (spacedMarks none ls).getLast? = some l := by
        rw [heq, List.getLast?_concat]
      rw [shows_of_getLast? hlast] at hl
      cases hl
    | cons m rest =>
      rw [heq, List.isChain_append_cons_cons] at hchain
      obtain ⟨hnil, hf, hopens⟩ := hchain.2.1.gap_opens hl
      exact ⟨hnil, m, rest, rfl, hf, hopens⟩
  · intro front l back heq hfront hf hopens
    obtain ⟨init, g, rfl⟩ := (List.eq_nil_or_concat' front).resolve_left hfront
    rw [List.append_assoc] at heq
    have hgap : g = ⟨[], false⟩ := by
      rw [heq] at hchain
      exact (List.isChain_append_cons_cons.mp hchain).2.1.opens_gap hf hopens
    rcases List.eq_nil_or_concat' init with rfl | ⟨rest, k, rfl⟩
    · -- a gap is not the first line
      have hfirst : (spacedMarks none ls).head? = some g := by rw [heq]; rfl
      have hshows := shows_of_head? hfirst
      rw [hgap] at hshows
      cases hshows
    · refine ⟨rest, k, by simp [hgap], ?_⟩
      rw [heq, List.append_assoc] at hchain
      apply (List.isChain_append_cons_cons.mp hchain).2.1.text_before_gap
      rw [hgap, shows_gap]

/-! ## Documents -/

/-- The line at either end of a document shows a character, so trimming ends there. -/
theorem isBlank_eq_false_of_shows {l : Line} (hl : l.shows = true)
    (hfenced : l.fenced = true → tick ∈ l.text) : Text.isBlank l.text = false := by
  rw [← Bool.not_eq_true]
  intro hblank
  have hall := List.all_eq_true.mp hblank
  by_cases hf : l.fenced = true
  · exact absurd (hall tick (hfenced hf)) (by decide)
  · have hline : isBlankLine l.text = true := by
      unfold isBlankLine
      rw [List.all_eq_true]
      intro c hc
      rw [hall c hc]
      rfl
    rw [Line.shows_eq_false hf hline] at hl
    cases hl

/-- A block that begins in the first line begins with a backtick. -/
theorem SelfMarked.tick_mem_head {l : Line} {ls : List Line} (h : SelfMarked (l :: ls))
    (hl : l.fenced = true) : tick ∈ l.text := by
  by_contra ht
  have hplain : '\n' ∉ l.text := h.newline_not_mem l.text List.mem_cons_self
  rw [selfMarked_iff (List.cons_ne_nil l ls), List.map_cons] at h
  have hmark : ∃ ms, l :: ls = ⟨l.text, false⟩ :: ms := by
    cases ls with
    | nil => exact ⟨[], h.symm.trans (markedLines_prose hplain ht)⟩
    | cons m ms =>
      have hjoin : Text.unlines (l.text :: (m :: ms).map Line.text)
          = l.text ++ '\n' :: Text.unlines ((m :: ms).map Line.text) :=
        Text.unlines_append_unlines (List.cons_ne_nil l.text []) (by simp)
      rw [hjoin, markedLines_line _ hplain ht] at h
      exact ⟨_, h.symm⟩
  obtain ⟨ms, hms⟩ := hmark
  rw [(List.cons.inj hms).1] at hl
  cases hl

/-- A block that ends in the last line ends with a backtick. -/
theorem SelfMarked.tick_mem_last {l : Line} {ls : List Line} (h : SelfMarked (ls ++ [l]))
    (hl : l.fenced = true) : tick ∈ l.text := by
  by_contra ht
  have hplain : '\n' ∉ l.text := h.newline_not_mem l.text (by simp)
  rw [selfMarked_iff (by simp), List.map_append, List.map_singleton] at h
  have hmark : ∃ ms, ls ++ [l] = ms ++ [⟨l.text, false⟩] := by
    by_cases hls : ls = []
    · rw [hls] at h ⊢
      exact ⟨[], h.symm.trans (markedLines_prose hplain ht)⟩
    · have hjoin : Text.unlines (ls.map Line.text ++ [l.text])
          = Text.unlines (ls.map Line.text) ++ '\n' :: l.text :=
        Text.unlines_append_unlines (by simpa using hls) (List.cons_ne_nil l.text [])
      rw [hjoin, markedLines_append_prose hplain ht] at h
      exact ⟨_, h.symm⟩
  obtain ⟨ms, hms⟩ := hmark
  have hline := (List.append_inj' hms rfl).2
  rw [List.singleton_inj.mp hline] at hl
  cases hl

theorem selfMarked_remark_spacedLines (t : Text) : SelfMarked (remark (spacedLines t)) := by
  unfold SelfMarked
  rw [remark_spacedLines, map_text_spacedMarks]
  exact remark_spacedLines t

theorem map_text_remark_spacedLines (t : Text) :
    (remark (spacedLines t)).map Line.text = spacedLines t := by
  rw [remark_spacedLines, map_text_spacedMarks]
  rfl

theorem newline_not_mem_spacedLines (t : Text) : ∀ l ∈ spacedLines t, '\n' ∉ l := by
  rw [← map_text_remark_spacedLines]
  exact (selfMarked_remark_spacedLines t).newline_not_mem

/-- Trimming the document trims its first and its last line. -/
theorem respace_eq_unlines (t : Text) :
    respace t = Text.unlines (Text.trimEnds (spacedLines t)) := by
  have hself := selfMarked_remark_spacedLines t
  apply Text.trim_unlines
  · intro l hl
    rw [← map_text_remark_spacedLines, List.head?_map] at hl
    obtain ⟨k, hk, rfl⟩ := Option.map_eq_some_iff.mp hl
    obtain ⟨ks, hks⟩ := List.head?_eq_some_iff.mp hk
    rw [hks] at hself
    rw [remark_spacedLines] at hk
    exact isBlank_eq_false_of_shows (shows_of_head? hk) hself.tick_mem_head
  · intro l hl
    rw [← map_text_remark_spacedLines, List.getLast?_map] at hl
    obtain ⟨k, hk, rfl⟩ := Option.map_eq_some_iff.mp hl
    obtain ⟨ks, hks⟩ := List.getLast?_eq_some_iff.mp hk
    rw [hks] at hself
    rw [remark_spacedLines] at hk
    exact isBlank_eq_false_of_shows (shows_of_getLast? hk) hself.tick_mem_last

theorem lines_respace {t : Text} (h : spacedLines t ≠ []) :
    Text.lines (respace t) = Text.trimEnds (spacedLines t) := by
  have hne : Text.trimEnds (spacedLines t) ≠ [] := by
    rw [← List.length_pos_iff, Text.length_trimEnds]
    exact List.length_pos_iff.mpr h
  rw [respace_eq_unlines]
  exact Text.lines_unlines hne (Text.newline_not_mem_trimEnds (newline_not_mem_spacedLines t))

/-- Normalising a document loses nothing and places gaps exactly. Its lines, marked by a scan of their
own, are those of the text with blank lines put in order, and trimming touches no line but the first
and the last. -/
theorem respaced_spacedLines {t : Text} (h : '\r' ∉ t) :
    (remark (spacedLines t)).map Line.text = spacedLines t ∧
      Respaced (markedLines t) (remark (spacedLines t)) ∧
      respace t = Text.unlines (Text.trimEnds (spacedLines t)) ∧
      (spacedLines t ≠ [] → Text.lines (respace t) = Text.trimEnds (spacedLines t)) := by
  have hlines : remark (spacedLines t) = spacedMarks none (markedLines t) := by
    rw [remark_spacedLines, Text.unifyLineEnds_of_not_mem h]
  refine ⟨map_text_remark_spacedLines t, ?_, respace_eq_unlines t, lines_respace⟩
  rw [hlines]
  exact respaced_spacedMarks (linesClosed_markedLines t)

/-- A block with blank lines and a heading in it, between two lines that open a part. -/
theorem respaced_spacedLines_of_block :
    let t := "a\n\n\n# b \n\x60\x60\x60\n\n\n# c\n\x60\x60\x60\n \n---".toList
    '\r' ∉ t ∧ Respaced (markedLines t) (remark (spacedLines t)) ∧
      (remark (spacedLines t)).map Line.text
        = Text.lines "a\n\n# b \n\x60\x60\x60\n\n\n# c\n\x60\x60\x60\n\n---".toList ∧
      (remark (spacedLines t)).map Line.fenced
        = [false, false, false, true, true, true, true, true, false, false] := by
  intro t
  have hreturn : '\r' ∉ t := by decide +kernel
  obtain ⟨hlines, hrespaced, -, -⟩ := respaced_spacedLines hreturn
  refine ⟨hreturn, hrespaced, ?_, ?_⟩
  · rw [hlines]
    decide +kernel
  · decide +kernel

end ChatScribe.Markdown
