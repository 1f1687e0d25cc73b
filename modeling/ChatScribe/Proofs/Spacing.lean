import ChatScribe.Markdown.Spacing
import ChatScribe.Proofs.Fence.Lines

/-!
# Normalising blank lines, piece by piece

`spacedFrom` goes through the lines of a document with one thing in hand: the line written last.
`spacedFrom_append` cuts such a run in two. At the cut only one fact counts, whether the line written
last shows anything, and `LinesClosed.ne_nil_of_getLast?` says that it always does: a blank line is
written only in front of a part that opens or inside of a block, and a block ends in a fence.
-/

namespace ChatScribe.Markdown

/-! ## Line ends -/

/-- The line ends do not matter to backticks. -/
theorem Mode.run_unifyLineEnds (t : Text) (m : Mode) : m.run t.unifyLineEnds = m.run t := by
  fun_induction Text.unifyLineEnds t generalizing m with
  | case1 => rfl
  | case2 r ih =>
    rw [run_cons, run_cons, run_cons, ih, step_of_ne (by decide), step_of_ne (by decide),
      step_of_ne (by decide), pass_pass]
  | case3 c r hc ih => rw [run_cons, run_cons, ih]

theorem isPaired_unifyLineEnds (t : Text) : isPaired t.unifyLineEnds = isPaired t := by
  rw [isPaired_eq_atRest, isPaired_eq_atRest, Mode.run_unifyLineEnds]

/-- A text keeps the line feed at its end. -/
theorem getLast?_unifyLineEnds {t : Text} (h : t.getLast? = some '\n') :
    t.unifyLineEnds.getLast? = some '\n' := by
  obtain ⟨s, rfl⟩ := List.getLast?_eq_some_iff.mp h
  by_cases hs : s.getLast? = some '\r'
  · obtain ⟨r, rfl⟩ := List.getLast?_eq_some_iff.mp hs
    have hsplit : r ++ ['\r'] ++ ['\n'] = r ++ ['\r', '\n'] := by simp
    rw [hsplit, Text.unifyLineEnds_append (Or.inr (by decide)), List.getLast?_append]
    rfl
  · rw [Text.unifyLineEnds_append (Or.inl hs), List.getLast?_append]
    rfl

theorem unifyLineEnds_sublist (t : Text) : t.unifyLineEnds.Sublist t := by
  fun_induction Text.unifyLineEnds t with
  | case1 => exact List.Sublist.refl []
  | case2 r ih => exact (ih.cons_cons '\n').cons '\r'
  | case3 c r hc ih => exact ih.cons_cons c

/-! ## Runs over lines -/

/-- The line written last, once some lines have been gone through. -/
def lastWritten (last : Option Text) (ls : List Line) : Option Text :=
  (spacedFrom last ls).getLast?.or last

theorem getLast?_cons_or {α : Type} (a : α) (as : List α) (o : Option α) :
    ((a :: as).getLast?).or o = as.getLast?.or (some a) := by
  rw [List.getLast?_cons]
  cases as.getLast? <;> rfl

/-- A run over lines can be cut in two; the second half starts with the line written last. -/
theorem spacedFrom_append (last : Option Text) (ls ms : List Line) :
    spacedFrom last (ls ++ ms) = spacedFrom last ls ++ spacedFrom (lastWritten last ls) ms := by
  unfold lastWritten
  induction ls generalizing last with
  | nil => simp [spacedFrom]
  | cons l ls ih =>
    rw [List.cons_append, spacedFrom, spacedFrom]
    by_cases hf : l.fenced = true
    · rw [if_pos hf, if_pos hf, ih, getLast?_cons_or]
      rfl
    · rw [if_neg hf, if_neg hf]
      by_cases hb : isBlankLine l.text = true
      · rw [if_pos hb, if_pos hb, ih]
      · rw [if_neg hb, if_neg hb]
        by_cases ho : (opensPart l.text && last.any fun t => !t.isEmpty) = true
        · rw [if_pos ho, if_pos ho, ih, getLast?_cons_or, getLast?_cons_or]
          rfl
        · rw [if_neg ho, if_neg ho, ih, getLast?_cons_or]
          rfl

/-- The empty line behind the last line feed of a text is not written. -/
theorem spacedFrom_empty (last : Option Text) : spacedFrom last [⟨[], false⟩] = [] := rfl

/-- A line that shows something is written. -/
theorem spacedFrom_cons_ne_nil {l : Line} (h : l.fenced = true ∨ isBlankLine l.text = false)
    (last : Option Text) (ls : List Line) : spacedFrom last (l :: ls) ≠ [] := by
  rw [spacedFrom]
  by_cases hf : l.fenced = true
  · rw [if_pos hf]
    simp
  · rcases h with hf' | hb
    · exact absurd hf' hf
    · rw [if_neg hf, if_neg (by rw [hb]; decide)]
      split <;> simp

/-- The lines of a block are written as they are. -/
theorem spacedFrom_map_fenced (last : Option Text) (ls : List Text) :
    spacedFrom last (ls.map fun l => ⟨l, true⟩) = ls := by
  induction ls generalizing last with
  | nil => rfl
  | cons l ls ih =>
    rw [List.map_cons, spacedFrom, if_pos rfl, ih]

/-- Every line written is empty or a line that was gone through. -/
theorem mem_spacedFrom {last : Option Text} {ls : List Line} {t : Text}
    (h : t ∈ spacedFrom last ls) : t = [] ∨ t ∈ ls.map Line.text := by
  induction ls generalizing last with
  | nil => cases h
  | cons l ls ih =>
    have hrest : ∀ {o : Option Text}, t ∈ l.text :: spacedFrom o ls →
        t = [] ∨ t ∈ (l :: ls).map Line.text := by
      intro o hmem
      rcases List.mem_cons.mp hmem with rfl | hmem
      · exact Or.inr List.mem_cons_self
      · rcases ih hmem with hnil | hmem
        · exact Or.inl hnil
        · exact Or.inr (List.mem_cons_of_mem _ hmem)
    rw [spacedFrom] at h
    by_cases hf : l.fenced = true
    · rw [if_pos hf] at h
      exact hrest h
    · rw [if_neg hf] at h
      by_cases hb : isBlankLine l.text = true
      · rw [if_pos hb] at h
        rcases ih h with hnil | hmem
        · exact Or.inl hnil
        · exact Or.inr (List.mem_cons_of_mem _ hmem)
      · rw [if_neg hb] at h
        split at h
        · rcases List.mem_cons.mp h with hnil | hmem
          · exact Or.inl hnil
          · exact hrest hmem
        · exact hrest h

/-- If nothing is written, all lines are blank. -/
theorem isBlankLine_of_spacedFrom_eq_nil {last : Option Text} {ls : List Line}
    (h : spacedFrom last ls = []) {l : Line} (hl : l ∈ ls) : isBlankLine l.text = true := by
  induction ls generalizing last with
  | nil => cases hl
  | cons k ls ih =>
    have hk : ¬ (k.fenced = true ∨ isBlankLine k.text = false) :=
      fun hshow => spacedFrom_cons_ne_nil hshow last ls h
    rw [not_or, Bool.not_eq_false] at hk
    rcases List.mem_cons.mp hl with rfl | hmem
    · exact hk.2
    · rw [spacedFrom, if_neg hk.1, if_pos hk.2] at h
      exact ih h hmem

/-! ## The line written last -/

/-- Marked characters in which no block ends in a line feed. -/
def BlocksClosed : List (Char × Bool) → Prop
  | [] => True
  | (c, b) :: r => (c = '\n' → b = true → ∃ d s, r = (d, true) :: s) ∧ BlocksClosed r

theorem BlocksClosed.append {xs ys : List (Char × Bool)} (hx : BlocksClosed xs)
    (hy : BlocksClosed ys) : BlocksClosed (xs ++ ys) := by
  induction xs with
  | nil => exact hy
  | cons x xs ih =>
    obtain ⟨c, b⟩ := x
    refine ⟨?_, ih hx.2⟩
    intro hc hb
    obtain ⟨d, s, rfl⟩ := hx.1 hc hb
    exact ⟨d, s ++ ys, rfl⟩

/-- Outside of blocks there is nothing to close. -/
theorem blocksClosed_map_false (t : Text) : BlocksClosed (t.map fun c => (c, false)) := by
  induction t with
  | nil => trivial
  | cons c t ih => exact ⟨fun _ hb => Bool.noConfusion hb, ih⟩

/-- A block that ends in a character other than a line feed is closed. -/
theorem blocksClosed_map_true {c : Char} (hc : c ≠ '\n') (t : Text) :
    BlocksClosed ((t ++ [c]).map fun d => (d, true)) := by
  induction t with
  | nil => exact ⟨fun h _ => absurd h hc, trivial⟩
  | cons d t ih =>
    refine ⟨fun _ _ => ?_, ih⟩
    cases t with
    | nil => exact ⟨c, [], rfl⟩
    | cons e t => exact ⟨e, _, rfl⟩

/-- The blocks of a text are closed: each of them ends in a backtick. -/
theorem blocksClosed_markedChars (t : Text) : BlocksClosed (markedChars t) := by
  unfold markedChars
  induction scan t with
  | nil => trivial
  | cons p ps ih =>
    rw [List.flatMap_cons]
    refine BlocksClosed.append ?_ ih
    cases p with
    | char c => exact blocksClosed_map_false _
    | inline body => exact blocksClosed_map_false _
    | unclosed => exact blocksClosed_map_false _
    | fenced body =>
      by_cases hblock : (Piece.fenced body).isBlock = true
      · have htext : (Piece.fenced body).text = (fenceMark ++ body ++ [tick, tick]) ++ [tick] := by
          simp [Piece.text, fenceMark]
        rw [hblock, htext]
        exact blocksClosed_map_true (by decide) _
      · rw [Bool.not_eq_true] at hblock
        rw [hblock]
        exact blocksClosed_map_false _

/-- Lines in which no block ends in an empty line. -/
def LinesClosed : List Line → Prop
  | [] => True
  | l :: ls => (l.fenced = true → l.text = [] → ∃ m ms, ls = m :: ms ∧ m.fenced = true) ∧
      LinesClosed ls

theorem BlocksClosed.cutLines {xs : List (Char × Bool)} (h : BlocksClosed xs) :
    LinesClosed (cutLines xs) := by
  induction xs with
  | nil => exact ⟨fun hf => Bool.noConfusion hf, trivial⟩
  | cons x xs ih =>
    obtain ⟨c, b⟩ := x
    by_cases hc : c = '\n'
    · subst hc
      rw [cutLines_newline_cons]
      refine ⟨?_, ih h.2⟩
      intro hb _
      obtain ⟨d, s, rfl⟩ := h.1 rfl hb
      by_cases hd : d = '\n'
      · subst hd
        exact ⟨⟨[], true⟩, _, cutLines_newline_cons true s, rfl⟩
      · obtain ⟨l, ls, hl⟩ := List.exists_cons_of_ne_nil (cutLines_ne_nil s)
        exact ⟨_, ls, cutLines_cons_of_ne hd true hl, rfl⟩
    · obtain ⟨l, ls, hl⟩ := List.exists_cons_of_ne_nil (cutLines_ne_nil xs)
      have hrest := ih h.2
      rw [hl] at hrest
      rw [cutLines_cons_of_ne hc b hl]
      exact ⟨fun _ hnil => absurd hnil (List.cons_ne_nil _ _), hrest.2⟩

/-- The line written last is never empty. -/
theorem LinesClosed.ne_nil_of_getLast? {ls : List Line} (h : LinesClosed ls) {last : Option Text}
    {l : Text} (hl : (spacedFrom last ls).getLast? = some l) : l ≠ [] := by
  induction ls generalizing last with
  | nil => cases hl
  | cons k ls ih =>
    have hstep : ∀ {o : Option Text}, k.text ≠ [] ∨ spacedFrom o ls ≠ [] →
        ((k.text :: spacedFrom o ls).getLast?) = some l → l ≠ [] := by
      intro o hne hlast
      cases hs : spacedFrom o ls with
      | nil =>
        rw [hs] at hlast hne
        rcases hne with hne | hne
        · rw [← Option.some.inj hlast]
          exact hne
        · exact absurd rfl hne
      | cons x xs =>
        rw [hs, List.getLast?_cons_cons, ← hs] at hlast
        exact ih h.2 hlast
    rw [spacedFrom] at hl
    by_cases hf : k.fenced = true
    · rw [if_pos hf] at hl
      refine hstep ?_ hl
      by_cases hk : k.text = []
      · -- an empty line inside of a block is followed by a line of that block
        obtain ⟨m, ms, rfl, hm⟩ := h.1 hf hk
        exact Or.inr (spacedFrom_cons_ne_nil (Or.inl hm) _ ms)
      · exact Or.inl hk
    · rw [if_neg hf] at hl
      by_cases hb : isBlankLine k.text = true
      · rw [if_pos hb] at hl
        exact ih h.2 hl
      · have hk : k.text ≠ [] := by
          intro hnil
          rw [hnil] at hb
          exact hb rfl
        rw [if_neg hb] at hl
        split at hl
        · rw [List.getLast?_cons_cons] at hl
          exact hstep (Or.inl hk) hl
        · exact hstep (Or.inl hk) hl

/-- The line that a document ends in shows something. -/
theorem ne_nil_of_getLast?_spacedLines {t l : Text} (h : (spacedLines t).getLast? = some l) :
    l ≠ [] :=
  LinesClosed.ne_nil_of_getLast? (blocksClosed_markedChars t.unifyLineEnds).cutLines h

/-! ## Documents -/

/-- Every line of a document is empty or a line of the text that it was made from. -/
theorem mem_spacedLines {t l : Text} (h : l ∈ spacedLines t) :
    l = [] ∨ l ∈ Text.lines t.unifyLineEnds := by
  have hmem := mem_spacedFrom h
  rw [map_text_markedLines] at hmem
  exact hmem

/-- A block that stands in a finished document stands in its lines: the line of its code follows one
that is not empty. -/
theorem spacedLines_of_fencedText_infix {t body : Text} (hline : '\n' ∉ body)
    (h : fencedText body <:+: respace t) :
    ∃ before after, spacedLines t = before ++ body :: after ∧ before.getLast? ≠ some [] := by
  obtain ⟨u, v, huv⟩ := h.trans (Text.trim_infix _)
  have hne : spacedLines t ≠ [] := by
    intro hnil
    rw [hnil] at huv
    have hlen := congrArg List.length huv
    simp [fencedText, Text.unlines, Text.join] at hlen
  -- no line holds a line feed, so the lines are found again in the document
  have hplain : ∀ l ∈ spacedLines t, '\n' ∉ l := by
    intro l hl
    rcases mem_spacedLines hl with rfl | hmem
    · exact List.not_mem_nil
    · exact Text.not_mem_of_mem_lines hmem
  have hlines : spacedLines t = Text.lines (u ++ fenceMark) ++ (body :: Text.lines (fenceMark ++ v)) := by
    rw [← Text.lines_unlines hne hplain, ← huv]
    have hcut : u ++ fencedText body ++ v
        = (u ++ fenceMark) ++ '\n' :: (body ++ '\n' :: (fenceMark ++ v)) := by
      simp [fencedText]
    rw [hcut, Text.lines_append_newline, Text.lines_append_newline, Text.lines_of_not_mem hline]
    rfl
  refine ⟨_, _, hlines, ?_⟩
  intro hlast
  obtain ⟨ls, hls⟩ := List.getLast?_eq_some_iff.mp hlast
  -- a text whose last line is empty ends in a line feed, or is empty
  have hend := Text.unlines_lines (u ++ fenceMark)
  rw [hls, Text.unlines_append _ (List.cons_ne_nil _ _)] at hend
  have hterm : Text.terminated ls = u ++ fenceMark := by
    rw [← hend]
    exact (List.append_nil _).symm
  rcases Text.getLast?_terminated ls with hnil | hlf
  · rw [hnil] at hterm
    have hlen := congrArg List.length hterm
    simp [fenceMark] at hlen
  · rw [hterm, List.getLast?_append] at hlf
    exact absurd (Option.some.inj hlf) (by decide)

/-- Behind a paired text that ends its line the normalisation goes on with the line written last, and
needs nothing else of what stands in front. -/
theorem spacedLines_append {u : Text} (v : Text) (hu : isPaired u = true)
    (hend : u.getLast? = some '\n') :
    spacedLines (u ++ v)
      = spacedLines u ++ spacedFrom (spacedLines u).getLast? (markedLines v.unifyLineEnds) := by
  have hunify : (u ++ v).unifyLineEnds = u.unifyLineEnds ++ v.unifyLineEnds :=
    Text.unifyLineEnds_append (Or.inl (by rw [hend]; decide))
  have hpaired : isPaired u.unifyLineEnds = true := by rw [isPaired_unifyLineEnds, hu]
  have hlast : u.unifyLineEnds.getLast? = some '\n' := getLast?_unifyLineEnds hend
  -- the lines of `u` are those in front of `v`, and an empty line behind the last line feed
  have hlines : markedLines u.unifyLineEnds
      = (markedLines u.unifyLineEnds).dropLast ++ [⟨[], false⟩] := by
    have happ := markedLines_append [] hpaired (Or.inr hlast)
    rw [List.append_nil, markedLines_nil] at happ
    exact happ
  have hwhole : spacedLines u = spacedFrom none (markedLines u.unifyLineEnds).dropLast := by
    unfold spacedLines
    conv_lhs => rw [hlines]
    rw [spacedFrom_append, spacedFrom_empty, List.append_nil]
  rw [hwhole]
  unfold spacedLines
  rw [hunify, markedLines_append _ hpaired (Or.inr hlast), spacedFrom_append]
  unfold lastWritten
  rw [Option.or_none]

/-- The end of a block keeps its line feeds apart from the line ends that follow. -/
theorem unifyLineEnds_fencedText {body : Text} (hbody : '\r' ∉ body) (r : Text) :
    (fencedText body ++ r).unifyLineEnds = fencedText body ++ r.unifyLineEnds := by
  have hnone : '\r' ∉ fencedText body := by
    have hmark : '\r' ∉ fenceMark := by decide
    unfold fencedText
    simp [hbody, hmark]
  have hlast : (fencedText body).getLast? = some tick := by
    unfold fencedText
    rw [List.getLast?_append]
    rfl
  rw [Text.unifyLineEnds_append (Or.inl (by rw [hlast]; decide)),
    Text.unifyLineEnds_of_not_mem hnone]

/-- A block behind a paired text stands in the finished document as it is. -/
theorem fencedText_infix_respace {u body r : Text} (hu : isPaired u = true)
    (hend : u.getLast? = some '\n') (hbody : ¬ fenceMark <:+: body) (hreturn : '\r' ∉ body)
    (hr : r.head? = some '\n') : fencedText body <:+: respace (u ++ (fencedText body ++ r)) := by
  have hblock : r.unifyLineEnds.head? = some '\n' := by
    cases r with
    | nil => cases hr
    | cons c r =>
      obtain rfl := Option.some.inj hr
      rw [Text.unifyLineEnds.eq_3 '\n' r (by intro _ hc; cases hc)]
      rfl
  have hlines : spacedLines (u ++ (fencedText body ++ r))
      = spacedLines u ++ (Text.lines (fencedText body) ++
          spacedFrom (lastWritten (spacedLines u).getLast?
            ((Text.lines (fencedText body)).map fun l => ⟨l, true⟩)) (linesBehind r.unifyLineEnds)) := by
    rw [spacedLines_append _ hu hend, unifyLineEnds_fencedText hreturn,
      markedLines_fencedText hbody (Or.inr hblock), spacedFrom_append, spacedFrom_map_fenced]
  have hne := Text.lines_ne_nil (fencedText body)
  obtain ⟨after, hafter⟩ : ∃ after, Text.unlines (spacedLines (u ++ (fencedText body ++ r)))
      = Text.terminated (spacedLines u) ++ fencedText body ++ after := by
    rw [hlines, Text.unlines_append _ (by simp [hne])]
    cases hrest : spacedFrom (lastWritten (spacedLines u).getLast?
        ((Text.lines (fencedText body)).map fun l => ⟨l, true⟩)) (linesBehind r.unifyLineEnds) with
    | nil =>
      refine ⟨[], ?_⟩
      rw [List.append_nil, List.append_nil, Text.unlines_lines]
    | cons l ls =>
      refine ⟨'\n' :: Text.unlines (l :: ls), ?_⟩
      rw [Text.unlines_append_unlines hne (List.cons_ne_nil l ls), Text.unlines_lines,
        List.append_assoc]
  unfold respace
  rw [hafter, fencedText_eq_ticks, Text.trim_append_append (by decide) (by decide)]
  exact ⟨_, _, rfl⟩

end ChatScribe.Markdown
