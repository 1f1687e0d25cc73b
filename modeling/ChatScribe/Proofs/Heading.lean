import ChatScribe.Markdown.Heading
import ChatScribe.Proofs.Fence.Lines

/-!
# What demoting headings leaves alone

`demote` works line by line: `demote_eq_demotionShift` gives it one shift for all lines. A line that is
moved down only gets more hashes. Hashes are neither backticks nor line feeds, so the scan for backticks
does not see the difference, nor does any other function that `IgnoresHashes`, and the lines of a block
that is found as one are not touched at all (`demote_fencedText`).
-/

namespace ChatScribe.Markdown

/-! ## One heading -/

/-- A heading that was read is the line it was read from. -/
theorem render_of_headingLine? {line : Text} {h : HeadingLine} (hl : headingLine? line = some h) :
    line = h.render ∧ 1 ≤ h.level ∧ h.level ≤ maxLevel := by
  unfold headingLine? at hl
  dsimp only at hl
  split at hl
  · rename_i hlevel
    obtain ⟨hone, hmax, -⟩ := hlevel
    obtain rfl := Option.some.inj hl
    refine ⟨?_, hone, hmax⟩
    have hhashes : List.replicate ((line.dropWhile isIndent).takeWhile (· == '#')).length '#'
        = (line.dropWhile isIndent).takeWhile (· == '#') := by
      symm
      rw [List.eq_replicate_iff]
      refine ⟨rfl, ?_⟩
      intro c hc
      exact beq_iff_eq.mp (List.all_eq_true.mp List.all_takeWhile c hc)
    show line = line.takeWhile isIndent ++ List.replicate _ '#' ++ _
    rw [hhashes, List.append_assoc, List.takeWhile_append_dropWhile,
      List.takeWhile_append_dropWhile]
  · cases hl

/-- Moving a heading by no level leaves it where it is. -/
theorem HeadingLine.shifted_zero {h : HeadingLine} (hmax : h.level ≤ maxLevel) :
    h.shifted 0 = h := by
  unfold HeadingLine.shifted
  rw [Nat.add_zero, Nat.min_eq_left hmax]

/-- A line is demoted by putting more hashes into it, or not changed. -/
theorem demoted_cases (shift : Nat) (l : Line) :
    l.demoted shift = l.text ∨ ∃ u v : Text, ∃ j k : Nat, l.text = u ++ List.replicate (j + 1) '#' ++ v ∧
      l.demoted shift = u ++ List.replicate (k + 1) '#' ++ v := by
  unfold Line.demoted
  by_cases hf : l.fenced = true
  · left
    rw [if_pos hf]
  · rw [if_neg hf]
    cases hh : headingLine? l.text with
    | none =>
      left
      rfl
    | some h =>
      right
      obtain ⟨htext, hone, hmax⟩ := render_of_headingLine? hh
      refine ⟨h.indent, h.rest, h.level - 1, min (h.level + shift) maxLevel - 1, ?_, ?_⟩
      · rw [Nat.sub_add_cancel hone]
        exact htext
      · have hpos : 1 ≤ min (h.level + shift) maxLevel := by
          unfold maxLevel
          omega
        rw [Nat.sub_add_cancel hpos]
        rfl

/-- A line that is moved by no level stays as it is. -/
theorem demoted_zero (l : Line) : l.demoted 0 = l.text := by
  unfold Line.demoted
  by_cases hf : l.fenced = true
  · rw [if_pos hf]
  · rw [if_neg hf]
    cases hh : headingLine? l.text with
    | none => rfl
    | some h =>
      obtain ⟨htext, -, hmax⟩ := render_of_headingLine? hh
      dsimp only
      rw [HeadingLine.shifted_zero hmax]
      exact htext.symm

/-! ## What a demoted line has in common with the line -/

/-- Does a function on texts see no more of a run of hashes than that it is there? -/
def IgnoresHashes {α : Type} (f : Text → α) : Prop :=
  ∀ (u v : Text) (j k : Nat),
    f (u ++ (List.replicate (j + 1) '#' ++ v)) = f (u ++ (List.replicate (k + 1) '#' ++ v))

/-- To the scan some hashes are as good as one. -/
theorem Mode.run_hashes (m : Mode) (k : Nat) : m.run (List.replicate (k + 1) '#') = m.pass := by
  induction k generalizing m with
  | zero => rfl
  | succ k ih =>
    rw [List.replicate_succ, run_cons, step_of_ne (by decide), ih, pass_pass]

theorem ignoresHashes_run (m : Mode) : IgnoresHashes m.run := by
  intro u v j k
  simp only [Mode.run_append, Mode.run_hashes]

theorem ignoresHashes_count {c : Char} (hc : c ≠ '#') : IgnoresHashes (List.count c) := by
  intro u v j k
  simp [List.count_replicate, Ne.symm hc]

namespace IgnoresHashes

variable {α : Type} {f : Text → α}

/-- A line can be demoted wherever it stands. -/
theorem demoted (hf : IgnoresHashes f) (shift : Nat) (l : Line) (u v : Text) :
    f (u ++ (l.demoted shift ++ v)) = f (u ++ (l.text ++ v)) := by
  rcases demoted_cases shift l with heq | ⟨a, b, j, k, htext, hdem⟩
  · rw [heq]
  · have hsame := hf (u ++ a) (b ++ v) k j
    rw [htext, hdem]
    simp only [List.append_assoc] at hsame ⊢
    exact hsame

/-- Lines can be demoted one after the other. The induction carries the text in front along. -/
theorem terminated (hf : IgnoresHashes f) (shift : Nat) (ls : List Line) (u v : Text) :
    f (u ++ (Text.terminated (ls.map (Line.demoted shift)) ++ v))
      = f (u ++ (Text.terminated (ls.map Line.text) ++ v)) := by
  induction ls generalizing u with
  | nil => rfl
  | cons l ls ih =>
    have hline := hf.demoted shift l u
      ('\n' :: (Text.terminated (ls.map (Line.demoted shift)) ++ v))
    have hrest := ih (u ++ (l.text ++ ['\n']))
    rw [List.map_cons, List.map_cons, Text.terminated_cons, Text.terminated_cons]
    simp only [List.append_assoc, List.cons_append, List.nil_append] at hline hrest ⊢
    rw [hline, hrest]

theorem unlines (hf : IgnoresHashes f) (shift : Nat) (ls : List Line) :
    f (Text.unlines (ls.map (Line.demoted shift))) = f (Text.unlines (ls.map Line.text)) := by
  rcases List.eq_nil_or_concat' ls with rfl | ⟨ks, l, rfl⟩
  · rfl
  · have hsingle : ∀ t : Text, Text.unlines [t] = t := fun _ => rfl
    have hfront := hf.terminated shift ks [] (l.demoted shift)
    have hline := hf.demoted shift l (Text.terminated (ks.map Line.text)) []
    simp only [List.nil_append, List.append_nil] at hfront hline
    rw [List.map_append, List.map_append, List.map_singleton, List.map_singleton,
      Text.unlines_append _ (List.cons_ne_nil _ _), Text.unlines_append _ (List.cons_ne_nil _ _),
      hsingle, hsingle, hfront, hline]

end IgnoresHashes

/-- Demoting adds or removes nothing but hashes. -/
theorem count_demoted {c : Char} (hc : c ≠ '#') (shift : Nat) (l : Line) :
    (l.demoted shift).count c = l.text.count c := by
  have hcount := (ignoresHashes_count hc).demoted shift l [] []
  simp only [List.nil_append, List.append_nil] at hcount
  exact hcount

/-! ## All lines of a turn -/

/-- By how many levels demoting moves the lines of a text. A text that is left as it is counts as moved
by no level. -/
def demotionShift (t : Text) : Nat := ((headingLevels t).min?.map levelShift).getD 0

/-- Demoting a text moves all its lines by the same number of levels. -/
theorem demote_eq_demotionShift (t : Text) :
    demote t = Text.unlines ((markedLines t).map (Line.demoted (demotionShift t))) := by
  have hzero : t = Text.unlines ((markedLines t).map (Line.demoted 0)) := by
    have hmap : (markedLines t).map (Line.demoted 0) = (markedLines t).map Line.text :=
      List.map_congr_left fun l _ => demoted_zero l
    rw [hmap, map_text_markedLines, Text.unlines_lines]
  unfold demote demotionShift
  cases hmin : (headingLevels t).min? with
  | none => exact hzero
  | some top =>
    rw [Option.map_some, Option.getD_some]
    dsimp only
    by_cases hshift : levelShift top = 0
    · rw [if_pos hshift, hshift]
      exact hzero
    · rw [if_neg hshift]

/-- What does not see how many hashes there are does not see that a text was demoted. -/
theorem IgnoresHashes.demote {α : Type} {f : Text → α} (hf : IgnoresHashes f) (t : Text) :
    f (demote t) = f t := by
  rw [demote_eq_demotionShift, hf.unlines, map_text_markedLines, Text.unlines_lines]

theorem count_demote {c : Char} (hc : c ≠ '#') (t : Text) : (demote t).count c = t.count c :=
  (ignoresHashes_count hc).demote t

/-- A text with a heading of the first level outside of code is moved down by three levels. -/
theorem demote_of_top {t rest : Text} {ls ms : List Line}
    (hlines : markedLines t = ls ++ ⟨'#' :: ' ' :: rest, false⟩ :: ms) :
    demote t = Text.unlines ((markedLines t).map (Line.demoted 3)) := by
  have hone : 1 ∈ headingLevels t := by
    have hheading : headingLine? ('#' :: ' ' :: rest) = some ⟨[], 1, ' ' :: rest⟩ := rfl
    unfold headingLevels
    rw [hlines, List.mem_filterMap]
    refine ⟨_, List.mem_append_right ls List.mem_cons_self, ?_⟩
    rw [if_neg Bool.false_ne_true, hheading]
    rfl
  have hpos : ∀ n ∈ headingLevels t, 1 ≤ n := by
    intro n hn
    unfold headingLevels at hn
    obtain ⟨l, -, hl⟩ := List.mem_filterMap.mp hn
    by_cases hf : l.fenced = true
    · rw [if_pos hf] at hl
      cases hl
    · rw [if_neg hf] at hl
      obtain ⟨h, hh, rfl⟩ := Option.map_eq_some_iff.mp hl
      exact (render_of_headingLine? hh).2.1
  have hmin : (headingLevels t).min? = some 1 := by
    rw [List.min?_eq_some_iff]
    exact ⟨hone, hpos⟩
  unfold demote
  rw [hmin]
  exact if_neg (by decide)

/-- The lines of a text that ends its last line, each with its line feed, are the text. -/
theorem terminated_dropLast_markedLines {u : Text} (hend : u = [] ∨ u.getLast? = some '\n') :
    Text.terminated ((markedLines u).dropLast.map Line.text) = u := by
  rcases hend with rfl | hlast
  · rw [markedLines_nil]
    rfl
  · obtain ⟨s, rfl⟩ := List.getLast?_eq_some_iff.mp hlast
    rw [List.map_dropLast, map_text_markedLines, Text.lines_append_newline]
    have hdrop : (Text.lines s ++ Text.lines []).dropLast = Text.lines s :=
      List.dropLast_concat
    have hunlines := Text.unlines_append (Text.lines s) (show [([] : Text)] ≠ [] by simp)
    have hjoin := Text.unlines_append_unlines (Text.lines_ne_nil s) (show [([] : Text)] ≠ [] by simp)
    rw [hdrop]
    rw [hjoin, Text.unlines_lines] at hunlines
    have hnil : Text.unlines [([] : Text)] = [] := rfl
    rw [hnil, List.append_nil] at hunlines
    exact hunlines.symm

/-- Text that is demoted in front of a block: its lines, moved down. -/
def demotedFront (shift : Nat) (u : Text) : Text :=
  Text.terminated ((markedLines u).dropLast.map (Line.demoted shift))

theorem getLast?_demotedFront (shift : Nat) (u : Text) :
    demotedFront shift u = [] ∨ (demotedFront shift u).getLast? = some '\n' :=
  Text.getLast?_terminated _

theorem Mode.run_demotedFront (shift : Nat) {u : Text} (hend : u = [] ∨ u.getLast? = some '\n')
    (m : Mode) : m.run (demotedFront shift u) = m.run u := by
  have hrun := (ignoresHashes_run m).terminated shift (markedLines u).dropLast [] []
  simp only [List.nil_append, List.append_nil] at hrun
  unfold demotedFront
  rw [hrun, terminated_dropLast_markedLines hend]

/-- A block behind a paired text is not touched by demoting. What stands in front of it and behind it
is demoted apart from it. -/
theorem demote_fencedText {u body r : Text} (hu : isPaired u = true)
    (hend : u = [] ∨ u.getLast? = some '\n') (hbody : ¬ fenceMark <:+: body)
    (hr : r = [] ∨ r.head? = some '\n') :
    ∃ shift w, (w = [] ∨ w.head? = some '\n') ∧
      demote (u ++ (fencedText body ++ r)) = demotedFront shift u ++ fencedText body ++ w := by
  have hshift := demote_eq_demotionShift (u ++ (fencedText body ++ r))
  generalize demotionShift (u ++ (fencedText body ++ r)) = shift at hshift
  have hblock : ((Text.lines (fencedText body)).map fun l => (⟨l, true⟩ : Line)).map
      (Line.demoted shift) = Text.lines (fencedText body) := by
    rw [List.map_map]
    exact List.map_id _
  rw [markedLines_append _ hu hend, markedLines_fencedText hbody hr, List.map_append,
    List.map_append, hblock] at hshift
  have hlines := Text.lines_ne_nil (fencedText body)
  rw [Text.unlines_append _ (by simp [hlines])] at hshift
  refine ⟨shift, ?_⟩
  -- the lines behind the block are joined to it only if there are any
  cases hbehind : (linesBehind r).map (Line.demoted shift) with
  | nil =>
    refine ⟨[], Or.inl rfl, ?_⟩
    rw [hshift, hbehind, List.append_nil, List.append_nil, Text.unlines_lines]
    rfl
  | cons l ls =>
    refine ⟨'\n' :: Text.unlines (l :: ls), Or.inr rfl, ?_⟩
    rw [hshift, hbehind, Text.unlines_append_unlines hlines (List.cons_ne_nil l ls),
      Text.unlines_lines, ← List.append_assoc]
    rfl

end ChatScribe.Markdown
