import ChatScribe.Proofs.Fence.Spans
import ChatScribe.Proofs.Heading.Levels
import Mathlib.Data.List.Forall2
import Mathlib.Order.Monotone.Basic

/-!
# Demoting line by line

`Demoted` is the contract of the pass over headings. The lines of a demoted text are those of the text,
one for one: code stays code, and only the headings outside of it are touched, which get more hashes. All
go down by the same number of levels, as many as take the shallowest one to level four, but none past
level six. So a demoted text has nothing left to demote.
-/

namespace ChatScribe.Markdown

/-- The heading that a line is, if it is no code. -/
def Line.heading? (l : Line) : Option HeadingLine :=
  if l.fenced then none else headingLine? l.text

/-- The level of the shallowest heading of a text, zero if it has none. -/
def topLevel (t : Text) : Nat := (headingLevels t).min?.getD 0

/-- The level a heading gets when the shallowest one, of level `top`, is moved to level four. -/
def newLevel (top level : Nat) : Nat := min 6 (level + (4 - top))

/-- A line, and what becomes of it in a text whose shallowest heading has level `top`. -/
structure Line.MovedDown (top : Nat) (l k : Line) : Prop where
  fenced_eq : k.fenced = l.fenced
  /-- Code and lines that are no headings stay as they are. -/
  other : l.heading? = none → k = l
  /-- All around the hashes of a heading stays as it is. -/
  heading : ∀ h, l.heading? = some h →
    l.text = h.render ∧ k.text = { h with level := newLevel top h.level }.render ∧
      k.heading? = some { h with level := newLevel top h.level }

/-- Texts `t` and `u`, of which `u` is `t` with its headings moved down. -/
structure Demoted (t u : Text) : Prop where
  length_eq : (Text.lines u).length = (Text.lines t).length
  lines : List.Forall₂ (Line.MovedDown (topLevel t)) (markedLines t) (markedLines u)
  /-- The scan finds as many spans, and as many open fences. -/
  spans_eq : (spans u).length = (spans t).length
  unclosed_eq : unclosedFences u = unclosedFences t
  levels_eq : headingLevels u = (headingLevels t).map (newLevel (topLevel t))
  level_bounds : ∀ n ∈ headingLevels u, 4 ≤ n ∧ n ≤ 6
  /-- The shallowest heading of the result. -/
  top_eq : (headingLevels u).min? = (headingLevels t).min?.map (max 4)
  /-- Of two headings the deeper one is not the shallower one afterwards. -/
  order : Monotone (newLevel (topLevel t))

/-! ## Levels before and after -/

theorem headingLevels_eq_filterMap (t : Text) :
    headingLevels t = (markedLines t).filterMap fun l => l.heading?.map HeadingLine.level := by
  unfold headingLevels Line.heading?
  congr 1
  funext l
  by_cases hf : l.fenced = true
  · rw [if_pos hf, if_pos hf]
    rfl
  · rw [if_neg hf, if_neg hf]

theorem level_mem_headingLevels {t : Text} {l : Line} {h : HeadingLine} (hl : l ∈ markedLines t)
    (hh : l.heading? = some h) : h.level ∈ headingLevels t := by
  rw [headingLevels_eq_filterMap, List.mem_filterMap]
  exact ⟨l, hl, by rw [hh]; rfl⟩

/-- A heading is the line that it was read from. -/
theorem Line.eq_render_of_heading? {l : Line} {h : HeadingLine} (hh : l.heading? = some h) :
    l.text = h.render ∧ h.level ≤ maxLevel := by
  unfold Line.heading? at hh
  by_cases hf : l.fenced = true
  · rw [if_pos hf] at hh
    cases hh
  · rw [if_neg hf] at hh
    obtain ⟨htext, -, hmax⟩ := render_of_headingLine? hh
    exact ⟨htext, hmax⟩

theorem level_le_of_mem_headingLevels {t : Text} {n : Nat} (h : n ∈ headingLevels t) :
    n ≤ maxLevel := by
  rw [headingLevels_eq_filterMap, List.mem_filterMap] at h
  obtain ⟨l, -, hl⟩ := h
  obtain ⟨heading, hh, rfl⟩ := Option.map_eq_some_iff.mp hl
  exact (Line.eq_render_of_heading? hh).2

/-- The shallowest heading of a text with headings. -/
theorem topLevel_of_mem {t : Text} {n : Nat} (h : n ∈ headingLevels t) :
    (headingLevels t).min? = some (topLevel t) ∧ topLevel t ≤ n := by
  unfold topLevel
  cases hmin : (headingLevels t).min? with
  | none =>
    rw [List.min?_eq_none_iff.mp hmin] at h
    cases h
  | some top => exact ⟨rfl, (List.min?_eq_some_iff.mp hmin).2 n h⟩

/-- Headings go down by as many levels as the shallowest one needs. -/
theorem shift_eq_newLevel {t : Text} {n : Nat} (h : n ∈ headingLevels t) :
    min (n + demotionShift t) maxLevel = newLevel (topLevel t) n := by
  unfold demotionShift newLevel
  rw [(topLevel_of_mem h).1, Option.map_some, Option.getD_some]
  unfold levelShift firstContentLevel maxLevel
  omega

/-- A line of a demoted text, read as a heading. -/
theorem Line.heading?_demoted (shift : Nat) (l : Line) :
    (⟨l.demoted shift, l.fenced⟩ : Line).heading? = l.heading?.map (HeadingLine.shifted shift) := by
  unfold Line.heading?
  by_cases hf : l.fenced = true
  · rw [if_pos hf, if_pos hf]
    rfl
  · rw [if_neg hf, if_neg hf]
    exact headingLine?_demoted shift (by simpa using hf)

theorem headingLevels_demote (t : Text) :
    headingLevels (demote t) = (headingLevels t).map (newLevel (topLevel t)) := by
  have hshift : headingLevels (demote t)
      = (headingLevels t).map fun n => min (n + demotionShift t) maxLevel := by
    rw [headingLevels_eq_filterMap, headingLevels_eq_filterMap, markedLines_demote,
      List.filterMap_map, List.map_filterMap]
    congr 1
    funext l
    show Option.map _ (Line.heading? _) = _
    rw [Line.heading?_demoted, Option.map_map, Option.map_map]
    rfl
  rw [hshift]
  exact List.map_congr_left fun n hn => shift_eq_newLevel hn

theorem monotone_newLevel (top : Nat) : Monotone (newLevel top) := by
  intro m n hmn
  unfold newLevel
  omega

/-- The least of some numbers is moved to the least by a function that keeps their order. -/
theorem min?_map_of_monotone {f : Nat → Nat} (hf : Monotone f) (ns : List Nat) :
    (ns.map f).min? = ns.min?.map f := by
  cases hmin : ns.min? with
  | none =>
    rw [List.min?_eq_none_iff.mp hmin]
    rfl
  | some m =>
    obtain ⟨hmem, hle⟩ := List.min?_eq_some_iff.mp hmin
    rw [Option.map_some, List.min?_eq_some_iff]
    refine ⟨List.mem_map_of_mem hmem, ?_⟩
    intro b hb
    obtain ⟨n, hn, rfl⟩ := List.mem_map.mp hb
    exact hf (hle n hn)

/-- The shallowest heading of a demoted text. -/
theorem min?_headingLevels_demote (t : Text) :
    (headingLevels (demote t)).min? = (headingLevels t).min?.map (max 4) := by
  rw [headingLevels_demote, min?_map_of_monotone (monotone_newLevel _)]
  cases hmin : (headingLevels t).min? with
  | none => rfl
  | some top =>
    have hmem := (List.min?_eq_some_iff.mp hmin).1
    have hmax := level_le_of_mem_headingLevels hmem
    have htop : topLevel t = top := by
      unfold topLevel
      rw [hmin, Option.getD_some]
    unfold maxLevel at hmax
    rw [Option.map_some, Option.map_some, htop]
    unfold newLevel
    congr 1
    omega

/-- Headings of a demoted text have the levels that are left to a turn. -/
theorem level_bounds_demote {t : Text} {n : Nat} (h : n ∈ headingLevels (demote t)) :
    4 ≤ n ∧ n ≤ 6 := by
  rw [headingLevels_demote] at h
  obtain ⟨m, hm, rfl⟩ := List.mem_map.mp h
  have htop := (topLevel_of_mem hm).2
  unfold newLevel
  omega

/-! ## Demoting -/

/-- Every line of a text is moved down as its shallowest heading demands. -/
theorem movedDown_of_mem {t : Text} {l : Line} (hl : l ∈ markedLines t) :
    l.MovedDown (topLevel t) ⟨l.demoted (demotionShift t), l.fenced⟩ := by
  have hread := Line.heading?_demoted (demotionShift t) l
  refine ⟨rfl, ?_, ?_⟩
  · intro hnone
    have hsame : l.demoted (demotionShift t) = l.text := by
      unfold Line.heading? at hnone
      unfold Line.demoted
      by_cases hf : l.fenced = true
      · rw [if_pos hf]
      · rw [if_neg hf] at hnone ⊢
        rw [hnone]
    rw [hsame]
  · intro h hh
    have hlevel := shift_eq_newLevel (level_mem_headingLevels hl hh)
    have hshift : h.shifted (demotionShift t) = { h with level := newLevel (topLevel t) h.level } := by
      unfold HeadingLine.shifted
      rw [hlevel]
    rw [hh, Option.map_some, hshift] at hread
    exact ⟨(Line.eq_render_of_heading? hh).1, (Line.eq_render_of_heading? hread).1, hread⟩

/-- A text without headings of the first three levels is left as it is. -/
theorem demote_of_deep {t : Text} (h : ∀ n ∈ headingLevels t, 4 ≤ n) : demote t = t := by
  unfold demote
  cases hmin : (headingLevels t).min? with
  | none => rfl
  | some top =>
    have htop := h top (List.min?_eq_some_iff.mp hmin).1
    have hzero : levelShift top = 0 := by
      unfold levelShift firstContentLevel
      omega
    exact if_pos hzero

/-- Demoting moves the headings of a text down line by line and leaves all else, and a second time it
changes nothing. -/
theorem demoted_demote (t : Text) : Demoted t (demote t) ∧ demote (demote t) = demote t := by
  have hkinds : spanKinds (demote t) = spanKinds t := ignoresHashes_spanKinds.demote t
  constructor
  · refine ⟨?_, ?_, ?_, ?_, headingLevels_demote t, fun n hn => level_bounds_demote hn,
      min?_headingLevels_demote t, monotone_newLevel _⟩
    · rw [← map_text_markedLines, ← map_text_markedLines, markedLines_demote]
      simp only [List.length_map]
    · rw [markedLines_demote, List.forall₂_map_right_iff, List.forall₂_same]
      exact fun l hl => movedDown_of_mem hl
    · rw [length_spans, length_spans, hkinds]
    · rw [unclosedFences_eq_count, unclosedFences_eq_count, hkinds]
  · exact demote_of_deep fun n hn => (level_bounds_demote hn).1

end ChatScribe.Markdown
