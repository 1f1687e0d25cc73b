import ChatScribe.Document.Basic
import ChatScribe.Proofs.Spacing

/-!
# The sections of a document do not touch each other

A document is one text, and its blank lines are normalised in one go over all of it. Still, each turn
comes out as it would alone: `spacedLines_draft` says that the lines of the document are those of its
title block, and then, for each turn, an empty line and the lines of that turn's section by itself.

A section starts with its heading, and the heading holds no backtick. So all that a section can hand on
to the next one is a mark left open by the scan, which the assumption on its Markdown rules out.
-/

namespace ChatScribe.Document

open Markdown

/-- What a turn adds to the lines of a document: an empty line, and the lines of its section. -/
def sectionLines (t : Turn) : List Text := [] :: spacedLines (sectionOf t)

/-! ## The title block -/

theorem tick_not_mem_header {m : Metadata} (htitle : tick ∉ m.title) (hurl : tick ∉ m.sourceUrl)
    (hcreated : tick ∉ m.createdAt) : tick ∉ header m := by
  unfold header
  simp only [List.mem_append, htitle, hurl, hcreated]
  decide

theorem getLast?_header (m : Metadata) : (header m).getLast? = some '\n' := by
  unfold header
  rw [List.getLast?_append]
  rfl

/-- The line ends of a text that starts with a hash leave that hash in front. -/
theorem exists_unifyLineEnds_hash (r : Text) :
    ∃ s, Text.unifyLineEnds ('#' :: r) = '#' :: s := by
  refine ⟨r.unifyLineEnds, ?_⟩
  rw [Text.unifyLineEnds.eq_3 '#' r (by intro _ hc; cases hc)]

/-- A text that starts with a hash keeps it in front of its first line. -/
theorem exists_spacedLines_hash (r : Text) :
    ∃ l ls, spacedLines ('#' :: r) = ('#' :: l) :: ls := by
  obtain ⟨s, hs⟩ := exists_unifyLineEnds_hash r
  obtain ⟨l, f, ls, hline⟩ :=
    exists_markedLines_cons (show '#' ≠ tick by decide) (show '#' ≠ '\n' by decide) s
  have hblank : isBlankLine ('#' :: l) = false := rfl
  unfold spacedLines
  rw [hs, hline, spacedFrom]
  split
  · exact ⟨_, _, rfl⟩
  · rw [hblank, Option.any_none, Bool.and_false]
    exact ⟨_, _, rfl⟩

/-- The title block has lines: its first one starts with a hash. -/
theorem spacedLines_header_ne_nil (m : Metadata) : spacedLines (header m) ≠ [] := by
  obtain ⟨r, hr⟩ : ∃ r, header m = '#' :: r := ⟨_, rfl⟩
  obtain ⟨l, ls, hl⟩ := exists_spacedLines_hash r
  rw [hr, hl]
  exact List.cons_ne_nil _ _

/-- A document shows something: its title line starts with a hash. -/
theorem isBlank_build (m : Metadata) (turns : List Turn) :
    Text.isBlank (build m turns) = false := by
  obtain ⟨r, hr⟩ : ∃ r, draft m turns = '#' :: r := ⟨_, rfl⟩
  obtain ⟨l, ls, hl⟩ := exists_spacedLines_hash r
  obtain ⟨rest, hrest⟩ : ∃ rest, Text.unlines (spacedLines (draft m turns)) = '#' :: rest := by
    rw [hr, hl]
    cases ls with
    | nil => exact ⟨_, rfl⟩
    | cons next ls => exact ⟨_, rfl⟩
  -- the hash is no white space, so trimming stops in front of it
  have hbuild : build m turns = Text.trimEnd ('#' :: rest) := by
    unfold build respace Text.trim
    rw [hrest]
    rfl
  have hmem : '#' ∈ Text.trimEnd ('#' :: rest) :=
    Text.mem_trimEnd List.mem_cons_self (by decide)
  rw [hbuild, ← Bool.not_eq_true]
  intro hall
  exact absurd (List.all_eq_true.mp hall '#' hmem) (by decide)

/-! ## One section -/

/-- The heading of a turn, as a line. -/
def headingLine (s : Speaker) : Text := "## ".toList ++ s.label

theorem newline_not_mem_headingLine (s : Speaker) : '\n' ∉ headingLine s := by cases s <;> decide

theorem tick_not_mem_headingLine (s : Speaker) : tick ∉ headingLine s := by cases s <;> decide

theorem return_not_mem_headingLine (s : Speaker) : '\r' ∉ headingLine s := by cases s <;> decide

theorem sectionOf_eq (t : Turn) :
    sectionOf t = headingLine t.speaker ++ '\n' :: (t.markdown ++ "\n\n".toList) := by
  unfold sectionOf headingLine
  rw [List.append_assoc, List.append_assoc]
  rfl

theorem getLast?_sectionOf (t : Turn) : (sectionOf t).getLast? = some '\n' := by
  unfold sectionOf
  rw [List.getLast?_append]
  rfl

/-- A section is paired if its Markdown is: neither the heading nor the line feeds open anything. -/
theorem isPaired_sectionOf {t : Turn} (h : isPaired t.markdown = true) :
    isPaired (sectionOf t) = true := by
  have hheading := Mode.run_outside_of_not_mem (tick_not_mem_headingLine t.speaker)
  rw [isPaired_eq_atRest] at h ⊢
  rw [sectionOf_eq, Mode.run_append, hheading, Mode.run_cons, Mode.step_of_ne (by decide),
    Mode.run_append]
  show ((Mode.outside.run t.markdown).run ['\n', '\n']).atRest = true
  cases hm : Mode.outside.run t.markdown with
  | outside => rfl
  | two => rfl
  | one => rw [hm] at h; cases h
  | inline => rw [hm] at h; cases h
  | fenced n => rw [hm] at h; cases h

/-- The first marked line of a section is its heading. -/
theorem markedLines_sectionOf (t : Turn) :
    ∃ ls, markedLines (sectionOf t).unifyLineEnds = ⟨headingLine t.speaker, false⟩ :: ls := by
  have hunify : (sectionOf t).unifyLineEnds
      = headingLine t.speaker ++ '\n' :: (t.markdown ++ "\n\n".toList).unifyLineEnds := by
    have hend : (headingLine t.speaker).getLast? ≠ some '\r' := by
      cases t.speaker <;> decide
    rw [sectionOf_eq, Text.unifyLineEnds_append (Or.inl hend),
      Text.unifyLineEnds_of_not_mem (return_not_mem_headingLine t.speaker),
      Text.unifyLineEnds.eq_3 '\n' _ (by intro _ hc; cases hc)]
  rw [hunify]
  exact ⟨_, markedLines_line _ (newline_not_mem_headingLine t.speaker)
    (tick_not_mem_headingLine t.speaker)⟩

theorem opensPart_headingLine (s : Speaker) : opensPart (headingLine s) = true := by
  cases s <;> decide

theorem isBlankLine_headingLine (s : Speaker) : isBlankLine (headingLine s) = false := by
  cases s <;> decide

/-- Behind a line with text a section is its lines with an empty line in front of them. -/
theorem spacedFrom_sectionOf (t : Turn) {last : Text} (hlast : last ≠ []) :
    spacedFrom (some last) (markedLines (sectionOf t).unifyLineEnds) = sectionLines t := by
  obtain ⟨ls, hls⟩ := markedLines_sectionOf t
  have hblank := isBlankLine_headingLine t.speaker
  have hopens := opensPart_headingLine t.speaker
  have hshown : ((some last).any fun l => !l.isEmpty) = true := by
    cases last with
    | nil => exact absurd rfl hlast
    | cons c r => rfl
  unfold sectionLines spacedLines
  rw [hls, spacedFrom, spacedFrom]
  simp [hblank, hopens, hshown]

/-! ## All sections -/

/-- Sections behind a paired text with lines add their own lines, one after the other. The induction
is on the turns: each section joins the text in front of the rest. -/
theorem spacedLines_append_sections (turns : List Turn) {u : Text} (hu : isPaired u = true)
    (hend : u.getLast? = some '\n') (hne : spacedLines u ≠ [])
    (hturns : ∀ t ∈ turns.dropLast, isPaired t.markdown = true) :
    spacedLines (u ++ turns.flatMap sectionOf) = spacedLines u ++ turns.flatMap sectionLines := by
  induction turns generalizing u with
  | nil => simp
  | cons t ts ih =>
    have hstep : spacedLines (u ++ sectionOf t) = spacedLines u ++ sectionLines t := by
      cases hlast : (spacedLines u).getLast? with
      | none => exact absurd (List.getLast?_eq_none_iff.mp hlast) hne
      | some last =>
        rw [spacedLines_append _ hu hend, hlast,
          spacedFrom_sectionOf t (ne_nil_of_getLast?_spacedLines hlast)]
    -- the last turn may leave marks open, for nothing follows it
    cases ts with
    | nil =>
      rw [List.flatMap_cons, List.flatMap_cons, List.flatMap_nil, List.flatMap_nil, List.append_nil,
        List.append_nil]
      exact hstep
    | cons t' ts =>
      have ht : isPaired t.markdown = true := hturns t List.mem_cons_self
      have hpaired : isPaired (u ++ sectionOf t) = true :=
        isPaired_append hu (isPaired_sectionOf ht) (join_of_ends_line (Or.inr hend) _)
      have hlast : (u ++ sectionOf t).getLast? = some '\n' := by
        rw [List.getLast?_append, getLast?_sectionOf]
        rfl
      have hlines : spacedLines (u ++ sectionOf t) ≠ [] := by
        rw [hstep]
        simp [hne]
      have hdoc : u ++ (t :: t' :: ts).flatMap sectionOf
          = (u ++ sectionOf t) ++ (t' :: ts).flatMap sectionOf := by
        rw [List.flatMap_cons, List.append_assoc]
      have hrest : ∀ s ∈ (t' :: ts).dropLast, isPaired s.markdown = true :=
        fun s hs => hturns s (List.mem_cons_of_mem t hs)
      rw [hdoc, ih hpaired hlast hlines hrest, hstep, List.append_assoc]
      rfl

/-- No turn changes how another one is normalised. Before its ends are trimmed, a document has the
lines of its title block, and for each turn an empty line and the lines of its section alone. The
backticks of the Markdown must be paired in every turn but the last. -/
theorem spacedLines_draft (m : Metadata) (htitle : tick ∉ m.title) (hurl : tick ∉ m.sourceUrl)
    (hcreated : tick ∉ m.createdAt) (turns : List Turn)
    (hturns : ∀ t ∈ turns.dropLast, isPaired t.markdown = true) :
    spacedLines (draft m turns) = spacedLines (header m) ++ turns.flatMap sectionLines := by
  have hpaired := isPaired_of_not_mem (tick_not_mem_header htitle hurl hcreated)
  exact spacedLines_append_sections turns hpaired (getLast?_header m) (spacedLines_header_ne_nil m)
    hturns

/-- A turn with a fence on a single line and a heading of its own, in front of one that leaves a fence
open. -/
theorem spacedLines_draft_of_inline_fence :
    let m : Metadata := ⟨"T".toList, "u".toList, "d".toList⟩
    let first : Turn := ⟨.user, "\x60\x60\x60x\x60\x60\x60\n# a\n\n\nb".toList⟩
    let second : Turn := ⟨.assistant, "c\n\n\x60\x60\x60\nd".toList⟩
    tick ∉ m.title ∧ tick ∉ m.sourceUrl ∧ tick ∉ m.createdAt ∧
      (∀ t ∈ [first, second].dropLast, isPaired t.markdown = true) ∧
      spacedLines (draft m [first, second])
        = spacedLines (header m) ++ (sectionLines first ++ sectionLines second) := by
  have hfirst : isPaired "\x60\x60\x60x\x60\x60\x60\n# a\n\n\nb".toList = true := by
    rw [isPaired_eq_atRest]
    decide
  refine ⟨by decide, by decide, by decide, ?_, ?_⟩
  · intro t ht
    rw [List.mem_singleton.mp ht]
    exact hfirst
  · rw [spacedLines_draft _ (by decide) (by decide) (by decide)]
    · rw [List.flatMap_cons, List.flatMap_cons, List.flatMap_nil, List.append_nil]
    · intro t ht
      rw [List.mem_singleton.mp ht]
      exact hfirst

end ChatScribe.Document
