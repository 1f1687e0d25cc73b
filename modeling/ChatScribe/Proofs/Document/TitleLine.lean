import ChatScribe.Proofs.Document.Sections
import ChatScribe.Proofs.Heading.Levels
import ChatScribe.Proofs.Spacing.Trimmed

/-!
# The first line of a document

The title stands alone on the first line. The scan for backticks has not seen any when it comes to the
line feed behind the title, so whatever address, date and turns hold, the first line is the title line,
and the marks below it are those of the rest (`markedLines_build`).
-/

namespace ChatScribe.Document

open Markdown

/-- The line of the title. A carriage return at its end is a part of the line end. -/
def titleLine (m : Metadata) : Text := "# ".toList ++ Text.dropReturn m.title

/-- The lines of the title block that tell where the page comes from, and the rule. -/
def about (m : Metadata) : Text :=
  "**Source:** [".toList ++ m.sourceUrl ++ "](".toList ++ m.sourceUrl ++ ")\n**Created:** ".toList ++
    m.createdAt ++ "\n\n---\n\n".toList

theorem draft_eq (m : Metadata) (turns : List Turn) :
    draft m turns
      = "# ".toList ++ m.title ++ '\n' :: ([] ++ '\n' :: (about m ++ turns.flatMap sectionOf)) := by
  unfold draft header about
  simp

theorem getLast?_draft (m : Metadata) (turns : List Turn) :
    (draft m turns).getLast? = some '\n' := by
  unfold draft
  rw [List.getLast?_append]
  rcases List.eq_nil_or_concat' turns with rfl | ⟨ts, t, rfl⟩
  · rw [getLast?_header]
    rfl
  · rw [List.flatMap_append, List.flatMap_singleton, List.getLast?_append, getLast?_sectionOf]
    rfl

theorem dropReturn_title (m : Metadata) :
    Text.dropReturn ("# ".toList ++ m.title) = titleLine m := by
  unfold titleLine
  by_cases h : m.title = []
  · rw [h]
    rfl
  · exact Text.dropReturn_append _ h

/-- The marked lines below the title, and below the empty line behind it. -/
def linesBelowTitle (m : Metadata) (turns : List Turn) : List Line :=
  (markedLines (about m ++ turns.flatMap sectionOf)).map Line.dropReturn

theorem markedLines_draft {m : Metadata} (hline : '\n' ∉ m.title) (htick : tick ∉ m.title)
    (turns : List Turn) :
    markedLines (draft m turns).unifyLineEnds
      = ⟨titleLine m, false⟩ :: ⟨[], false⟩ :: linesBelowTitle m turns := by
  have hlast : (draft m turns).getLast? ≠ some '\r' := by
    rw [getLast?_draft]
    decide
  have hline' : '\n' ∉ "# ".toList ++ m.title := by simp [hline]
  have htick' : tick ∉ "# ".toList ++ m.title := by
    rw [List.mem_append, not_or]
    exact ⟨by decide, htick⟩
  rw [markedLines_unifyLineEnds hlast, draft_eq, markedLines_line _ hline' htick',
    markedLines_line _ List.not_mem_nil List.not_mem_nil, List.map_cons, List.map_cons]
  unfold Line.dropReturn linesBelowTitle
  rw [dropReturn_title, Text.dropReturn_nil]
  rfl

/-- The first line below the title is the source line, or a part of it. -/
theorem exists_linesBelowTitle (m : Metadata) (turns : List Turn) :
    ∃ l ls, linesBelowTitle m turns = l :: ls ∧ l.shows = true := by
  obtain ⟨r, hr⟩ : ∃ r, about m ++ turns.flatMap sectionOf = '*' :: r := ⟨_, rfl⟩
  obtain ⟨l, f, ls, hl⟩ :=
    exists_markedLines_cons (show '*' ≠ tick by decide) (show '*' ≠ '\n' by decide) r
  have hstar : Text.dropReturn ('*' :: l) = '*' :: Text.dropReturn l :=
    Text.dropReturn_cons_of_ne (by decide) l
  refine ⟨⟨'*' :: Text.dropReturn l, f⟩, ls.map Line.dropReturn, ?_, ?_⟩
  · unfold linesBelowTitle
    rw [hr, hl, List.map_cons]
    unfold Line.dropReturn
    rw [hstar]
  · apply Line.shows_of_not_blank
    intro hblank
    exact absurd (List.all_eq_true.mp hblank '*' List.mem_cons_self) (by decide)

/-- The lines below the title, once blank lines are put in order. -/
def spacedBelowTitle (m : Metadata) (turns : List Turn) : List Line :=
  spacedMarks (some (titleLine m)) (linesBelowTitle m turns)

theorem spacedBelowTitle_ne_nil (m : Metadata) (turns : List Turn) :
    spacedBelowTitle m turns ≠ [] := by
  obtain ⟨l, ls, hl, hshows⟩ := exists_linesBelowTitle m turns
  have hkept : l ∈ (spacedBelowTitle m turns).filter Line.shows := by
    unfold spacedBelowTitle
    rw [filter_spacedMarks (fun _ h => h), List.mem_filter, hl]
    exact ⟨List.mem_cons_self, hshows⟩
  intro hnil
  rw [hnil] at hkept
  cases hkept

/-- The title is followed by the lines below it, and trimming changes only the last of these. -/
theorem markedLines_build {m : Metadata} (hline : '\n' ∉ m.title) (htick : tick ∉ m.title)
    (turns : List Turn) :
    markedLines (build m turns)
      = ⟨titleLine m, false⟩ :: (spacedBelowTitle m turns).modifyLast Line.trimEnd := by
  have hblank : isBlankLine (titleLine m) = false := rfl
  have hspaced : remark (spacedLines (draft m turns))
      = ⟨titleLine m, false⟩ :: spacedBelowTitle m turns := by
    rw [remark_spacedLines, markedLines_draft hline htick, spacedMarks]
    dsimp only
    rw [if_neg Bool.false_ne_true, hblank, if_neg Bool.false_ne_true, Option.any_none, Bool.and_false,
      if_neg Bool.false_ne_true, spacedMarks]
    rfl
  have hne : spacedLines (draft m turns) ≠ [] := by
    rw [spacedLines_ne_nil_iff, hspaced]
    exact List.cons_ne_nil _ _
  -- the title line starts with a hash, so nothing is trimmed in front of it
  have htrim : (⟨titleLine m, false⟩ : Line).trimStart = ⟨titleLine m, false⟩ := rfl
  unfold build
  rw [markedLines_respace hne, hspaced]
  unfold trimMarks
  rw [List.modifyHead_cons, htrim]
  exact List.modifyLast_append_of_right_ne_nil Line.trimEnd [⟨titleLine m, false⟩] _
    (spacedBelowTitle_ne_nil m turns)

/-- A document starts with the title line, and it has more lines. -/
theorem exists_build_eq {m : Metadata} (hline : '\n' ∉ m.title) (htick : tick ∉ m.title)
    (turns : List Turn) : ∃ r, build m turns = titleLine m ++ '\n' :: r := by
  have hmodify : (spacedBelowTitle m turns).modifyLast Line.trimEnd ≠ [] := by
    obtain ⟨ls, l, hl⟩ := (List.eq_nil_or_concat' _).resolve_left (spacedBelowTitle_ne_nil m turns)
    rw [hl, List.modifyLast_concat]
    simp
  have hlines := congrArg (List.map Line.text) (markedLines_build hline htick turns)
  rw [map_text_markedLines, List.map_cons] at hlines
  refine ⟨Text.unlines (((spacedBelowTitle m turns).modifyLast Line.trimEnd).map Line.text), ?_⟩
  rw [← Text.unlines_lines (build m turns), hlines]
  exact Text.unlines_append_unlines (List.cons_ne_nil (titleLine m) []) (by simpa using hmodify)

end ChatScribe.Document
