import ChatScribe.Proofs.Document.TitleLine
import ChatScribe.Proofs.Page.CodeBlocks
import ChatScribe.Proofs.Title

/-!
# The title, from page to file name

The title of a page goes into its document, and from there into the name of the file. The document is the
only way from the one to the other: it is normalised as a whole, and the file name is made from its first
line. `title_of_exportMarkdown` says that nothing gets in between.
-/

namespace ChatScribe

/-! ## File names -/

namespace FileName

/-- A line of prose in front of others is the first one. -/
theorem firstLine_append {l : Text} (hline : '\n' ∉ l) (hreturn : '\r' ∉ l) (r : Text) :
    firstLine (l ++ '\n' :: r) = l := by
  have hall : ∀ c ∈ l, (c != '\n') = true := by
    intro c hc
    rw [bne_iff_ne]
    rintro rfl
    exact hline hc
  have htake : (l ++ '\n' :: r).takeWhile (· != '\n') = l := by
    rw [List.takeWhile_append_of_pos hall, List.takeWhile_cons]
    exact List.append_nil l
  have hsuffix : Text.dropSuffix? ['\r'] l = none := by
    unfold Text.dropSuffix?
    rw [Option.map_eq_none_iff, Option.eq_none_iff_forall_not_mem]
    intro s hs
    have hrev : l.reverse = '\r' :: s := Text.eq_append_of_dropPrefix? hs
    apply hreturn
    rw [← List.mem_reverse, hrev]
    exact List.mem_cons_self
  unfold firstLine
  dsimp only
  rw [htake, hsuffix, Option.getD_none, ite_self]

/-- The part of a file name that tells the title. -/
def ofTitle (title : Text) : Text :=
  if Title.bare title = [] then untitled else (Title.bare title).take maxTitleLength

theorem titleOf_of_isTitle {md t : Text} (ht : Title.IsTitle t)
    (hfirst : firstLine md = "# ".toList ++ t) : titleOf md = ofTitle t := by
  have hempty : ((Title.bare t).take maxTitleLength).isEmpty = true ↔ Title.bare t = [] := by
    rw [List.isEmpty_iff, List.take_eq_nil_iff]
    exact or_iff_right (by decide)
  have hhash : firstLine md = '#' :: ' ' :: t := hfirst
  unfold titleOf ofTitle
  rw [hhash]
  show (if (titlePart (' ' :: t)).isEmpty = true then untitled else titlePart (' ' :: t)) = _
  rw [Title.titlePart_of_isTitle ht]
  by_cases hbare : Title.bare t = []
  · rw [if_pos (hempty.mpr hbare), if_pos hbare]
  · rw [if_neg (fun h => hbare (hempty.mp h)), if_neg hbare]

end FileName

/-! ## Documents of pages -/

namespace Page

open Html Markdown Document

/-- A title has no character that means anything to the lines of a document. -/
theorem not_mem_of_isTitle {t : Text} (h : Title.IsTitle t) {c : Char}
    (hword : Title.isWordChar c = false) (hc : c ≠ '_') : c ∉ t := by
  intro hmem
  rcases h.chars c hmem with hw | heq
  · rw [hword] at hw
    cases hw
  · exact hc heq

/-- The way of the title. Every title is words with single underscores between them. The first line of
a document is the title of its page, whatever turns, address and date are; and the name of the file that
the document is saved to has the title without a brand in front and without underscores, up to eighty
characters of it. -/
theorem title_of_exportMarkdown :
    (∀ raw, Title.IsTitle (Title.clean raw)) ∧
      ∀ (p : Page) (slots : Slots) (md : Text), p.exportMarkdown slots = .ok md →
        (Text.lines md).head? = some ("# ".toList ++ (p.metadata slots).title) ∧
          ∀ savedAt : Moment, FileName.ofDocument md savedAt
            = "GeminiChatRecord-".toList ++ savedAt.stamp ++
                '-' :: FileName.ofTitle (p.metadata slots).title ++ ".md".toList := by
  refine ⟨Title.isTitle_clean, ?_⟩
  intro p slots md hok
  have htitle : Title.IsTitle (p.metadata slots).title := by
    unfold metadata
    dsimp only
    exact Title.isTitle_clean _
  have hline : '\n' ∉ (p.metadata slots).title := not_mem_of_isTitle htitle rfl (by decide)
  have hreturn : '\r' ∉ (p.metadata slots).title := not_mem_of_isTitle htitle rfl (by decide)
  have htick : tick ∉ (p.metadata slots).title := not_mem_of_isTitle htitle rfl (by decide)
  have hfirst : titleLine (p.metadata slots) = "# ".toList ++ (p.metadata slots).title := by
    unfold titleLine
    rw [Text.dropReturn_of_not_mem hreturn]
  obtain ⟨r, hr⟩ := exists_build_eq hline htick (p.renderedTurns slots)
  have hmd : md = "# ".toList ++ (p.metadata slots).title ++ '\n' :: r := by
    rw [eq_build_of_exportMarkdown hok, hr, hfirst]
  have hline' : '\n' ∉ "# ".toList ++ (p.metadata slots).title := by simp [hline]
  have hreturn' : '\r' ∉ "# ".toList ++ (p.metadata slots).title := by simp [hreturn]
  refine ⟨?_, ?_⟩
  · rw [hmd, Text.lines_append_newline, Text.lines_of_not_mem hline']
    rfl
  · intro savedAt
    have hpart : FileName.firstLine md = "# ".toList ++ (p.metadata slots).title := by
      rw [hmd]
      exact FileName.firstLine_append hline' hreturn' r
    unfold FileName.ofDocument
    rw [FileName.titleOf_of_isTitle htitle hpart]

/-- A page that tells no title, and whose one turn leaves a backtick open. -/
theorem title_of_exportMarkdown_without_heading :
    let p := questionPage "a \x60 b".toList "x\n\ny".toList
    let savedAt : Moment := ⟨2024, 1, 2, 3, 4, 5⟩
    ∃ md, p.exportMarkdown tagSlots = .ok md ∧
      (Text.lines md).head? = some "# Chat_Record".toList ∧
      FileName.ofDocument md savedAt = "GeminiChatRecord-20240102-030405-ChatRecord.md".toList := by
  intro p savedAt
  have hok : p.exportMarkdown tagSlots = .ok (build bareMetadata
      [⟨.user, "a \x60 b\n\x60\x60\x60\nx\n\ny\n\x60\x60\x60\n\x60\x60\x60".toList⟩]) :=
    exportMarkdown_questionPage (by decide +kernel) (by decide +kernel)
  obtain ⟨hfirst, hname⟩ := title_of_exportMarkdown.2 p tagSlots _ hok
  have htitle : (p.metadata tagSlots).title = "Chat_Record".toList := by
    rw [metadata_questionPage]
    rfl
  refine ⟨_, hok, ?_, ?_⟩
  · rw [hfirst, htitle]
    rfl
  · rw [hname, htitle]
    decide +kernel

end Page

end ChatScribe
