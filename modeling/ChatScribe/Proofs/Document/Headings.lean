import ChatScribe.Proofs.Document.TitleLine

/-!
# The headings of a document cannot be forged

Levels one to three belong to the document. Whatever the turns hold, the headings of these levels outside
of code are the title line, and one line for each turn, so the speakers can be read back in order
(`documentHeadings_build`).

A turn cannot add one, for its own headings were demoted; it cannot take one away either, for its
backticks are paired and reach no other turn. What is left is the normalisation of the document: it keeps
every line that shows, and trims only the last one.
-/

namespace ChatScribe.Document

open Markdown

/-! ## Reading a document -/

/-- The headings of a document: those of its own levels, outside of code. -/
def documentHeadings (t : Text) : List Text := ((markedLines t).filter Line.isTop).map Line.text

/-- The speaker whose turn has this heading. -/
def speakerOf? (l : Text) : Option Speaker :=
  [Speaker.user, Speaker.assistant].find? fun s => headingLine s == l

/-- The speakers of a document, read from its headings. The first heading is the title. -/
def speakersIn (t : Text) : List Speaker := (documentHeadings t).tail.filterMap speakerOf?

theorem speakerOf?_headingLine (s : Speaker) : speakerOf? (headingLine s) = some s := by
  cases s <;> rfl

/-- A text that stays on its line and opens no code. -/
structure IsProse (t : Text) : Prop where
  newline_not_mem : '\n' ∉ t
  tick_not_mem : tick ∉ t

/-- Metadata of which each field stays on its line and opens no code. -/
structure IsPlain (m : Metadata) : Prop where
  title : IsProse m.title
  sourceUrl : IsProse m.sourceUrl
  createdAt : IsProse m.createdAt

/-- A turn that went through the conversion, and whose backticks all find their partner in it. -/
structure IsContained (t : Turn) : Prop where
  demoted : ∃ s, t.markdown = demote s
  paired : isPaired t.markdown = true

/-! ## Headings and lines that are changed -/

theorem IsProse.append {s t : Text} (hs : IsProse s) (ht : IsProse t) : IsProse (s ++ t) := by
  constructor
  · rw [List.mem_append, not_or]
    exact ⟨hs.newline_not_mem, ht.newline_not_mem⟩
  · rw [List.mem_append, not_or]
    exact ⟨hs.tick_not_mem, ht.tick_not_mem⟩

/-- A heading holds a hash, so its line is not blank. -/
theorem shows_of_isTop (l : Line) (h : l.isTop = true) : l.shows = true := by
  obtain ⟨-, heading, hl, -⟩ := isTop_iff.mp h
  obtain ⟨hrender, hpos, -⟩ := render_of_headingLine? hl
  have hhash : '#' ∈ l.text := by
    rw [hrender]
    unfold HeadingLine.render
    simp
    omega
  apply Line.shows_of_not_blank
  intro hblank
  exact absurd (List.all_eq_true.mp hblank '#' hhash) (by decide)

theorem filter_map_dropReturn (ls : List Line) :
    (ls.map Line.dropReturn).filter Line.isTop = (ls.filter Line.isTop).map Line.dropReturn := by
  have hsame : Line.isTop ∘ Line.dropReturn = Line.isTop := funext isTop_dropReturn
  rw [List.filter_map, hsame]

/-- Trimming the last line changes no heading, if all headings are trimmed already. -/
theorem filter_modifyLast_trimEnd {ls : List Line}
    (h : ∀ l ∈ ls.filter Line.isTop, l.trimEnd = l) :
    (ls.modifyLast Line.trimEnd).filter Line.isTop = ls.filter Line.isTop := by
  rcases List.eq_nil_or_concat' ls with rfl | ⟨init, k, rfl⟩
  · rfl
  · have hlast : [k.trimEnd].filter Line.isTop = [k].filter Line.isTop := by
      by_cases hk : k.isTop = true
      · have htrim : k.trimEnd = k := by
          apply h
          rw [List.mem_filter]
          exact ⟨by simp, hk⟩
        rw [htrim]
      · -- a line that is a heading when it is trimmed is one before
        have hno : ¬ k.trimEnd.isTop = true := by
          intro htop
          obtain ⟨w, -, hw⟩ := Text.exists_trimEnd k.text
          have happ := isTop_append htop w
          rw [← hw] at happ
          exact hk happ
        rw [List.filter_cons_of_neg hk, List.filter_cons_of_neg hno]
    rw [List.modifyLast_concat, List.filter_append, List.filter_append, hlast]

/-! ## The lines of the draft -/

/-- The heading of a turn, as a line of the document. -/
def turnLine (t : Turn) : Line := ⟨headingLine t.speaker, false⟩

theorem isTop_turnLine (t : Turn) : (turnLine t).isTop = true := by
  unfold turnLine
  cases t.speaker <;> decide

/-- A line of prose that starts with another character than a hash or a blank. -/
theorem filter_markedLines_line {l r : Text} {c : Char} (hl : IsProse (c :: l)) (hc : c ≠ '#')
    (hblank : isIndent c = false) :
    (markedLines (c :: l ++ '\n' :: r)).filter Line.isTop = (markedLines r).filter Line.isTop := by
  have htop : (⟨c :: l, false⟩ : Line).isTop = false := isTop_of_head? rfl hc hblank
  rw [markedLines_line r hl.newline_not_mem hl.tick_not_mem]
  exact List.filter_cons_of_neg (by rw [htop]; decide)

theorem filter_markedLines_newline (r : Text) :
    (markedLines ('\n' :: r)).filter Line.isTop = (markedLines r).filter Line.isTop := by
  have hline := markedLines_line r (List.not_mem_nil (a := '\n')) (List.not_mem_nil (a := tick))
  rw [List.nil_append] at hline
  rw [hline]
  exact List.filter_cons_of_neg (by decide)

/-- Behind a demoted text stand no headings of the document. -/
theorem filter_markedLines_section {t : Turn} (h : IsContained t) (r : Text) :
    (markedLines (sectionOf t ++ r)).filter Line.isTop
      = turnLine t :: (markedLines r).filter Line.isTop := by
  obtain ⟨s, hs⟩ := h.demoted
  have hpaired : isPaired (t.markdown ++ "\n\n".toList) = true :=
    isPaired_append h.paired (isPaired_of_not_mem (by decide)) (Or.inr (by decide))
  have hend : (t.markdown ++ "\n\n".toList).getLast? = some '\n' := by
    rw [List.getLast?_append]
    rfl
  -- the lines of the turn, and two empty ones
  have hlines : markedLines (t.markdown ++ "\n\n".toList)
      = markedLines t.markdown ++ [⟨[], false⟩] ++ [⟨[], false⟩] := by
    have hsplit : t.markdown ++ "\n\n".toList = (t.markdown ++ '\n' :: []) ++ '\n' :: [] := by simp
    rw [hsplit, markedLines_append_prose List.not_mem_nil List.not_mem_nil,
      markedLines_append_prose List.not_mem_nil List.not_mem_nil]
  have hnone : (markedLines t.markdown).filter Line.isTop = [] := by
    rw [List.filter_eq_nil_iff]
    intro l hl
    rw [hs] at hl
    rw [isTop_demote hl]
    decide
  have hsection : sectionOf t ++ r
      = headingLine t.speaker ++ '\n' :: (t.markdown ++ "\n\n".toList ++ r) := by
    rw [sectionOf_eq, List.append_assoc, List.cons_append, List.append_assoc]
  have hfirst : ∀ v : Text,
      markedLines (headingLine t.speaker ++ '\n' :: v) = turnLine t :: markedLines v :=
    fun v => markedLines_line v (newline_not_mem_headingLine t.speaker)
      (tick_not_mem_headingLine t.speaker)
  have hempty : [(⟨[], false⟩ : Line)].filter Line.isTop = [] := rfl
  rw [hsection, hfirst, markedLines_append r hpaired (Or.inr hend), hlines, List.dropLast_concat,
    List.filter_cons_of_pos (isTop_turnLine t), List.filter_append, List.filter_append, hnone, hempty]
  rfl

/-- The induction is on the turns: behind each section the scan starts afresh. -/
theorem filter_markedLines_sections {turns : List Turn} (h : ∀ t ∈ turns, IsContained t) :
    (markedLines (turns.flatMap sectionOf)).filter Line.isTop = turns.map turnLine := by
  induction turns with
  | nil =>
    rw [List.flatMap_nil, markedLines_nil]
    rfl
  | cons t ts ih =>
    have hrest := ih fun s hs => h s (List.mem_cons_of_mem t hs)
    rw [List.flatMap_cons, filter_markedLines_section (h t List.mem_cons_self), hrest, List.map_cons]

theorem filter_linesBelowTitle {m : Metadata} (hm : IsPlain m) {turns : List Turn}
    (h : ∀ t ∈ turns, IsContained t) :
    (linesBelowTitle m turns).filter Line.isTop = turns.map turnLine := by
  have hprose : ∀ s : Text, '\n' ∉ s ∧ tick ∉ s → IsProse s := fun s hs => ⟨hs.1, hs.2⟩
  have hsource : IsProse ("**Source:** [".toList ++ m.sourceUrl ++ "](".toList ++ m.sourceUrl ++
      ")".toList) :=
    ((((hprose _ (by decide)).append hm.sourceUrl).append (hprose _ (by decide))).append
      hm.sourceUrl).append (hprose _ (by decide))
  have hcreated : IsProse ("**Created:** ".toList ++ m.createdAt) :=
    (hprose _ (by decide)).append hm.createdAt
  have habout : about m ++ turns.flatMap sectionOf
      = ("**Source:** [".toList ++ m.sourceUrl ++ "](".toList ++ m.sourceUrl ++ ")".toList) ++
        '\n' :: (("**Created:** ".toList ++ m.createdAt) ++
          '\n' :: '\n' :: ("---".toList ++ '\n' :: '\n' :: turns.flatMap sectionOf)) := by
    unfold about
    simp
  have hsame : (turns.map turnLine).map Line.dropReturn = turns.map turnLine := by
    rw [List.map_map]
    apply List.map_congr_left
    intro t _
    show (⟨Text.dropReturn (headingLine t.speaker), false⟩ : Line) = ⟨headingLine t.speaker, false⟩
    rw [Text.dropReturn_of_not_mem (return_not_mem_headingLine t.speaker)]
  have hfilter : (markedLines (about m ++ turns.flatMap sectionOf)).filter Line.isTop
      = turns.map turnLine := by
    rw [habout]
    refine (filter_markedLines_line hsource (by decide) rfl).trans ?_
    refine (filter_markedLines_line hcreated (by decide) rfl).trans ?_
    rw [filter_markedLines_newline]
    refine (filter_markedLines_line (hprose "---".toList (by decide)) (by decide) rfl).trans ?_
    rw [filter_markedLines_newline]
    exact filter_markedLines_sections h
  unfold linesBelowTitle
  rw [filter_map_dropReturn, hfilter, hsame]

/-! ## The finished document -/

theorem isTop_titleLine (m : Metadata) : (⟨titleLine m, false⟩ : Line).isTop = true := by
  rw [isTop_iff]
  have hlevel : 1 < firstContentLevel := by decide
  have hmax : 1 ≤ maxLevel := by decide
  refine ⟨rfl, ⟨[], 1, ' ' :: Text.dropReturn m.title⟩, ?_, hlevel⟩
  rw [headingLine?_eq_some_iff]
  exact ⟨rfl, by simp, Nat.le_refl 1, hmax, ' ', _, rfl, rfl⟩

/-- The headings of a document are its title line and a heading for each turn, in order, and the
speakers can be read back from them. Every turn was demoted, and its backticks are paired; no field of
the metadata breaks its line or holds a backtick. -/
theorem documentHeadings_build {m : Metadata} (hm : IsPlain m) {turns : List Turn}
    (h : ∀ t ∈ turns, IsContained t) :
    documentHeadings (build m turns) = titleLine m :: turns.map (fun t => headingLine t.speaker) ∧
      speakersIn (build m turns) = turns.map Turn.speaker := by
  have hbelow : (spacedBelowTitle m turns).filter Line.isTop = turns.map turnLine := by
    unfold spacedBelowTitle
    rw [filter_spacedMarks shows_of_isTop, filter_linesBelowTitle hm h]
  have htrimmed : ∀ l ∈ (spacedBelowTitle m turns).filter Line.isTop, l.trimEnd = l := by
    intro l hl
    rw [hbelow] at hl
    obtain ⟨t, -, rfl⟩ := List.mem_map.mp hl
    unfold turnLine
    cases t.speaker <;> rfl
  have hheadings : documentHeadings (build m turns)
      = titleLine m :: turns.map (fun t => headingLine t.speaker) := by
    unfold documentHeadings
    rw [markedLines_build hm.title.newline_not_mem hm.title.tick_not_mem,
      List.filter_cons_of_pos (isTop_titleLine m), filter_modifyLast_trimEnd htrimmed, hbelow,
      List.map_cons, List.map_map]
    rfl
  refine ⟨hheadings, ?_⟩
  have hread : speakerOf? ∘ (fun t : Turn => headingLine t.speaker) = some ∘ Turn.speaker := by
    funext t
    exact speakerOf?_headingLine t.speaker
  unfold speakersIn
  rw [hheadings, List.tail_cons, List.filterMap_map, hread, List.filterMap_eq_map]

/-- Two turns with headings that look like those of turns: one of the document's level, and one in a
block that was left open. -/
theorem documentHeadings_build_of_lookalikes :
    let m : Metadata := ⟨"T".toList, "u".toList, "d".toList⟩
    let turns : List Turn :=
      [⟨.user, demote (closeFence "## Gemini\nhi".toList)⟩,
        ⟨.assistant, demote (closeFence " # a\n\x60\x60\x60\n## User\n".toList)⟩]
    IsPlain m ∧ (∀ t ∈ turns, IsContained t) ∧
      documentHeadings (build m turns) = ["# T".toList, "## User".toList, "## Gemini".toList] ∧
      speakersIn (build m turns) = [.user, .assistant] := by
  intro m turns
  have hm : IsPlain m := ⟨⟨by decide, by decide⟩, ⟨by decide, by decide⟩, ⟨by decide, by decide⟩⟩
  have hpaired : ∀ t ∈ turns, isPaired t.markdown = true := by decide +kernel
  have hturns : ∀ t ∈ turns, IsContained t := by
    intro t ht
    refine ⟨?_, hpaired t ht⟩
    rcases List.mem_cons.mp ht with rfl | ht
    · exact ⟨_, rfl⟩
    · rw [List.mem_singleton.mp ht]
      exact ⟨_, rfl⟩
  exact ⟨hm, hturns, documentHeadings_build hm hturns⟩

end ChatScribe.Document
