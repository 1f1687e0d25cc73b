import ChatScribe.Proofs.Fence.Marks
import ChatScribe.Proofs.Spacing
import ChatScribe.Proofs.Text.Ends

/-!
# What the normalised document is made of

The pass over blank lines decides by the marks of the lines it reads, and says nothing about the marks
of the lines it writes: these belong to another text, and another scan finds them. `remark_spacedLines`
says that each line that is written keeps the mark it was read with, and that a line put in is no code.

The steps of the pass are the steps of the proof. A blank line outside of blocks is prose, so it can be
taken out (`SelfMarked.of_insert_prose`); an empty line can be put in front of a line that is no code
(`SelfMarked.insert_empty`). From there on `Respaced` is read off line by line.
-/

namespace ChatScribe.Markdown

/-! ## Lines with the marks of their own text -/

/-- Marks lines as the text that they make when they are joined. No lines have no marks. -/
def remark (ls : List Text) : List Line := if ls = [] then [] else markedLines (Text.unlines ls)

/-- Lines that have the marks of the text that they make. -/
def SelfMarked (ls : List Line) : Prop := remark (ls.map Line.text) = ls

theorem remark_of_ne_nil {ls : List Text} (h : ls ≠ []) : remark ls = markedLines (Text.unlines ls) :=
  if_neg h

theorem selfMarked_iff {ls : List Line} (h : ls ≠ []) :
    SelfMarked ls ↔ markedLines (Text.unlines (ls.map Line.text)) = ls := by
  unfold SelfMarked
  rw [remark_of_ne_nil (by simpa using h)]

theorem selfMarked_markedLines (t : Text) : SelfMarked (markedLines t) := by
  rw [selfMarked_iff (markedLines_ne_nil t), map_text_markedLines, Text.unlines_lines]

theorem SelfMarked.newline_not_mem {ls : List Line} (h : SelfMarked ls) :
    ∀ l ∈ ls.map Line.text, '\n' ∉ l := by
  intro l hl
  have hne : ls ≠ [] := by
    intro hnil
    rw [hnil] at hl
    cases hl
  rw [← (selfMarked_iff hne).mp h, map_text_markedLines] at hl
  exact Text.not_mem_of_mem_lines hl

/-- The lines behind some others of one text. -/
theorem LinesClosed.of_append {ls ms : List Line} (h : LinesClosed (ls ++ ms)) : LinesClosed ms := by
  induction ls with
  | nil => exact h
  | cons l ls ih => exact ih h.2

theorem linesClosed_markedLines (t : Text) : LinesClosed (markedLines t) :=
  (blocksClosed_markedChars t).cutLines

/-- A line of prose between other lines leaves their marks, whatever these are. -/
theorem exists_markedLines_insert {as bs : List Text} (has : as ≠ []) (hbs : bs ≠ [])
    (hplain : ∀ l ∈ as, '\n' ∉ l) {w : Text} (hw : '\n' ∉ w) (ht : tick ∉ w) :
    ∃ front back f, front.length = as.length ∧
      markedLines (Text.unlines (as ++ bs)) = front ++ back ∧
      markedLines (Text.unlines (as ++ w :: bs)) = front ++ ⟨w, f⟩ :: back := by
  obtain ⟨front, back, f, hfront, -, hshort, hlong⟩ :=
    markedLines_insert_prose hw ht (Text.unlines as) (Text.unlines bs)
  have hlen : front.length = as.length := by
    rw [Text.lines_unlines has hplain] at hfront
    rw [← hfront, List.length_map]
  have hmid : Text.unlines (w :: bs) = w ++ '\n' :: Text.unlines bs :=
    Text.unlines_append_unlines (List.cons_ne_nil w []) hbs
  refine ⟨front, back, f, hlen, ?_, ?_⟩
  · rw [Text.unlines_append_unlines has hbs, hshort]
  · rw [Text.unlines_append_unlines has (List.cons_ne_nil w bs), hmid, hlong]

/-- A line of prose that is no code can be taken out. -/
theorem SelfMarked.of_insert_prose {as bs : List Line} {w : Text} (ht : tick ∉ w)
    (h : SelfMarked (as ++ ⟨w, false⟩ :: bs)) : SelfMarked (as ++ bs) := by
  have hplain := h.newline_not_mem
  have hw : '\n' ∉ w := hplain w (by simp)
  rw [selfMarked_iff (by simp), List.map_append, List.map_cons] at h
  by_cases has : as = []
  · subst has
    by_cases hbs : bs = []
    · rw [hbs]
      rfl
    · -- the line stands in front of all others
      have hjoin : Text.unlines (w :: bs.map Line.text) = w ++ '\n' :: Text.unlines (bs.map Line.text) :=
        Text.unlines_append_unlines (List.cons_ne_nil w []) (by simpa using hbs)
      rw [List.map_nil, List.nil_append, hjoin, markedLines_line _ hw ht] at h
      rw [List.nil_append, selfMarked_iff hbs]
      exact (List.cons.inj h).2
  · have htexts : as.map Line.text ≠ [] := by simpa using has
    by_cases hbs : bs = []
    · -- the line stands behind all others
      subst hbs
      have hjoin : Text.unlines (as.map Line.text ++ [w])
          = Text.unlines (as.map Line.text) ++ '\n' :: w :=
        Text.unlines_append_unlines htexts (List.cons_ne_nil w [])
      rw [List.map_nil, hjoin, markedLines_append_prose hw ht] at h
      rw [List.append_nil, selfMarked_iff has]
      exact List.append_cancel_right h
    · obtain ⟨front, back, f, hlen, hshort, hlong⟩ := exists_markedLines_insert htexts
        (show bs.map Line.text ≠ [] by simpa using hbs)
        (fun l hl => hplain l (by rw [List.map_append]; exact List.mem_append_left _ hl)) hw ht
      rw [hlong] at h
      obtain ⟨hfront, hback⟩ := List.append_inj h (by rw [hlen, List.length_map])
      rw [selfMarked_iff (by simp [has]), List.map_append, hshort, hfront, (List.cons.inj hback).2]

/-- An empty line can be put in front of a line that is no code. -/
theorem SelfMarked.insert_empty {as bs : List Line} {l : Line} (has : as ≠ [])
    (hl : l.fenced = false) (h : SelfMarked (as ++ l :: bs)) :
    SelfMarked (as ++ ⟨[], false⟩ :: l :: bs) := by
  have hplain := h.newline_not_mem
  obtain ⟨front, back, f, hlen, hshort, hlong⟩ := exists_markedLines_insert
    (show as.map Line.text ≠ [] by simpa using has)
    (show (l :: bs).map Line.text ≠ [] by simp)
    (fun k hk => hplain k (by rw [List.map_append]; exact List.mem_append_left _ hk))
    List.not_mem_nil List.not_mem_nil
  rw [selfMarked_iff (by simp), List.map_append, hshort] at h
  obtain ⟨rfl, rfl⟩ := List.append_inj h (by rw [hlen, List.length_map])
  -- an empty line of a block would be followed by a line of that block
  have hf : f = false := by
    have hclosed := linesClosed_markedLines (Text.unlines (front.map Line.text ++
      [] :: (l :: bs).map Line.text))
    rw [hlong] at hclosed
    rw [← Bool.not_eq_true]
    intro htrue
    obtain ⟨m, ms, hms, hm⟩ := hclosed.of_append.1 htrue rfl
    rw [← (List.cons.inj hms).1, hl] at hm
    cases hm
  rw [selfMarked_iff (by simp), List.map_append, List.map_cons, hlong, hf]

/-! ## The marks of the lines that are written -/

/-- The lines to write, each with the mark it was read with. A line that is put in is no code. -/
def spacedMarks : Option Text → List Line → List Line
  | _, [] => []
  | last, line :: rest =>
    if line.fenced then line :: spacedMarks (some line.text) rest
    else if isBlankLine line.text then spacedMarks last rest
    else if opensPart line.text && last.any (!·.isEmpty) then
      ⟨[], false⟩ :: line :: spacedMarks (some line.text) rest
    else line :: spacedMarks (some line.text) rest

theorem map_text_spacedMarks (last : Option Text) (ls : List Line) :
    (spacedMarks last ls).map Line.text = spacedFrom last ls := by
  induction ls generalizing last with
  | nil => rfl
  | cons l ls ih =>
    rw [spacedMarks, spacedFrom]
    split
    · rw [List.map_cons, ih]
    · split
      · exact ih last
      · split
        · rw [List.map_cons, List.map_cons, ih]
        · rw [List.map_cons, ih]

theorem tick_not_mem_of_isBlankLine {l : Text} (h : isBlankLine l = true) : tick ∉ l := by
  intro hmem
  have htick := List.all_eq_true.mp h tick hmem
  revert htick
  decide

/-- Writing the lines behind `as` leaves lines with the marks of their own text. The induction is on
the lines still to be read: each step moves one of them to the lines written, or drops it. -/
theorem SelfMarked.spacedMarks {as : List Line} {last : Option Text} (hlast : last ≠ none → as ≠ [])
    {ls : List Line} (h : SelfMarked (as ++ ls)) : SelfMarked (as ++ spacedMarks last ls) := by
  induction ls generalizing as last with
  | nil => exact h
  | cons l ls ih =>
    have hkeep : ∀ {bs : List Line}, SelfMarked (bs ++ l :: ls) →
        SelfMarked (bs ++ l :: Markdown.spacedMarks (some l.text) ls) := by
      intro bs hbs
      have hmoved : bs ++ l :: ls = (bs ++ [l]) ++ ls := by simp
      rw [hmoved] at hbs
      have hne : some l.text ≠ none → bs ++ [l] ≠ [] := fun _ => by simp
      have hrest := ih hne hbs
      rw [List.append_assoc] at hrest
      exact hrest
    rw [Markdown.spacedMarks]
    split
    · exact hkeep h
    · rename_i hf
      rw [Bool.not_eq_true] at hf
      split
      · rename_i hb
        have hl : l = ⟨l.text, false⟩ := by rw [← hf]
        rw [hl] at h
        exact ih hlast (h.of_insert_prose (tick_not_mem_of_isBlankLine hb))
      · split
        · rename_i hopens
          have has : as ≠ [] := by
            apply hlast
            intro hnone
            rw [hnone, Option.any_none, Bool.and_false] at hopens
            cases hopens
          have hgap := h.insert_empty has hf
          have hmoved : as ++ ⟨[], false⟩ :: l :: ls = (as ++ [⟨[], false⟩]) ++ l :: ls := by simp
          rw [hmoved] at hgap
          have hrest := hkeep hgap
          rw [List.append_assoc] at hrest
          exact hrest
        · exact hkeep h

/-- The lines of a document, before its ends are trimmed, have the marks they were read with. -/
theorem remark_spacedLines (t : Text) :
    remark (spacedLines t) = spacedMarks none (markedLines t.unifyLineEnds) := by
  have hself : SelfMarked ([] ++ markedLines t.unifyLineEnds) := selfMarked_markedLines _
  have hmarked := hself.spacedMarks (fun hne => absurd rfl hne)
  rw [List.nil_append] at hmarked
  unfold spacedLines
  rw [← map_text_spacedMarks]
  exact hmarked

end ChatScribe.Markdown
