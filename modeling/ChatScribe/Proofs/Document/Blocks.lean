import ChatScribe.Proofs.Document.Sections
import ChatScribe.Proofs.Heading

/-!
# When a code block reaches the document as it is

A code block passes four stages that each decide anew where code is: the placeholders, the repair of
fences and the demotion of headings over its turn, and the normalisation of blank lines over the whole
document. The last three go by the backticks in front of the block, so `Surroundings` keeps all that a
block is put into and leaves the block out.

The surroundings keep every block if and only if the backticks in front of it are paired, both in its
turn and in the document (`Surroundings.keepsBlocks_iff`). A single backtick in prose is enough to
break this: it takes the first backtick of the opening fence for its partner, and the lines of the
block are then read as headings and blank lines.
-/

namespace ChatScribe.Document

open Markdown

/-- What stands around the code of one block, up to the whole document. -/
structure Surroundings where
  /-- The document in front of the section of the turn. -/
  front : Text
  speaker : Speaker
  /-- The text of the turn in front of the block. -/
  lead : Text
  /-- The text of the turn behind the block. -/
  tail : Text
  /-- The document behind the section of the turn. -/
  back : Text
  /-- The section of the turn starts a line. -/
  front_ends : front.getLast? = some '\n'

namespace Surroundings

/-- The turn with some code in the block, before its headings are demoted. -/
def closedTurn (s : Surroundings) (body : Text) : Text :=
  closeFence (Text.trim (s.lead ++ ("\n\x60\x60\x60\n".toList ++ body ++ "\n\x60\x60\x60\n".toList) ++
    s.tail))

/-- The section of the turn with some code in the block. -/
def sectionWith (s : Surroundings) (body : Text) : Text :=
  sectionOf ⟨s.speaker, demote (s.closedTurn body)⟩

/-- The document with some code in the block. -/
def document (s : Surroundings) (body : Text) : Text :=
  respace (s.front ++ s.sectionWith body ++ s.back)

/-- What the turn has in front of the opening fence of the block. -/
def opening (s : Surroundings) : Text := Text.trimStart (s.lead ++ ['\n'])

/-- The document up to the Markdown of the turn. -/
def heading (s : Surroundings) : Text := s.front ++ (headingLine s.speaker ++ ['\n'])

/-- Are the backticks in front of the block paired, in its turn and in the document? -/
def isClear (s : Surroundings) : Bool := isPaired s.opening && isPaired (s.heading ++ s.opening)

/-- Code that can stand in a block: neither a fence nor a carriage return is in it. -/
def Blocklike (body : Text) : Prop := ¬ fenceMark <:+: body ∧ '\r' ∉ body

/-- Is the block in the document character by character, whatever its code is? -/
def KeepsBlocks (s : Surroundings) : Prop :=
  ∀ body, Blocklike body → fencedText body <:+: s.document body

variable (s : Surroundings)

/-! ## The turn -/

theorem getLast?_heading : s.heading.getLast? = some '\n' := by
  unfold heading
  rw [List.getLast?_append, List.getLast?_append]
  rfl

theorem getLast?_heading_append {u : Text} (hu : u = [] ∨ u.getLast? = some '\n') :
    (s.heading ++ u).getLast? = some '\n' := by
  rcases hu with rfl | hend
  · rw [List.append_nil]
    exact s.getLast?_heading
  · rw [List.getLast?_append, hend]
    rfl

/-- The opening is empty or ends a line: what trimming leaves of it still has its line feed. -/
theorem opening_ends : s.opening = [] ∨ s.opening.getLast? = some '\n' := by
  obtain ⟨dropped, hsplit⟩ := Text.suffix_trimStart (s.lead ++ ['\n'])
  by_cases hnil : s.opening = []
  · exact Or.inl hnil
  · right
    have hlast : (dropped ++ s.opening).getLast? = some '\n' := by
      unfold opening
      rw [hsplit, List.getLast?_append]
      rfl
    obtain ⟨c, hc⟩ := Option.ne_none_iff_exists'.mp (mt List.getLast?_eq_none_iff.mp hnil)
    rw [List.getLast?_append, hc] at hlast
    rw [hc]
    exact hlast

/-- The turn before its fences are repaired, cut around the block. -/
theorem trim_block (body : Text) :
    Text.trim (s.lead ++ ("\n\x60\x60\x60\n".toList ++ body ++ "\n\x60\x60\x60\n".toList) ++ s.tail)
      = s.opening ++ (fencedText body ++ Text.trimEnd ('\n' :: s.tail)) := by
  have hsplit : s.lead ++ ("\n\x60\x60\x60\n".toList ++ body ++ "\n\x60\x60\x60\n".toList) ++ s.tail
      = (s.lead ++ ['\n']) ++ fencedText body ++ ('\n' :: s.tail) := by
    have hfront : "\n\x60\x60\x60\n".toList = '\n' :: (fenceMark ++ ['\n']) := rfl
    unfold fencedText
    rw [hfront]
    simp
  rw [hsplit, fencedText_eq_ticks, Text.trim_append_append (by decide) (by decide), List.append_assoc]
  rfl

/-- What is left of a text that starts a line, once it is trimmed behind, starts a line too. -/
theorem trimEnd_newline_cons (t : Text) :
    Text.trimEnd ('\n' :: t) = [] ∨ (Text.trimEnd ('\n' :: t)).head? = some '\n' := by
  have hcut := Text.prefix_trimEnd ('\n' :: t)
  cases hend : Text.trimEnd ('\n' :: t) with
  | nil => exact Or.inl rfl
  | cons c r =>
    right
    rw [hend] at hcut
    rw [(List.cons_prefix_cons.mp hcut).1]
    rfl

theorem count_trimEnd_newline_cons {c : Char} (hc : c ≠ '\n') (t : Text) :
    (Text.trimEnd ('\n' :: t)).count c ≤ t.count c := by
  have hle := (Text.prefix_trimEnd ('\n' :: t)).sublist.count_le c
  rw [List.count_cons, if_neg (by simpa using Ne.symm hc)] at hle
  exact hle

/-- What the turn has behind the closing fence of a block starts a line, and is no more than what
stood there and perhaps another fence. -/
theorem closedTurn_eq (body : Text) :
    ∃ r, (r = [] ∨ r.head? = some '\n') ∧ (∀ c, c ≠ tick → c ≠ '\n' → r.count c ≤ s.tail.count c) ∧
      s.closedTurn body = s.opening ++ (fencedText body ++ r) := by
  have htrim := s.trim_block body
  have hstart := trimEnd_newline_cons s.tail
  unfold closedTurn
  rw [htrim]
  unfold closeFence
  -- another fence goes on a line of its own, so what follows the block still starts a line
  by_cases hodd : unclosedFences (s.opening ++ (fencedText body ++ Text.trimEnd ('\n' :: s.tail))) % 2 = 1
  · refine ⟨Text.trimEnd ('\n' :: s.tail) ++ '\n' :: fenceMark, Or.inr ?_, ?_, ?_⟩
    · rcases hstart with hnil | hhead
      · rw [hnil]
        rfl
      · rw [List.head?_append, hhead]
        rfl
    · intro c htick hc
      have hfence : ('\n' :: fenceMark).count c = 0 := by
        rw [List.count_eq_zero]
        simp [fenceMark, hc, htick]
      rw [List.count_append, hfence]
      exact count_trimEnd_newline_cons hc s.tail
    · rw [if_pos hodd, ← htrim, Text.trim_trim, htrim]
      simp
  · rw [if_neg hodd]
    exact ⟨_, hstart, fun c _ hc => count_trimEnd_newline_cons hc s.tail, rfl⟩

/-! ## Clear surroundings keep every block -/

theorem sectionWith_eq (body : Text) : s.front ++ s.sectionWith body ++ s.back
    = s.heading ++ (demote (s.closedTurn body) ++ ("\n\n".toList ++ s.back)) := by
  unfold sectionWith heading
  rw [sectionOf_eq]
  simp

/-- The document up to the opening fence of the block, once headings are demoted. -/
def demotedLead (s : Surroundings) (shift : Nat) : Text := s.heading ++ demotedFront shift s.opening

theorem getLast?_demotedLead (shift : Nat) : (s.demotedLead shift).getLast? = some '\n' :=
  s.getLast?_heading_append (getLast?_demotedFront shift s.opening)

/-- Demoting headings does not change which backticks are paired. -/
theorem isPaired_demotedLead (shift : Nat) :
    isPaired (s.demotedLead shift) = isPaired (s.heading ++ s.opening) := by
  unfold demotedLead
  rw [isPaired_eq_atRest, isPaired_eq_atRest, Mode.run_append, Mode.run_append,
    Mode.run_demotedFront shift s.opening_ends]

/-- If the turn is paired in front of the block, demoting leaves the block as it is. -/
theorem exists_demotedLead (hturn : isPaired s.opening = true) {body : Text}
    (hbody : ¬ fenceMark <:+: body) :
    ∃ shift w, (w = [] ∨ w.head? = some '\n') ∧ s.front ++ s.sectionWith body ++ s.back
      = s.demotedLead shift ++ (fencedText body ++ (w ++ ("\n\n".toList ++ s.back))) := by
  obtain ⟨r, hr, -, hclosed⟩ := s.closedTurn_eq body
  obtain ⟨shift, w, hw, hdemote⟩ := demote_fencedText hturn s.opening_ends hbody hr
  refine ⟨shift, w, hw, ?_⟩
  rw [sectionWith_eq, hclosed, hdemote]
  simp [demotedLead]

/-- Where the backticks in front of it are paired, a block gets through all stages. -/
theorem keepsBlocks_of_isClear (h : s.isClear = true) : s.KeepsBlocks := by
  intro body hbody
  obtain ⟨hturn, hdocument⟩ := Bool.and_eq_true_iff.mp h
  obtain ⟨shift, w, hw, hsplit⟩ := s.exists_demotedLead hturn hbody.1
  -- demoting changes the front of the block, but not what is paired in it
  have hpaired : isPaired (s.demotedLead shift) = true := by
    rw [isPaired_demotedLead]
    exact hdocument
  have hbehind : (w ++ ("\n\n".toList ++ s.back)).head? = some '\n' := by
    rcases hw with rfl | hhead
    · rfl
    · rw [List.head?_append, hhead]
      rfl
  unfold document
  rw [hsplit]
  exact fencedText_infix_respace hpaired (s.getLast?_demotedLead shift) hbody.1 hbody.2 hbehind

/-! ## Surroundings that are not clear break a block -/

/-- Code that shows whether it was taken for prose: a heading made of a number of letters. -/
def telltale (level n : Nat) : Text := List.replicate level '#' ++ ' ' :: List.replicate n 'x'

theorem mem_telltale {level n : Nat} {c : Char} (h : c ∈ telltale level n) :
    c = '#' ∨ c = ' ' ∨ c = 'x' := by
  unfold telltale at h
  rw [List.mem_append, List.mem_cons, List.mem_replicate, List.mem_replicate] at h
  rcases h with h | h | h
  · exact Or.inl h.2
  · exact Or.inr (Or.inl h)
  · exact Or.inr (Or.inr h.2)

theorem tick_not_mem_telltale (level n : Nat) : tick ∉ telltale level n := by
  intro h
  rcases mem_telltale h with h | h | h <;> exact absurd h (by decide)

theorem newline_not_mem_telltale (level n : Nat) : '\n' ∉ telltale level n := by
  intro h
  rcases mem_telltale h with h | h | h <;> exact absurd h (by decide)

theorem return_not_mem_telltale (level n : Nat) : '\r' ∉ telltale level n := by
  intro h
  rcases mem_telltale h with h | h | h <;> exact absurd h (by decide)

theorem blocklike_telltale (level n : Nat) : Blocklike (telltale level n) := by
  refine ⟨?_, return_not_mem_telltale level n⟩
  intro h
  exact tick_not_mem_telltale level n (h.mem (by decide))

theorem count_telltale (level n : Nat) : (telltale level n).count 'x' = n := by
  unfold telltale
  rw [List.count_append, List.count_cons, List.count_replicate, List.count_replicate_self,
    if_neg (by decide), if_neg (by decide)]
  omega

theorem length_telltale (level n : Nat) : (telltale level n).length = level + n + 1 := by
  unfold telltale
  rw [List.length_append, List.length_cons, List.length_replicate, List.length_replicate]
  omega

theorem telltale_ne_nil (level n : Nat) : telltale level n ≠ [] := by
  apply List.ne_nil_of_length_pos
  rw [length_telltale]
  omega

/-- How often the letter of the telltale stands around the block. -/
def weight : Nat := (s.heading ++ s.lead ++ s.tail ++ s.back).count 'x'

/-- Of the letters in a document all but those of the block stand around it. -/
theorem count_draft_le (body : Text) :
    (s.front ++ s.sectionWith body ++ s.back).count 'x' ≤ s.weight + body.count 'x' := by
  obtain ⟨r, -, hr, hclosed⟩ := s.closedTurn_eq body
  have hlead : s.opening.count 'x' ≤ s.lead.count 'x' := by
    have hle := (Text.suffix_trimStart (s.lead ++ ['\n'])).sublist.count_le 'x'
    rw [List.count_append] at hle
    exact hle
  have htail : r.count 'x' ≤ s.tail.count 'x' := hr 'x' (by decide) (by decide)
  have hblock : (fencedText body).count 'x' = body.count 'x' := by
    unfold fencedText
    rw [List.count_append, List.count_append, List.count_cons, List.count_cons]
    have hmark : fenceMark.count 'x' = 0 := rfl
    rw [hmark, Nat.zero_add]
    rfl
  have hfeeds : ("\n\n".toList).count 'x' = 0 := rfl
  unfold weight
  rw [sectionWith_eq, hclosed, List.count_append, List.count_append, List.count_append,
    count_demote (by decide), List.count_append, List.count_append, List.count_append,
    List.count_append, List.count_append, hblock, hfeeds]
  omega

/-- If the letters of the block are on one line, the others are around that line. -/
theorem count_around_le {a b : Text} {level n : Nat}
    (h : s.front ++ s.sectionWith (telltale 1 n) ++ s.back = a ++ (telltale level n ++ '\n' :: b)) :
    a.count 'x' ≤ s.weight ∧ b.count 'x' ≤ s.weight := by
  have hle := s.count_draft_le (telltale 1 n)
  have hfeed : ('\n' :: b).count 'x' = b.count 'x' := rfl
  rw [h, List.count_append, List.count_append, hfeed, count_telltale, count_telltale] at hle
  omega

/-- A line with more letters than stand around it is the only one like it. -/
theorem eq_of_mem_lines {a l m b : Text} (hend : a.getLast? = some '\n') (hline : '\n' ∉ m)
    (hreturn : '\r' ∉ m) (ha : a.count 'x' < l.count 'x') (hb : b.count 'x' < l.count 'x')
    (h : l ∈ Text.lines (a ++ (m ++ '\n' :: b)).unifyLineEnds) : l = m := by
  have hsub : ∀ t : Text, ∀ k ∈ Text.lines t.unifyLineEnds, k.count 'x' ≤ t.count 'x' := by
    intro t k hk
    exact ((Text.infix_of_mem_lines hk).sublist.trans (unifyLineEnds_sublist t)).count_le 'x'
  have hunify : (a ++ (m ++ '\n' :: b)).unifyLineEnds
      = a.unifyLineEnds ++ (m ++ '\n' :: b.unifyLineEnds) := by
    rw [Text.unifyLineEnds_append (Or.inl (by rw [hend]; decide)), Text.unifyLineEnds_line hreturn]
  obtain ⟨z, hz⟩ := List.getLast?_eq_some_iff.mp (getLast?_unifyLineEnds hend)
  have happ : z ++ ['\n'] ++ (m ++ '\n' :: b.unifyLineEnds)
      = z ++ '\n' :: (m ++ '\n' :: b.unifyLineEnds) := by simp
  rw [hunify, hz, happ, Text.lines_append_newline, Text.lines_append_newline,
    Text.lines_of_not_mem hline, List.mem_append, List.singleton_append, List.mem_cons] at h
  rcases h with h | h | h
  · have hmem : l ∈ Text.lines a.unifyLineEnds := by
      rw [hz, Text.lines_append_newline]
      exact List.mem_append_left _ h
    have hle := hsub a l hmem
    omega
  · exact h
  · have hle := hsub b l h
    omega

/-- Behind a text that leaves a mark open, the code of a block is demoted like prose. -/
theorem exists_demote_telltale {u : Text} (hu : isPaired u = false) (hend : u.getLast? = some '\n')
    (n : Nat) (r : Text) :
    ∃ before after, demote (u ++ (fencedText (telltale 1 n) ++ r))
        = before ++ (telltale 4 n ++ '\n' :: after) ∧ (before = [] ∨ before.getLast? = some '\n') := by
  -- the opening fence closes what was open, so the code stands outside of every span
  have hsplit : u ++ (fencedText (telltale 1 n) ++ r)
      = (u ++ (fenceMark ++ ['\n'])) ++ (telltale 1 n ++ '\n' :: (fenceMark ++ r)) := by
    simp [fencedText]
  have hlast : (u ++ (fenceMark ++ ['\n'])).getLast? = some '\n' := by
    rw [List.getLast?_append]
    rfl
  have hlines : markedLines (u ++ (fencedText (telltale 1 n) ++ r))
      = (markedLines (u ++ (fenceMark ++ ['\n']))).dropLast ++
          ⟨telltale 1 n, false⟩ :: markedLines (fenceMark ++ r) := by
    rw [hsplit, markedLines_append _ (isPaired_append_fence hu hend) (Or.inr hlast),
      markedLines_line _ (newline_not_mem_telltale 1 n) (tick_not_mem_telltale 1 n)]
  have hlower : Line.demoted 3 ⟨telltale 1 n, false⟩ = telltale 4 n := rfl
  have hrest : (markedLines (fenceMark ++ r)).map (Line.demoted 3) ≠ [] := by
    simp [markedLines_ne_nil]
  have hcons := Text.unlines_append_unlines (List.cons_ne_nil (telltale 4 n) []) hrest
  rw [List.singleton_append] at hcons
  rw [demote_of_top hlines, hlines, List.map_append, List.map_cons, hlower,
    Text.unlines_append _ (List.cons_ne_nil _ _), hcons]
  exact ⟨_, _, rfl, Text.getLast?_terminated _⟩

/-- If a mark in front of the block is left open in its turn, the code is read as prose there, and its
heading is moved down. -/
theorem not_infix_of_open_turn (h : isPaired s.opening = false) :
    ¬ fencedText (telltale 1 (s.weight + 1)) <:+: s.document (telltale 1 (s.weight + 1)) := by
  intro hin
  generalize hn : s.weight + 1 = n at hin
  have hend : s.opening.getLast? = some '\n' := by
    rcases s.opening_ends with hnil | hlast
    · rw [hnil] at h
      exact absurd h (by rw [isPaired_of_not_mem List.not_mem_nil]; decide)
    · exact hlast
  obtain ⟨r, -, -, hclosed⟩ := s.closedTurn_eq (telltale 1 n)
  obtain ⟨before, after, hdemote, hbefore⟩ := exists_demote_telltale h hend n r
  have hdraft : s.front ++ s.sectionWith (telltale 1 n) ++ s.back = (s.heading ++ before) ++
      (telltale 4 n ++ '\n' :: (after ++ ("\n\n".toList ++ s.back))) := by
    rw [sectionWith_eq, hclosed, hdemote]
    simp
  -- a block would bring its line along, but the only line with so many letters has another level
  obtain ⟨hbelow, habove⟩ := s.count_around_le hdraft
  obtain ⟨ls, ms, hwritten, -⟩ := spacedLines_of_fencedText_infix (newline_not_mem_telltale 1 n) hin
  have hmem : telltale 1 n ∈ spacedLines (s.front ++ s.sectionWith (telltale 1 n) ++ s.back) := by
    rw [hwritten]
    exact List.mem_append_right ls List.mem_cons_self
  rcases mem_spacedLines hmem with hnil | hmem
  · exact telltale_ne_nil 1 n hnil
  · rw [hdraft] at hmem
    have heq := eq_of_mem_lines (s.getLast?_heading_append hbefore) (newline_not_mem_telltale 4 n)
      (return_not_mem_telltale 4 n) (by rw [count_telltale]; omega) (by rw [count_telltale]; omega) hmem
    have hlevel := length_telltale 1 n
    rw [heq, length_telltale] at hlevel
    omega

/-- The line of an opening fence shows: the lines of a text that ends in it are not all blank. -/
theorem spacedLines_append_fence_ne_nil {u : Text} (hend : u.getLast? = some '\n') :
    spacedLines (u ++ (fenceMark ++ ['\n'])) ≠ [] := by
  intro hnil
  obtain ⟨z, hz⟩ := List.getLast?_eq_some_iff.mp (getLast?_unifyLineEnds hend)
  have happ : z ++ ['\n'] ++ (fenceMark ++ '\n' :: Text.unifyLineEnds [])
      = z ++ '\n' :: (fenceMark ++ '\n' :: Text.unifyLineEnds []) := by simp
  have hfence : fenceMark ∈ Text.lines (u ++ (fenceMark ++ ['\n'])).unifyLineEnds := by
    rw [Text.unifyLineEnds_append (Or.inl (by rw [hend]; decide)),
      Text.unifyLineEnds_line (by decide), hz, happ, Text.lines_append_newline,
      Text.lines_append_newline]
    exact List.mem_append_right _ (List.mem_append_left _ List.mem_cons_self)
  rw [← map_text_markedLines] at hfence
  obtain ⟨l, hl, htext⟩ := List.mem_map.mp hfence
  have hblank := isBlankLine_of_spacedFrom_eq_nil hnil hl
  rw [htext] at hblank
  exact absurd hblank (by decide)

/-- A line with more letters than a text is none of its lines. -/
theorem telltale_not_mem_lines {t : Text} {level n : Nat} (h : t.count 'x' < n) :
    telltale level n ∉ Text.lines t.unifyLineEnds := by
  intro hmem
  have hle := ((Text.infix_of_mem_lines hmem).sublist.trans (unifyLineEnds_sublist t)).count_le 'x'
  rw [count_telltale] at hle
  omega

/-- Behind a shown line, a telltale line outside of code gets an empty line in front. -/
theorem spacedLines_append_telltale {u : Text} (hpaired : isPaired u = true)
    (hend : u.getLast? = some '\n') (hshown : spacedLines u ≠ []) (n : Nat) (behind : Text) :
    spacedLines (u ++ (telltale 1 n ++ '\n' :: behind))
      = (spacedLines u ++ [[]]) ++
          telltale 1 n :: spacedFrom (some (telltale 1 n)) (markedLines behind.unifyLineEnds) := by
  obtain ⟨last, hwritten⟩ := Option.ne_none_iff_exists'.mp (mt List.getLast?_eq_none_iff.mp hshown)
  have hany : ((some last).any fun l => !l.isEmpty) = true := by
    cases hl : last with
    | nil => exact absurd hl (ne_nil_of_getLast?_spacedLines hwritten)
    | cons c l => rfl
  have hblank : isBlankLine (telltale 1 n) = false := rfl
  have hopens : opensPart (telltale 1 n) = true := rfl
  rw [spacedLines_append _ hpaired hend, hwritten,
    Text.unifyLineEnds_line (return_not_mem_telltale 1 n),
    markedLines_line _ (newline_not_mem_telltale 1 n) (tick_not_mem_telltale 1 n), spacedFrom, hblank,
    hopens, hany]
  simp

/-- If a mark in front of the block is left open in the document but none in the turn, the code is
read as prose when blank lines are normalised, and its heading gets an empty line in front. -/
theorem not_infix_of_open_document (hturn : isPaired s.opening = true)
    (h : isPaired (s.heading ++ s.opening) = false) :
    ¬ fencedText (telltale 1 (s.weight + 1)) <:+: s.document (telltale 1 (s.weight + 1)) := by
  intro hin
  generalize hn : s.weight + 1 = n at hin
  have hline := newline_not_mem_telltale 1 n
  obtain ⟨shift, w, -, hsplit⟩ := s.exists_demotedLead hturn (blocklike_telltale 1 n).1
  have hend := s.getLast?_demotedLead shift
  have hopen : isPaired (s.demotedLead shift) = false := by
    rw [isPaired_demotedLead]
    exact h
  generalize s.demotedLead shift = lead at hsplit hopen hend
  generalize hbehind : fenceMark ++ (w ++ ("\n\n".toList ++ s.back)) = behind
  have hdraft : s.front ++ s.sectionWith (telltale 1 n) ++ s.back
      = (lead ++ (fenceMark ++ ['\n'])) ++ (telltale 1 n ++ '\n' :: behind) := by
    rw [hsplit, ← hbehind]
    simp [fencedText]
  -- the opening fence closes what was open, so the code stands outside of every span
  have hpaired := isPaired_append_fence hopen hend
  have hlast : (lead ++ (fenceMark ++ ['\n'])).getLast? = some '\n' := by
    rw [List.getLast?_append]
    rfl
  have hlines := spacedLines_append_telltale hpaired hlast (spacedLines_append_fence_ne_nil hend) n behind
  -- no other line is like it, so the block would have to be where this line is
  obtain ⟨hfew, hfew'⟩ := s.count_around_le hdraft
  have hbefore : telltale 1 n ∉ spacedLines (lead ++ (fenceMark ++ ['\n'])) ++ [[]] := by
    rw [List.mem_append, List.mem_singleton, not_or]
    refine ⟨?_, telltale_ne_nil 1 n⟩
    intro hmem
    rcases mem_spacedLines hmem with hnil | hmem
    · exact telltale_ne_nil 1 n hnil
    · exact telltale_not_mem_lines (by omega) hmem
  have hafter : telltale 1 n ∉
      spacedFrom (some (telltale 1 n)) (markedLines behind.unifyLineEnds) := by
    intro hmem
    rcases mem_spacedFrom hmem with hnil | hmem
    · exact telltale_ne_nil 1 n hnil
    · rw [map_text_markedLines] at hmem
      exact telltale_not_mem_lines (by omega) hmem
  obtain ⟨ls, ms, hwhole, hnonempty⟩ := spacedLines_of_fencedText_infix hline hin
  rw [hdraft, hlines] at hwhole
  have hunique := (List.append_cons_inj_of_notMem hbefore hafter).mp hwhole
  -- but there the line in front of it is empty, and in a block it is the fence
  apply hnonempty
  rw [← hunique.1, List.getLast?_append]
  rfl

/-- Surroundings keep every block exactly if they are clear. -/
theorem keepsBlocks_iff : s.KeepsBlocks ↔ s.isClear = true := by
  constructor
  · intro hkeeps
    have hin := hkeeps (telltale 1 (s.weight + 1)) (blocklike_telltale 1 _)
    by_cases hturn : isPaired s.opening = true
    · by_cases hdocument : isPaired (s.heading ++ s.opening) = true
      · unfold isClear
        rw [hturn, hdocument]
        rfl
      · rw [Bool.not_eq_true] at hdocument
        exact absurd hin (s.not_infix_of_open_document hturn hdocument)
    · rw [Bool.not_eq_true] at hturn
      exact absurd hin (s.not_infix_of_open_turn hturn)
  · exact s.keepsBlocks_of_isClear

end Surroundings

end ChatScribe.Document
