import ChatScribe.Proofs.Fence.Marks
import ChatScribe.Proofs.Heading
import ChatScribe.Proofs.Text.LineEnds

/-!
# The levels of headings

A line is read as a heading in one way only (`headingLine?_eq_some_iff`), so what demoting writes is read
back as it was meant. And it is read with the marks that the text had before: demoting puts hashes into
lines, hashes are prose, and `markedLines_demote` gives every line of a demoted text.

So a demoted text has no heading of a level that belongs to the document (`isTop_demote`).
-/

namespace ChatScribe.Markdown

/-! ## Headings and their lines -/

/-- The three parts of a heading, as they can be read from a line. -/
structure HeadingLine.IsValid (h : HeadingLine) : Prop where
  indent : ∀ c ∈ h.indent, isIndent c = true
  level_pos : 1 ≤ h.level
  level_le : h.level ≤ maxLevel
  rest : ∃ c r, h.rest = c :: r ∧ isIndent c = true

/-- The line of a heading is read as that heading. -/
theorem HeadingLine.IsValid.headingLine?_render {h : HeadingLine} (hv : h.IsValid) :
    headingLine? h.render = some h := by
  obtain ⟨indent, level, rest⟩ := h
  obtain ⟨hindent, hpos, hle, c, r, rfl, hc⟩ := hv
  dsimp only at hindent hpos hle
  obtain ⟨n, rfl⟩ : ∃ n, level = n + 1 := ⟨level - 1, by omega⟩
  have hhash : isIndent '#' = false := rfl
  have hnot : (c == '#') = false := by
    rw [beq_eq_false_iff_ne]
    rintro rfl
    cases hc
  have hall : ∀ d ∈ List.replicate (n + 1) '#', (d == '#') = true := by
    intro d hd
    rw [List.eq_of_mem_replicate hd]
    rfl
  -- the indent ends in front of the first hash, and the hashes in front of the blank
  have hbody : (List.replicate (n + 1) '#' ++ c :: r).takeWhile isIndent = [] ∧
      (List.replicate (n + 1) '#' ++ c :: r).dropWhile isIndent
        = List.replicate (n + 1) '#' ++ c :: r := by
    rw [List.replicate_succ, List.cons_append, List.takeWhile_cons, List.dropWhile_cons, hhash]
    exact ⟨rfl, rfl⟩
  have hrest : (c :: r).takeWhile (· == '#') = [] ∧ (c :: r).dropWhile (· == '#') = c :: r := by
    rw [List.takeWhile_cons, List.dropWhile_cons, hnot]
    exact ⟨rfl, rfl⟩
  unfold headingLine? HeadingLine.render
  dsimp only
  rw [List.append_assoc, List.takeWhile_append_of_pos hindent, List.dropWhile_append_of_pos hindent,
    hbody.1, hbody.2, List.takeWhile_append_of_pos hall, List.dropWhile_append_of_pos hall, hrest.1,
    hrest.2, List.append_nil, List.append_nil, List.length_replicate, if_pos ⟨hpos, hle, hc⟩]

/-- The blanks of a heading: those in front of the hashes, and the one behind them. -/
theorem isIndent_of_headingLine? {line : Text} {h : HeadingLine} (hl : headingLine? line = some h) :
    (∀ c ∈ h.indent, isIndent c = true) ∧ ∃ c r, h.rest = c :: r ∧ isIndent c = true := by
  unfold headingLine? at hl
  dsimp only at hl
  split at hl
  · rename_i hparts
    obtain ⟨-, -, hblank⟩ := hparts
    rw [Option.any_eq_true] at hblank
    obtain ⟨c, hhead, hc⟩ := hblank
    obtain ⟨r, hr⟩ := List.head?_eq_some_iff.mp hhead
    obtain rfl := Option.some.inj hl
    exact ⟨fun d hd => List.all_eq_true.mp List.all_takeWhile d hd, c, r, hr, hc⟩
  · cases hl

/-- A line is a heading in one way only. -/
theorem headingLine?_eq_some_iff {line : Text} {h : HeadingLine} :
    headingLine? line = some h ↔ line = h.render ∧ h.IsValid := by
  constructor
  · intro hl
    obtain ⟨hrender, hpos, hle⟩ := render_of_headingLine? hl
    obtain ⟨hindent, hrest⟩ := isIndent_of_headingLine? hl
    exact ⟨hrender, hindent, hpos, hle, hrest⟩
  · rintro ⟨rfl, hv⟩
    exact hv.headingLine?_render

/-- Text behind a heading belongs to it. -/
theorem headingLine?_append {line : Text} {h : HeadingLine} (hl : headingLine? line = some h)
    (w : Text) : headingLine? (line ++ w) = some ⟨h.indent, h.level, h.rest ++ w⟩ := by
  rw [headingLine?_eq_some_iff] at hl ⊢
  obtain ⟨hrender, hindent, hpos, hle, c, r, hrest, hc⟩ := hl
  refine ⟨?_, hindent, hpos, hle, c, r ++ w, ?_, hc⟩
  · rw [hrender]
    unfold HeadingLine.render
    rw [List.append_assoc]
  · dsimp only
    rw [hrest, List.cons_append]

/-- A heading ends in a carriage return only behind the blank that makes it one. -/
theorem headingLine?_dropReturn {line : Text} {h : HeadingLine} (hl : headingLine? line = some h) :
    headingLine? (Text.dropReturn line) = some ⟨h.indent, h.level, Text.dropReturn h.rest⟩ := by
  rw [headingLine?_eq_some_iff] at hl ⊢
  obtain ⟨hrender, hindent, hpos, hle, c, r, hrest, hc⟩ := hl
  have hblank : Text.dropReturn h.rest = c :: Text.dropReturn r := by
    have hcr : c ≠ '\r' := by
      rintro rfl
      cases hc
    rw [hrest, Text.dropReturn_cons_of_ne hcr]
  refine ⟨?_, hindent, hpos, hle, c, Text.dropReturn r, hblank, hc⟩
  rw [hrender]
  unfold HeadingLine.render
  rw [Text.dropReturn_append _ (by rw [hrest]; exact List.cons_ne_nil c r)]

/-- A heading starts with a blank or with a hash. -/
theorem headingLine?_of_head? {line : Text} {c : Char} (h : line.head? = some c) (hc : c ≠ '#')
    (hblank : isIndent c = false) : headingLine? line = none := by
  rw [Option.eq_none_iff_forall_not_mem]
  intro heading hmem
  obtain ⟨hrender, hv⟩ := headingLine?_eq_some_iff.mp hmem
  have hpos := hv.level_pos
  obtain ⟨n, hn⟩ : ∃ n, heading.level = n + 1 := ⟨heading.level - 1, by omega⟩
  rw [hrender] at h
  unfold HeadingLine.render at h
  rw [hn, List.replicate_succ] at h
  cases hindent : heading.indent with
  | nil =>
    rw [hindent] at h
    exact hc (Option.some.inj h).symm
  | cons d indent =>
    rw [hindent] at h
    have hd := hv.indent d (by rw [hindent]; exact List.mem_cons_self)
    rw [Option.some.inj h, hblank] at hd
    cases hd

/-! ## Headings of the document -/

/-- A heading outside of code that is not as deep as those of a turn. -/
def Line.isTop (l : Line) : Bool :=
  !l.fenced && (headingLine? l.text).any (·.level < firstContentLevel)

theorem isTop_iff {l : Line} :
    l.isTop = true ↔
      l.fenced = false ∧ ∃ h, headingLine? l.text = some h ∧ h.level < firstContentLevel := by
  unfold Line.isTop
  simp [Option.any_eq_true]

theorem isTop_append {text : Text} {fenced : Bool} (h : (⟨text, fenced⟩ : Line).isTop = true)
    (w : Text) : (⟨text ++ w, fenced⟩ : Line).isTop = true := by
  rw [isTop_iff] at h ⊢
  obtain ⟨hf, heading, hl, hlevel⟩ := h
  exact ⟨hf, _, headingLine?_append hl w, hlevel⟩

theorem isTop_of_head? {l : Line} {c : Char} (h : l.text.head? = some c) (hc : c ≠ '#')
    (hblank : isIndent c = false) : l.isTop = false := by
  unfold Line.isTop
  rw [headingLine?_of_head? h hc hblank, Option.any_none, Bool.and_false]

/-- The line without the carriage return at its end. -/
def Line.dropReturn (l : Line) : Line := ⟨Text.dropReturn l.text, l.fenced⟩

theorem isTop_dropReturn (l : Line) : l.dropReturn.isTop = l.isTop := by
  rw [Bool.eq_iff_iff]
  constructor
  · intro h
    rcases Text.dropReturn_cases l.text with hr | heq
    · have happ := isTop_append h ['\r']
      rw [← hr] at happ
      exact happ
    · unfold Line.dropReturn at h
      rw [heq] at h
      exact h
  · rw [isTop_iff, isTop_iff]
    rintro ⟨hf, heading, hl, hlevel⟩
    exact ⟨hf, _, headingLine?_dropReturn hl, hlevel⟩

/-- The lines of a text that does not end in a carriage return, with their line ends unified. -/
theorem markedLines_unifyLineEnds {t : Text} (h : t.getLast? ≠ some '\r') :
    markedLines t.unifyLineEnds = (markedLines t).map Line.dropReturn := by
  apply eq_of_map_text_eq
  · rw [map_text_markedLines, Text.lines_unifyLineEnds h, ← map_text_markedLines, List.map_map,
      List.map_map]
    rfl
  · rw [map_fenced_markedLines, fencedFlags_unifyLineEnds, ← map_fenced_markedLines, List.map_map]
    rfl

/-! ## Lines that were demoted -/

/-- Runs of hashes can stand for each other. -/
theorem sameBreaks_hashes (j k : Nat) :
    SameBreaks (List.replicate (j + 1) '#') (List.replicate (k + 1) '#') := by
  have hnone : ∀ {c : Char} (n : Nat), c ≠ '#' → c ∉ List.replicate n '#' := by
    intro c n hc hmem
    exact hc (List.eq_of_mem_replicate hmem)
  refine ⟨by simp, by simp, hnone _ (by decide), hnone _ (by decide), ?_⟩
  exact iff_of_false (hnone _ (by decide)) (hnone _ (by decide))

/-- The marks of lines do not depend on how many hashes there are. -/
theorem ignoresHashes_fencedFlags : IgnoresHashes fencedFlags := by
  intro u v j k
  have hplain : '\n' ∉ List.replicate (j + 1) '#' := by
    intro hmem
    have heq := List.eq_of_mem_replicate hmem
    revert heq
    decide
  exact (sameBreaks_hashes j k).fencedFlags_eq hplain u v

/-- Neither do the spans. -/
theorem ignoresHashes_spanKinds : IgnoresHashes spanKinds :=
  fun u v j k => (sameBreaks_hashes j k).spanKinds_eq u v

/-- The lines of a demoted text are the lines of the text, moved down, and the same ones are code. -/
theorem markedLines_demote (t : Text) :
    markedLines (demote t)
      = (markedLines t).map fun l => ⟨l.demoted (demotionShift t), l.fenced⟩ := by
  have hplain : ∀ d ∈ (markedLines t).map (Line.demoted (demotionShift t)), '\n' ∉ d := by
    intro d hd
    obtain ⟨l, hl, rfl⟩ := List.mem_map.mp hd
    have hline : '\n' ∉ l.text := by
      have hmem := List.mem_map_of_mem hl (f := Line.text)
      rw [map_text_markedLines] at hmem
      exact Text.not_mem_of_mem_lines hmem
    rw [← List.count_eq_zero] at hline ⊢
    rw [count_demoted (by decide), hline]
  have hne : (markedLines t).map (Line.demoted (demotionShift t)) ≠ [] := by
    simpa using markedLines_ne_nil t
  rw [demote_eq_demotionShift]
  apply eq_of_map_text_eq
  · rw [map_text_markedLines, Text.lines_unlines hne hplain, List.map_map]
    rfl
  · rw [map_fenced_markedLines, ← demote_eq_demotionShift, ignoresHashes_fencedFlags.demote,
      ← map_fenced_markedLines, List.map_map]
    rfl

/-- Demoting moves every heading of a text to the levels of a turn. -/
theorem firstContentLevel_le_demotionShift {t : Text} {n : Nat} (h : n ∈ headingLevels t) :
    firstContentLevel ≤ n + demotionShift t := by
  unfold demotionShift
  cases hmin : (headingLevels t).min? with
  | none =>
    rw [List.min?_eq_none_iff] at hmin
    rw [hmin] at h
    cases h
  | some top =>
    have htop : top ≤ n := (List.min?_eq_some_iff.mp hmin).2 n h
    rw [Option.map_some, Option.getD_some]
    unfold levelShift firstContentLevel maxLevel
    omega

theorem HeadingLine.IsValid.shifted {h : HeadingLine} (hv : h.IsValid) (shift : Nat) :
    (h.shifted shift).IsValid := by
  have hpos := hv.level_pos
  refine ⟨hv.indent, ?_, Nat.min_le_right _ _, hv.rest⟩
  show 1 ≤ min (h.level + shift) maxLevel
  unfold maxLevel
  omega

/-- A heading that was moved down is read as the heading that it was moved to. -/
theorem headingLine?_demoted (shift : Nat) {l : Line} (hf : l.fenced = false) :
    headingLine? (l.demoted shift) = (headingLine? l.text).map (HeadingLine.shifted shift) := by
  unfold Line.demoted
  rw [if_neg (by rw [hf]; decide)]
  cases hh : headingLine? l.text with
  | none => exact hh
  | some h =>
    have hv := (headingLine?_eq_some_iff.mp hh).2
    exact (hv.shifted shift).headingLine?_render

/-- No line of a demoted text is a heading of the document. -/
theorem isTop_demote {t : Text} {l : Line} (h : l ∈ markedLines (demote t)) : l.isTop = false := by
  rw [markedLines_demote] at h
  obtain ⟨k, hk, rfl⟩ := List.mem_map.mp h
  rw [← Bool.not_eq_true, isTop_iff]
  rintro ⟨hf, heading, hl, hlevel⟩
  have hplain : k.fenced = false := hf
  have hread := headingLine?_demoted (demotionShift t) hplain
  rw [show headingLine? (k.demoted (demotionShift t)) = some heading from hl] at hread
  obtain ⟨first, hfirst, rfl⟩ := Option.map_eq_some_iff.mp hread.symm
  have hmem : first.level ∈ headingLevels t := by
    unfold headingLevels
    rw [List.mem_filterMap]
    refine ⟨k, hk, ?_⟩
    rw [if_neg (by rw [hplain]; decide), hfirst]
    rfl
  have hdeep := firstContentLevel_le_demotionShift hmem
  have hshown : min (first.level + demotionShift t) maxLevel < firstContentLevel := hlevel
  unfold firstContentLevel at hdeep hshown
  unfold maxLevel at hshown
  omega

end ChatScribe.Markdown
