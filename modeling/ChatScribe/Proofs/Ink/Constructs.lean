import ChatScribe.Proofs.Ink.Basic
import ChatScribe.Proofs.Walk.Rules
import Mathlib.Data.List.Flatten

/-!
# No construct loses ink

What the conversion puts around a text: emphasis, headings, links, quotes, tables, formulas and list
items. For each construct two facts: the ink of the text inside is in the ink of the construct, in order,
and the construct is whole, so that what follows it starts afresh.
-/

namespace ChatScribe.Markdown

open Html Code

variable {records : List Text}

/-! ## Text between marks -/

theorem stops_head {c : Char} (hc : Stops c) (v : Text) :
    ∀ d, (c :: v).head? = some d → Stops d := by
  intro d hd
  rw [← Option.some.inj hd]
  exact hc

/-- Marks in front of a text and behind it leave its ink. The mark behind it must start with a
character that no placeholder has. -/
theorem ink_sublist_between {w : Text} (hw : openMark ∉ w) (u : Text) {c : Char} (hc : Stops c)
    (v : Text) : (ink records u).Sublist (ink records (w ++ u ++ c :: v)) := by
  rw [ink_append_of_stops _ (stops_head hc v), (IsWhole.of_not_mem hw).ink_append, List.append_assoc]
  exact (List.sublist_append_left _ _).trans (List.sublist_append_right _ _)

/-- White space in front of a text has no ink. -/
theorem ink_cons_of_isSpace {c : Char} (hc : Text.isSpace c = true) (u : Text) :
    ink records (c :: u) = ink records u := by
  have hw : ∀ d ∈ [c], Text.isSpace d = true := by
    intro d hd
    rw [List.mem_singleton.mp hd]
    exact hc
  exact ink_space_append hw u

/-- The ink of lines is the ink of each of them. -/
theorem ink_unlines (ls : List Text) : ink records (Text.unlines ls) = ls.flatMap (ink records) := by
  unfold Text.unlines
  induction ls with
  | nil => exact ink_nil
  | cons l ls ih =>
    cases ls with
    | nil => simp [Text.join]
    | cons m ms =>
      have hstops : Stops '\n' := stops_of_isSpace (by decide)
      have hjoin : Text.join ['\n'] (l :: m :: ms) = l ++ '\n' :: Text.join ['\n'] (m :: ms) := by
        simp [Text.join]
      rw [hjoin, ink_append_of_stops l (stops_head hstops _), ink_cons_of_isSpace (by decide), ih]
      rfl

/-! ## Emphasis, headings, links, pictures, quotes -/

/-- Emphasis keeps the ink of a text. A text that shows nothing has none. -/
theorem ink_wrapInline {opening : Text} (hopening : openMark ∉ opening) {c : Char} (hc : Stops c)
    (closing text : Text) :
    (ink records text).Sublist (ink records (wrapInline opening (c :: closing) text)) := by
  unfold wrapInline
  dsimp only
  rw [← ink_trim text]
  by_cases hempty : (Text.trim text).isEmpty = true
  · rw [List.isEmpty_iff.mp hempty, ink_nil]
    exact List.nil_sublist _
  · rw [if_neg hempty]
    have hw : openMark ∉ (if text.startsWithSpace then [' '] else []) ++ opening := by
      rw [List.mem_append, not_or]
      refine ⟨?_, hopening⟩
      split <;> decide
    have hsplit : ∀ a b : Text, a ++ opening ++ Text.trim text ++ c :: closing ++ b
        = a ++ opening ++ Text.trim text ++ c :: (closing ++ b) := by
      intro a b
      simp
    rw [hsplit]
    exact ink_sublist_between hw _ hc _

/-- Each kind of emphasis keeps the ink of a text. -/
theorem ink_emphasis (m : Emphasis) (text : Text) :
    (ink records text).Sublist (ink records (wrapInline m.opening m.closing text)) := by
  cases m with
  | strong => exact ink_wrapInline (by decide) ⟨by decide, by decide⟩ ['*'] _
  | em => exact ink_wrapInline (by decide) ⟨by decide, by decide⟩ [] _
  | sub => exact ink_wrapInline (by decide) ⟨by decide, by decide⟩ "/sub>".toList _
  | sup => exact ink_wrapInline (by decide) ⟨by decide, by decide⟩ "/sup>".toList _

/-- Emphasis is whole: it ends in its mark, or in a space behind that. -/
theorem isWhole_wrapInline (opening closing : Text) {c : Char} (hc : Stops c) (text : Text) :
    IsWhole records (wrapInline opening (closing ++ [c]) text) := by
  unfold wrapInline
  dsimp only
  by_cases hempty : (Text.trim text).isEmpty = true
  · rw [if_pos hempty]
    exact IsWhole.nil
  · rw [if_neg hempty]
    by_cases hend : text.endsWithSpace = true
    · rw [if_pos hend]
      exact IsWhole.concat _ (stops_of_isSpace (by decide))
    · rw [if_neg hend, List.append_nil, ← List.append_assoc]
      exact IsWhole.concat _ hc

theorem ink_headingText (level : Nat) (text : Text) :
    (ink records text).Sublist (ink records (headingText level text)) := by
  have hw : openMark ∉ '\n' :: List.replicate level '#' ++ [' '] := by
    rw [List.mem_append, List.mem_cons, not_or, not_or]
    refine ⟨⟨by decide, ?_⟩, by decide⟩
    intro hmem
    exact absurd (List.eq_of_mem_replicate hmem) (by decide)
  have hsplit : headingText level text
      = ('\n' :: List.replicate level '#' ++ [' ']) ++ Text.trim text ++ '\n' :: [] := by
    simp [headingText]
  rw [← ink_trim text, hsplit]
  exact ink_sublist_between hw _ (stops_of_isSpace (by decide)) []

theorem isWhole_headingText (level : Nat) (text : Text) :
    IsWhole records (headingText level text) :=
  IsWhole.concat _ (stops_of_isSpace (by decide))

/-- A link keeps the ink of its text, unless it is around an image-search mark. -/
theorem ink_linkText {e : Element} (he : e.isLensLink = false) (text : Text) :
    (ink records text).Sublist (ink records (linkText e text)) := by
  unfold linkText
  rw [he, if_neg Bool.false_ne_true]
  dsimp only
  split
  · exact List.Sublist.refl _
  · have hsplit : ∀ target : Text, '[' :: Text.trim text ++ "](".toList ++ target ++ [')']
        = ['['] ++ Text.trim text ++ ']' :: ('(' :: target ++ [')']) := by
      intro target
      simp
    rw [hsplit, ← ink_trim text]
    exact ink_sublist_between (by decide) _ ⟨by decide, by decide⟩ _

theorem isWhole_linkText (e : Element) {text : Text} (htext : IsWhole records text) :
    IsWhole records (linkText e text) := by
  unfold linkText
  by_cases he : e.isLensLink = true
  · rw [if_pos he]
    exact IsWhole.nil
  · rw [if_neg he]
    dsimp only
    split
    · exact htext
    · exact IsWhole.concat _ ⟨by decide, by decide⟩

theorem isWhole_imageText (e : Element) : IsWhole records (imageText e) := by
  unfold imageText
  dsimp only
  split
  · exact IsWhole.concat _ ⟨by decide, by decide⟩
  · exact IsWhole.nil

/-- A quote keeps the ink of each of its lines. -/
theorem ink_quoteText (text : Text) :
    (ink records text).Sublist (ink records (quoteText text)) := by
  unfold quoteText
  dsimp only
  rw [← ink_trim text]
  by_cases hempty : (Text.trim text).isEmpty = true
  · rw [List.isEmpty_iff.mp hempty, ink_nil]
    exact List.nil_sublist _
  · rw [if_neg hempty]
    have hquoted : ((Text.lines (Text.trim text)).flatMap (ink records)).Sublist
        (ink records (Text.unlines ((Text.lines (Text.trim text)).map fun line =>
          "> ".toList ++ line))) := by
      rw [ink_unlines, List.flatMap_map]
      apply List.Sublist.flatMap_right
      intro line _
      have hmark : openMark ∉ "> ".toList := by decide
      rw [(IsWhole.of_not_mem hmark).ink_append]
      exact List.sublist_append_right _ _
    rw [← ink_unlines, Text.unlines_lines] at hquoted
    have hsplit : ∀ u : Text, '\n' :: u ++ ['\n'] = ['\n'] ++ u ++ '\n' :: [] := fun _ => rfl
    rw [hsplit]
    exact hquoted.trans (ink_sublist_between (by decide) _ (stops_of_isSpace (by decide)) [])

theorem isWhole_quoteText (text : Text) : IsWhole records (quoteText text) := by
  unfold quoteText
  dsimp only
  split
  · exact IsWhole.nil
  · exact IsWhole.concat _ (stops_of_isSpace (by decide))

theorem isWhole_formula (f : Formula) (indent : Text) : IsWhole records (f.render indent) := by
  unfold Formula.render
  split
  · have hsplit : ∀ u : Text, u ++ "$$\n".toList = u ++ ['$', '$'] ++ ['\n'] := by
      intro u
      simp
    rw [hsplit]
    exact IsWhole.concat _ (stops_of_isSpace (by decide))
  · exact IsWhole.concat _ ⟨by decide, by decide⟩

/-! ## Tables -/

/-- The cells of a row keep their ink: each of them is followed by a space. -/
theorem ink_join_cells (cells : List Text) (v : Text) :
    (cells.flatMap (ink records)).Sublist
      (ink records (Text.join " | ".toList cells ++ ' ' :: v)) := by
  have hspace : Stops ' ' := stops_of_isSpace (by decide)
  induction cells with
  | nil => exact List.nil_sublist _
  | cons cell cells ih =>
    cases cells with
    | nil =>
      rw [Text.join, ink_append_of_stops cell (stops_head hspace v), List.flatMap_cons,
        List.flatMap_nil, List.append_nil]
      exact List.sublist_append_left _ _
    | cons next rest =>
      -- the space in front of the bar keeps half a placeholder from running on
      have hsplit : Text.join " | ".toList (cell :: next :: rest) ++ ' ' :: v
          = cell ++ ' ' :: (['|', ' '] ++ (Text.join " | ".toList (next :: rest) ++ ' ' :: v)) := by
        simp [Text.join]
      have hbar : IsWhole records ['|', ' '] := IsWhole.of_not_mem (by decide)
      rw [hsplit, ink_append_of_stops cell (stops_head hspace _), ink_cons_of_isSpace (by decide),
        hbar.ink_append, List.flatMap_cons]
      exact (List.Sublist.refl _).append (ih.trans (List.sublist_append_right _ _))

theorem isWhole_rowLine (cells : List Text) : IsWhole records (Table.rowLine cells) := by
  have hsplit : Table.rowLine cells
      = ("| ".toList ++ Text.join " | ".toList cells ++ [' ', '|']) ++ ['\n'] := by
    unfold Table.rowLine
    simp
  rw [hsplit]
  exact IsWhole.concat _ (stops_of_isSpace (by decide))

theorem ink_rowLine (cells : List Text) :
    (cells.flatMap (ink records)).Sublist (ink records (Table.rowLine cells)) := by
  have hsplit : Table.rowLine cells
      = "| ".toList ++ (Text.join " | ".toList cells ++ ' ' :: ['|', '\n']) := by
    unfold Table.rowLine
    simp
  have hmark : openMark ∉ "| ".toList := by decide
  rw [hsplit, (IsWhole.of_not_mem hmark).ink_append]
  exact (ink_join_cells cells _).trans (List.sublist_append_right _ _)

/-- A table keeps the ink of its cells, row by row. -/
theorem ink_render (rows : List (List Text)) :
    (rows.flatMap fun cells => cells.flatMap (ink records)).Sublist
      (ink records (Table.render rows)) := by
  cases rows with
  | nil => exact List.nil_sublist _
  | cons first rest =>
    have hfeed : Stops '\n' := stops_of_isSpace (by decide)
    have hrest : (rest.flatMap fun cells => cells.flatMap (ink records)).Sublist
        (ink records (rest.flatMap Table.rowLine ++ ['\n'])) := by
      induction rest with
      | nil => exact List.nil_sublist _
      | cons cells rest ih =>
        rw [List.flatMap_cons, List.flatMap_cons, List.append_assoc,
          (isWhole_rowLine cells).ink_append]
        exact (ink_rowLine cells).append ih
    have hsplit : Table.render (first :: rest) = '\n' :: (Table.rowLine first ++
        (Table.ruleLine first ++ (rest.flatMap Table.rowLine ++ ['\n']))) := by
      simp [Table.render]
    -- the line below the first row is a row as well, but of hyphens
    have hrule : IsWhole records (Table.ruleLine first) := isWhole_rowLine _
    rw [hsplit, ink_cons_of_isSpace (by decide), (isWhole_rowLine first).ink_append,
      hrule.ink_append, List.flatMap_cons]
    exact (ink_rowLine first).append (hrest.trans (List.sublist_append_right _ _))

theorem isWhole_render (rows : List (List Text)) : IsWhole records (Table.render rows) := by
  cases rows with
  | nil => exact IsWhole.nil
  | cons first rest => exact IsWhole.concat _ (stops_of_isSpace (by decide))

/-! ## Lists -/

/-- An item keeps the ink of what it holds. -/
theorem ink_itemLine {indent mark : Text} (hindent : openMark ∉ indent) (hmark : openMark ∉ mark)
    (content : Text) :
    (ink records content).Sublist (ink records (itemLine indent mark content)) := by
  have hw : openMark ∉ indent ++ mark := by
    rw [List.mem_append, not_or]
    exact ⟨hindent, hmark⟩
  have hfeed : ∀ c : Char, (c == '\n') = true → Text.isSpace c = true := by
    intro c hc
    rw [beq_iff_eq.mp hc]
    decide
  unfold itemLine
  rw [← ink_dropWhile hfeed content, ← ink_trimEnd]
  exact ink_sublist_between hw _ (stops_of_isSpace (by decide)) []

theorem isWhole_itemLine (indent mark content : Text) :
    IsWhole records (itemLine indent mark content) :=
  IsWhole.concat _ (stops_of_isSpace (by decide))

/-- A text added to an item adds its ink. What it replaces was blank. -/
theorem ink_addText {content text : Text} (hcontent : IsWhole records content) :
    ink records (addText content text) = ink records content ++ ink records text := by
  unfold addText
  by_cases hblank : Text.isBlank content = true
  · rw [if_pos hblank, ink_trimStart, ink_of_isSpace (List.all_eq_true.mp hblank)]
    rfl
  · rw [if_neg hblank, hcontent.ink_append]

theorem isWhole_addText {content text : Text} (hcontent : IsWhole records content)
    (htext : openMark ∉ text) : IsWhole records (addText content text) := by
  unfold addText
  split
  · apply IsWhole.of_not_mem
    intro hmem
    exact htext ((Text.suffix_trimStart text).subset hmem)
  · exact hcontent.append (IsWhole.of_not_mem htext)

theorem ink_breakLine (content : Text) : ink records (breakLine content) = ink records content := by
  unfold breakLine
  split
  · have hfeed : ∀ c ∈ ['\n'], Text.isSpace c = true := by
      intro c hc
      rw [List.mem_singleton.mp hc]
      decide
    exact ink_append_space hfeed content
  · rfl

theorem isWhole_breakLine {content : Text} (hcontent : IsWhole records content) :
    IsWhole records (breakLine content) := by
  unfold breakLine
  split
  · exact IsWhole.concat _ (stops_of_isSpace (by decide))
  · exact hcontent

end ChatScribe.Markdown
