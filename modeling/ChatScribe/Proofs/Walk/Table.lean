import ChatScribe.Proofs.Text.Ends
import ChatScribe.Proofs.Walk.Rules
import Mathlib.Data.List.DropRight

/-!
# The shape of a table

A table is written as the lines of its visible rows, in order, with a rule behind the first of them. The
texts of the cells are put between bars as they are, so what they contain can break the shape. How far it
holds is told by `tableLines_shape`: there is one line more for each line feed in a cell, and a row is read
back from its line exactly if it has cells and none of them has a bar in its text.
-/

namespace ChatScribe.Markdown

open Html

namespace Table

/-! ## Rows as lines -/

/-- A row between bars. -/
def barred (cells : List Text) : Text := "| ".toList ++ Text.join " | ".toList cells ++ " |".toList

/-- The rows between bars. Behind the first one is the rule, with three hyphens for each of its cells. -/
def layout : List (List Text) → List Text
  | [] => []
  | first :: rest => barred first :: barred (first.map fun _ => "---".toList) :: rest.map barred

/-- A text without the line feeds in front of it and behind it. -/
def withoutFeeds (t : Text) : Text := (t.dropWhile (· == '\n')).rdropWhile (· == '\n')

theorem rowLine_eq (cells : List Text) : rowLine cells = barred cells ++ ['\n'] := by
  simp [rowLine, barred]

theorem exists_barred_eq_cons (cells : List Text) : ∃ r, barred cells = '|' :: r :=
  ⟨_, List.append_assoc _ _ _⟩

theorem exists_barred_eq_concat (cells : List Text) : ∃ s, barred cells = s ++ ['|'] :=
  ⟨"| ".toList ++ Text.join " | ".toList cells ++ [' '], by simp [barred]⟩

theorem exists_eq_barred_of_mem_layout {rows : List (List Text)} {l : Text} (h : l ∈ layout rows) :
    ∃ cells, l = barred cells := by
  cases rows with
  | nil => cases h
  | cons first rest =>
    simp only [layout, List.mem_cons, List.mem_map] at h
    rcases h with rfl | rfl | ⟨row, -, rfl⟩
    · exact ⟨first, rfl⟩
    · exact ⟨_, rfl⟩
    · exact ⟨row, rfl⟩

theorem render_eq_unlines {rows : List (List Text)} (h : rows ≠ []) :
    render rows = '\n' :: Text.unlines (layout rows) ++ ['\n', '\n'] := by
  obtain ⟨first, rest, rfl⟩ := List.exists_cons_of_ne_nil h
  have hne : layout (first :: rest) ≠ [] := List.cons_ne_nil _ _
  have hlines : Text.terminated (layout (first :: rest))
      = rowLine first ++ ruleLine first ++ rest.flatMap rowLine := by
    have hrest : (rest.map barred).flatMap (· ++ ['\n']) = rest.flatMap rowLine := by
      rw [List.flatMap_map]
      exact List.flatMap_congr fun row _ => (rowLine_eq row).symm
    rw [layout, Text.terminated_cons, Text.terminated_cons, ruleLine, rowLine_eq, rowLine_eq,
      Text.terminated, hrest]
    simp
  have hended := Text.unlines_concat_newline hne
  have hfeeds : ['\n', '\n'] = ['\n'] ++ ['\n'] := rfl
  rw [hfeeds, ← List.append_assoc, List.cons_append, hended, hlines]
  rfl

/-- What starts and ends in a bar is all that is left of a text when line feeds around it go. -/
theorem withoutFeeds_of_bars {r s : Text} (h : '|' :: r = s ++ ['|']) :
    withoutFeeds ('\n' :: ('|' :: r) ++ ['\n', '\n']) = '|' :: r := by
  have hfront : ('\n' :: ('|' :: r) ++ ['\n', '\n']).dropWhile (· == '\n')
      = '|' :: r ++ ['\n'] ++ ['\n'] := by
    simp
  rw [withoutFeeds, hfront, List.rdropWhile_concat_pos _ _ _ rfl, List.rdropWhile_concat_pos _ _ _ rfl,
    h, List.rdropWhile_concat_neg _ _ _ (by decide)]

theorem exists_unlines_layout_eq_cons (first : List Text) (rest : List (List Text)) :
    ∃ r, Text.unlines (layout (first :: rest)) = '|' :: r := by
  obtain ⟨r, hr⟩ := exists_barred_eq_cons first
  rw [layout, Text.unlines, Text.join_cons_of_ne_nil _ _ (List.cons_ne_nil _ _), hr]
  exact ⟨_, List.append_assoc _ _ _⟩

theorem exists_unlines_layout_eq_concat (first : List Text) (rest : List (List Text)) :
    ∃ s, Text.unlines (layout (first :: rest)) = s ++ ['|'] := by
  rcases List.eq_nil_or_concat' (layout (first :: rest)) with hnil | ⟨ms, l, hl⟩
  · exact absurd hnil (List.cons_ne_nil _ _)
  · have hlast : l ∈ layout (first :: rest) := by simp [hl]
    obtain ⟨cells, rfl⟩ := exists_eq_barred_of_mem_layout hlast
    obtain ⟨s, hs⟩ := exists_barred_eq_concat cells
    refine ⟨Text.terminated ms ++ s, ?_⟩
    rw [hl, Text.unlines_append ms (List.cons_ne_nil _ _), List.append_assoc, ← hs]
    rfl

/-- Without the line feeds around it a table is the lines of its rows. -/
theorem lines_withoutFeeds_render {rows : List (List Text)} (h : rows ≠ []) :
    Text.lines (withoutFeeds (render rows)) = (layout rows).flatMap Text.lines := by
  obtain ⟨first, rest, rfl⟩ := List.exists_cons_of_ne_nil h
  have hne : layout (first :: rest) ≠ [] := List.cons_ne_nil _ _
  obtain ⟨r, hr⟩ := exists_unlines_layout_eq_cons first rest
  obtain ⟨s, hs⟩ := exists_unlines_layout_eq_concat first rest
  -- the bars at both ends keep the line feeds of the first and the last row
  have hkept : withoutFeeds (render (first :: rest)) = Text.unlines (layout (first :: rest)) := by
    rw [render_eq_unlines h, hr, withoutFeeds_of_bars (hr.symm.trans hs)]
  rw [hkept, Text.lines_unlines_eq_flatMap hne]

/-! ## Line feeds in cells -/

theorem count_newline_barred (cells : List Text) :
    (barred cells).count '\n' = cells.flatten.count '\n' := by
  have hsep : '\n' ∉ " | ".toList := by decide
  rw [barred, List.count_append, List.count_append, Text.count_join hsep]
  simp

theorem newline_not_mem_barred {cells : List Text} (h : ∀ cell ∈ cells, '\n' ∉ cell) :
    '\n' ∉ barred cells := by
  rw [← List.count_eq_zero, count_newline_barred, Text.count_flatten_eq_zero_iff]
  exact h

/-- The rule is one line. -/
theorem newline_not_mem_rule (first : List Text) :
    '\n' ∉ barred (first.map fun _ => "---".toList) := by
  have hhyphens : '\n' ∉ "---".toList := by decide
  apply newline_not_mem_barred
  rw [List.forall_mem_map]
  exact fun _ _ => hhyphens

theorem length_flatMap_lines_barred (rows : List (List Text)) :
    ((rows.map barred).flatMap Text.lines).length
      = rows.length + rows.flatten.flatten.count '\n' := by
  induction rows with
  | nil => rfl
  | cons row rows ih =>
    have hrow : (Text.lines (barred row)).length = row.flatten.count '\n' + 1 := by
      rw [Text.lines, Text.length_splitOn, count_newline_barred]
    rw [List.map_cons, List.flatMap_cons, List.length_append, ih, hrow, List.flatten_cons,
      List.flatten_append, List.count_append, List.length_cons]
    omega

/-- There is a line for each row, one for the rule, and one more for each line feed in a cell. -/
theorem length_flatMap_lines_layout {rows : List (List Text)} (h : rows ≠ []) :
    ((layout rows).flatMap Text.lines).length
      = rows.length + 1 + rows.flatten.flatten.count '\n' := by
  obtain ⟨first, rest, rfl⟩ := List.exists_cons_of_ne_nil h
  have hall := length_flatMap_lines_barred (first :: rest)
  rw [List.map_cons, List.flatMap_cons, List.length_append] at hall
  rw [layout, List.flatMap_cons, List.flatMap_cons, Text.lines_of_not_mem (newline_not_mem_rule first),
    List.length_append, List.length_append, List.length_singleton]
  omega

/-- Without line feeds in cells each row is a line. -/
theorem flatMap_lines_layout {rows : List (List Text)} (h : ∀ cell ∈ rows.flatten, '\n' ∉ cell) :
    (layout rows).flatMap Text.lines = layout rows := by
  have hrow : ∀ row ∈ rows, '\n' ∉ barred row := by
    intro row hmem
    apply newline_not_mem_barred
    intro cell hcell
    exact h cell (List.mem_flatten.mpr ⟨row, hmem, hcell⟩)
  have hclean : ∀ l ∈ layout rows, '\n' ∉ l := by
    cases rows with
    | nil => exact List.forall_mem_nil _
    | cons first rest =>
      rw [layout, List.forall_mem_cons, List.forall_mem_cons, List.forall_mem_map]
      rw [List.forall_mem_cons] at hrow
      exact ⟨hrow.1, newline_not_mem_rule first, hrow.2⟩
  rw [List.flatMap_congr fun l hl => Text.lines_of_not_mem (hclean l hl), List.flatMap_singleton']

/-! ## Reading rows -/

/-- The cells of a line as a reader finds them: what stands between its bars, trimmed. -/
def readCells (line : Text) : List Text := (Text.splitOn '|' line).tail.dropLast.map Text.trim

/-- A cell as it stands between two bars. -/
def padded (cell : Text) : Text := ' ' :: cell ++ [' ']

theorem barred_eq_join {cells : List Text} (h : cells ≠ []) :
    barred cells = '|' :: Text.join ['|'] (cells.map padded) ++ ['|'] := by
  have hjoin : ' ' :: Text.join " | ".toList cells ++ [' '] = Text.join ['|'] (cells.map padded) := by
    induction cells with
    | nil => exact absurd rfl h
    | cons cell cells ih =>
      by_cases hcells : cells = []
      · subst hcells
        rfl
      · have hmap : cells.map padded ≠ [] := by simpa using hcells
        rw [Text.join_cons_of_ne_nil _ _ hcells, List.map_cons, Text.join_cons_of_ne_nil _ _ hmap,
          ← ih hcells]
        simp [padded]
  rw [← hjoin]
  simp [barred]

/-- A reader finds the pieces of all cells. -/
theorem readCells_barred {cells : List Text} (h : cells ≠ []) :
    readCells (barred cells) = ((cells.map padded).flatMap (Text.splitOn '|')).map Text.trim := by
  have hmap : cells.map padded ≠ [] := by simpa using h
  have hpieces : Text.splitOn '|' (barred cells)
      = [] :: ((cells.map padded).flatMap (Text.splitOn '|') ++ [[]]) := by
    -- nothing stands in front of the first bar, and nothing behind the last one
    rw [barred_eq_join h, ← Text.splitOn_join_eq_flatMap '|' hmap]
    exact (Text.splitOn_append_cons '|' [] _).trans
      (congrArg ([] :: ·) (Text.splitOn_append_cons '|' _ []))
  rw [readCells, hpieces, List.tail_cons, List.dropLast_concat]

/-- A cell with bars is found in more than one piece. -/
theorem length_readCells_barred {cells : List Text} (h : cells ≠ []) :
    (readCells (barred cells)).length = cells.length + cells.flatten.count '|' := by
  rw [readCells_barred h, List.length_map]
  clear h
  induction cells with
  | nil => rfl
  | cons cell cells ih =>
    have hcell : (padded cell).count '|' = cell.count '|' := by simp [padded]
    rw [List.map_cons, List.flatMap_cons, List.length_append, ih, Text.length_splitOn, hcell,
      List.flatten_cons, List.count_append, List.length_cons]
    omega

theorem trim_padded {cell : Text} (h : Text.trim cell = cell) : Text.trim (padded cell) = cell := by
  obtain ⟨hstart, hend⟩ := Text.trimStart_and_trimEnd_of_trim_eq h
  by_cases hne : cell = []
  · subst hne
    decide
  · have hshown := (Text.endsShown_of_trimEnd_eq hne hend).isBlank_eq
    have hblank : Text.isBlank [' '] = true := by decide
    have hfront : Text.trimStart (padded cell) = Text.trimStart (cell ++ [' ']) := rfl
    rw [Text.trim, hfront, Text.trimStart_append hshown, hstart, Text.trimEnd_append_of_isBlank hblank,
      hend]

/-- A row of trimmed cells is read back from between its bars exactly if it has cells, and no bars in
them. -/
theorem readCells_barred_eq_iff {cells : List Text} (htrim : ∀ cell ∈ cells, Text.trim cell = cell) :
    readCells (barred cells) = cells ↔ cells ≠ [] ∧ ∀ cell ∈ cells, '|' ∉ cell := by
  constructor
  · intro h
    have hne : cells ≠ [] := by
      rintro rfl
      exact absurd h (by decide)
    have hlength := length_readCells_barred hne
    -- as many pieces as cells are found, so no cell was cut
    rw [h] at hlength
    have hcount : cells.flatten.count '|' = 0 := by omega
    exact ⟨hne, Text.count_flatten_eq_zero_iff.mp hcount⟩
  · rintro ⟨hne, hbars⟩
    have hclean : ∀ cell ∈ cells.map padded, '|' ∉ cell := by
      rw [List.forall_mem_map]
      intro cell hcell
      have hbar := hbars cell hcell
      simp [padded, hbar]
    rw [readCells_barred hne, List.flatMap_congr fun cell hcell =>
      Text.splitOn_of_not_mem (hclean cell hcell), List.flatMap_singleton', List.map_map]
    have hcells : cells.map (Text.trim ∘ padded) = cells.map id :=
      List.map_congr_left fun cell hcell => trim_padded (htrim cell hcell)
    rw [hcells, List.map_id]

end Table

/-! ## Rows that show -/

mutual

def shownRow : Node → List Node
  | .element e children =>
    if e.isOmitted then []
    else if e.tag == "tr" then .element e children :: shownRows children
    else shownRows children
  | _ => []

/-- The rows of a table that show, in order: neither they nor anything they stand in is omitted. -/
def shownRows : List Node → List Node
  | [] => []
  | n :: ns => shownRow n ++ shownRows ns

end

mutual

def strayRow : Node → List Node
  | .element e children =>
    if e.isOmitted then Node.elementsIn isRow children else strayRows children
  | .contents children => Node.elementsIn isRow children
  | _ => []

/-- Rows that are not hidden themselves, but stand in an element that is omitted. -/
def strayRows : List Node → List Node
  | [] => []
  | n :: ns => strayRow n ++ strayRows ns

end

/-- An omitted element is no row of a table. -/
theorem isRow_of_isOmitted {e : Element} (h : e.isOmitted = true) : isRow e = false := by
  rw [← Bool.not_eq_true]
  intro hrow
  unfold isRow at hrow
  simp only [Bool.and_eq_true, beq_iff_eq, Bool.not_eq_true'] at hrow
  obtain ⟨htag, hhidden⟩ := hrow
  have hdropped : e.isDropped = false := by
    rw [Element.isDropped, htag]
    decide
  rw [Element.isOmitted, hhidden, hdropped] at h
  cases h

mutual

theorem elementsFrom_isRow : ∀ n : Node, strayRow n = [] → Node.elementsFrom isRow n = shownRow n
  | .text _, _ => rfl
  | .comment _, _ => rfl
  | .doctype _, _ => rfl
  | .contents _, h => h
  | .element e children, h => by
    rw [Node.elementsFrom, shownRow]
    rw [strayRow] at h
    by_cases homitted : e.isOmitted = true
    · -- a row below would be a stray one
      rw [if_pos homitted] at h
      rw [isRow_of_isOmitted homitted, if_pos homitted]
      exact h
    · -- what is not omitted is not hidden, so only its tag is asked
      rw [if_neg homitted] at h
      have hrow : isRow e = (e.tag == "tr") := by
        rw [Bool.not_eq_true, Element.isOmitted, Bool.or_eq_false_iff] at homitted
        rw [isRow, homitted.1, Bool.not_false, Bool.and_true]
      rw [if_neg homitted, hrow, elementsIn_isRow children h]

/-- Without stray rows, the rows of a table are those that show. -/
theorem elementsIn_isRow : ∀ ns : List Node, strayRows ns = [] →
    Node.elementsIn isRow ns = shownRows ns
  | [], _ => rfl
  | n :: ns, h => by
    rw [strayRows, List.append_eq_nil_iff] at h
    rw [Node.elementsIn, shownRows, elementsFrom_isRow n h.1, elementsIn_isRow ns h.2]

end

theorem trim_of_mem_rowCells {row : Node} {cell : Text} (h : cell ∈ rowCells row) :
    Text.trim cell = cell := by
  rw [rowCells_eq_filterMap, List.mem_filterMap] at h
  obtain ⟨n, -, hn⟩ := h
  cases n with
  | element e children =>
    rw [cellText?] at hn
    split at hn
    · rw [← Option.some.inj hn]
      exact Text.trim_trim _
    · cases hn
  | _ => cases hn

/-! ## The shape of a table -/

/-- The lines of a table, without the line feeds around it. -/
def tableLines (children : List Node) : List Text :=
  Text.lines (Table.withoutFeeds (Table.render (tableRows children)))

/-- The texts of the cells that show, row by row. -/
def shownCells (children : List Node) : List (List Text) := (shownRows children).map rowCells

/-- A table with rows is written as those of its rows that show, in order, with the rule behind the first
one. It has a line for each of them and for the rule, if no cell has a line feed in its text, and one
more line for each line feed. A row is read back from between its bars if and only if it has cells, and
none of them has a bar in its text. -/
theorem tableLines_shape {children : List Node} (hstray : strayRows children = [])
    (hne : shownRows children ≠ []) :
    let rows := shownCells children
    let lines := tableLines children
    lines = (Table.layout rows).flatMap Text.lines ∧
      lines.length = rows.length + 1 + rows.flatten.flatten.count '\n' ∧
      (lines.length = rows.length + 1 ↔ ∀ cell ∈ rows.flatten, '\n' ∉ cell) ∧
      ((∀ cell ∈ rows.flatten, '\n' ∉ cell) → lines = Table.layout rows) ∧
      ∀ row ∈ rows, Table.readCells (Table.barred row) = row ↔
        row ≠ [] ∧ ∀ cell ∈ row, '|' ∉ cell := by
  intro rows lines
  have hrows : rows ≠ [] := by simpa [rows, shownCells] using hne
  have hlines : lines = (Table.layout rows).flatMap Text.lines := by
    have htable : tableRows children = rows := by
      rw [tableRows_eq_map, elementsIn_isRow children hstray]
      rfl
    show tableLines children = _
    rw [tableLines, htable, Table.lines_withoutFeeds_render hrows]
  have hlength : lines.length = rows.length + 1 + rows.flatten.flatten.count '\n' := by
    rw [hlines, Table.length_flatMap_lines_layout hrows]
  refine ⟨hlines, hlength, ?_, fun hclean => ?_, fun row hrow => ?_⟩
  · rw [← Text.count_flatten_eq_zero_iff]
    omega
  · rw [hlines, Table.flatMap_lines_layout hclean]
  · obtain ⟨node, -, rfl⟩ := List.mem_map.mp hrow
    exact Table.readCells_barred_eq_iff fun cell => trim_of_mem_rowCells

/-- A cell with a text. -/
def cell (text : String) : Node := .element (plain "td") [.text text.toList]

/-- Rows of different lengths, with a hidden row, a hidden cell, a line feed and a bar. -/
def sampleTable : List Node :=
  [.element (plain "tbody")
    [.element (plain "tr") [.element (plain "th") [.text " A ".toList], cell "B"],
      .element (veiled "tr") [cell "x"],
      .element (plain "tr") [cell "1", .element (veiled "td") [.text "y".toList]],
      .element (plain "tr") [cell "p\nq", cell "r | s", cell ""]]]

theorem tableLines_shape_sampleTable :
    strayRows sampleTable = [] ∧ shownRows sampleTable ≠ [] ∧
      tableLines sampleTable
        = ["| A | B |".toList, "| --- | --- |".toList, "| 1 |".toList, "| p".toList,
            "q | r | s |  |".toList] ∧
      Table.readCells "| A | B |".toList = ["A".toList, "B".toList] := by
  have hstray : strayRows sampleTable = [] := rfl
  have hne : shownRows sampleTable ≠ [] := List.cons_ne_nil _ _
  obtain ⟨hlines, -, -, -, hread⟩ := tableLines_shape hstray hne
  have hfirst : ["A".toList, "B".toList] ∈ shownCells sampleTable := by decide +kernel
  refine ⟨hstray, hne, ?_, ?_⟩
  · rw [hlines]
    decide +kernel
  · exact (hread _ hfirst).mpr (by decide)

/-- A row with a bar in a cell. -/
def barTable : List Node := [.element (plain "tr") [cell "a | b"]]

/-- A row with a line feed in a cell. -/
def feedTable : List Node := [.element (plain "tr") [cell "a\nb"]]

/-- A row, and another one in something hidden. -/
def strayTable : List Node :=
  [.element (plain "tr") [cell "a"], .element (veiled "tbody") [.element (plain "tr") [cell "b"]]]

/-- A cell can be read back as two, a row can take two lines, and a row that does not show can get a
line. -/
theorem not_tableLines_shape :
    (shownCells barTable = [["a | b".toList]] ∧
      tableLines barTable = ["| a | b |".toList, "| --- |".toList] ∧
      Table.readCells "| a | b |".toList = ["a".toList, "b".toList]) ∧
    (shownCells feedTable = [["a\nb".toList]] ∧
      tableLines feedTable = ["| a".toList, "b |".toList, "| --- |".toList]) ∧
    (shownCells strayTable = [["a".toList]] ∧
      tableLines strayTable = ["| a |".toList, "| --- |".toList, "| b |".toList]) := by
  decide +kernel

end ChatScribe.Markdown
