import ChatScribe.Text.Basic

/-!
# Tables

A table becomes a pipe table: a line per row, the cells between bars. The line under the first row
has a rule for each cell of that row.
-/

namespace ChatScribe.Markdown.Table

/-- A row as a line of text. -/
def rowLine (cells : List Text) : Text :=
  "| ".toList ++ Text.join " | ".toList cells ++ " |\n".toList

/-- The line under the first row, with one column per cell of that row. -/
def ruleLine (first : List Text) : Text := rowLine (first.map fun _ => "---".toList)

/-- The lines of a table. A table without rows has none. -/
def render : List (List Text) → Text
  | [] => []
  | first :: rest =>
    '\n' :: rowLine first ++ ruleLine first ++ rest.flatMap rowLine ++ ['\n']

end ChatScribe.Markdown.Table
