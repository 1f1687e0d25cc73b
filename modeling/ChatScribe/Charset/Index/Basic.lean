import ChatScribe.Text.Basic

/-!
# Indexes of characters

A standard that encodes many characters lists them by number. The lists are written as rows of
characters, where a full stop stands for a number without a character and line ends do not count.
-/

namespace ChatScribe.Charset

/-- Characters by number. -/
structure Index where
  entries : Array Char

namespace Index

def ofRows (rows : String) : Index := ⟨(rows.toList.filter (· != '\n')).toArray⟩

/-- The character with a number. -/
def get? (x : Index) (n : Nat) : Option Char :=
  match x.entries[n]? with
  | some '.' => none
  | c? => c?

end Index

end ChatScribe.Charset
