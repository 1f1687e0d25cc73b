import ChatScribe.Text.Basic

/-!
# Code spans of a Markdown text

The passes over rendered Markdown must leave code alone, so they first cut the text into pieces:
three backticks up to the next three are a fenced span, a single backtick up to the next one is an
inline span, and every other character stands for itself. A fence whose partner is missing stays a
piece of its own, `Piece.unclosed`.

`flatten_scan` says that the pieces, written one after the other, are the text. `markedLines` turns
the pieces into lines that know whether they belong to a block, that is to a fenced span running over
more than one line.
-/

namespace ChatScribe.Markdown

/-- The character that opens and closes code. -/
abbrev tick : Char := '\x60'

/-- Three backticks. -/
def fenceMark : Text := [tick, tick, tick]

/-- The text before the first fence and the text after it. -/
def cutFence : Text → Option (Text × Text)
  | [] => none
  | '\x60' :: '\x60' :: '\x60' :: r => some ([], r)
  | c :: r => (cutFence r).map fun (body, rest) => (c :: body, rest)

/-- A piece of a text, as the scan for backticks sees it. -/
inductive Piece
  /-- A character outside every span. -/
  | char (c : Char)
  /-- A fence, the text up to the next fence, and that fence. -/
  | fenced (body : Text)
  /-- A backtick, the text up to the next backtick, and that backtick. -/
  | inline (body : Text)
  /-- A fence with no fence after it. -/
  | unclosed
deriving Repr, DecidableEq

/-- The characters a piece was cut from. -/
def Piece.text : Piece → Text
  | .char c => [c]
  | .fenced body => fenceMark ++ body ++ fenceMark
  | .inline body => tick :: body ++ [tick]
  | .unclosed => fenceMark

theorem eq_append_of_cutFence {t body rest : Text} (h : cutFence t = some (body, rest)) :
    t = body ++ fenceMark ++ rest := by
  fun_induction cutFence t generalizing body with
  | case1 => simp at h
  | case2 r => simp at h; obtain ⟨rfl, rfl⟩ := h; rfl
  | case3 c r _ ih =>
    obtain ⟨⟨b, r'⟩, hb, he⟩ := Option.map_eq_some_iff.1 h
    simp at he
    obtain ⟨rfl, rfl⟩ := he
    simp [ih hb]

/-- Cuts a text into pieces. Fenced spans are looked for before inline ones, and the search for a
closing mark may run over line ends. -/
def scan : Text → List Piece
  | [] => []
  | '\x60' :: '\x60' :: '\x60' :: r =>
    match _h : cutFence r with
    | some (body, rest) => .fenced body :: scan rest
    | none => .unclosed :: scan r
  | '\x60' :: r =>
    match _h : Text.splitOnce tick r with
    | some (body, rest) => .inline body :: scan rest
    | none => .char tick :: scan r
  | c :: r => .char c :: scan r
termination_by t => t.length
decreasing_by
  · have := congrArg List.length (eq_append_of_cutFence _h); simp at this ⊢; omega
  · simp; omega
  · have := congrArg List.length (Text.eq_append_of_splitOnce _h); simp at this ⊢; omega
  · simp
  · simp

/-- The pieces of a text are cut from it in order and lose nothing. -/
theorem flatten_scan (t : Text) : (scan t).flatMap Piece.text = t := by
  fun_induction scan t with
  | case1 => rfl
  | case2 r body rest h ih => simp [Piece.text, ih, eq_append_of_cutFence h, fenceMark, tick]
  | case3 r h ih => simp [Piece.text, ih, fenceMark, tick]
  | case4 r _ body rest h ih => simp [Piece.text, ih, Text.eq_append_of_splitOnce h, tick]
  | case5 r _ h ih => simp [Piece.text, ih, tick]
  | case6 c r _ _ ih => simp [Piece.text, ih]

/-- The number of fences without a partner. -/
def unclosedFences (t : Text) : Nat := (scan t).count .unclosed

/-- Closes a dangling fence: a text with an odd number of fences left over is trimmed and gets a
closing fence on a line of its own; any other text is left as it is. -/
def closeFence (t : Text) : Text :=
  if unclosedFences t % 2 = 1 then t.trim ++ '\n' :: fenceMark else t

/-! ## Lines that know whether they are code -/

/-- A fenced span over more than one line is a block; on a single line it is inline code. -/
def Piece.isBlock : Piece → Bool
  | .fenced body => body.contains '\n'
  | _ => false

/-- The characters of a text, each with whether it stands in a block. -/
def markedChars (t : Text) : List (Char × Bool) :=
  (scan t).flatMap fun p => p.text.map fun c => (c, p.isBlock)

/-- A line of a text, and whether it belongs to a block. -/
structure Line where
  text : Text
  fenced : Bool
deriving Repr, DecidableEq

/-- Cuts marked characters into lines. A line belongs to a block if one of its characters or the
line feed that ends it stands in a block. -/
def cutLines : List (Char × Bool) → List Line
  | [] => [⟨[], false⟩]
  | (c, inBlock) :: r =>
    if c = '\n' then ⟨[], inBlock⟩ :: cutLines r
    else
      match cutLines r with
      | [] => [⟨[c], inBlock⟩]
      | line :: ls => ⟨c :: line.text, inBlock || line.fenced⟩ :: ls

/-- The lines of a text, those of a block marked as fenced. -/
def markedLines (t : Text) : List Line := cutLines (markedChars t)

end ChatScribe.Markdown
