import ChatScribe.Proofs.Fence.Balance
import ChatScribe.Proofs.Text.Lines

/-!
# Lines that know about code, piece by piece

`markedLines` looks at a whole text at once. Behind a paired text that ends its line the marked lines
start afresh (`markedLines_append`), and a block that the scan reaches from outside is a run of fenced
lines (`markedLines_fencedText`). If instead the text in front of the block is not paired, then its
opening fence is used up as a closing mark, and the lines of the block are read as prose.
-/

namespace ChatScribe.Markdown

/-! ## Cutting marked characters -/

theorem cutLines_ne_nil (xs : List (Char × Bool)) : cutLines xs ≠ [] := by
  cases xs with
  | nil => simp [cutLines]
  | cons x xs =>
    obtain ⟨c, b⟩ := x
    rw [cutLines]
    split
    · simp
    · split <;> simp

/-- A line feed between marked characters keeps their lines apart. -/
theorem cutLines_newline_cons (b : Bool) (xs : List (Char × Bool)) :
    cutLines (('\n', b) :: xs) = ⟨[], b⟩ :: cutLines xs := by
  rw [cutLines, if_pos rfl]

/-- A character joins the line that follows it. -/
theorem cutLines_cons_of_ne {c : Char} (hc : c ≠ '\n') (b : Bool) {xs : List (Char × Bool)}
    {l : Line} {ls : List Line} (h : cutLines xs = l :: ls) :
    cutLines ((c, b) :: xs) = ⟨c :: l.text, b || l.fenced⟩ :: ls := by
  rw [cutLines, if_neg hc, h]

/-- A line feed at the end has a line in front of it and one behind it. -/
theorem exists_cutLines_concat_newline (xs : List (Char × Bool)) (b : Bool) :
    ∃ l m ls, cutLines (xs ++ [('\n', b)]) = l :: m :: ls := by
  induction xs with
  | nil => exact ⟨⟨[], b⟩, ⟨[], false⟩, [], rfl⟩
  | cons x xs ih =>
    obtain ⟨d, b'⟩ := x
    obtain ⟨l, m, ls, hl⟩ := ih
    rw [List.cons_append]
    by_cases hd : d = '\n'
    · subst hd
      rw [cutLines_newline_cons, hl]
      exact ⟨_, _, _, rfl⟩
    · rw [cutLines_cons_of_ne hd b' hl]
      exact ⟨_, _, _, rfl⟩

/-- Behind a line feed the lines start afresh. -/
theorem cutLines_append {xs : List (Char × Bool)} (ys : List (Char × Bool))
    (h : xs = [] ∨ ∃ b, xs.getLast? = some ('\n', b)) :
    cutLines (xs ++ ys) = (cutLines xs).dropLast ++ cutLines ys := by
  induction xs with
  | nil => rfl
  | cons x xs ih =>
    obtain ⟨c, b⟩ := x
    have htail : xs = [] ∨ ∃ b, xs.getLast? = some ('\n', b) := by
      rcases h with hnil | ⟨b', hlast⟩
      · cases hnil
      · rcases List.eq_nil_or_concat' xs with rfl | ⟨ms, m, rfl⟩
        · left
          rfl
        · right
          refine ⟨b', ?_⟩
          rw [← hlast, ← List.cons_append, List.getLast?_append, List.getLast?_append]
          rfl
    have hsplit := ih htail
    by_cases hc : c = '\n'
    · subst hc
      rw [List.cons_append, cutLines_newline_cons, cutLines_newline_cons, hsplit,
        List.dropLast_cons_of_ne_nil (cutLines_ne_nil xs)]
      rfl
    · -- the line feed at the end is still to come, so there is a line to join and one behind it
      have hmore : ∃ l m ls, cutLines xs = l :: m :: ls := by
        rcases htail with hnil | ⟨b', hlast⟩
        · rcases h with hnil' | ⟨b', hlast⟩
          · cases hnil'
          · rw [hnil] at hlast
            cases hlast
            exact absurd rfl hc
        · obtain ⟨ms, hms⟩ := List.getLast?_eq_some_iff.mp hlast
          rw [hms]
          exact exists_cutLines_concat_newline ms b'
      obtain ⟨l, m, ls, hl⟩ := hmore
      have hfull : cutLines (xs ++ ys) = l :: ((m :: ls).dropLast ++ cutLines ys) := by
        rw [hsplit, hl]
        rfl
      rw [List.cons_append, cutLines_cons_of_ne hc b hfull, cutLines_cons_of_ne hc b hl]
      rfl

/-- The texts of the lines are the lines of the text. -/
theorem map_text_cutLines (xs : List (Char × Bool)) :
    (cutLines xs).map Line.text = Text.lines (xs.map Prod.fst) := by
  unfold Text.lines
  induction xs with
  | nil => rfl
  | cons x xs ih =>
    obtain ⟨c, b⟩ := x
    rw [List.map_cons, Text.splitOn]
    by_cases hc : c = '\n'
    · subst hc
      rw [cutLines_newline_cons, if_pos rfl, List.map_cons, ih]
    · obtain ⟨l, ls, hl⟩ := List.exists_cons_of_ne_nil (cutLines_ne_nil xs)
      rw [cutLines_cons_of_ne hc b hl, if_neg hc, ← ih, hl]
      rfl

/-! ## Marked texts -/

/-- The characters that are marked are those of the text. -/
theorem map_fst_markedChars (t : Text) : (markedChars t).map Prod.fst = t := by
  unfold markedChars
  rw [List.map_flatMap]
  conv_rhs => rw [← flatten_scan t]
  congr 1
  funext p
  rw [List.map_map]
  exact List.map_id _

/-- The marked lines are the lines of the text. -/
theorem map_text_markedLines (t : Text) : (markedLines t).map Line.text = Text.lines t := by
  unfold markedLines
  rw [map_text_cutLines, map_fst_markedChars]

theorem markedLines_nil : markedLines [] = [⟨[], false⟩] := by
  simp [markedLines, markedChars, scan, cutLines]

theorem markedLines_ne_nil (t : Text) : markedLines t ≠ [] := cutLines_ne_nil _

/-- The last marked character is the last one of the text. -/
theorem getLast?_markedChars {t : Text} {c : Char} (h : t.getLast? = some c) :
    ∃ b, (markedChars t).getLast? = some (c, b) := by
  have hmap : ((markedChars t).map Prod.fst).getLast? = some c := by
    rw [map_fst_markedChars, h]
  rw [List.getLast?_map, Option.map_eq_some_iff] at hmap
  obtain ⟨⟨d, b⟩, hlast, rfl⟩ := hmap
  exact ⟨b, hlast⟩

/-- Behind a paired text the marks start afresh. -/
theorem markedChars_append {u v : Text} (hu : isPaired u = true)
    (hjoin : u.getLast? ≠ some tick ∨ v.head? ≠ some tick) :
    markedChars (u ++ v) = markedChars u ++ markedChars v := by
  unfold markedChars
  rw [scan_append hu hjoin, List.flatMap_append]

/-- A text that is empty or ends its line can be appended to without joining backticks. -/
theorem join_of_ends_line {u : Text} (hend : u = [] ∨ u.getLast? = some '\n') (v : Text) :
    u.getLast? ≠ some tick ∨ v.head? ≠ some tick := by
  left
  rcases hend with rfl | hlast
  · simp
  · rw [hlast]
    decide

/-- Behind a paired text that ends its line the marked lines start afresh. -/
theorem markedLines_append {u : Text} (v : Text) (hu : isPaired u = true)
    (hend : u = [] ∨ u.getLast? = some '\n') :
    markedLines (u ++ v) = (markedLines u).dropLast ++ markedLines v := by
  unfold markedLines
  rw [markedChars_append hu (join_of_ends_line hend v)]
  apply cutLines_append
  rcases hend with rfl | hlast
  · left
    simp [markedChars, scan]
  · right
    exact getLast?_markedChars hlast

/-- A line that the scan enters from outside and that holds no backtick is no code. -/
theorem markedLines_line {l : Text} (r : Text) (hl : '\n' ∉ l) (ht : tick ∉ l) :
    markedLines (l ++ '\n' :: r) = ⟨l, false⟩ :: markedLines r := by
  induction l with
  | nil =>
    unfold markedLines markedChars
    rw [List.nil_append, scan_cons_of_ne (by decide)]
    exact cutLines_newline_cons false _
  | cons c l ih =>
    rw [List.mem_cons, not_or] at hl ht
    have hrest := ih hl.2 ht.2
    unfold markedLines markedChars at hrest ⊢
    rw [List.cons_append, scan_cons_of_ne (Ne.symm ht.1)]
    exact cutLines_cons_of_ne (Ne.symm hl.1) false hrest

/-- A character that stands in front of a text stands in front of its first line. -/
theorem exists_markedLines_cons {c : Char} (ht : c ≠ tick) (hn : c ≠ '\n') (r : Text) :
    ∃ l f ls, markedLines (c :: r) = ⟨c :: l, f⟩ :: ls := by
  obtain ⟨l, ls, hl⟩ := List.exists_cons_of_ne_nil (markedLines_ne_nil r)
  refine ⟨l.text, l.fenced, ls, ?_⟩
  unfold markedLines markedChars at hl ⊢
  rw [scan_cons_of_ne ht]
  exact cutLines_cons_of_ne hn false hl

/-! ## Blocks -/

/-- Code between fences on lines of their own. -/
def fencedText (body : Text) : Text := fenceMark ++ '\n' :: body ++ '\n' :: fenceMark

/-- A block starts and ends in a backtick. -/
theorem fencedText_eq_ticks (body : Text) :
    fencedText body = tick :: (tick :: tick :: '\n' :: body ++ ['\n', tick, tick]) ++ [tick] := by
  unfold fencedText fenceMark
  simp

/-- The first fence behind a body without fences is the one that closes it. -/
theorem cutFence_of_not_infix {body : Text} (h : ¬ fenceMark <:+: body) (r : Text) :
    cutFence (body ++ '\n' :: fenceMark ++ r) = some (body ++ ['\n'], r) := by
  induction body with
  | nil => rfl
  | cons c body ih =>
    have hbody : ¬ fenceMark <:+: body := fun hin => h (List.infix_cons hin)
    have hfirst : ∀ x, c = '\x60' →
        body ++ '\n' :: fenceMark ++ r = '\x60' :: '\x60' :: x → False := by
      intro x hc hx
      match body, hx with
      | [], hx => cases hx
      | [_], hx =>
        obtain ⟨-, hx⟩ := List.cons.inj hx
        cases hx
      | a :: d :: rest, hx =>
        obtain ⟨ha, hx⟩ := List.cons.inj hx
        obtain ⟨hd, -⟩ := List.cons.inj hx
        exact h ⟨[], rest, by rw [hc, ha, hd]; rfl⟩
    rw [List.cons_append, List.cons_append, cutFence.eq_3 c _ hfirst, ih hbody]
    rfl

/-- A block that the scan enters from outside is one fenced span. -/
theorem scan_fencedText {body : Text} (h : ¬ fenceMark <:+: body) (r : Text) :
    scan (fencedText body ++ r) = .fenced ('\n' :: body ++ ['\n']) :: scan r := by
  have hcut : cutFence ('\n' :: body ++ '\n' :: fenceMark ++ r)
      = some ('\n' :: body ++ ['\n'], r) := by
    have hrest := cutFence_of_not_infix h r
    rw [List.cons_append, List.cons_append, cutFence.eq_3 '\n' _ (by intro x hx; cases hx), hrest]
    rfl
  have happ : fencedText body ++ r
      = tick :: tick :: tick :: ('\n' :: body ++ '\n' :: fenceMark ++ r) := by
    simp [fencedText, fenceMark]
  rw [happ, scan_of_cutFence hcut]

/-- Marked characters of a block, up to the end of its last line, are fenced lines. -/
theorem cutLines_block {c : Char} (hc : c ≠ '\n') (x : Text) (ys : List (Char × Bool))
    {ls : List Line} (hys : ys = [] ∧ ls = [] ∨ ∃ b zs, ys = ('\n', b) :: zs ∧ ls = cutLines zs) :
    cutLines ((x ++ [c]).map (fun d => (d, true)) ++ ys)
      = (Text.lines (x ++ [c])).map (fun l => ⟨l, true⟩) ++ ls := by
  induction x with
  | nil =>
    have hline : Text.lines ([] ++ [c]) = [[c]] := Text.lines_of_not_mem (by simpa using Ne.symm hc)
    rw [hline]
    rcases hys with ⟨rfl, rfl⟩ | ⟨b, zs, rfl, rfl⟩
    · exact cutLines_cons_of_ne hc true (show cutLines [] = [⟨[], false⟩] from rfl)
    · exact cutLines_cons_of_ne hc true (cutLines_newline_cons b zs)
  | cons d x ih =>
    rw [List.cons_append, List.map_cons, List.cons_append]
    unfold Text.lines at ih ⊢
    rw [Text.splitOn]
    by_cases hd : d = '\n'
    · subst hd
      rw [cutLines_newline_cons, ih, if_pos rfl]
      rfl
    · obtain ⟨l, ls', hl⟩ := List.exists_cons_of_ne_nil (Text.splitOn_ne_nil '\n' (x ++ [c]))
      rw [hl] at ih
      rw [if_neg hd, hl]
      exact cutLines_cons_of_ne hd true ih

/-- The lines behind a block: none if the text ends with it. -/
def linesBehind : Text → List Line
  | [] => []
  | _ :: r => markedLines r

/-- A block that the scan enters from outside is a run of fenced lines, and behind it the lines start
afresh. -/
theorem markedLines_fencedText {body : Text} (h : ¬ fenceMark <:+: body) {r : Text}
    (hr : r = [] ∨ r.head? = some '\n') :
    markedLines (fencedText body ++ r)
      = (Text.lines (fencedText body)).map (fun l => ⟨l, true⟩) ++ linesBehind r := by
  have hpiece : (Piece.fenced ('\n' :: body ++ ['\n'])).text = fencedText body := by
    simp [Piece.text, fencedText]
  have hblock : (Piece.fenced ('\n' :: body ++ ['\n'])).isBlock = true := by
    simp [Piece.isBlock]
  unfold markedLines markedChars
  rw [scan_fencedText h, List.flatMap_cons, hpiece, hblock, fencedText_eq_ticks]
  apply cutLines_block (by decide)
  rcases hr with rfl | hhead
  · left
    exact ⟨by simp [scan], rfl⟩
  · right
    cases r with
    | nil => cases hhead
    | cons c r =>
      obtain rfl := Option.some.inj hhead
      rw [scan_cons_of_ne (by decide)]
      exact ⟨false, markedChars r, rfl, rfl⟩

end ChatScribe.Markdown
