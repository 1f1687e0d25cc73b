import ChatScribe.Proofs.Fence.Prose

/-!
# The marks of lines

`markedLines` looks at one text. Here lines are changed, taken out and put in, and what becomes of the
marks of all lines is read off from `SameBreaks.sameMarks`: as long as only prose is touched, every line
keeps its mark.

A line of prose that is put between two others leaves their marks (`markedLines_insert_prose`), and a
change inside of a line leaves all of them (`SameBreaks.fencedFlags_eq`).
-/

namespace ChatScribe.Markdown

/-! ## Which lines are code -/

/-- For each line, whether it belongs to a block. -/
def cutFlags (xs : List (Char × Bool)) : List Bool := (cutLines xs).map Line.fenced

/-- For each line of a text, whether it belongs to a block. -/
def fencedFlags (t : Text) : List Bool := cutFlags (markedChars t)

theorem map_fenced_markedLines (t : Text) : (markedLines t).map Line.fenced = fencedFlags t := rfl

/-- Lines are their texts and their marks. -/
theorem eq_of_map_text_eq {ls ms : List Line} (ht : ls.map Line.text = ms.map Line.text)
    (hf : ls.map Line.fenced = ms.map Line.fenced) : ls = ms := by
  induction ls generalizing ms with
  | nil => exact (List.map_eq_nil_iff.mp ht.symm).symm
  | cons l ls ih =>
    cases ms with
    | nil => cases ht
    | cons m ms =>
      obtain ⟨hlt, ht⟩ := List.cons.inj ht
      obtain ⟨hlf, hf⟩ := List.cons.inj hf
      have hlm : l = m := by
        cases l
        cases m
        congr
      rw [hlm, ih ht hf]

theorem cutFlags_newline_cons (b : Bool) (xs : List (Char × Bool)) :
    cutFlags (('\n', b) :: xs) = b :: cutFlags xs := by
  unfold cutFlags
  rw [cutLines_newline_cons, List.map_cons]

theorem cutFlags_cons_of_ne {c : Char} (hc : c ≠ '\n') (b : Bool) (xs : List (Char × Bool)) :
    cutFlags ((c, b) :: xs) = (cutFlags xs).modifyHead (b || ·) := by
  obtain ⟨l, ls, hl⟩ := List.exists_cons_of_ne_nil (cutLines_ne_nil xs)
  unfold cutFlags
  rw [cutLines_cons_of_ne hc b hl, hl]
  rfl

/-- What stands in front sees of the rest nothing but which lines are code. -/
theorem cutFlags_append_congr (xs : List (Char × Bool)) {ys zs : List (Char × Bool)}
    (h : cutFlags ys = cutFlags zs) : cutFlags (xs ++ ys) = cutFlags (xs ++ zs) := by
  induction xs with
  | nil => exact h
  | cons x xs ih =>
    obtain ⟨c, b⟩ := x
    rw [List.cons_append, List.cons_append]
    by_cases hc : c = '\n'
    · rw [hc, cutFlags_newline_cons, cutFlags_newline_cons, ih]
    · rw [cutFlags_cons_of_ne hc, cutFlags_cons_of_ne hc, ih]

/-- A stretch inside of a line counts for that line, however long it is. -/
theorem cutFlags_marks_append {p : Text} (hne : p ≠ []) (hp : '\n' ∉ p) (f : Bool)
    (ys : List (Char × Bool)) : cutFlags (marks f p ++ ys) = (cutFlags ys).modifyHead (f || ·) := by
  induction p with
  | nil => exact absurd rfl hne
  | cons c p ih =>
    rw [List.mem_cons, not_or] at hp
    have hcons : marks f (c :: p) ++ ys = (c, f) :: (marks f p ++ ys) := rfl
    rw [hcons, cutFlags_cons_of_ne (Ne.symm hp.1)]
    cases p with
    | nil => rfl
    | cons d p =>
      have htwice : (fun b => f || b) ∘ (fun b => f || b) = fun b => f || b := by
        funext b
        cases f <;> rfl
      rw [ih (List.cons_ne_nil d p) hp.2, List.modifyHead_modifyHead, htwice]

/-- A line whose marks are all of one kind. -/
theorem cutLines_marks_newline {w : Text} (hw : '\n' ∉ w) (f : Bool) (ys : List (Char × Bool)) :
    cutLines (marks f w ++ ('\n', f) :: ys) = ⟨w, f⟩ :: cutLines ys := by
  induction w with
  | nil => exact cutLines_newline_cons f ys
  | cons c w ih =>
    rw [List.mem_cons, not_or] at hw
    have hcons : marks f (c :: w) ++ ('\n', f) :: ys = (c, f) :: (marks f w ++ ('\n', f) :: ys) := rfl
    rw [hcons, cutLines_cons_of_ne (Ne.symm hw.1) f (ih hw.2), Bool.or_self]

/-! ## Changes inside of lines -/

/-- Prose inside of a line can be exchanged. -/
theorem SameBreaks.fencedFlags_eq {p q : Text} (h : SameBreaks p q) (hp : '\n' ∉ p) (u v : Text) :
    fencedFlags (u ++ (p ++ v)) = fencedFlags (u ++ (q ++ v)) := by
  obtain ⟨x, y, f, -, -, hmp, hmq⟩ := h.sameMarks u v
  have hq : '\n' ∉ q := fun hmem => hp (h.newline_mem_iff.mpr hmem)
  unfold fencedFlags
  rw [hmp, hmq]
  apply cutFlags_append_congr
  rw [cutFlags_marks_append h.left_ne_nil hp, cutFlags_marks_append h.right_ne_nil hq]

/-- A carriage return in front of a line feed can be left out. -/
theorem fencedFlags_return (u v : Text) :
    fencedFlags (u ++ '\r' :: '\n' :: v) = fencedFlags (u ++ '\n' :: v) := by
  have hbreaks : SameBreaks ['\r', '\n'] ['\n'] := by constructor <;> decide
  obtain ⟨x, y, f, -, -, hmp, hmq⟩ := hbreaks.sameMarks u v
  have happ : u ++ '\r' :: '\n' :: v = u ++ (['\r', '\n'] ++ v) := rfl
  have happ' : u ++ '\n' :: v = u ++ (['\n'] ++ v) := rfl
  unfold fencedFlags
  rw [happ, happ', hmp, hmq]
  apply cutFlags_append_congr
  show cutFlags (('\r', f) :: ('\n', f) :: y) = cutFlags (('\n', f) :: y)
  rw [cutFlags_cons_of_ne (by decide), cutFlags_newline_cons, List.modifyHead_cons, Bool.or_self]

/-- The line ends do not matter to the marks. The induction carries the text in front along, for a
mark that is opened there may be closed behind the line end. -/
theorem fencedFlags_append_unifyLineEnds (u t : Text) :
    fencedFlags (u ++ t.unifyLineEnds) = fencedFlags (u ++ t) := by
  fun_induction Text.unifyLineEnds t generalizing u with
  | case1 => rfl
  | case2 r ih =>
    have hstep := ih (u ++ ['\n'])
    rw [List.append_assoc, List.append_assoc] at hstep
    rw [fencedFlags_return]
    exact hstep
  | case3 c r hc ih =>
    have hstep := ih (u ++ [c])
    rw [List.append_assoc, List.append_assoc] at hstep
    exact hstep

theorem fencedFlags_unifyLineEnds (t : Text) : fencedFlags t.unifyLineEnds = fencedFlags t :=
  fencedFlags_append_unifyLineEnds [] t

/-- Prose can be put behind the last line. -/
theorem fencedFlags_append_prose (u : Text) {p : Text} (hp : tick ∉ p) (hline : '\n' ∉ p) :
    fencedFlags (u ++ p) = fencedFlags u := by
  unfold fencedFlags
  rw [markedChars_append_prose u hp]
  have hend : cutFlags (marks false p) = cutFlags [] := by
    by_cases hne : p = []
    · rw [hne]
      rfl
    · have happ := cutFlags_marks_append hne hline false []
      rw [List.append_nil] at happ
      rw [happ]
      rfl
  have happ := cutFlags_append_congr (markedChars u) hend
  rw [List.append_nil] at happ
  exact happ

/-- Prose can be put in front of the first line. -/
theorem fencedFlags_prose_append {p : Text} (hp : tick ∉ p) (hline : '\n' ∉ p) (t : Text) :
    fencedFlags (p ++ t) = fencedFlags t := by
  by_cases hne : p = []
  · rw [hne, List.nil_append]
  · unfold fencedFlags
    rw [markedChars_prose_append hp, cutFlags_marks_append hne hline]
    cases cutFlags (markedChars t) <;> rfl

/-! ## A line of prose, put in between -/

/-- The lines in front of a line feed, and those behind it. -/
theorem cutLines_append_newline (x : List (Char × Bool)) (f : Bool) :
    ∃ front, front.map Line.text = Text.lines (x.map Prod.fst) ∧
      ∀ z, cutLines (x ++ ('\n', f) :: z) = front ++ cutLines z := by
  refine ⟨(cutLines (x ++ [('\n', f)])).dropLast, ?_, ?_⟩
  · have happ : (x ++ [('\n', f)]).map Prod.fst = x.map Prod.fst ++ '\n' :: [] := List.map_append
    rw [List.map_dropLast, map_text_cutLines, happ, Text.lines_append_newline]
    exact List.dropLast_concat
  · intro z
    have hend : (x ++ [('\n', f)]).getLast? = some ('\n', f) := List.getLast?_concat
    have hsplit := cutLines_append z (Or.inr ⟨f, hend⟩)
    rw [List.append_assoc] at hsplit
    exact hsplit

/-- A line of prose between two texts leaves the marks of their lines. -/
theorem markedLines_insert_prose {w : Text} (hw : '\n' ∉ w) (ht : tick ∉ w) (u v : Text) :
    ∃ front back f, front.map Line.text = Text.lines u ∧ back.map Line.text = Text.lines v ∧
      markedLines (u ++ '\n' :: v) = front ++ back ∧
      markedLines (u ++ '\n' :: (w ++ '\n' :: v)) = front ++ ⟨w, f⟩ :: back := by
  have hlf : tick ≠ '\n' := by decide
  have htick : tick ∉ '\n' :: (w ++ ['\n']) := by simp [ht, hlf]
  have hbreaks : SameBreaks ['\n'] ('\n' :: (w ++ ['\n'])) :=
    ⟨by simp, by simp, by decide, htick, iff_of_true List.mem_cons_self List.mem_cons_self⟩
  obtain ⟨x, y, f, hx, hy, hshort, hlong⟩ := hbreaks.sameMarks u v
  obtain ⟨front, hfront, hcut⟩ := cutLines_append_newline x f
  refine ⟨front, cutLines y, f, ?_, ?_, ?_, ?_⟩
  · rw [hfront, hx]
  · rw [map_text_cutLines, hy]
  · unfold markedLines
    exact (congrArg cutLines hshort).trans (hcut y)
  · have hmarks : marks f ('\n' :: (w ++ ['\n'])) ++ y
        = ('\n', f) :: (marks f w ++ ('\n', f) :: y) := by
      simp [marks]
    have happ : u ++ '\n' :: (w ++ '\n' :: v) = u ++ ('\n' :: (w ++ ['\n']) ++ v) := by simp
    unfold markedLines
    rw [happ, hlong, hmarks, hcut, cutLines_marks_newline hw]

/-- A line feed outside of blocks ends its line and is no part of what stands in front. -/
theorem cutLines_append_plain_newline (xs ys : List (Char × Bool)) :
    cutLines (xs ++ ('\n', false) :: ys) = cutLines xs ++ cutLines ys := by
  induction xs with
  | nil => exact cutLines_newline_cons false ys
  | cons x xs ih =>
    obtain ⟨c, b⟩ := x
    rw [List.cons_append]
    by_cases hc : c = '\n'
    · rw [hc, cutLines_newline_cons, cutLines_newline_cons, ih, List.cons_append]
    · obtain ⟨l, ls, hl⟩ := List.exists_cons_of_ne_nil (cutLines_ne_nil xs)
      rw [hl, List.cons_append] at ih
      rw [cutLines_cons_of_ne hc b ih, cutLines_cons_of_ne hc b hl, List.cons_append]

/-- A text of prose on one line is no code. -/
theorem markedLines_prose {w : Text} (hw : '\n' ∉ w) (ht : tick ∉ w) :
    markedLines w = [⟨w, false⟩] := by
  apply eq_of_map_text_eq
  · rw [map_text_markedLines, Text.lines_of_not_mem hw]
    rfl
  · have happ := fencedFlags_prose_append ht hw []
    rw [List.append_nil] at happ
    rw [map_fenced_markedLines, happ]
    simp [fencedFlags, cutFlags, markedChars, scan, cutLines]

/-- A line of prose at the end of a text is no code. -/
theorem markedLines_append_prose {w : Text} (hw : '\n' ∉ w) (ht : tick ∉ w) (u : Text) :
    markedLines (u ++ '\n' :: w) = markedLines u ++ [⟨w, false⟩] := by
  have hlf : tick ≠ '\n' := by decide
  have htick : tick ∉ '\n' :: w := by simp [ht, hlf]
  have hcons : marks false ('\n' :: w) = ('\n', false) :: marks false w := rfl
  have hline : cutLines (marks false w) = [⟨w, false⟩] := by
    have happ := markedChars_prose_append ht []
    have hnil : markedChars [] = [] := by simp [markedChars, scan]
    rw [List.append_nil, hnil, List.append_nil] at happ
    rw [← happ]
    exact markedLines_prose hw ht
  unfold markedLines
  rw [markedChars_append_prose u htick, hcons, cutLines_append_plain_newline, hline]

end ChatScribe.Markdown
