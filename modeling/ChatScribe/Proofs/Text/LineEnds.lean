import ChatScribe.Proofs.Text.Lines

/-!
# Line ends, line by line

`unifyLineEnds` goes through a text character by character. Told by lines, every line loses the carriage
return at its end (`lines_unifyLineEnds`). Only the last line of a text is not followed by a line feed
and keeps it, so a text that ends in a carriage return is left out.
-/

namespace ChatScribe.Text

/-- The line without the carriage return at its end. -/
def dropReturn (l : Text) : Text := if l.getLast? = some '\r' then l.dropLast else l

@[simp] theorem dropReturn_nil : dropReturn [] = [] := rfl

theorem dropReturn_concat (l : Text) : dropReturn (l ++ ['\r']) = l := by
  unfold dropReturn
  rw [if_pos List.getLast?_concat, List.dropLast_concat]

theorem dropReturn_eq_self {l : Text} (h : l.getLast? ≠ some '\r') : dropReturn l = l := if_neg h

theorem dropReturn_of_not_mem {l : Text} (h : '\r' ∉ l) : dropReturn l = l :=
  dropReturn_eq_self fun hlast => h (List.mem_of_getLast? hlast)

/-- A line ends in a carriage return and loses it, or it stays. -/
theorem dropReturn_cases (l : Text) :
    l = dropReturn l ++ ['\r'] ∨ dropReturn l = l := by
  by_cases h : l.getLast? = some '\r'
  · obtain ⟨s, rfl⟩ := List.getLast?_eq_some_iff.mp h
    left
    rw [dropReturn_concat]
  · exact Or.inr (dropReturn_eq_self h)

/-- What stands in front of a line counts only if the line is empty. -/
theorem dropReturn_append (s : Text) {l : Text} (h : l ≠ []) :
    dropReturn (s ++ l) = s ++ dropReturn l := by
  obtain ⟨r, c, rfl⟩ := (List.eq_nil_or_concat' l).resolve_left h
  by_cases hc : c = '\r'
  · rw [hc, ← List.append_assoc, dropReturn_concat, dropReturn_concat]
  · have hlast : ∀ t : Text, (t ++ [c]).getLast? ≠ some '\r' := by
      intro t
      rw [List.getLast?_concat]
      exact fun heq => hc (Option.some.inj heq)
    rw [← List.append_assoc, dropReturn_eq_self (hlast _), dropReturn_eq_self (hlast _),
      List.append_assoc]

theorem dropReturn_cons_of_ne {c : Char} (hc : c ≠ '\r') (l : Text) :
    dropReturn (c :: l) = c :: dropReturn l := by
  by_cases hl : l = []
  · rw [hl]
    exact dropReturn_eq_self fun hlast => hc (Option.some.inj hlast)
  · exact dropReturn_append [c] hl

theorem lines_newline_cons (r : Text) : lines ('\n' :: r) = [] :: lines r := rfl

theorem lines_cons_of_ne {c : Char} (hc : c ≠ '\n') (r : Text) :
    lines (c :: r) = (lines r).modifyHead (c :: ·) := by
  obtain ⟨l, ls, hl⟩ := List.exists_cons_of_ne_nil (splitOn_ne_nil '\n' r)
  unfold lines
  rw [splitOn, if_neg hc, hl]
  rfl

/-- A text starts with an empty line if it is empty or starts with a line feed. -/
theorem eq_nil_or_newline_of_lines {r : Text} {ls : List Text} (h : lines r = [] :: ls) :
    r = [] ∨ ∃ s, r = '\n' :: s := by
  cases r with
  | nil => exact Or.inl rfl
  | cons c s =>
    by_cases hc : c = '\n'
    · rw [hc]
      exact Or.inr ⟨s, rfl⟩
    · rw [lines_cons_of_ne hc] at h
      obtain ⟨l, ls', hl⟩ := List.exists_cons_of_ne_nil (lines_ne_nil s)
      rw [hl, List.modifyHead_cons] at h
      cases h

theorem lines_unifyLineEnds {t : Text} (h : t.getLast? ≠ some '\r') :
    lines t.unifyLineEnds = (lines t).map dropReturn := by
  fun_induction unifyLineEnds t with
  | case1 => rfl
  | case2 r ih =>
    have hr : r.getLast? ≠ some '\r' := by
      intro hlast
      apply h
      rw [List.getLast?_cons, List.getLast?_cons, hlast]
      rfl
    rw [lines_newline_cons, ih hr, lines_cons_of_ne (by decide), lines_newline_cons]
    rfl
  | case3 c r hc ih =>
    have hr : r.getLast? ≠ some '\r' := by
      intro hlast
      apply h
      rw [List.getLast?_cons, hlast]
      rfl
    by_cases hn : c = '\n'
    · rw [hn, lines_newline_cons, lines_newline_cons, ih hr]
      rfl
    · obtain ⟨l, ls, hl⟩ := List.exists_cons_of_ne_nil (lines_ne_nil r)
      -- a carriage return that stays is followed by a character of its own line
      have hline : dropReturn (c :: l) = c :: dropReturn l := by
        by_cases hcr : c = '\r'
        · apply dropReturn_append [c]
          intro hnil
          rw [hnil] at hl
          rcases eq_nil_or_newline_of_lines hl with rfl | ⟨s, rfl⟩
          · exact h (by rw [hcr]; rfl)
          · exact hc s hcr rfl
        · exact dropReturn_cons_of_ne hcr l
      rw [lines_cons_of_ne hn, ih hr, lines_cons_of_ne hn, hl, List.modifyHead_cons, List.map_cons,
        List.map_cons, List.modifyHead_cons, hline]

/-! ## Carriage returns in front of line feeds -/

theorem unifyLineEnds_eq_self {t : Text} (h : ¬ ['\r', '\n'] <:+: t) : t.unifyLineEnds = t := by
  fun_induction unifyLineEnds t with
  | case1 => rfl
  | case2 r ih => exact absurd ⟨[], r, rfl⟩ h
  | case3 c r hc ih => rw [ih fun hin => h (List.infix_cons hin)]

theorem eq_of_unifyLineEnds_eq_newline_cons {t s : Text} (h : t.unifyLineEnds = '\n' :: s) :
    ∃ r, t = '\n' :: r ∨ t = '\r' :: '\n' :: r := by
  fun_induction unifyLineEnds t with
  | case1 => cases h
  | case2 r ih => exact ⟨r, Or.inr rfl⟩
  | case3 c r hc ih =>
    rw [(List.cons.inj h).1]
    exact ⟨r, Or.inl rfl⟩

/-- Unifying line ends leaves a carriage return in front of a line feed only where two stand in a row. -/
theorem infix_of_infix_unifyLineEnds {t : Text} (h : ['\r', '\n'] <:+: t.unifyLineEnds) :
    ['\r', '\r', '\n'] <:+: t := by
  fun_induction unifyLineEnds t with
  | case1 => exact absurd (List.infix_nil.mp h) (List.cons_ne_nil _ _)
  | case2 r ih =>
    rcases List.infix_cons_iff.mp h with ⟨s, hs⟩ | hin
    · exact absurd (List.cons.inj hs).1 (by decide)
    · exact List.infix_cons (List.infix_cons (ih hin))
  | case3 c r hc ih =>
    rcases List.infix_cons_iff.mp h with ⟨s, hs⟩ | hin
    · obtain ⟨hcr, hr⟩ := List.cons.inj hs
      obtain ⟨v, hv | hv⟩ := eq_of_unifyLineEnds_eq_newline_cons hr.symm
      · exact absurd hv (hc v hcr.symm)
      · rw [← hcr, hv]
        exact ⟨[], v, rfl⟩
    · exact List.infix_cons (ih hin)

/-- The last line of a text that goes on. -/
theorem exists_lines_concat (t : Text) {c : Char} (hc : c ≠ '\n') :
    ∃ ls l, lines (t ++ [c]) = ls ++ [l ++ [c]] := by
  obtain ⟨ls, l, hl⟩ := (List.eq_nil_or_concat' (lines t)).resolve_left (lines_ne_nil t)
  refine ⟨ls, l, ?_⟩
  have hplain : ∀ k ∈ ls ++ [l ++ [c]], '\n' ∉ k := by
    intro k hk
    have hmem : ∀ m ∈ ls ++ [l], '\n' ∉ m := by
      intro m hm
      rw [← hl] at hm
      exact not_mem_of_mem_lines hm
    rcases List.mem_append.mp hk with hk | hk
    · exact hmem k (List.mem_append_left _ hk)
    · rw [List.mem_singleton.mp hk, List.mem_append, not_or]
      exact ⟨hmem l (by simp), by simpa using Ne.symm hc⟩
  have hjoin : t ++ [c] = unlines (ls ++ [l ++ [c]]) := by
    have ht := unlines_lines t
    rw [hl, unlines_append ls (List.cons_ne_nil l [])] at ht
    rw [unlines_append ls (List.cons_ne_nil _ []), ← ht, List.append_assoc]
    rfl
  rw [hjoin, lines_unlines (by simp) hplain]

/-- A carriage return in front of a line feed ends a line that has another one behind it. -/
theorem infix_return_iff {t : Text} :
    ['\r', '\n'] <:+: t ↔ ∃ l ∈ (lines t).dropLast, l.getLast? = some '\r' := by
  constructor
  · rintro ⟨u, v, rfl⟩
    obtain ⟨ls, l, hl⟩ := exists_lines_concat u (show '\r' ≠ '\n' by decide)
    have hsplit : u ++ ['\r', '\n'] ++ v = (u ++ ['\r']) ++ '\n' :: v := by simp
    refine ⟨l ++ ['\r'], ?_, List.getLast?_concat⟩
    rw [hsplit, lines_append_newline, hl, List.dropLast_append_of_ne_nil (lines_ne_nil v)]
    simp
  · rintro ⟨l, hmem, hlast⟩
    obtain ⟨r, rfl⟩ := List.getLast?_eq_some_iff.mp hlast
    obtain ⟨front, k, hk⟩ := (List.eq_nil_or_concat' (lines t)).resolve_left (lines_ne_nil t)
    rw [hk, List.dropLast_concat] at hmem
    obtain ⟨ls, ms, rfl⟩ := List.append_of_mem hmem
    have ht := unlines_lines t
    rw [hk, List.append_assoc, List.cons_append, unlines_append ls (List.cons_ne_nil _ _)] at ht
    have hline : unlines ((r ++ ['\r']) :: (ms ++ [k])) = r ++ ['\r'] ++ '\n' :: unlines (ms ++ [k]) :=
      unlines_append_unlines (List.cons_ne_nil (r ++ ['\r']) []) (by simp)
    refine ⟨terminated ls ++ r, unlines (ms ++ [k]), ?_⟩
    rw [← ht, hline]
    simp

end ChatScribe.Text
