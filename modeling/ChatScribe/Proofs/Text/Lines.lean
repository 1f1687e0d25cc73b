import ChatScribe.Text.Basic
import Mathlib.Data.List.Basic

/-!
# Cutting and joining texts

How lines, line ends and trimming behave on a text that is put together from parts. A part that ends
its line, and a part whose two ends show, can be looked at apart from what stands around it; the passes
over a document are taken to pieces along these equations.
-/

namespace ChatScribe.Text

/-! ## Pieces -/

/-- A separator between two texts keeps their pieces apart. -/
theorem splitOn_append_cons (sep : Char) (u v : Text) :
    splitOn sep (u ++ sep :: v) = splitOn sep u ++ splitOn sep v := by
  induction u with
  | nil => simp [splitOn]
  | cons c u ih =>
    rw [List.cons_append, splitOn, splitOn]
    by_cases hc : c = sep
    · rw [if_pos hc, if_pos hc, ih]
      rfl
    · rw [if_neg hc, if_neg hc, ih]
      obtain ⟨l, ls, hl⟩ := List.exists_cons_of_ne_nil (splitOn_ne_nil sep u)
      rw [hl]
      rfl

/-- A text without separator is one piece. -/
theorem splitOn_of_not_mem {sep : Char} {t : Text} (h : sep ∉ t) : splitOn sep t = [t] := by
  induction t with
  | nil => rfl
  | cons c t ih =>
    rw [List.mem_cons, not_or] at h
    rw [splitOn, if_neg (Ne.symm h.1), ih h.2]

/-- No piece contains the separator. -/
theorem not_mem_of_mem_splitOn {sep : Char} {t l : Text} (h : l ∈ splitOn sep t) : sep ∉ l := by
  induction t generalizing l with
  | nil =>
    rw [splitOn, List.mem_singleton] at h
    rw [h]
    exact List.not_mem_nil
  | cons c t ih =>
    rw [splitOn] at h
    by_cases hc : c = sep
    · rw [if_pos hc] at h
      rcases List.mem_cons.mp h with rfl | h
      · exact List.not_mem_nil
      · exact ih h
    · rw [if_neg hc] at h
      obtain ⟨m, ms, hm⟩ := List.exists_cons_of_ne_nil (splitOn_ne_nil sep t)
      rw [hm] at h
      rcases List.mem_cons.mp h with rfl | h
      · intro hmem
        rcases List.mem_cons.mp hmem with heq | hmem
        · exact hc heq.symm
        · exact ih (hm ▸ List.mem_cons_self) hmem
      · exact ih (hm ▸ List.mem_cons_of_mem m h)

/-- There is one piece more than there are separators. -/
theorem length_splitOn (sep : Char) (t : Text) : (splitOn sep t).length = t.count sep + 1 := by
  induction t with
  | nil => rfl
  | cons c t ih =>
    obtain ⟨l, ls, hl⟩ := List.exists_cons_of_ne_nil (splitOn_ne_nil sep t)
    rw [splitOn]
    by_cases hc : c = sep
    · rw [if_pos hc, List.length_cons, ih, hc, List.count_cons_self]
    · rw [if_neg hc, List.count_cons_of_ne hc, ← ih, hl]
      rfl

theorem join_cons_of_ne_nil (sep t : Text) {ts : List Text} (h : ts ≠ []) :
    join sep (t :: ts) = t ++ sep ++ join sep ts := by
  obtain ⟨u, us, rfl⟩ := List.exists_cons_of_ne_nil h
  rfl

/-- Joining texts by a separator keeps the pieces of each of them. -/
theorem splitOn_join_eq_flatMap (sep : Char) {ts : List Text} (hne : ts ≠ []) :
    splitOn sep (join [sep] ts) = ts.flatMap (splitOn sep) := by
  induction ts with
  | nil => exact absurd rfl hne
  | cons t ts ih =>
    rw [List.flatMap_cons]
    by_cases hts : ts = []
    · subst hts
      simp [join]
    · rw [join_cons_of_ne_nil [sep] t hts, List.append_assoc, List.singleton_append,
        splitOn_append_cons, ih hts]

/-- Pieces without separators are found again in the text they are joined to. -/
theorem splitOn_join {sep : Char} {ls : List Text} (hne : ls ≠ []) (h : ∀ l ∈ ls, sep ∉ l) :
    splitOn sep (join [sep] ls) = ls := by
  rw [splitOn_join_eq_flatMap sep hne, List.flatMap_congr fun l hl => splitOn_of_not_mem (h l hl),
    List.flatMap_singleton']

/-- Joining texts adds no characters but those of the separator. -/
theorem count_join {c : Char} {sep : Text} (hc : c ∉ sep) (ts : List Text) :
    (join sep ts).count c = ts.flatten.count c := by
  induction ts with
  | nil => rfl
  | cons t ts ih =>
    by_cases hts : ts = []
    · subst hts
      simp [join]
    · rw [join_cons_of_ne_nil sep t hts, List.count_append, List.count_append,
        List.count_eq_zero_of_not_mem hc, ih, List.flatten_cons, List.count_append, Nat.add_zero]

/-- What is joined holds the characters of its parts, beside those of the separator. -/
theorem mem_join_iff {c : Char} {sep : Text} (hc : c ∉ sep) (ts : List Text) :
    c ∈ join sep ts ↔ ∃ t ∈ ts, c ∈ t := by
  rw [← List.count_pos_iff, count_join hc, List.count_pos_iff, List.mem_flatten]

theorem count_flatten_eq_zero_iff {c : Char} {ts : List Text} :
    ts.flatten.count c = 0 ↔ ∀ t ∈ ts, c ∉ t := by
  simp [List.count_eq_zero]

theorem eq_append_of_splitLast {sep : Char} {t before after : Text}
    (h : splitLast sep t = some (before, after)) : t = before ++ sep :: after := by
  obtain ⟨⟨back, front⟩, hsplit, heq⟩ := Option.map_eq_some_iff.mp h
  obtain ⟨rfl, rfl⟩ := Prod.mk.inj heq
  rw [← List.reverse_reverse t, eq_append_of_splitOnce hsplit]
  simp

/-! ## Lines -/

/-- A line feed between two texts keeps their lines apart. -/
theorem lines_append_newline (u v : Text) : lines (u ++ '\n' :: v) = lines u ++ lines v :=
  splitOn_append_cons '\n' u v

/-- A text without line feed is one line. -/
theorem lines_of_not_mem {t : Text} (h : '\n' ∉ t) : lines t = [t] := splitOn_of_not_mem h

theorem lines_ne_nil (t : Text) : lines t ≠ [] := splitOn_ne_nil '\n' t

/-- No line contains a line feed. -/
theorem not_mem_of_mem_lines {t l : Text} (h : l ∈ lines t) : '\n' ∉ l :=
  not_mem_of_mem_splitOn h

/-- Each line with the line feed that ends it. -/
def terminated (ls : List Text) : Text := ls.flatMap fun l => l ++ ['\n']

theorem terminated_cons (l : Text) (ls : List Text) :
    terminated (l :: ls) = l ++ '\n' :: terminated ls := by
  simp [terminated]

theorem terminated_append (ls ms : List Text) :
    terminated (ls ++ ms) = terminated ls ++ terminated ms := List.flatMap_append

/-- A terminated text is empty or ends in a line feed. -/
theorem getLast?_terminated (ls : List Text) :
    terminated ls = [] ∨ (terminated ls).getLast? = some '\n' := by
  rcases List.eq_nil_or_concat' ls with rfl | ⟨ms, l, rfl⟩
  · left
    rfl
  · right
    rw [terminated_append, terminated_cons, List.getLast?_append, List.getLast?_append]
    rfl

/-- Lines that are ended keep a line feed at the end. -/
theorem getLast?_append_terminated {t : Text} (h : t.getLast? = some '\n') (ls : List Text) :
    (t ++ terminated ls).getLast? = some '\n' := by
  rw [List.getLast?_append]
  rcases getLast?_terminated ls with hnil | hlast
  · simp [hnil, h]
  · simp [hlast]

/-- Joining lines ends every one of them but the last. -/
theorem unlines_append (ls : List Text) {ms : List Text} (h : ms ≠ []) :
    unlines (ls ++ ms) = terminated ls ++ unlines ms := by
  unfold unlines
  induction ls with
  | nil => rfl
  | cons l ls ih =>
    obtain ⟨m, rest, hm⟩ := List.exists_cons_of_ne_nil
      (show ls ++ ms ≠ [] from fun hnil => h (List.append_eq_nil_iff.mp hnil).2)
    rw [List.cons_append, terminated_cons, List.append_assoc, List.cons_append, ← ih, hm]
    simp [join]

/-- With a line feed behind them, all lines are ended. -/
theorem unlines_concat_newline {ls : List Text} (h : ls ≠ []) :
    unlines ls ++ ['\n'] = terminated ls := by
  rcases List.eq_nil_or_concat' ls with rfl | ⟨ms, l, rfl⟩
  · exact absurd rfl h
  · rw [unlines_append ms (List.cons_ne_nil l []), List.append_assoc, terminated_append]
    simp [unlines, join, terminated]

/-- Two runs of lines are joined by one line feed. -/
theorem unlines_append_unlines {ls ms : List Text} (hl : ls ≠ []) (hm : ms ≠ []) :
    unlines (ls ++ ms) = unlines ls ++ '\n' :: unlines ms := by
  rcases List.eq_nil_or_concat' ls with rfl | ⟨ks, l, rfl⟩
  · exact absurd rfl hl
  · have hlast : unlines [l] = l := rfl
    rw [unlines_append _ hm, unlines_append ks (by simp), terminated_append, terminated_cons, hlast]
    simp [terminated]

/-- Lines without line feeds are found again in the text they are joined to. -/
theorem lines_unlines {ls : List Text} (hne : ls ≠ []) (h : ∀ l ∈ ls, '\n' ∉ l) :
    lines (unlines ls) = ls := splitOn_join hne h

/-- Joining texts as lines keeps the lines of each of them. -/
theorem lines_unlines_eq_flatMap {ts : List Text} (hne : ts ≠ []) :
    lines (unlines ts) = ts.flatMap lines := splitOn_join_eq_flatMap '\n' hne

/-- A line of a text stands in it. -/
theorem infix_of_mem_lines {t l : Text} (h : l ∈ lines t) : l <:+: t := by
  obtain ⟨before, after, hsplit⟩ := List.append_of_mem h
  have ht := unlines_lines t
  rw [hsplit, unlines_append _ (List.cons_ne_nil l after)] at ht
  cases after with
  | nil => exact ⟨terminated before, [], by rw [List.append_nil]; exact ht⟩
  | cons m ms =>
    refine ⟨terminated before, '\n' :: unlines (m :: ms), ?_⟩
    rw [← ht, List.append_assoc]
    congr 1
    exact (unlines_append_unlines (List.cons_ne_nil l []) (List.cons_ne_nil m ms)).symm

/-! ## Line ends -/

/-- Only a carriage return at the very end of a text looks at what follows. -/
theorem unifyLineEnds_append {u v : Text} (h : u.getLast? ≠ some '\r' ∨ v.head? ≠ some '\n') :
    unifyLineEnds (u ++ v) = unifyLineEnds u ++ unifyLineEnds v := by
  fun_induction unifyLineEnds u with
  | case1 => rfl
  | case2 r ih =>
    rw [List.cons_append, List.cons_append, unifyLineEnds, List.cons_append, ih]
    rcases h with hlast | hhead
    · left
      intro hr
      apply hlast
      have happ : '\r' :: '\n' :: r = ['\r', '\n'] ++ r := rfl
      rw [happ, List.getLast?_append, hr]
      rfl
    · exact Or.inr hhead
  | case3 c r hc ih =>
    have hfirst : ∀ s, c = '\r' → r ++ v = '\n' :: s → False := by
      intro s hcr hrv
      cases r with
      | nil =>
        rcases h with hlast | hhead
        · exact hlast (by rw [hcr]; rfl)
        · exact hhead (by rw [show v = '\n' :: s from hrv]; rfl)
      | cons d r =>
        obtain ⟨hd, -⟩ := List.cons.inj hrv
        exact hc r hcr (by rw [hd])
    rw [List.cons_append, unifyLineEnds.eq_3 c (r ++ v) hfirst, List.cons_append, ih]
    rcases h with hlast | hhead
    · left
      intro hr
      apply hlast
      have happ : c :: r = [c] ++ r := rfl
      rw [happ, List.getLast?_append, hr]
      rfl
    · exact Or.inr hhead

/-- A text without carriage returns has its line ends already. -/
theorem unifyLineEnds_of_not_mem {t : Text} (h : '\r' ∉ t) : unifyLineEnds t = t := by
  induction t with
  | nil => rfl
  | cons c t ih =>
    rw [List.mem_cons, not_or] at h
    rw [unifyLineEnds.eq_3 c t (fun _ hc _ => h.1 hc.symm), ih h.2]

/-- A line without carriage returns stays as it is. -/
theorem unifyLineEnds_line {l : Text} (h : '\r' ∉ l) (r : Text) :
    unifyLineEnds (l ++ '\n' :: r) = l ++ '\n' :: unifyLineEnds r := by
  have hlast : l.getLast? ≠ some '\r' := fun hl => h (List.mem_of_getLast? hl)
  rw [unifyLineEnds_append (Or.inl hlast), unifyLineEnds_of_not_mem h,
    unifyLineEnds.eq_3 '\n' r (by intro _ hc; cases hc)]

/-! ## Trimming -/

/-- What is dropped in front ends at the first character to keep. -/
theorem dropWhile_append_cons {α : Type} {p : α → Bool} {c : α} (hc : p c = false)
    (u v : List α) : (u ++ c :: v).dropWhile p = u.dropWhile p ++ c :: v := by
  induction u with
  | nil => rw [List.nil_append, List.dropWhile_cons, hc]; rfl
  | cons d u ih =>
    rw [List.cons_append, List.dropWhile_cons, List.dropWhile_cons]
    by_cases hd : p d = true
    · rw [if_pos hd, if_pos hd, ih]
    · rw [if_neg hd, if_neg hd]
      rfl

/-- What was dropped once leaves nothing more to drop. -/
theorem dropWhile_dropWhile {α : Type} (p : α → Bool) (l : List α) :
    (l.dropWhile p).dropWhile p = l.dropWhile p := by
  induction l with
  | nil => rfl
  | cons a l ih =>
    rw [List.dropWhile_cons]
    by_cases ha : p a = true
    · rw [if_pos ha, ih]
    · rw [if_neg ha, List.dropWhile_cons, if_neg ha]

/-- What passes a test is cut off in front of the first element that does not. -/
theorem takeWhile_and_dropWhile_append {α : Type} {p : α → Bool} {u v : List α}
    (hu : ∀ a ∈ u, p a = true) (hv : ∀ a ∈ v.head?, p a = false) :
    (u ++ v).takeWhile p = u ∧ (u ++ v).dropWhile p = v := by
  rw [List.takeWhile_append_of_pos hu, List.dropWhile_append_of_pos hu]
  cases v with
  | nil => simp
  | cons a v =>
    have ha : p a = false := hv a rfl
    simp [ha]

/-- A text whose first and last character show is not touched by trimming, wherever it stands. -/
theorem trim_append_append {c d : Char} (hc : isSpace c = false) (hd : isSpace d = false)
    (u m v : Text) :
    trim (u ++ (c :: m ++ [d]) ++ v) = trimStart u ++ (c :: m ++ [d]) ++ trimEnd v := by
  have hstart : trimStart (u ++ (c :: m ++ [d]) ++ v) = trimStart u ++ (c :: m ++ [d]) ++ v := by
    unfold trimStart
    rw [List.append_assoc, List.append_assoc, List.cons_append, List.cons_append,
      dropWhile_append_cons hc]
    simp
  have hend : ∀ x : Text, trimEnd (x ++ [d] ++ v) = x ++ [d] ++ trimEnd v := by
    intro x
    unfold trimEnd
    rw [List.reverse_append, List.reverse_append, List.reverse_singleton, List.singleton_append,
      dropWhile_append_cons hd]
    simp
  have happ : trimStart u ++ (c :: m ++ [d]) ++ v = trimStart u ++ c :: m ++ [d] ++ v := by simp
  unfold trim
  rw [hstart, happ, hend]
  simp

theorem suffix_trimStart (t : Text) : trimStart t <:+ t := List.dropWhile_suffix isSpace

theorem prefix_trimEnd (t : Text) : trimEnd t <+: t := by
  rw [← List.reverse_suffix]
  unfold trimEnd
  rw [List.reverse_reverse]
  exact List.dropWhile_suffix isSpace

theorem trim_infix (t : Text) : trim t <:+: t :=
  (prefix_trimEnd _).isInfix.trans (suffix_trimStart t).isInfix

/-- A text is the text trimmed behind, and white space. -/
theorem exists_trimEnd (t : Text) :
    ∃ w, (∀ c ∈ w, isSpace c = true) ∧ t = trimEnd t ++ w := by
  refine ⟨(t.reverse.takeWhile isSpace).reverse, ?_, ?_⟩
  · intro c hc
    exact List.all_eq_true.mp List.all_takeWhile c (List.mem_reverse.mp hc)
  · unfold trimEnd
    rw [← List.reverse_append, List.takeWhile_append_dropWhile, List.reverse_reverse]

/-- A text is white space, and the text trimmed in front. -/
theorem exists_trimStart (t : Text) :
    ∃ w, (∀ c ∈ w, isSpace c = true) ∧ t = w ++ trimStart t :=
  ⟨t.takeWhile isSpace, fun _ hc => List.all_eq_true.mp List.all_takeWhile _ hc,
    (List.takeWhile_append_dropWhile).symm⟩

/-- Trimming behind leaves every character that shows. -/
theorem mem_trimEnd {t : Text} {c : Char} (h : c ∈ t) (hc : isSpace c = false) : c ∈ trimEnd t := by
  obtain ⟨w, hw, hsplit⟩ := exists_trimEnd t
  rw [hsplit, List.mem_append] at h
  rcases h with h | h
  · exact h
  · rw [hw c h] at hc
    cases hc

/-- Trimming leaves every character that shows. -/
theorem mem_trim {t : Text} {c : Char} (h : c ∈ t) (hc : isSpace c = false) : c ∈ trim t := by
  obtain ⟨w, hw, hsplit⟩ := exists_trimStart t
  refine mem_trimEnd ?_ hc
  rw [hsplit, List.mem_append] at h
  rcases h with h | h
  · rw [hw c h] at hc
    cases hc
  · exact h

theorem trim_ne_nil {t : Text} (h : isBlank t = false) : trim t ≠ [] := by
  unfold isBlank at h
  obtain ⟨c, hmem, hc⟩ := List.all_eq_false.mp h
  exact List.ne_nil_of_mem (mem_trim hmem (by simpa using hc))

theorem trimEnd_trimEnd (t : Text) : trimEnd (trimEnd t) = trimEnd t := by
  unfold trimEnd
  rw [List.reverse_reverse, dropWhile_dropWhile]

/-- A trimmed text cannot be trimmed further. -/
theorem trim_trim (t : Text) : trim (trim t) = trim t := by
  have hend := trimEnd_trimEnd (trimStart t)
  have hstart : trimStart (trimEnd (trimStart t)) = trimEnd (trimStart t) := by
    cases hs : trimStart t with
    | nil => rfl
    | cons c r =>
      have hc : isSpace c = false := by
        have hhead := List.head?_dropWhile_not isSpace t
        have hdrop : t.dropWhile isSpace = c :: r := hs
        rw [hdrop] at hhead
        simpa using hhead
      have hkeep : trimEnd (c :: r) = c :: trimEnd r := by
        unfold trimEnd
        rw [List.reverse_cons, dropWhile_append_cons hc]
        simp
      rw [hkeep]
      unfold trimStart
      rw [List.dropWhile_cons, hc]
      rfl
  unfold trim
  rw [hstart, hend]

end ChatScribe.Text
