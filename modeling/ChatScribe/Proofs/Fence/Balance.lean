import ChatScribe.Markdown.Fence
import Mathlib.Tactic.Common

/-!
# Texts whose backticks are paired

The scan for backticks is greedy: what it makes of a fence depends on all backticks in front of it.
A text is *paired* when the scan leaves no mark of it over, neither a fence nor a single backtick.
Behind a paired text the scan starts afresh, which is what lets a document be looked at piece by piece.

The scan decides by looking ahead, and that makes appending awkward. `Mode` is the same scan as an
automaton that reads one character at a time and trusts that the closing mark will come;
`isPaired_eq_atRest` says that it ends at rest exactly on the paired texts. From it everything about
pieces of a text follows by appending runs.
-/

namespace ChatScribe.Markdown

/-- Does the scan find a partner for every fence and for every single backtick? -/
def isPaired (t : Text) : Bool := (scan t).all fun p => p != .unclosed && p != .char tick

/-! ## The scan, one equation per kind of piece -/

/-- Outside of every span a character that is no backtick stands for itself. -/
theorem scan_cons_of_ne {c : Char} (hc : c ≠ tick) (r : Text) :
    scan (c :: r) = .char c :: scan r :=
  scan.eq_4 c r (fun _ h _ => hc h) hc

/-- A fence with a fence behind it is a span. -/
theorem scan_of_cutFence {r body rest : Text} (h : cutFence r = some (body, rest)) :
    scan (tick :: tick :: tick :: r) = .fenced body :: scan rest := by
  rw [scan.eq_2]
  split
  · rename_i b s hb
    rw [h] at hb
    obtain ⟨rfl, rfl⟩ := Prod.mk.inj (Option.some.inj hb)
    rfl
  · rename_i hb
    rw [h] at hb
    cases hb

/-- A single backtick with a backtick behind it is a span. -/
theorem scan_of_splitOnce {r body rest : Text} (hr : ∀ s, r ≠ tick :: tick :: s)
    (h : Text.splitOnce tick r = some (body, rest)) :
    scan (tick :: r) = .inline body :: scan rest := by
  rw [scan.eq_3 r hr]
  split
  · rename_i b s hb
    rw [h] at hb
    obtain ⟨rfl, rfl⟩ := Prod.mk.inj (Option.some.inj hb)
    rfl
  · rename_i hb
    rw [h] at hb
    cases hb

/-- The first fence of a text stays the first one when more text follows. -/
theorem cutFence_append {r body rest : Text} (h : cutFence r = some (body, rest)) (v : Text) :
    cutFence (r ++ v) = some (body, rest ++ v) := by
  fun_induction cutFence r generalizing body with
  | case1 => cases h
  | case2 r =>
    obtain ⟨rfl, rfl⟩ := Prod.mk.inj (Option.some.inj h)
    rfl
  | case3 c r hc ih =>
    obtain ⟨⟨b, s⟩, hb, he⟩ := Option.map_eq_some_iff.1 h
    obtain ⟨rfl, rfl⟩ := Prod.mk.inj he
    have hfirst : ∀ x, c = '\x60' → r ++ v = '\x60' :: '\x60' :: x → False := by
      intro x hx hrv
      -- a fence in front was cut off before, and a shorter text has no fence to find
      cases r with
      | nil => cases hb
      | cons a r =>
        cases r with
        | nil => simp [cutFence] at hb
        | cons d r =>
          simp only [List.cons_append, List.cons.injEq] at hrv
          exact hc r hx (by rw [hrv.1, hrv.2.1])
    rw [List.cons_append, cutFence.eq_3 c (r ++ v) hfirst, ih hb]
    rfl

/-- The first separator of a text stays the first one when more text follows. -/
theorem splitOnce_append {sep : Char} {r body rest : Text}
    (h : Text.splitOnce sep r = some (body, rest)) (v : Text) :
    Text.splitOnce sep (r ++ v) = some (body, rest ++ v) := by
  induction r generalizing body with
  | nil => cases h
  | cons c r ih =>
    rw [Text.splitOnce] at h
    rw [List.cons_append, Text.splitOnce]
    by_cases hc : c = sep
    · rw [if_pos hc] at h ⊢
      obtain ⟨rfl, rfl⟩ := Prod.mk.inj (Option.some.inj h)
      rfl
    · rw [if_neg hc] at h ⊢
      obtain ⟨⟨b, s⟩, hb, he⟩ := Option.map_eq_some_iff.1 h
      obtain ⟨rfl, rfl⟩ := Prod.mk.inj he
      rw [ih hb]
      rfl

/-- What stands in front of the first separator does not contain it. -/
theorem not_mem_of_splitOnce {sep : Char} {r body rest : Text}
    (h : Text.splitOnce sep r = some (body, rest)) : sep ∉ body := by
  induction r generalizing body with
  | nil => cases h
  | cons c r ih =>
    rw [Text.splitOnce] at h
    by_cases hc : c = sep
    · rw [if_pos hc] at h
      obtain ⟨rfl, rfl⟩ := Prod.mk.inj (Option.some.inj h)
      exact List.not_mem_nil
    · rw [if_neg hc] at h
      obtain ⟨⟨b, s⟩, hb, he⟩ := Option.map_eq_some_iff.1 h
      obtain ⟨rfl, rfl⟩ := Prod.mk.inj he
      intro hmem
      rcases List.mem_cons.mp hmem with heq | hmem
      · exact hc heq.symm
      · exact ih hb hmem

/-- A text that cannot be split at a separator does not contain it. -/
theorem not_mem_of_splitOnce_eq_none {sep : Char} {r : Text}
    (h : Text.splitOnce sep r = none) : sep ∉ r := by
  induction r with
  | nil => exact List.not_mem_nil
  | cons c r ih =>
    rw [Text.splitOnce] at h
    by_cases hc : c = sep
    · rw [if_pos hc] at h
      cases h
    · rw [if_neg hc, Option.map_eq_none_iff] at h
      intro hmem
      rcases List.mem_cons.mp hmem with heq | hmem
      · exact hc heq.symm
      · exact ih h hmem

/-! ## The automaton -/

/-- Where the scan stands after some text, if every mark it has opened will be closed. -/
inductive Mode
  /-- Outside of every span. -/
  | outside
  /-- Behind one backtick that opens a span or a fence. -/
  | one
  /-- Behind two backticks: an empty inline span, or the start of a fence. -/
  | two
  /-- Inside of an inline span. -/
  | inline
  /-- Inside of a fenced span, behind a run of backticks. -/
  | fenced (run : Nat)
deriving DecidableEq, Repr

namespace Mode

/-- Reads a backtick. -/
def mark : Mode → Mode
  | outside => one
  | one => two
  | two => fenced 0
  | inline => outside
  | fenced n => if n = 2 then outside else fenced (n + 1)

/-- Reads any other character. -/
def pass : Mode → Mode
  | outside => outside
  | one => inline
  | two => outside
  | inline => inline
  | fenced _ => fenced 0

/-- Reads one character. -/
def step (m : Mode) (c : Char) : Mode := if c = tick then m.mark else m.pass

/-- Reads a text. -/
def run (m : Mode) (t : Text) : Mode := t.foldl step m

/-- Is every span closed? Two backticks with nothing behind them are an empty span. -/
def atRest : Mode → Bool
  | outside | two => true
  | _ => false

@[simp] theorem run_nil (m : Mode) : m.run [] = m := rfl

@[simp] theorem run_cons (m : Mode) (c : Char) (t : Text) : m.run (c :: t) = (m.step c).run t := rfl

theorem run_append (m : Mode) (s t : Text) : m.run (s ++ t) = (m.run s).run t :=
  List.foldl_append

theorem step_tick (m : Mode) : m.step tick = m.mark := if_pos rfl

theorem step_of_ne {c : Char} (hc : c ≠ tick) (m : Mode) : m.step c = m.pass := if_neg hc

/-- Of two characters that are no backticks the first makes no difference. -/
theorem pass_pass (m : Mode) : m.pass.pass = m.pass := by cases m <;> rfl

/-- Without backticks nothing opens outside of spans. -/
theorem run_outside_of_not_mem {t : Text} (h : tick ∉ t) : outside.run t = outside := by
  induction t with
  | nil => rfl
  | cons c t ih =>
    rw [List.mem_cons, not_or] at h
    rw [run_cons, step_of_ne (Ne.symm h.1)]
    exact ih h.2

/-- Without backticks an inline span stays open. -/
theorem run_inline_of_not_mem {t : Text} (h : tick ∉ t) : inline.run t = inline := by
  induction t with
  | nil => rfl
  | cons c t ih =>
    rw [List.mem_cons, not_or] at h
    rw [run_cons, step_of_ne (Ne.symm h.1)]
    exact ih h.2

/-- A single backtick without partner keeps the automaton inside of an inline span, or in front of one. -/
theorem run_one_of_not_mem {r : Text} (h : tick ∉ r) : one.run r = one ∨ one.run r = inline := by
  cases r with
  | nil => exact Or.inl rfl
  | cons c r =>
    right
    rw [List.mem_cons, not_or] at h
    rw [run_cons, step_of_ne (Ne.symm h.1)]
    exact run_inline_of_not_mem h.2

/-- An inline span takes the automaton from outside to outside. Only behind an empty span at the end of
a text it still waits for what follows. -/
theorem run_of_splitOnce {r body rest : Text} (hr : ∀ s, r ≠ tick :: tick :: s)
    (h : Text.splitOnce tick r = some (body, rest)) :
    outside.run (tick :: r) = outside.run rest ∨ rest = [] ∧ outside.run (tick :: r) = two := by
  have hbody := not_mem_of_splitOnce h
  have hsplit := Text.eq_append_of_splitOnce h
  rw [run_cons, step_tick, hsplit]
  cases body with
  | nil =>
    cases rest with
    | nil => exact Or.inr ⟨rfl, rfl⟩
    | cons c s =>
      -- two backticks in a row: what follows is no backtick, or this would be a fence
      have hc : c ≠ tick := by
        intro hc
        exact hr s (by rw [hsplit, hc]; rfl)
      left
      rw [List.nil_append, run_cons, run_cons, run_cons, step_tick, step_of_ne hc, step_of_ne hc]
      rfl
  | cons c body =>
    left
    rw [List.mem_cons, not_or] at hbody
    rw [List.cons_append, run_cons, step_of_ne (Ne.symm hbody.1), run_append]
    show (inline.run body).run (tick :: rest) = outside.run rest
    rw [run_inline_of_not_mem hbody.2]
    rfl

/-- Fewer than three backticks and another character are no fence: the search goes on behind them. -/
theorem cutFence_replicate_cons {c : Char} (hc : c ≠ tick) (r : Text) {n : Nat} (hn : n ≤ 2) :
    cutFence (List.replicate n tick ++ c :: r)
      = (cutFence r).map fun p => (List.replicate n tick ++ c :: p.1, p.2) := by
  have hskip : cutFence (c :: r) = (cutFence r).map fun p => (c :: p.1, p.2) :=
    cutFence.eq_3 c r fun _ h _ => hc h
  have hcase : n = 0 ∨ n = 1 ∨ n = 2 := by omega
  rcases hcase with rfl | rfl | rfl
  · exact hskip
  · show cutFence (tick :: c :: r) = _
    rw [cutFence.eq_3 tick (c :: r) (by intro x _ h; exact hc (List.cons.inj h).1), hskip,
      Option.map_map]
    rfl
  · show cutFence (tick :: tick :: c :: r) = _
    rw [cutFence.eq_3 tick (tick :: c :: r)
        (by intro x _ h; exact hc (List.cons.inj (List.cons.inj h).2).1),
      cutFence.eq_3 tick (c :: r) (by intro x _ h; exact hc (List.cons.inj h).1), hskip,
      Option.map_map, Option.map_map]
    rfl

/-- Inside of a fenced span the automaton comes out where the next fence ends, and not before. The
backticks it has just read count as a part of that fence, so the induction is on the text with the
run of backticks put back in front. -/
theorem run_fenced (r : Text) (n : Nat) (hn : n ≤ 2) :
    (∀ body rest, cutFence (List.replicate n tick ++ r) = some (body, rest) →
      (fenced n).run r = outside.run rest) ∧
    (cutFence (List.replicate n tick ++ r) = none → ∃ k, (fenced n).run r = fenced k) := by
  induction r generalizing n with
  | nil =>
    have hnone : cutFence (List.replicate n tick ++ []) = none := by
      have hcase : n = 0 ∨ n = 1 ∨ n = 2 := by omega
      rcases hcase with rfl | rfl | rfl <;> simp [cutFence, List.replicate]
    refine ⟨?_, fun _ => ⟨n, rfl⟩⟩
    intro body rest h
    rw [hnone] at h
    cases h
  | cons c r ih =>
    by_cases hc : c = tick
    · subst hc
      by_cases h2 : n = 2
      · subst h2
        have hcut : cutFence (List.replicate 2 tick ++ tick :: r) = some ([], r) := rfl
        rw [hcut, run_cons, step_tick]
        refine ⟨?_, fun h => by cases h⟩
        intro body rest h
        obtain ⟨rfl, rfl⟩ := Prod.mk.inj (Option.some.inj h)
        rfl
      · have hmove : List.replicate n tick ++ tick :: r = List.replicate (n + 1) tick ++ r := by
          rw [List.replicate_succ', List.append_assoc]
          rfl
        have hmark : (fenced n).mark = fenced (n + 1) := if_neg h2
        rw [hmove, run_cons, step_tick, hmark]
        exact ih (n + 1) (by omega)
    · have hcut := cutFence_replicate_cons hc r hn
      rw [hcut, run_cons, step_of_ne hc]
      have ih0 := ih 0 (by omega)
      rw [List.replicate_zero, List.nil_append] at ih0
      refine ⟨?_, ?_⟩
      · intro body rest h
        obtain ⟨⟨b, s⟩, hb, he⟩ := Option.map_eq_some_iff.1 h
        obtain ⟨-, rfl⟩ := Prod.mk.inj he
        exact ih0.1 b s hb
      · intro h
        exact ih0.2 (Option.map_eq_none_iff.1 h)

end Mode

/-! ## The scan and the automaton agree -/

/-- The scan pairs all backticks of a text exactly if the automaton comes to rest. The induction
follows the scan: each piece takes the automaton from outside to outside, and a mark left over keeps
it inside for good. -/
theorem isPaired_eq_atRest (t : Text) : isPaired t = (Mode.outside.run t).atRest := by
  unfold isPaired
  fun_induction scan t with
  | case1 => rfl
  | case2 r body rest h ih =>
    have hrun : Mode.outside.run (tick :: tick :: tick :: r) = Mode.outside.run rest :=
      (Mode.run_fenced r 0 (by omega)).1 body rest h
    rw [hrun, ← ih]
    rfl
  | case3 r h ih =>
    obtain ⟨k, hk⟩ := (Mode.run_fenced r 0 (by omega)).2 h
    have hrun : Mode.outside.run (tick :: tick :: tick :: r) = .fenced k := hk
    rw [hrun]
    rfl
  | case4 r hr body rest h ih =>
    have hpiece : ((Piece.inline body :: scan rest).all fun p => p != .unclosed && p != .char tick)
        = (scan rest).all fun p => p != .unclosed && p != .char tick := rfl
    rw [hpiece, ih]
    rcases Mode.run_of_splitOnce hr h with hrun | ⟨rfl, hrun⟩
    · rw [hrun]
    · rw [hrun]
      rfl
  | case5 r hr h ih =>
    have hrun : (Mode.outside.run (tick :: r)).atRest = false := by
      rw [Mode.run_cons, Mode.step_tick]
      show (Mode.one.run r).atRest = false
      rcases Mode.run_one_of_not_mem (not_mem_of_splitOnce_eq_none h) with hone | hinline
      · rw [hone]
        rfl
      · rw [hinline]
        rfl
    rw [hrun]
    rfl
  | case6 c r h1 h2 ih =>
    have hc : c ≠ tick := h2
    have hpiece : ((Piece.char c :: scan r).all fun p => p != .unclosed && p != .char tick)
        = (scan r).all fun p => p != .unclosed && p != .char tick := by
      simp [hc]
    rw [hpiece, ih, Mode.run_cons, Mode.step_of_ne hc]
    rfl

/-- A text without backticks is paired. -/
theorem isPaired_of_not_mem {t : Text} (h : tick ∉ t) : isPaired t = true := by
  rw [isPaired_eq_atRest, Mode.run_outside_of_not_mem h]
  rfl

/-! ## Appending to a paired text -/

/-- If the end of a text followed by `v` is fine to append to, so is the text. -/
theorem join_of_append {s rest v : Text}
    (h : (s ++ rest).getLast? ≠ some tick ∨ v.head? ≠ some tick) :
    rest.getLast? ≠ some tick ∨ v.head? ≠ some tick := by
  rcases h with hlast | hhead
  · left
    intro hrest
    apply hlast
    rw [List.getLast?_append, hrest]
    rfl
  · exact Or.inr hhead

/-- Behind a paired text the scan starts afresh, unless backticks run on from one into the other. -/
theorem scan_append {u v : Text} (hu : isPaired u = true)
    (hjoin : u.getLast? ≠ some tick ∨ v.head? ≠ some tick) : scan (u ++ v) = scan u ++ scan v := by
  unfold isPaired at hu
  fun_induction scan u with
  | case1 => rfl
  | case2 r body rest h ih =>
    have hsplit : tick :: tick :: tick :: r = (fenceMark ++ body ++ fenceMark) ++ rest := by
      rw [eq_append_of_cutFence h]
      rfl
    have hrest := (Bool.and_eq_true_iff.mp (List.all_cons.symm.trans hu)).2
    rw [hsplit] at hjoin
    rw [List.cons_append, List.cons_append, List.cons_append,
      scan_of_cutFence (cutFence_append h v), ih hrest (join_of_append hjoin)]
    rfl
  | case3 r h ih => cases hu
  | case4 r hr body rest h ih =>
    have hsplit : tick :: r = (tick :: body ++ [tick]) ++ rest := by
      rw [Text.eq_append_of_splitOnce h]
      simp
    have hrest := (Bool.and_eq_true_iff.mp (List.all_cons.symm.trans hu)).2
    have hfirst : ∀ s, r ++ v ≠ tick :: tick :: s := by
      intro s hs
      cases r with
      | nil => cases h
      | cons c r =>
        obtain ⟨hc, hs⟩ := List.cons.inj hs
        cases r with
        | nil =>
          -- the text ends in the backtick that closes the span, and `v` goes on with one
          have hv : v = tick :: s := hs
          rcases hjoin with hlast | hhead
          · exact hlast (by rw [hc]; rfl)
          · exact hhead (by rw [hv]; rfl)
        | cons d r =>
          obtain ⟨hd, -⟩ := List.cons.inj hs
          exact hr r (by rw [hc, hd])
    rw [hsplit] at hjoin
    rw [List.cons_append, scan_of_splitOnce hfirst (splitOnce_append h v),
      ih hrest (join_of_append hjoin)]
    rfl
  | case5 r hr h ih => cases hu
  | case6 c r h1 h2 ih =>
    have hrest := (Bool.and_eq_true_iff.mp (List.all_cons.symm.trans hu)).2
    have hjoin' : ([c] ++ r).getLast? ≠ some tick ∨ v.head? ≠ some tick := hjoin
    rw [List.cons_append, scan_cons_of_ne h2, ih hrest (join_of_append hjoin')]
    rfl

/-- Paired texts that do not join a backtick to another one are paired together. -/
theorem isPaired_append {u v : Text} (hu : isPaired u = true) (hv : isPaired v = true)
    (hjoin : u.getLast? ≠ some tick ∨ v.head? ≠ some tick) : isPaired (u ++ v) = true := by
  unfold isPaired
  rw [scan_append hu hjoin, List.all_append, Bool.and_eq_true]
  exact ⟨hu, hv⟩

/-! ## Fences left open -/

/-- A piece of a text stands in it. -/
theorem infix_of_mem_scan {t : Text} {p : Piece} (h : p ∈ scan t) : p.text <:+: t := by
  obtain ⟨before, after, hsplit⟩ := List.append_of_mem h
  refine ⟨before.flatMap Piece.text, after.flatMap Piece.text, ?_⟩
  have hflat := flatten_scan t
  rw [hsplit, List.flatMap_append, List.flatMap_cons, ← List.append_assoc] at hflat
  exact hflat

/-- Where a fence stands in a text, the search for one has a result. -/
theorem cutFence_ne_none {r : Text} (h : fenceMark <:+: r) : cutFence r ≠ none := by
  obtain ⟨u, v, rfl⟩ := h
  induction u with
  | nil =>
    intro hnone
    cases hnone
  | cons c u ih =>
    rw [List.cons_append, List.cons_append]
    intro hnone
    rw [cutFence.eq_def] at hnone
    split at hnone
    · rename_i hnil
      cases hnil
    · cases hnone
    · rename_i heq
      obtain ⟨rfl, rfl⟩ := List.cons.inj heq
      exact ih (Option.map_eq_none_iff.mp hnone)

/-- Behind a fence that is not closed there is no other one. -/
theorem unclosedFences_le_one (t : Text) : unclosedFences t ≤ 1 := by
  unfold unclosedFences
  fun_induction scan t with
  | case1 => exact Nat.zero_le 1
  | case2 r body rest h ih =>
    rw [List.count_cons, if_neg (by simp)]
    exact ih
  | case3 r h ih =>
    have hnone : Piece.unclosed ∉ scan r := fun hmem => cutFence_ne_none (infix_of_mem_scan hmem) h
    have hcount : (Piece.unclosed :: scan r).count Piece.unclosed = 1 := by
      rw [List.count_cons, List.count_eq_zero.mpr hnone, if_pos (by simp)]
    exact Nat.le_of_eq hcount
  | case4 r hr body rest h ih =>
    rw [List.count_cons, if_neg (by simp)]
    exact ih
  | case5 r hr h ih =>
    rw [List.count_cons, if_neg (by simp)]
    exact ih
  | case6 c r h1 h2 ih =>
    rw [List.count_cons, if_neg (by simp)]
    exact ih

/-- A fence is left open exactly if the automaton ends inside of a fenced span. -/
theorem unclosed_mem_scan_iff (t : Text) :
    Piece.unclosed ∈ scan t ↔ ∃ k, Mode.outside.run t = .fenced k := by
  fun_induction scan t with
  | case1 => simp
  | case2 r body rest h ih =>
    have hrun : Mode.outside.run (tick :: tick :: tick :: r) = Mode.outside.run rest :=
      (Mode.run_fenced r 0 (by omega)).1 body rest h
    rw [hrun, ← ih]
    simp
  | case3 r h ih =>
    have hrun : ∃ k, Mode.outside.run (tick :: tick :: tick :: r) = .fenced k :=
      (Mode.run_fenced r 0 (by omega)).2 h
    exact iff_of_true List.mem_cons_self hrun
  | case4 r hr body rest h ih =>
    have hpiece : Piece.unclosed ∈ Piece.inline body :: scan rest ↔ Piece.unclosed ∈ scan rest := by
      simp
    rw [hpiece, ih]
    rcases Mode.run_of_splitOnce hr h with hrun | ⟨rfl, hrun⟩
    · rw [hrun]
    · rw [hrun]
      exact iff_of_false (by simp) (by simp)
  | case5 r hr h ih =>
    have hnone := not_mem_of_splitOnce_eq_none h
    refine iff_of_false ?_ ?_
    · intro hmem
      rcases List.mem_cons.mp hmem with heq | hmem
      · cases heq
      · exact hnone ((infix_of_mem_scan hmem).mem (by simp [Piece.text, fenceMark]))
    · rintro ⟨k, hk⟩
      have hone : Mode.one.run r = .fenced k := hk
      rcases Mode.run_one_of_not_mem hnone with hrun | hrun
      · rw [hrun] at hone
        cases hone
      · rw [hrun] at hone
        cases hone
  | case6 c r h1 h2 ih =>
    have hpiece : Piece.unclosed ∈ Piece.char c :: scan r ↔ Piece.unclosed ∈ scan r := by simp
    rw [hpiece, ih, Mode.run_cons, Mode.step_of_ne h2]
    rfl

/-- A trimmed text gets a closing fence exactly if the automaton ends inside of a fenced span. -/
theorem closeFence_eq_self_iff {t : Text} (htrim : t.trim = t) :
    closeFence t = t ↔ ∀ k, Mode.outside.run t ≠ .fenced k := by
  have hle := unclosedFences_le_one t
  have hopen : unclosedFences t % 2 = 1 ↔ ∃ k, Mode.outside.run t = .fenced k := by
    rw [← unclosed_mem_scan_iff, ← List.count_pos_iff]
    show unclosedFences t % 2 = 1 ↔ 0 < unclosedFences t
    omega
  unfold closeFence
  by_cases hodd : unclosedFences t % 2 = 1
  · rw [if_pos hodd, htrim]
    refine iff_of_false ?_ ?_
    · intro heq
      have hlen := congrArg List.length heq
      simp at hlen
    · intro hnone
      obtain ⟨k, hk⟩ := hopen.mp hodd
      exact hnone k hk
  · rw [if_neg hodd]
    refine iff_of_true rfl ?_
    intro k hk
    exact hodd (hopen.mpr ⟨k, hk⟩)

/-- Where the scan is behind a line feed of a text that is not paired, a fence is the mark it waits
for, whether it closes a span of one backtick or a fenced one. -/
theorem isPaired_append_fence {u : Text} (hu : isPaired u = false) (hend : u.getLast? = some '\n') :
    isPaired (u ++ (fenceMark ++ ['\n'])) = true := by
  obtain ⟨s, rfl⟩ := List.getLast?_eq_some_iff.mp hend
  rw [isPaired_eq_atRest, Mode.run_append] at hu
  have hpass : ∀ m : Mode, m.run ['\n'] = m.pass := fun _ => rfl
  rw [hpass] at hu
  rw [isPaired_eq_atRest, Mode.run_append, Mode.run_append, Mode.run_append, hpass, hpass]
  cases hm : Mode.outside.run s with
  | outside => rw [hm] at hu; cases hu
  | two => rw [hm] at hu; cases hu
  | one => rfl
  | inline => rfl
  | fenced n => rfl

end ChatScribe.Markdown
