import ChatScribe.Proofs.Spacing.Trimmed
import ChatScribe.Proofs.Text.LineEnds
import ChatScribe.Proofs.Text.Prefix
import Mathlib.Data.List.TakeWhile

/-!
# Normalising twice

A document that was normalised has its gaps in place, so a second pass has nothing to do. There are two
exceptions, and both come from an edit that the first pass makes after it has looked at the lines. A
carriage return in front of a line end can be left over when the one behind it is dropped, and it is
dropped by the second pass. And the space of an empty heading can be trimmed away at the end of the
document: the hashes alone are no heading, and the second pass drops the gap in front of them.

`respace_respace_eq_iff` says that these are the only two.
-/

namespace ChatScribe.Markdown

/-- A document that keeps nothing for another pass: no line ends in a carriage return, and its last line
is no heading without a blank behind an empty line. -/
structure IsSettled (u : Text) : Prop where
  no_return : ¬ ['\r', '\n'] <:+: u
  no_bare_heading : ∀ n, ¬ '\n' :: '\n' :: List.replicate (n + 1) '#' <:+ u

/-! ## Lines that open a part, trimmed behind -/

/-- Three ways to open a part. -/
theorem opensPart_iff (l : Text) :
    opensPart l = true ↔ (l.head? = some '#' ∧ (l.dropWhile (· == '#')).head? = some ' ') ∨
      "---".toList <+: l ∨ sourceLabel <+: l := by
  unfold opensPart
  rw [Bool.or_eq_true, Bool.or_eq_true, Bool.and_eq_true, beq_iff_eq, beq_iff_eq,
    Text.startsWith_iff_prefix, Text.startsWith_iff_prefix, or_assoc]

/-- Text behind a line that opens a part does not keep it from doing so. -/
theorem opensPart_append {a : Text} (h : opensPart a = true) (w : Text) :
    opensPart (a ++ w) = true := by
  rw [opensPart_iff] at h ⊢
  rcases h with ⟨hhead, hblank⟩ | hrule | hsource
  · left
    refine ⟨?_, ?_⟩
    · rw [List.head?_append, hhead]
      rfl
    · have hne : (a.dropWhile (· == '#')).isEmpty = false := by
        cases hd : a.dropWhile (· == '#') with
        | nil => rw [hd] at hblank; cases hblank
        | cons c r => rfl
      rw [List.dropWhile_append, hne, if_neg Bool.false_ne_true, List.head?_append, hblank]
      rfl
  · exact Or.inr (Or.inl (hrule.trans (List.prefix_append a w)))
  · exact Or.inr (Or.inr (hsource.trans (List.prefix_append a w)))

/-- White space behind a line opens a part only with the hashes of an empty heading. -/
theorem opensPart_of_append {a w : Text} (hw : ∀ c ∈ w, Text.isSpace c = true)
    (h : opensPart (a ++ w) = true) :
    opensPart a = true ∨ ∃ n, a = List.replicate (n + 1) '#' := by
  rw [opensPart_iff] at h
  rcases h with ⟨hhead, hblank⟩ | hrule | hsource
  · cases a with
    | nil =>
      have hspace := hw '#' (List.mem_of_head? hhead)
      cases hspace
    | cons c r =>
      have hc : c = '#' := Option.some.inj hhead
      cases hd : (c :: r).dropWhile (· == '#') with
      | nil =>
        right
        refine ⟨r.length, ?_⟩
        rw [List.eq_replicate_iff]
        refine ⟨rfl, ?_⟩
        intro d hdm
        exact beq_iff_eq.mp (List.dropWhile_eq_nil_iff.mp hd d hdm)
      | cons d s =>
        left
        rw [List.dropWhile_append, hd] at hblank
        rw [opensPart_iff, hd]
        exact Or.inl ⟨by rw [hc]; rfl, hblank⟩
  · left
    rw [opensPart_iff]
    exact Or.inr (Or.inl (Text.prefix_of_prefix_append (c := '-') (by decide) (by decide) hw hrule))
  · left
    rw [opensPart_iff]
    exact Or.inr (Or.inr (Text.prefix_of_prefix_append (c := '*') (by decide) (by decide) hw hsource))

theorem dropWhile_hashes (n : Nat) : (List.replicate n '#').dropWhile (· == '#') = [] := by
  rw [List.dropWhile_eq_nil_iff]
  intro c hc
  rw [List.eq_of_mem_replicate hc]
  rfl

/-- Hashes alone are no heading. -/
theorem opensPart_hashes (n : Nat) : opensPart (List.replicate (n + 1) '#') = false := by
  rw [← Bool.not_eq_true, opensPart_iff]
  rintro (⟨-, hblank⟩ | hrule | hsource)
  · rw [dropWhile_hashes] at hblank
    cases hblank
  · have hmem := hrule.subset (show '-' ∈ "---".toList by decide)
    exact absurd (List.eq_of_mem_replicate hmem) (by decide)
  · have hmem := hsource.subset (show '*' ∈ sourceLabel by decide)
    exact absurd (List.eq_of_mem_replicate hmem) (by decide)

/-! ## Lines in order stay as they are -/

/-- Lines with their gaps in place are written as they are. A gap is dropped and written again with the
line behind it, so the induction says also what becomes of the lines behind a gap. -/
theorem spacedMarks_some_eq_self {l : Line} {ms : List Line}
    (hchain : (l :: ms).IsChain Neighbours)
    (hlast : ∀ k, (l :: ms).getLast? = some k → k.shows = true) :
    (l.shows = true → spacedMarks (some l.text) ms = ms) ∧
      (l.shows = false → ∀ p, p ≠ [] → spacedMarks (some p) ms = l :: ms) := by
  induction ms generalizing l with
  | nil =>
    refine ⟨fun _ => rfl, ?_⟩
    intro hl
    rw [hlast l rfl] at hl
    cases hl
  | cons m ms ih =>
    rw [List.isChain_cons_cons] at hchain
    obtain ⟨hlm, hrest⟩ := hchain
    have hlast' : ∀ k, (m :: ms).getLast? = some k → k.shows = true := by
      intro k hk
      exact hlast k (by rw [List.getLast?_cons_cons, hk])
    obtain ⟨hshown, hgap⟩ := ih hrest hlast'
    refine ⟨?_, ?_⟩
    · intro hl
      rcases spacedMarks_cases (some l.text) m ms with ⟨hm, heq⟩ | ⟨hm, -, heq⟩ | ⟨-, hf, hopens, -, -⟩
      · rw [heq, hgap hm l.text (hlm.text_before_gap hm)]
      · rw [heq, hshown hm]
      · rw [hlm.opens_gap hf hopens] at hl
        cases hl
    · intro hl p hp
      obtain ⟨hnil, hf, hopens⟩ := hlm.gap_opens hl
      have hany : (some p).any (!·.isEmpty) = true := by simpa using hp
      rcases spacedMarks_cases (some p) m ms with ⟨hm, -⟩ | ⟨-, hwhy, -⟩ | ⟨hm, -, -, -, heq⟩
      · exact absurd hnil (hlm.text_before_gap hm)
      · rw [hf, hopens, hany] at hwhy
        rcases hwhy with h | h | h <;> cases h
      · rw [heq, hshown hm, hlm.opens_gap hf hopens]

theorem spacedMarks_none_eq_self {ms : List Line} (hchain : ms.IsChain Neighbours)
    (hhead : ∀ k, ms.head? = some k → k.shows = true)
    (hlast : ∀ k, ms.getLast? = some k → k.shows = true) : spacedMarks none ms = ms := by
  cases ms with
  | nil => rfl
  | cons m ms =>
    have hm : m.shows = true := hhead m rfl
    rcases spacedMarks_cases none m ms with ⟨hno, -⟩ | ⟨-, -, heq⟩ | ⟨-, -, -, hany, -⟩
    · rw [hm] at hno
      cases hno
    · rw [heq, (spacedMarks_some_eq_self hchain hlast).1 hm]
    · cases hany

/-! ## Trimmed neighbours -/

theorem Neighbours.trimStart {l m : Line} (h : Neighbours l m) (hl : l.shows = true)
    (hblank : Text.isBlank l.text = false) : Neighbours l.trimStart m := by
  refine ⟨?_, ?_, ?_⟩
  · intro hno
    rw [Line.shows_trimStart, hl] at hno
    cases hno
  · intro hf hopens
    rw [h.opens_gap hf hopens] at hl
    cases hl
  · intro _ hnil
    have hall : Text.isBlank l.text = true := by
      unfold Text.isBlank
      rw [List.all_eq_true]
      exact fun c hc => List.dropWhile_eq_nil_iff.mp hnil c hc
    rw [hblank] at hall
    cases hall

/-- A line that is trimmed behind stays what it is to the line in front of it, as long as it opens a
part as before. -/
theorem Neighbours.trimEnd {l m : Line} (h : Neighbours l m)
    (hopens : l.shows = false → opensPart m.text = true → opensPart m.text.trimEnd = true) :
    Neighbours l m.trimEnd := by
  refine ⟨?_, ?_, ?_⟩
  · intro hl
    obtain ⟨hnil, hf, ho⟩ := h.gap_opens hl
    exact ⟨hnil, hf, hopens hl ho⟩
  · intro hf ho
    apply h.opens_gap hf
    obtain ⟨w, -, ht⟩ := Text.exists_trimEnd m.text
    rw [ht]
    exact opensPart_append ho w
  · intro hm
    rw [Line.shows_trimEnd] at hm
    exact h.text_before_gap hm

/-! ## Carriage returns -/

/-- Where a line ends in a carriage return, one is dropped. -/
theorem count_return_unifyLineEnds_lt {t : Text} (h : ['\r', '\n'] <:+: t) :
    t.unifyLineEnds.count '\r' < t.count '\r' := by
  fun_induction Text.unifyLineEnds t with
  | case1 => exact absurd (List.infix_nil.mp h) (List.cons_ne_nil _ _)
  | case2 r ih =>
    have hle := (unifyLineEnds_sublist r).count_le '\r'
    rw [List.count_cons_of_ne (by decide), List.count_cons_self, List.count_cons_of_ne (by decide)]
    omega
  | case3 c r hc ih =>
    rcases List.infix_cons_iff.mp h with hpre | hin
    · obtain ⟨s, hs⟩ := hpre
      obtain ⟨hcr, hr⟩ := List.cons.inj hs
      exact absurd hr.symm (hc s hcr.symm)
    · have hlt := ih hin
      rw [List.count_cons, List.count_cons]
      omega

/-- Joining lines adds line feeds only. -/
theorem count_unlines {c : Char} (hc : c ≠ '\n') (ls : List Text) :
    (Text.unlines ls).count c = ls.flatten.count c := by
  apply Text.count_join
  rwa [List.mem_singleton]

/-- Lines are dropped, or written as they are. -/
theorem flatten_spacedFrom_sublist (last : Option Text) (ls : List Line) :
    (spacedFrom last ls).flatten.Sublist (ls.map Line.text).flatten := by
  rw [← map_text_spacedMarks]
  induction ls generalizing last with
  | nil => exact List.Sublist.refl _
  | cons l ls ih =>
    rcases spacedMarks_cases last l ls with ⟨-, heq⟩ | ⟨-, -, heq⟩ | ⟨-, -, -, -, heq⟩
    · rw [heq, List.map_cons, List.flatten_cons]
      exact (ih last).trans (List.sublist_append_right _ _)
    · rw [heq, List.map_cons, List.map_cons, List.flatten_cons, List.flatten_cons]
      exact (ih _).append_left l.text
    · rw [heq, List.map_cons, List.map_cons, List.map_cons, List.flatten_cons, List.flatten_cons,
        List.flatten_cons]
      exact (ih _).append_left l.text

/-- A document has no character more than its text with the line ends unified, line feeds apart. -/
theorem count_respace_le {c : Char} (hc : c ≠ '\n') (t : Text) :
    (respace t).count c ≤ t.unifyLineEnds.count c := by
  have htrim : (respace t).count c ≤ (Text.unlines (spacedLines t)).count c :=
    (Text.trim_infix _).sublist.count_le c
  have hlines := (flatten_spacedFrom_sublist none (markedLines t.unifyLineEnds)).count_le c
  have hwhole : ((markedLines t.unifyLineEnds).map Line.text).flatten.count c
      = t.unifyLineEnds.count c := by
    rw [map_text_markedLines, ← count_unlines hc, Text.unlines_lines]
  rw [count_unlines hc] at htrim
  rw [hwhole] at hlines
  exact htrim.trans hlines

/-! ## Documents that end in hashes behind a gap -/

theorem respace_of_no_lines {t : Text} (h : spacedLines t = []) : respace t = [] := by
  rw [respace_eq_unlines, h]
  rfl

/-- A text that ends in an empty line and hashes. -/
theorem markedLines_append_hashes (v : Text) (n : Nat) :
    markedLines (v ++ '\n' :: '\n' :: List.replicate (n + 1) '#')
      = markedLines v ++ [⟨[], false⟩, ⟨List.replicate (n + 1) '#', false⟩] := by
  have hhashes : tick ∉ List.replicate (n + 1) '#' :=
    fun hmem => absurd (List.eq_of_mem_replicate hmem) (by decide)
  have hline : '\n' ∉ List.replicate (n + 1) '#' :=
    fun hmem => absurd (List.eq_of_mem_replicate hmem) (by decide)
  have hsplit : v ++ '\n' :: '\n' :: List.replicate (n + 1) '#'
      = (v ++ '\n' :: []) ++ '\n' :: List.replicate (n + 1) '#' := by simp
  rw [hsplit, markedLines_append_prose hline hhashes,
    markedLines_append_prose List.not_mem_nil List.not_mem_nil, List.append_assoc]
  rfl

/-- The hashes at the end of a document, if they are behind an empty line, were an empty heading. -/
theorem exists_gap_of_suffix {t : Text} {n : Nat}
    (h : '\n' :: '\n' :: List.replicate (n + 1) '#' <:+ respace t) :
    ∃ front k, remark (spacedLines t) = front ++ [⟨[], false⟩, k] ∧
      k.trimEnd = ⟨List.replicate (n + 1) '#', false⟩ ∧ opensPart k.text = true := by
  obtain ⟨v, hv⟩ := h
  have hne : spacedLines t ≠ [] := by
    intro hnil
    rw [respace_of_no_lines hnil] at hv
    exact absurd hv (by simp)
  have hmarks := markedLines_respace hne
  rw [← hv, markedLines_append_hashes] at hmarks
  -- trimming in front reaches the first line of `v` and no other
  obtain ⟨l, ls, hls⟩ := List.exists_cons_of_ne_nil ((spacedLines_ne_nil_iff t).mp hne)
  obtain ⟨init, k, hinit⟩ := (List.eq_nil_or_concat' (l.trimStart :: ls)).resolve_left
    (List.cons_ne_nil _ _)
  obtain ⟨a, as, has⟩ := List.exists_cons_of_ne_nil (markedLines_ne_nil v)
  have hsplit : (a :: as ++ [(⟨[], false⟩ : Line)]) ++ [⟨List.replicate (n + 1) '#', false⟩]
      = init ++ [k.trimEnd] := by
    rw [hls, trimMarks_of_eq hinit, has] at hmarks
    rw [← hmarks]
    simp
  obtain ⟨hfront, hlast⟩ := List.append_inj' hsplit rfl
  have hlines : l :: ls = (l :: as) ++ [⟨[], false⟩, k] := by
    rw [← hfront] at hinit
    rw [(List.cons.inj hinit).2]
    simp
  refine ⟨l :: as, k, hls.trans hlines, (List.singleton_inj.mp hlast).symm, ?_⟩
  have hspaced := respaced_spacedMarks (linesClosed_markedLines t.unifyLineEnds)
  rw [← remark_spacedLines, hls, hlines] at hspaced
  obtain ⟨-, m, rest, hrest, -, hopens⟩ := hspaced.gap_opens (l :: as) ⟨[], false⟩ [k] rfl rfl
  rw [(List.cons.inj hrest).1]
  exact hopens

/-! ## A second pass -/

/-- A text whose lines end in an empty one and another one. -/
theorem suffix_of_lines {t l : Text} {ls : List Text} (hne : ls ≠ [])
    (h : Text.lines t = ls ++ [[], l]) : '\n' :: '\n' :: l <:+ t := by
  have hjoin := Text.unlines_append_unlines hne (List.cons_ne_nil [] [l])
  rw [← h, Text.unlines_lines] at hjoin
  exact ⟨_, hjoin.symm⟩

/-- The lines of a settled document have their gaps in place. -/
theorem isChain_trimMarks {t : Text} (h : IsSettled (respace t)) :
    (trimMarks (remark (spacedLines t))).IsChain Neighbours := by
  have hself := selfMarked_remark_spacedLines t
  have hchain := isChain_spacedMarks_none (linesClosed_markedLines t.unifyLineEnds)
  have hhead : ∀ k, (remark (spacedLines t)).head? = some k → k.shows = true := by
    intro k hk
    rw [remark_spacedLines] at hk
    exact shows_of_head? hk
  have hend := markedLines_respace (t := t)
  rw [← remark_spacedLines] at hchain
  cases hls : remark (spacedLines t) with
  | nil => exact List.IsChain.nil
  | cons l ls =>
    have hne : spacedLines t ≠ [] := (spacedLines_ne_nil_iff t).mpr (by rw [hls]; simp)
    rw [hls] at hself hchain hhead
    have hl : l.shows = true := hhead l rfl
    have hblank := isBlank_eq_false_of_shows hl hself.tick_mem_head
    obtain ⟨init, k, hinit⟩ := (List.eq_nil_or_concat' (l.trimStart :: ls)).resolve_left
      (List.cons_ne_nil _ _)
    have htrim : (l.trimStart :: ls).IsChain Neighbours := by
      rw [List.isChain_cons] at hchain ⊢
      exact ⟨fun m hm => (hchain.1 m hm).trimStart hl hblank, hchain.2⟩
    have hmarks := hend hne
    rw [hls, trimMarks_of_eq hinit] at hmarks
    rw [trimMarks_of_eq hinit]
    rw [hinit, List.isChain_append] at htrim
    obtain ⟨hfront, -, hjoin⟩ := htrim
    rw [List.isChain_append]
    refine ⟨hfront, List.isChain_singleton _, ?_⟩
    intro g hg m hm
    obtain rfl : k.trimEnd = m := Option.some.inj hm
    have hgk := hjoin g hg k rfl
    apply hgk.trimEnd
    intro hgap hopens
    -- if the line opened no part any more, it would be hashes behind an empty line
    obtain ⟨w, hw, ht⟩ := Text.exists_trimEnd k.text
    rw [ht] at hopens
    rcases opensPart_of_append hw hopens with hyes | ⟨n, hn⟩
    · exact hyes
    · exfalso
      apply h.no_bare_heading n
      obtain ⟨rest, rfl⟩ := List.getLast?_eq_some_iff.mp hg
      have hrest : rest ≠ [] := by
        intro hnil
        rw [hnil] at hinit
        rw [← (List.cons.inj hinit).1, Line.shows_trimStart, hl] at hgap
        cases hgap
      apply suffix_of_lines (show rest.map Line.text ≠ [] by simpa using hrest)
      rw [← map_text_markedLines, hmarks, List.map_append, List.map_append, List.map_singleton,
        List.map_singleton, (hgk.gap_opens hgap).1, List.append_assoc]
      exact congrArg (fun s => rest.map Line.text ++ [[], s]) hn

/-- A settled document is not changed by another pass. -/
theorem respace_eq_self_of_isSettled {t : Text} (h : IsSettled (respace t)) :
    respace (respace t) = respace t := by
  by_cases hne : spacedLines t = []
  · rw [respace_of_no_lines hne]
    apply respace_of_no_lines
    unfold spacedLines
    rw [show Text.unifyLineEnds [] = [] from rfl, markedLines_nil]
    rfl
  · have hlines : spacedLines (respace t) = Text.trimEnds (spacedLines t) := by
      unfold spacedLines
      rw [Text.unifyLineEnds_eq_self h.no_return, markedLines_respace hne, ← map_text_spacedMarks,
        spacedMarks_none_eq_self (isChain_trimMarks h) (fun _ => shows_of_head?_trimMarks)
          (fun _ => shows_of_getLast?_trimMarks), map_text_trimMarks, map_text_remark_spacedLines]
      rfl
    have hwhole : respace (respace t) = Text.trim (Text.unlines (spacedLines (respace t))) := rfl
    rw [hwhole, hlines, ← respace_eq_unlines]
    exact Text.trim_trim _

/-- A text that a pass does not change is settled. -/
theorem isSettled_of_respace_eq_self {u : Text} (h : respace u = u) : IsSettled u := by
  have hreturn : ¬ ['\r', '\n'] <:+: u := by
    intro hin
    have hle := count_respace_le (show '\r' ≠ '\n' by decide) u
    rw [h] at hle
    exact absurd (count_return_unifyLineEnds_lt hin) (Nat.not_lt.mpr hle)
  refine ⟨hreturn, ?_⟩
  intro n hsuffix
  rw [← h] at hsuffix
  obtain ⟨front, k, hmarks, -, hopens⟩ := exists_gap_of_suffix hsuffix
  -- the last line that shows is the same before and after the pass: the hashes
  obtain ⟨v, hv⟩ := hsuffix
  rw [h] at hv
  have hkept : (remark (spacedLines u)).filter Line.shows = (markedLines u).filter Line.shows := by
    rw [remark_spacedLines, Text.unifyLineEnds_eq_self hreturn]
    exact filter_spacedMarks (fun _ hl => hl) none _
  have hend : (spacedMarks none (markedLines u.unifyLineEnds)).getLast? = some k := by
    rw [← remark_spacedLines, hmarks]
    simp
  have hk : k.shows = true := shows_of_getLast? hend
  have hlast := congrArg List.getLast? hkept
  rw [hmarks, ← hv, markedLines_append_hashes, List.filter_append, List.filter_append,
    List.getLast?_append, List.getLast?_append] at hlast
  have hafter : ([⟨[], false⟩, k].filter Line.shows).getLast? = some k := by
    rw [List.filter_cons_of_neg (by decide), List.filter_cons_of_pos hk]
    rfl
  have hbefore : ([⟨[], false⟩, (⟨List.replicate (n + 1) '#', false⟩ : Line)].filter Line.shows).getLast?
      = some ⟨List.replicate (n + 1) '#', false⟩ := rfl
  rw [hafter, hbefore] at hlast
  rw [Option.some.inj hlast] at hopens
  exact absurd (opensPart_hashes n) (by rw [hopens]; decide)

/-- A heading without text: hashes, a space, and nothing but white space. -/
def isEmptyHeading (l : Text) : Bool :=
  let rest : Text := l.dropWhile (· == '#')
  l.head? == some '#' && rest.head? == some ' ' && Text.isBlank rest

/-- A line that opens a part and is trimmed to hashes is an empty heading. -/
theorem isEmptyHeading_of_trimEnd {l : Text} {n : Nat}
    (h : l.trimEnd = List.replicate (n + 1) '#') (hopens : opensPart l = true) :
    isEmptyHeading l = true := by
  obtain ⟨w, hw, ht⟩ := Text.exists_trimEnd l
  rw [h] at ht
  cases w with
  | nil =>
    rw [ht, List.append_nil, opensPart_hashes] at hopens
    cases hopens
  | cons c w =>
    have hc : c ≠ '#' := by
      intro hc
      have hspace := hw c List.mem_cons_self
      rw [hc] at hspace
      cases hspace
    have hdrop : l.dropWhile (· == '#') = c :: w := by
      rw [ht, Text.dropWhile_append_cons (by simpa using hc), dropWhile_hashes, List.nil_append]
    -- a rule and the source line start with other characters
    have hhead : l.head? = some '#' := by
      rw [ht]
      rfl
    have hother : ∀ {d : Char} {p : Text}, d ≠ '#' → ¬ (d :: p) <+: l := by
      rintro d p hd ⟨r, hr⟩
      rw [← hr] at hhead
      exact hd (Option.some.inj hhead)
    rw [opensPart_iff, hdrop] at hopens
    rcases hopens with ⟨-, hblank⟩ | hrule | hsource
    · have hspaces : Text.isBlank (c :: w) = true := List.all_eq_true.mpr hw
      unfold isEmptyHeading
      dsimp only
      rw [hdrop, hhead, hblank, hspaces]
      rfl
    · exact absurd hrule (hother (by decide))
    · exact absurd hsource (hother (by decide))

theorem mem_dropLast_cons {α : Type} {a b : α} {as : List α} :
    b ∈ (a :: as).dropLast ↔ as ≠ [] ∧ (b = a ∨ b ∈ as.dropLast) := by
  cases as with
  | nil => simp
  | cons c cs => simp

/-- A line that is not the last one to be written is not the last one to be read. -/
theorem mem_dropLast_spacedMarks {last : Option Text} {ls : List Line} {k : Line}
    (h : k ∈ (spacedMarks last ls).dropLast) : k = ⟨[], false⟩ ∨ k ∈ ls.dropLast := by
  induction ls generalizing last with
  | nil => cases h
  | cons l ls ih =>
    have hrest : ∀ {o : Option Text}, k ∈ (spacedMarks o ls).dropLast →
        k = ⟨[], false⟩ ∨ k ∈ (l :: ls).dropLast := by
      intro o hk
      rcases ih hk with hgap | hmem
      · exact Or.inl hgap
      · right
        rw [mem_dropLast_cons]
        refine ⟨?_, Or.inr hmem⟩
        rintro rfl
        cases hmem
    have hkeep : ∀ {o : Option Text}, k ∈ (l :: spacedMarks o ls).dropLast →
        k = ⟨[], false⟩ ∨ k ∈ (l :: ls).dropLast := by
      intro o hk
      obtain ⟨hne, rfl | hmem⟩ := mem_dropLast_cons.mp hk
      · right
        rw [mem_dropLast_cons]
        refine ⟨?_, Or.inl rfl⟩
        rintro rfl
        exact hne rfl
      · exact hrest hmem
    rcases spacedMarks_cases last l ls with ⟨-, heq⟩ | ⟨-, -, heq⟩ | ⟨-, -, -, -, heq⟩
    · rw [heq] at h
      exact hrest h
    · rw [heq] at h
      exact hkeep h
    · rw [heq] at h
      obtain ⟨-, hgap | hmem⟩ := mem_dropLast_cons.mp h
      · exact Or.inl hgap
      · exact hkeep hmem

/-- A document has a carriage return in front of a line feed only if the text had two of them. -/
theorem infix_of_infix_respace {t : Text} (h : ['\r', '\n'] <:+: respace t) :
    ['\r', '\r', '\n'] <:+: t := by
  apply Text.infix_of_infix_unifyLineEnds
  have hne : spacedLines t ≠ [] := by
    intro hnil
    rw [respace_eq_unlines, hnil] at h
    exact absurd (List.infix_nil.mp h) (List.cons_ne_nil _ _)
  obtain ⟨l, hl, hlast⟩ := Text.infix_return_iff.mp h
  rw [lines_respace hne] at hl
  obtain ⟨o, ho, s, rfl⟩ := Text.exists_suffix_of_mem_dropLast_trimEnds hl
  have hend : (s ++ l).getLast? = some '\r' := by
    rw [List.getLast?_append, hlast]
    rfl
  -- so there is such a line among those that were read
  rw [← map_text_remark_spacedLines, remark_spacedLines, ← List.map_dropLast] at ho
  obtain ⟨k, hk, htext⟩ := List.mem_map.mp ho
  rw [Text.infix_return_iff]
  refine ⟨k.text, ?_, by rw [htext]; exact hend⟩
  rcases mem_dropLast_spacedMarks hk with hgap | hmem
  · rw [hgap] at htext
    rw [← htext] at hend
    cases hend
  · rw [← map_text_markedLines, ← List.map_dropLast]
    exact List.mem_map_of_mem hmem

/-- A text is settled by one pass if it has no two carriage returns in front of a line feed, and no empty
heading. -/
theorem isSettled_respace {t : Text} (hreturn : ¬ ['\r', '\r', '\n'] <:+: t)
    (hheadings : ∀ l ∈ Text.lines t.unifyLineEnds, isEmptyHeading l = false) :
    IsSettled (respace t) := by
  refine ⟨fun hin => hreturn (infix_of_infix_respace hin), ?_⟩
  intro n hsuffix
  obtain ⟨front, k, hmarks, hend, hopens⟩ := exists_gap_of_suffix hsuffix
  have hmem : k.text ∈ spacedLines t := by
    rw [← map_text_remark_spacedLines, hmarks]
    simp
  have hempty := isEmptyHeading_of_trimEnd (congrArg Line.text hend) hopens
  rcases mem_spacedLines hmem with hnil | hline
  · rw [hnil] at hopens
    cases hopens
  · rw [hheadings k.text hline] at hempty
    cases hempty

/-- A second pass changes nothing exactly if the first one has left nothing over: no carriage return at
the end of a line, and no hashes at the end of the document that were an empty heading. That is so for a
text that has neither two carriage returns in front of a line feed nor an empty heading. -/
theorem respace_respace_eq_iff (t : Text) :
    (respace (respace t) = respace t ↔ IsSettled (respace t)) ∧
      (¬ ['\r', '\r', '\n'] <:+: t →
        (∀ l ∈ Text.lines t.unifyLineEnds, isEmptyHeading l = false) →
        respace (respace t) = respace t) := by
  have hiff : respace (respace t) = respace t ↔ IsSettled (respace t) :=
    ⟨isSettled_of_respace_eq_self, respace_eq_self_of_isSettled⟩
  exact ⟨hiff, fun hreturn hheadings => hiff.mpr (isSettled_respace hreturn hheadings)⟩

/-- A text with blank lines of all kinds, and with line ends of both kinds. -/
theorem respace_respace_of_headings :
    let t : Text := "\n\n# A\r\n\n\ntext\r\n## User\n\u3000\n\x60\x60\x60\n\r\n\n\x60\x60\x60\n---\n".toList
    ¬ ['\r', '\r', '\n'] <:+: t ∧
      (∀ l ∈ Text.lines t.unifyLineEnds, isEmptyHeading l = false) ∧
      respace (respace t) = respace t := by
  intro t
  have hreturn : ¬ ['\r', '\r', '\n'] <:+: t := by decide +kernel
  have hheadings : ∀ l ∈ Text.lines t.unifyLineEnds, isEmptyHeading l = false := by decide +kernel
  exact ⟨hreturn, hheadings, (respace_respace_eq_iff t).2 hreturn hheadings⟩

/-- One pass of two is not enough for a line that ends in two carriage returns, and for an empty heading
at the end. -/
theorem respace_respace_ne :
    respace (respace "a\r\r\nb".toList) ≠ respace "a\r\r\nb".toList ∧
      respace (respace "a\n# ".toList) ≠ respace "a\n# ".toList := by
  have hreturn : respace "a\r\r\nb".toList = "a\r\nb".toList := by decide +kernel
  have hreturn' : respace "a\r\nb".toList = "a\nb".toList := by decide +kernel
  have hheading : respace "a\n# ".toList = "a\n\n#".toList := by decide +kernel
  have hheading' : respace "a\n\n#".toList = "a\n#".toList := by decide +kernel
  rw [hreturn, hreturn', hheading, hheading']
  decide

end ChatScribe.Markdown
