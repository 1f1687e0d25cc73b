import ChatScribe.Proofs.Fence.Lines

/-!
# Prose between backticks

The scan reads backticks and steps over all else. So a stretch of prose, that is of characters that
are no backticks, can stand for another one: the marks in front of it and behind it stay
(`SameBreaks.sameMarks`). Only two things count. The stretch must not vanish, for the backticks at its
two ends would meet, and it must not lose its last line feed or gain its first one, for that is what
tells a block from a fenced span on a single line. At the two ends of a text there is nothing to meet,
and prose can come and go.
-/

namespace ChatScribe.Markdown

/-! ## Searching over prose -/

/-- The search for a separator goes on behind a text that does not contain it. -/
theorem splitOnce_append_of_not_mem {sep : Char} {r : Text} (hr : sep ∉ r) (t : Text) :
    Text.splitOnce sep (r ++ t)
      = (Text.splitOnce sep t).map fun (before, after) => (r ++ before, after) := by
  induction r with
  | nil => simp
  | cons c r ih =>
    rw [List.mem_cons, not_or] at hr
    rw [List.cons_append, Text.splitOnce, if_neg (Ne.symm hr.1), ih hr.2, Option.map_map]
    rfl

/-- The search for a fence goes on behind prose. -/
theorem cutFence_prose_append {p : Text} (hp : tick ∉ p) (t : Text) :
    cutFence (p ++ t) = (cutFence t).map fun (body, rest) => (p ++ body, rest) := by
  induction p with
  | nil => simp
  | cons c p ih =>
    rw [List.mem_cons, not_or] at hp
    have hc : ∀ x, c = tick → p ++ t = tick :: tick :: x → False := fun _ h _ => hp.1 h.symm
    rw [List.cons_append, cutFence.eq_3 c _ hc, ih hp.2, Option.map_map]
    rfl

/-- Prose behind a backtick does not make a fence of it. -/
theorem ne_ticks_append_prose {p r : Text} (hne : p ≠ []) (hp : tick ∉ p)
    (hr : ∀ s, r ≠ tick :: tick :: s) (v : Text) : ∀ s, r ++ (p ++ v) ≠ tick :: tick :: s := by
  obtain ⟨a, p', rfl⟩ := List.exists_cons_of_ne_nil hne
  have ha : a ≠ tick := fun h => hp (by rw [h]; exact List.mem_cons_self)
  intro s heq
  match r, hr, heq with
  | [], _, heq => exact ha (List.cons.inj heq).1
  | [_], _, heq => exact ha (List.cons.inj (List.cons.inj heq).2).1
  | d :: e :: r, hr, heq =>
    obtain ⟨hd, heq⟩ := List.cons.inj heq
    obtain ⟨he, -⟩ := List.cons.inj heq
    exact hr r (by rw [hd, he])

/-- The search for a fence goes on behind a text without one, if prose keeps its end apart. -/
theorem cutFence_append_prose {r p : Text} (hr : cutFence r = none) (hne : p ≠ []) (hp : tick ∉ p)
    (v : Text) :
    cutFence (r ++ (p ++ v)) = (cutFence v).map fun (body, rest) => (r ++ (p ++ body), rest) := by
  fun_induction cutFence r with
  | case1 => exact cutFence_prose_append hp v
  | case2 => cases hr
  | case3 c r hc ih =>
    have hnone : cutFence r = none := Option.map_eq_none_iff.mp hr
    have hfirst : ∀ x, c = tick → r ++ (p ++ v) = tick :: tick :: x → False := by
      intro x hx
      exact ne_ticks_append_prose hne hp (fun s hs => hc s hx hs) v x
    rw [List.cons_append, cutFence.eq_3 c _ hfirst, ih hnone, Option.map_map]
    rfl

/-- A fence with no fence behind it stays open. -/
theorem scan_of_cutFence_eq_none {r : Text} (h : cutFence r = none) :
    scan (tick :: tick :: tick :: r) = .unclosed :: scan r := by
  rw [scan.eq_2]
  split
  · rename_i hb
    rw [h] at hb
    cases hb
  · rfl

/-- A single backtick with no backtick behind it stands for itself. -/
theorem scan_of_splitOnce_eq_none {r : Text} (hr : ∀ s, r ≠ tick :: tick :: s)
    (h : Text.splitOnce tick r = none) : scan (tick :: r) = .char tick :: scan r := by
  rw [scan.eq_3 r hr]
  split
  · rename_i hb
    rw [h] at hb
    cases hb
  · rfl

/-- Prose at the front of a text is read character by character. -/
theorem scan_prose_append {p : Text} (hp : tick ∉ p) (t : Text) :
    scan (p ++ t) = p.map Piece.char ++ scan t := by
  induction p with
  | nil => rfl
  | cons c p ih =>
    rw [List.mem_cons, not_or] at hp
    rw [List.cons_append, scan_cons_of_ne (Ne.symm hp.1), ih hp.2]
    rfl

/-- White space inside of a line is prose on that line. -/
theorem tick_not_mem_of_isSpace {w : Text} (h : ∀ c ∈ w, Text.isSpace c = true) : tick ∉ w := by
  intro hmem
  have htick := h tick hmem
  revert htick
  decide

/-! ## Marks around prose -/

/-- Marks on a text, all of one kind. -/
def marks (inBlock : Bool) (t : Text) : List (Char × Bool) := t.map fun c => (c, inBlock)

theorem map_fst_marks (b : Bool) (t : Text) : (marks b t).map Prod.fst = t := by
  unfold marks
  rw [List.map_map]
  exact List.map_id t

theorem marks_append (b : Bool) (s t : Text) : marks b (s ++ t) = marks b s ++ marks b t :=
  List.map_append

/-- The characters of some pieces, each with whether it stands in a block. -/
def piecesMarks (ps : List Piece) : List (Char × Bool) := ps.flatMap fun p => marks p.isBlock p.text

theorem markedChars_eq (t : Text) : markedChars t = piecesMarks (scan t) := rfl

theorem piecesMarks_append (ps qs : List Piece) :
    piecesMarks (ps ++ qs) = piecesMarks ps ++ piecesMarks qs := List.flatMap_append

theorem piecesMarks_cons (p : Piece) (ps : List Piece) :
    piecesMarks (p :: ps) = marks p.isBlock p.text ++ piecesMarks ps := List.flatMap_cons

theorem map_fst_piecesMarks (ps : List Piece) :
    (piecesMarks ps).map Prod.fst = ps.flatMap Piece.text := by
  unfold piecesMarks
  rw [List.map_flatMap]
  congr 1
  funext p
  exact map_fst_marks p.isBlock p.text

/-- Characters outside of spans are no code. -/
theorem piecesMarks_prose (p : Text) : piecesMarks (p.map Piece.char) = marks false p := by
  unfold piecesMarks marks
  rw [List.flatMap_map, List.map_eq_flatMap]
  rfl

/-- Prose in front is no code. -/
theorem markedChars_prose_append {p : Text} (hp : tick ∉ p) (t : Text) :
    markedChars (p ++ t) = marks false p ++ markedChars t := by
  rw [markedChars_eq, scan_prose_append hp, piecesMarks_append, piecesMarks_prose, markedChars_eq]

/-- Stretches of prose that can stand for each other: neither is empty, and they both break a line or
both do not. -/
structure SameBreaks (p q : Text) : Prop where
  left_ne_nil : p ≠ []
  right_ne_nil : q ≠ []
  tick_not_mem_left : tick ∉ p
  tick_not_mem_right : tick ∉ q
  newline_mem_iff : '\n' ∈ p ↔ '\n' ∈ q

/-- A fenced span is a block no matter which prose it holds. -/
theorem SameBreaks.contains_eq {p q : Text} (h : SameBreaks p q) (r b : Text) :
    (r ++ (p ++ b)).contains '\n' = (r ++ (q ++ b)).contains '\n' := by
  rw [Bool.eq_iff_iff]
  simp only [List.contains_iff_mem, List.mem_append, h.newline_mem_iff]

/-! ## Scans that differ in prose -/

/-- What a piece is, apart from the text it holds. -/
inductive Kind
  | char
  | fenced
  | inline
  | unclosed
deriving DecidableEq, Repr

def Piece.kind : Piece → Kind
  | .char _ => .char
  | .fenced _ => .fenced
  | .inline _ => .inline
  | .unclosed => .unclosed

/-- The scan of a text with `p` in it and with `q` in its place: the same pieces in front and behind.
The prose is read character by character, or it lies inside of a span. -/
inductive SameScan (u p q v : Text) : Prop
  | outside (front back : List Piece) (hu : u = front.flatMap Piece.text)
      (hv : v = back.flatMap Piece.text)
      (hp : scan (u ++ (p ++ v)) = front ++ (p.map Piece.char ++ back))
      (hq : scan (u ++ (q ++ v)) = front ++ (q.map Piece.char ++ back))
  | inside (front back : List Piece) (a b : Text) (piece piece' : Piece)
      (hu : u = front.flatMap Piece.text ++ a) (hv : v = b ++ back.flatMap Piece.text)
      (hp : scan (u ++ (p ++ v)) = front ++ piece :: back) (hpt : piece.text = a ++ (p ++ b))
      (hq : scan (u ++ (q ++ v)) = front ++ piece' :: back) (hqt : piece'.text = a ++ (q ++ b))
      (hkind : piece.kind = piece'.kind) (hblock : piece.isBlock = piece'.isBlock)

/-- A piece in front does not change that. -/
theorem SameScan.of_piece {u w p q v : Text} {piece : Piece} (h : SameScan u p q v)
    (hw : w = piece.text ++ u)
    (hp : scan (w ++ (p ++ v)) = piece :: scan (u ++ (p ++ v)))
    (hq : scan (w ++ (q ++ v)) = piece :: scan (u ++ (q ++ v))) : SameScan w p q v := by
  cases h with
  | outside front back hu hv hp' hq' =>
    refine .outside (piece :: front) back ?_ hv ?_ ?_
    · rw [hw, List.flatMap_cons, ← hu]
    · rw [hp, hp', List.cons_append]
    · rw [hq, hq', List.cons_append]
  | inside front back a b x x' hu hv hp' hpt hq' hqt hkind hblock =>
    refine .inside (piece :: front) back a b x x' ?_ hv ?_ hpt ?_ hqt hkind hblock
    · rw [hw, List.flatMap_cons, List.append_assoc, ← hu]
    · rw [hp, hp', List.cons_append]
    · rw [hq, hq', List.cons_append]

/-- A span that starts in front of the prose and ends behind it. -/
theorem sameScan_of_span {u p q v b rest : Text} {piece piece' : Piece} (hv : v = b ++ rest)
    (hp : scan (u ++ (p ++ v)) = piece :: scan rest) (hpt : piece.text = u ++ (p ++ b))
    (hq : scan (u ++ (q ++ v)) = piece' :: scan rest) (hqt : piece'.text = u ++ (q ++ b))
    (hkind : piece.kind = piece'.kind) (hblock : piece.isBlock = piece'.isBlock) :
    SameScan u p q v := by
  refine .inside [] (scan rest) u b piece piece' rfl ?_ hp hpt hq hqt hkind hblock
  rw [flatten_scan, hv]

/-- Prose can be exchanged wherever it stands, and the scan reads the rest as before. The induction
follows the scan of the text in front. A mark that is open there may find its partner behind the prose,
and then the prose lies inside of the span. -/
theorem SameBreaks.sameScan {p q : Text} (h : SameBreaks p q) (u v : Text) : SameScan u p q v := by
  have hp := h.left_ne_nil
  have hq := h.right_ne_nil
  have htp := h.tick_not_mem_left
  have htq := h.tick_not_mem_right
  fun_induction scan u with
  | case1 =>
    refine .outside [] (scan v) rfl (flatten_scan v).symm ?_ ?_
    · exact scan_prose_append htp v
    · exact scan_prose_append htq v
  | case2 r body rest hcut ih =>
    have hw : tick :: tick :: tick :: r = (Piece.fenced body).text ++ rest := by
      rw [eq_append_of_cutFence hcut]
      rfl
    exact ih.of_piece hw (scan_of_cutFence (cutFence_append hcut _))
      (scan_of_cutFence (cutFence_append hcut _))
  | case3 r hcut ih =>
    have hcutp := cutFence_append_prose hcut hp htp v
    have hcutq := cutFence_append_prose hcut hq htq v
    cases hv : cutFence v with
    | none =>
      rw [hv] at hcutp hcutq
      exact ih.of_piece rfl (scan_of_cutFence_eq_none hcutp) (scan_of_cutFence_eq_none hcutq)
    | some cut =>
      obtain ⟨b, rest⟩ := cut
      rw [hv] at hcutp hcutq
      have hv' : v = (b ++ fenceMark) ++ rest := eq_append_of_cutFence hv
      exact sameScan_of_span hv' (scan_of_cutFence hcutp) (by simp [Piece.text, fenceMark])
        (scan_of_cutFence hcutq) (by simp [Piece.text, fenceMark]) rfl (h.contains_eq r b)
  | case4 r hr body rest hsplit ih =>
    have hw : tick :: r = (Piece.inline body).text ++ rest := by
      rw [Text.eq_append_of_splitOnce hsplit]
      simp [Piece.text]
    exact ih.of_piece hw
      (scan_of_splitOnce (ne_ticks_append_prose hp htp hr v) (splitOnce_append hsplit _))
      (scan_of_splitOnce (ne_ticks_append_prose hq htq hr v) (splitOnce_append hsplit _))
  | case5 r hr hsplit ih =>
    have hnone := not_mem_of_splitOnce_eq_none hsplit
    have hsplitOver : ∀ {w : Text}, tick ∉ w → Text.splitOnce tick (r ++ (w ++ v))
        = (Text.splitOnce tick v).map fun (b, rest) => (r ++ (w ++ b), rest) := by
      intro w hw
      rw [splitOnce_append_of_not_mem hnone, splitOnce_append_of_not_mem hw, Option.map_map]
      rfl
    have hsplitp := hsplitOver htp
    have hsplitq := hsplitOver htq
    cases hv : Text.splitOnce tick v with
    | none =>
      rw [hv] at hsplitp hsplitq
      exact ih.of_piece rfl (scan_of_splitOnce_eq_none (ne_ticks_append_prose hp htp hr v) hsplitp)
        (scan_of_splitOnce_eq_none (ne_ticks_append_prose hq htq hr v) hsplitq)
    | some split =>
      obtain ⟨b, rest⟩ := split
      rw [hv] at hsplitp hsplitq
      have hv' : v = (b ++ [tick]) ++ rest := by
        rw [Text.eq_append_of_splitOnce hv]
        simp
      exact sameScan_of_span hv'
        (scan_of_splitOnce (ne_ticks_append_prose hp htp hr v) hsplitp) (by simp [Piece.text])
        (scan_of_splitOnce (ne_ticks_append_prose hq htq hr v) hsplitq) (by simp [Piece.text]) rfl rfl
  | case6 c r _ hc ih =>
    exact ih.of_piece rfl (scan_cons_of_ne hc _) (scan_cons_of_ne hc _)

/-! ## What the exchange leaves -/

/-- The spans of a text and its open fence, by their kinds and in order. -/
def spanKinds (t : Text) : List Kind := ((scan t).map Piece.kind).filter (· != .char)

/-- Prose can be exchanged without a span coming, going, or becoming one of another kind. -/
theorem SameBreaks.spanKinds_eq {p q : Text} (h : SameBreaks p q) (u v : Text) :
    spanKinds (u ++ (p ++ v)) = spanKinds (u ++ (q ++ v)) := by
  have hprose : ∀ w : Text, ((w.map Piece.char).map Piece.kind).filter (· != .char) = [] := by
    intro w
    rw [List.map_map, List.filter_eq_nil_iff]
    intro k hk
    obtain ⟨c, -, rfl⟩ := List.mem_map.mp hk
    simp [Piece.kind]
  unfold spanKinds
  cases h.sameScan u v with
  | outside front back hu hv hp hq =>
    rw [hp, hq]
    simp only [List.map_append, List.filter_append, hprose]
  | inside front back a b piece piece' hu hv hp hpt hq hqt hkind hblock =>
    rw [hp, hq, List.map_append, List.map_append, List.map_cons, List.map_cons, hkind]

/-- The marks `p` and `q` have between `u` and `v`, where the scan sees no difference. -/
def SameMarks (u p q v : Text) : Prop :=
  ∃ x y f, x.map Prod.fst = u ∧ y.map Prod.fst = v ∧
    markedChars (u ++ (p ++ v)) = x ++ (marks f p ++ y) ∧
    markedChars (u ++ (q ++ v)) = x ++ (marks f q ++ y)

/-- The marks around exchanged prose stay, and its own marks are of the same kind. -/
theorem SameBreaks.sameMarks {p q : Text} (h : SameBreaks p q) (u v : Text) : SameMarks u p q v := by
  cases h.sameScan u v with
  | outside front back hu hv hp hq =>
    refine ⟨piecesMarks front, piecesMarks back, false, ?_, ?_, ?_, ?_⟩
    · rw [map_fst_piecesMarks, hu]
    · rw [map_fst_piecesMarks, hv]
    · rw [markedChars_eq, hp, piecesMarks_append, piecesMarks_append, piecesMarks_prose]
    · rw [markedChars_eq, hq, piecesMarks_append, piecesMarks_append, piecesMarks_prose]
  | inside front back a b piece piece' hu hv hp hpt hq hqt hkind hblock =>
    refine ⟨piecesMarks front ++ marks piece'.isBlock a, marks piece'.isBlock b ++ piecesMarks back,
      piece'.isBlock, ?_, ?_, ?_, ?_⟩
    · rw [List.map_append, map_fst_piecesMarks, map_fst_marks, hu]
    · rw [List.map_append, map_fst_piecesMarks, map_fst_marks, hv]
    · rw [markedChars_eq, hp, piecesMarks_append, piecesMarks_cons, hpt, hblock]
      simp only [marks_append, List.append_assoc]
    · rw [markedChars_eq, hq, piecesMarks_append, piecesMarks_cons, hqt]
      simp only [marks_append, List.append_assoc]

/-! ## Prose at the end of a text -/

/-- Prose at the end of a text is read character by character. -/
theorem scan_append_prose (u : Text) {p : Text} (hp : tick ∉ p) :
    scan (u ++ p) = scan u ++ p.map Piece.char := by
  by_cases hne : p = []
  · rw [hne, List.append_nil, List.map_nil, List.append_nil]
  have hend : p ++ [] = p := List.append_nil p
  fun_induction scan u with
  | case1 =>
    rw [List.nil_append, ← hend, scan_prose_append hp, hend]
    simp [scan]
  | case2 r body rest hcut ih =>
    rw [List.cons_append, List.cons_append, List.cons_append,
      scan_of_cutFence (cutFence_append hcut p), ih]
    rfl
  | case3 r hcut ih =>
    have hcutp := cutFence_append_prose hcut hne hp []
    rw [hend] at hcutp
    rw [List.cons_append, List.cons_append, List.cons_append, scan_of_cutFence_eq_none hcutp, ih]
    rfl
  | case4 r hr body rest hsplit ih =>
    have hfirst := ne_ticks_append_prose hne hp hr []
    rw [hend] at hfirst
    rw [List.cons_append, scan_of_splitOnce hfirst (splitOnce_append hsplit p), ih]
    rfl
  | case5 r hr hsplit ih =>
    have hfirst := ne_ticks_append_prose hne hp hr []
    have hnone : Text.splitOnce tick p = none := by
      have hover := splitOnce_append_of_not_mem hp []
      rw [hend] at hover
      exact hover
    rw [hend] at hfirst
    rw [List.cons_append, scan_of_splitOnce_eq_none hfirst, ih]
    · rfl
    · rw [splitOnce_append_of_not_mem (not_mem_of_splitOnce_eq_none hsplit), hnone]
      rfl
  | case6 c r _ hc ih =>
    rw [List.cons_append, scan_cons_of_ne hc, ih]
    rfl

/-- Prose at the end is no code. -/
theorem markedChars_append_prose (u : Text) {p : Text} (hp : tick ∉ p) :
    markedChars (u ++ p) = markedChars u ++ marks false p := by
  rw [markedChars_eq, scan_append_prose u hp, piecesMarks_append, piecesMarks_prose, markedChars_eq]

end ChatScribe.Markdown
