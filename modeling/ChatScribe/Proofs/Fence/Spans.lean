import ChatScribe.Proofs.Fence.Prose
import ChatScribe.Proofs.Text.Lines
import ChatScribe.Text.Utf8

/-!
# Where the spans of a text are, and closing an open fence

`spans` gives the fenced spans of a text by their places, in bytes, and `openFences` the fences that have
no partner: there is one at most. All that stands behind an open fence is free of fences, so a fence at
the end of the text can only pair with this one (`OpenFence`), and nothing in front of it is read in
another way.
-/

namespace ChatScribe.Markdown

/-! ## Places -/

/-- The number of bytes of a text in UTF-8. -/
def byteSize (t : Text) : Nat := (Utf8.encode t).length

/-- A stretch of a text, from one byte up to another. -/
structure Span where
  start : Nat
  stop : Nat
deriving Repr, DecidableEq

/-- The places of the pieces of one kind, if the first piece starts at `start`. -/
def placesOf (k : Kind) (start : Nat) : List Piece → List Span
  | [] => []
  | p :: ps =>
    let stop := start + byteSize p.text
    if p.kind = k then ⟨start, stop⟩ :: placesOf k stop ps else placesOf k stop ps

/-- The fenced spans of a text, each from its opening fence up to the end of its closing one. -/
def spans (t : Text) : List Span := placesOf .fenced 0 (scan t)

/-- The fences of a text that have no partner. -/
def openFences (t : Text) : List Span := placesOf .unclosed 0 (scan t)

theorem byteSize_append (s t : Text) : byteSize (s ++ t) = byteSize s + byteSize t := by
  unfold byteSize Utf8.encode
  rw [List.flatMap_append, List.length_append]

theorem placesOf_append (k : Kind) (start : Nat) (ps qs : List Piece) :
    placesOf k start (ps ++ qs)
      = placesOf k start ps ++ placesOf k (start + byteSize (ps.flatMap Piece.text)) qs := by
  induction ps generalizing start with
  | nil => rfl
  | cons p ps ih =>
    rw [List.cons_append, placesOf, placesOf, List.flatMap_cons, byteSize_append, ← Nat.add_assoc]
    simp only [ih]
    by_cases hk : p.kind = k
    · rw [if_pos hk, if_pos hk, List.cons_append]
    · rw [if_neg hk, if_neg hk]

theorem placesOf_eq_nil {k : Kind} {ps : List Piece} (h : ∀ p ∈ ps, p.kind ≠ k) (start : Nat) :
    placesOf k start ps = [] := by
  induction ps generalizing start with
  | nil => rfl
  | cons p ps ih =>
    rw [placesOf, if_neg (h p List.mem_cons_self)]
    exact ih (fun q hq => h q (List.mem_cons_of_mem p hq)) _

/-- The places when nothing behind a piece is of the kind. -/
theorem placesOf_append_cons {k : Kind} {back : List Piece} (h : ∀ q ∈ back, q.kind ≠ k) (start : Nat)
    (front : List Piece) (p : Piece) :
    placesOf k start (front ++ p :: back) = placesOf k start front ++
      if p.kind = k then [⟨start + byteSize (front.flatMap Piece.text),
        start + byteSize (front.flatMap Piece.text) + byteSize p.text⟩] else [] := by
  rw [placesOf_append, placesOf]
  simp only [placesOf_eq_nil h]

theorem length_placesOf (k : Kind) (start : Nat) (ps : List Piece) :
    (placesOf k start ps).length = (ps.map Piece.kind).count k := by
  induction ps generalizing start with
  | nil => rfl
  | cons p ps ih =>
    rw [placesOf, List.map_cons, List.count_cons]
    by_cases hk : p.kind = k
    · simp [hk, ih]
    · simp [hk, ih]

/-- Spans are counted by their kinds. -/
theorem length_spans (t : Text) : (spans t).length = (spanKinds t).count .fenced := by
  unfold spans spanKinds
  rw [length_placesOf, List.count_filter (by decide)]

/-- Open fences are counted by their kind, too. -/
theorem unclosedFences_eq_count (t : Text) : unclosedFences t = (spanKinds t).count .unclosed := by
  have hkind : ∀ p : Piece, (p == .unclosed) = (p.kind == .unclosed) := by
    intro p
    cases p <;> rfl
  unfold unclosedFences spanKinds
  rw [List.count_filter (by decide), List.count_eq_countP, List.count_eq_countP, List.countP_map]
  congr 1
  funext p
  exact hkind p

theorem unclosedFences_eq_length (t : Text) : unclosedFences t = (openFences t).length := by
  unfold openFences
  rw [unclosedFences_eq_count, length_placesOf]
  unfold spanKinds
  rw [List.count_filter (by decide)]

/-! ## Open fences -/

/-- Where no fence stands there are no spans between fences. -/
theorem kind_ne_of_cutFence_eq_none {r : Text} (h : cutFence r = none) {p : Piece}
    (hp : p ∈ scan r) : p.kind ≠ .fenced ∧ p.kind ≠ .unclosed := by
  have hnone : ¬ fenceMark <:+: p.text := fun hin =>
    cutFence_ne_none (hin.trans (infix_of_mem_scan hp)) h
  cases p with
  | fenced body => exact absurd ⟨[], body ++ fenceMark, by simp [Piece.text]⟩ hnone
  | unclosed => exact absurd List.infix_rfl hnone
  | _ => exact ⟨by simp [Piece.kind], by simp [Piece.kind]⟩

/-- A text with an open fence behind the pieces `front` and in front of the text `r`. There is no fence
in `r`, so the first one that is appended closes it, with prose in between to keep backticks apart. The
pieces in front stay. -/
structure OpenFence (t : Text) (front : List Piece) (r : Text) : Prop where
  scan_eq : scan t = front ++ .unclosed :: scan r
  front_ne : ∀ p ∈ front, p.kind ≠ .unclosed
  no_fence : cutFence r = none
  close : ∀ {p v body rest : Text}, p ≠ [] → tick ∉ p → cutFence v = some (body, rest) →
    scan (t ++ (p ++ v)) = front ++ .fenced (r ++ (p ++ body)) :: scan rest

/-- A piece in front does not change that, if it is read as the same piece whatever is appended. -/
theorem OpenFence.of_piece {t w r : Text} {front : List Piece} {piece : Piece}
    (h : OpenFence t front r) (hpiece : piece.kind ≠ .unclosed) (hw : scan w = piece :: scan t)
    (hmore : ∀ p v : Text, p ≠ [] → tick ∉ p →
      scan (w ++ (p ++ v)) = piece :: scan (t ++ (p ++ v))) :
    OpenFence w (piece :: front) r where
  scan_eq := by rw [hw, h.scan_eq, List.cons_append]
  front_ne := List.forall_mem_cons.mpr ⟨hpiece, h.front_ne⟩
  no_fence := h.no_fence
  close := by
    intro p v body rest hne hp hv
    rw [hmore p v hne hp, h.close hne hp hv, List.cons_append]

/-- A text is split at its open fence. -/
theorem exists_openFence {t : Text} (h : Piece.unclosed ∈ scan t) :
    ∃ front r, OpenFence t front r := by
  fun_induction scan t with
  | case1 => cases h
  | case2 r body rest hcut ih =>
    obtain ⟨front, s, hopen⟩ := ih (by simpa using h)
    refine ⟨.fenced body :: front, s, hopen.of_piece (by simp [Piece.kind]) (scan_of_cutFence hcut) ?_⟩
    exact fun p v _ _ => scan_of_cutFence (cutFence_append hcut (p ++ v))
  | case3 r hcut ih =>
    refine ⟨[], r, scan_of_cutFence_eq_none hcut, by simp, hcut, ?_⟩
    intro p v body rest hne hp hv
    have hclosed : cutFence (r ++ (p ++ v)) = some (r ++ (p ++ body), rest) := by
      rw [cutFence_append_prose hcut hne hp, hv]
      rfl
    exact scan_of_cutFence hclosed
  | case4 r hr body rest hsplit ih =>
    obtain ⟨front, s, hopen⟩ := ih (by simpa using h)
    refine ⟨.inline body :: front, s,
      hopen.of_piece (by simp [Piece.kind]) (scan_of_splitOnce hr hsplit) ?_⟩
    exact fun p v hne hp =>
      scan_of_splitOnce (ne_ticks_append_prose hne hp hr v) (splitOnce_append hsplit (p ++ v))
  | case5 r hr hsplit ih =>
    -- behind a single backtick without partner there is no fence to be left open
    have hmem : Piece.unclosed ∈ scan r := by simpa using h
    exact absurd ((infix_of_mem_scan hmem).mem (by simp [Piece.text, fenceMark]))
      (not_mem_of_splitOnce_eq_none hsplit)
  | case6 c r _ hc ih =>
    obtain ⟨front, s, hopen⟩ := ih (by simpa using h)
    refine ⟨.char c :: front, s, hopen.of_piece (by simp [Piece.kind]) (scan_cons_of_ne hc r) ?_⟩
    exact fun p v _ _ => scan_cons_of_ne hc (r ++ (p ++ v))

/-! ## Closing -/

/-- Trimming takes nothing but prose off the two ends of a scan. -/
theorem exists_scan_trim (t : Text) :
    ∃ a b : Text, scan t = a.map Piece.char ++ (scan t.trim ++ b.map Piece.char) := by
  obtain ⟨a, ha, hstart⟩ := Text.exists_trimStart t
  obtain ⟨b, hb, hend⟩ := Text.exists_trimEnd t.trimStart
  refine ⟨a, b, ?_⟩
  conv_lhs => rw [hstart, hend]
  rw [scan_prose_append (tick_not_mem_of_isSpace ha), scan_append_prose _ (tick_not_mem_of_isSpace hb)]
  rfl

/-- Trimming leaves open fences open. -/
theorem unclosedFences_trim (t : Text) : unclosedFences t.trim = unclosedFences t := by
  have hprose : ∀ w : Text, (w.map Piece.char).count .unclosed = 0 := by
    intro w
    rw [List.count_eq_zero]
    simp
  obtain ⟨a, b, hscan⟩ := exists_scan_trim t
  unfold unclosedFences
  rw [hscan, List.count_append, List.count_append, hprose, hprose, Nat.zero_add, Nat.add_zero]

/-- A text with an open fence, and a fence on a line of its own behind: the two make a span, up to the
end of the text. -/
theorem spans_append_fence {t : Text} (h : unclosedFences t = 1) :
    unclosedFences (t ++ '\n' :: fenceMark) = 0 ∧ ∃ fence, openFences t = [fence] ∧
      spans (t ++ '\n' :: fenceMark)
        = spans t ++ [⟨fence.start, byteSize (t ++ '\n' :: fenceMark)⟩] := by
  have hopen : Piece.unclosed ∈ scan t := by
    rw [← List.count_pos_iff]
    show 0 < unclosedFences t
    omega
  obtain ⟨front, r, hscan, hfront, hnone, hclose⟩ := exists_openFence hopen
  have hclosed : scan (t ++ '\n' :: fenceMark) = front ++ [.fenced (r ++ ['\n'])] := by
    have hmark : cutFence fenceMark = some ([], []) := rfl
    have hall := hclose (List.cons_ne_nil '\n' []) (by decide) hmark
    rw [scan.eq_1] at hall
    exact hall
  -- the span is the last piece, so it ends where the text does
  have hstop : byteSize (front.flatMap Piece.text) + byteSize (Piece.fenced (r ++ ['\n'])).text
      = byteSize (t ++ '\n' :: fenceMark) := by
    conv_rhs => rw [← flatten_scan (t ++ '\n' :: fenceMark), hclosed]
    rw [List.flatMap_append, byteSize_append, List.flatMap_singleton]
  have hnoFenced : ∀ p ∈ scan r, p.kind ≠ .fenced := fun p hp =>
    (kind_ne_of_cutFence_eq_none hnone hp).1
  have hnoUnclosed : ∀ p ∈ scan r, p.kind ≠ .unclosed := fun p hp =>
    (kind_ne_of_cutFence_eq_none hnone hp).2
  have hnil : ∀ k, ∀ p ∈ ([] : List Piece), p.kind ≠ k := by simp
  refine ⟨?_, ⟨byteSize (front.flatMap Piece.text), byteSize (front.flatMap Piece.text)
    + byteSize fenceMark⟩, ?_, ?_⟩
  · rw [unclosedFences_eq_length]
    unfold openFences
    rw [hclosed, placesOf_append_cons (hnil _), placesOf_eq_nil hfront]
    rfl
  · unfold openFences
    rw [hscan, placesOf_append_cons hnoUnclosed, placesOf_eq_nil hfront, Nat.zero_add]
    rfl
  · unfold spans
    have hfenced : (Piece.fenced (r ++ ['\n'])).kind = .fenced := rfl
    rw [hscan, hclosed, placesOf_append_cons hnoFenced, placesOf_append_cons (hnil _), Nat.zero_add,
      if_pos hfenced, if_neg (by decide), List.append_nil, hstop]

/-- A text without an open fence is left as it is. -/
theorem closeFence_of_unclosedFences {t : Text} (h : unclosedFences t = 0) : closeFence t = t := by
  unfold closeFence
  rw [h]
  rfl

/-- Closing a fence. At most one fence of a text is open. Without one the text is left as it is; with
one it is trimmed and gets a fence on a line of its own, all spans stay where they are in the trimmed
text, and there is one more, from the open fence up to the end. Then no fence is open, and closing
again changes nothing. -/
theorem spans_closeFence (t : Text) :
    (unclosedFences t = 0 ∧ closeFence t = t ∨
      unclosedFences t = 1 ∧ closeFence t = t.trim ++ '\n' :: fenceMark ∧
        ∃ fence, openFences t.trim = [fence] ∧
          spans (closeFence t) = spans t.trim ++ [⟨fence.start, byteSize (closeFence t)⟩]) ∧
      unclosedFences (closeFence t) = 0 ∧ closeFence (closeFence t) = closeFence t := by
  have hle := unclosedFences_le_one t
  rcases Nat.le_one_iff_eq_zero_or_eq_one.mp hle with h | h
  · have hsame := closeFence_of_unclosedFences h
    rw [hsame]
    exact ⟨Or.inl ⟨h, rfl⟩, h, hsame⟩
  · have htrim : unclosedFences t.trim = 1 := by rw [unclosedFences_trim, h]
    have hclosed : closeFence t = t.trim ++ '\n' :: fenceMark := by
      unfold closeFence
      rw [h]
      rfl
    obtain ⟨hzero, hspans⟩ := spans_append_fence htrim
    rw [hclosed]
    exact ⟨Or.inr ⟨h, rfl, hspans⟩, hzero, closeFence_of_unclosedFences hzero⟩

end ChatScribe.Markdown
