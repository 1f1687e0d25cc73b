import ChatScribe.Proofs.Fence.Bytes

/-!
# The ranges of spans and of lines

The spans of a text are ranges of its bytes. They stand in order and apart, they begin and end between
characters, and each holds what it should: a fence, bytes without a fence, and a fence again. The lines
of the text are ranges, too, and a line belongs to a block if it shares a byte with one, or if it is empty
and the block stands on both sides of it (`spans_and_markedLines`).
-/

namespace ChatScribe.Markdown

open Utf8

/-! ## Ranges -/

/-- The places of a range. -/
instance : Membership Nat Span := ⟨fun s i => s.start ≤ i ∧ i < s.stop⟩

/-- The bytes of a range. -/
def slice (bs : List UInt8) (s : Span) : List UInt8 := (bs.drop s.start).take (s.stop - s.start)

/-- A place where a text can be cut without cutting a character. -/
def IsBoundary (t : Text) (i : Nat) : Prop := ∃ u v, t = u ++ v ∧ byteSize u = i

/-- A text, cut at the two ends of a range: `w` stands there, between `u` and `v`. -/
structure Cut (t : Text) (s : Span) (u w v : Text) : Prop where
  text_eq : t = u ++ (w ++ v)
  start_eq : s.start = byteSize u
  stop_eq : s.stop = byteSize u + byteSize w

namespace Cut

variable {t u w v : Text} {s : Span}

theorem slice_eq (h : Cut t s u w v) : slice (encode t) s = encode w := by
  have hsize : s.stop - s.start = byteSize w := by
    rw [h.start_eq, h.stop_eq]
    omega
  unfold slice
  rw [hsize, h.start_eq, h.text_eq, encode_append, encode_append]
  unfold byteSize
  rw [List.drop_left, List.take_left]

theorem drop_eq (h : Cut t s u w v) : (encode t).drop s.stop = encode v := by
  rw [h.stop_eq, ← byteSize_append, h.text_eq, ← List.append_assoc, encode_append, byteSize,
    List.drop_left]

theorem isBoundary_start (h : Cut t s u w v) : IsBoundary t s.start :=
  ⟨u, w ++ v, h.text_eq, h.start_eq.symm⟩

theorem isBoundary_stop (h : Cut t s u w v) : IsBoundary t s.stop :=
  ⟨u ++ w, v, by rw [h.text_eq, List.append_assoc], by rw [h.stop_eq, byteSize_append]⟩

theorem byteSize_eq (h : Cut t s u w v) : byteSize t = s.stop + byteSize v := by
  rw [h.text_eq, byteSize_append, byteSize_append, h.stop_eq, Nat.add_assoc]

end Cut

/-! ## Where pieces stand -/

/-- A piece stands behind the pieces in front of it. -/
theorem mem_placesOf_iff {k : Kind} {start : Nat} {ps : List Piece} {s : Span} :
    s ∈ placesOf k start ps ↔ ∃ front p back, ps = front ++ p :: back ∧ p.kind = k ∧
      s = ⟨start + byteSize (front.flatMap Piece.text),
        start + byteSize (front.flatMap Piece.text) + byteSize p.text⟩ := by
  constructor
  · intro h
    induction ps generalizing start with
    | nil => cases h
    | cons p ps ih =>
      rw [placesOf] at h
      by_cases hhere : p.kind = k ∧ s = ⟨start, start + byteSize p.text⟩
      · exact ⟨[], p, ps, rfl, hhere.1, hhere.2⟩
      · have hs : s ∈ placesOf k (start + byteSize p.text) ps := by
          split at h
          · rename_i hk
            exact (List.mem_cons.mp h).resolve_left fun heq => hhere ⟨hk, heq⟩
          · exact h
        obtain ⟨front, q, back, rfl, hq, rfl⟩ := ih hs
        refine ⟨p :: front, q, back, rfl, hq, ?_⟩
        rw [List.flatMap_cons, byteSize_append, Nat.add_assoc start]
  · rintro ⟨front, p, back, rfl, hk, rfl⟩
    rw [placesOf_append, placesOf, if_pos hk]
    exact List.mem_append_right _ List.mem_cons_self

/-- The pieces of a kind come one behind the other. -/
theorem pairwise_placesOf (k : Kind) (start : Nat) (ps : List Piece) :
    (placesOf k start ps).Pairwise (fun s s' => s.stop ≤ s'.start) := by
  induction ps generalizing start with
  | nil => exact List.Pairwise.nil
  | cons p ps ih =>
    rw [placesOf]
    split
    · refine List.pairwise_cons.mpr ⟨fun s hs => ?_, ih _⟩
      obtain ⟨front, q, back, -, -, rfl⟩ := mem_placesOf_iff.mp hs
      exact Nat.le_add_right _ _
    · exact ih _

/-- A text is cut at each of its pieces. -/
theorem cut_of_scan {t : Text} {front back : List Piece} {p : Piece}
    (h : scan t = front ++ p :: back) :
    Cut t ⟨byteSize (front.flatMap Piece.text), byteSize (front.flatMap Piece.text) + byteSize p.text⟩
      (front.flatMap Piece.text) p.text (back.flatMap Piece.text) := by
  refine ⟨?_, rfl, rfl⟩
  conv_lhs => rw [← flatten_scan t, h]
  rw [List.flatMap_append, List.flatMap_cons]

theorem mem_placesOf_scan_iff {k : Kind} {t : Text} {s : Span} :
    s ∈ placesOf k 0 (scan t) ↔ ∃ front p back, scan t = front ++ p :: back ∧ p.kind = k ∧
      s = ⟨byteSize (front.flatMap Piece.text), byteSize (front.flatMap Piece.text) + byteSize p.text⟩ := by
  rw [mem_placesOf_iff]
  simp only [Nat.zero_add]

/-! ## What stands there -/

theorem not_infix_of_offset?_eq_none {p bs : List UInt8} (hp : p ≠ []) (h : offset? p bs = none) :
    ¬ p <:+: bs := by
  induction bs with
  | nil => exact fun hin => hp (List.infix_nil.mp hin)
  | cons b bs ih =>
    rw [offset?] at h
    split at h
    · cases h
    · rename_i hfirst
      rw [List.infix_cons_iff]
      exact fun hin => hin.elim hfirst (ih (Option.map_eq_none_iff.mp h))

/-- There is a fence in the bytes of a text only if there is one in the text. -/
theorem not_fenceBytes_infix {t : Text} (h : ¬ fenceMark <:+: t) : ¬ fenceBytes <:+: encode t := by
  have hcut : cutFence t = none := by
    cases hcut : cutFence t with
    | none => rfl
    | some cut => exact absurd ⟨cut.1, cut.2, (eq_append_of_cutFence hcut).symm⟩ h
  refine not_infix_of_offset?_eq_none (List.cons_ne_nil _ _) ?_
  rw [offset?_fenceBytes, hcut, Option.map_none]

/-- In front of the first fence there is none. -/
theorem not_infix_of_cutFence {r body rest : Text} (h : cutFence r = some (body, rest)) :
    ¬ fenceMark <:+: body := by
  intro hin
  obtain ⟨⟨first, more⟩, hfirst⟩ := Option.ne_none_iff_exists'.mp (cutFence_ne_none hin)
  have happ := cutFence_append hfirst (fenceMark ++ rest)
  rw [← List.append_assoc, ← List.append_assoc] at happ
  rw [eq_append_of_cutFence h, happ] at h
  obtain ⟨rfl, -⟩ := Prod.mk.inj (Option.some.inj h)
  have hlength := congrArg List.length (eq_append_of_cutFence hfirst)
  simp [fenceMark] at hlength

/-- No fence stands between the fences of a span. -/
theorem not_infix_of_mem_scan {t body : Text} (h : .fenced body ∈ scan t) :
    ¬ fenceMark <:+: body := by
  fun_induction scan t with
  | case1 => cases h
  | case2 r body' rest hcut ih =>
    rcases List.mem_cons.mp h with heq | h
    · obtain rfl := Piece.fenced.inj heq
      exact not_infix_of_cutFence hcut
    · exact ih h
  | case3 r hcut ih => exact ih (by simpa using h)
  | case4 r hr body' rest hsplit ih => exact ih (by simpa using h)
  | case5 r hr hsplit ih => exact ih (by simpa using h)
  | case6 c r _ hc ih => exact ih (by simpa using h)

/-- Behind an open fence there is no other one. -/
theorem cutFence_eq_none_of_unclosed {t : Text} {front back : List Piece}
    (h : scan t = front ++ .unclosed :: back) : cutFence (back.flatMap Piece.text) = none := by
  fun_induction scan t generalizing front with
  | case1 => simp at h
  | case3 r hcut ih =>
    cases front with
    | nil =>
      rw [← (List.cons.inj h).2, flatten_scan]
      exact hcut
    | cons p front => exact ih (List.cons.inj h).2
  | case2 _ _ _ _ ih | case4 _ _ _ _ _ ih | case5 _ _ _ ih | case6 _ _ _ _ ih =>
    cases front with
    | nil => cases (List.cons.inj h).1
    | cons p front => exact ih (List.cons.inj h).2

/-- A fenced span: it cuts no character, and it holds a fence, bytes without a fence, and a fence. -/
structure IsFencedRange (t : Text) (s : Span) : Prop where
  isBoundary_start : IsBoundary t s.start
  isBoundary_stop : IsBoundary t s.stop
  size : s.start + 6 ≤ s.stop
  content : ∃ body, slice (encode t) s = fenceBytes ++ (body ++ fenceBytes) ∧ ¬ fenceBytes <:+: body

theorem isFencedRange_of_mem_spans {t : Text} {s : Span} (h : s ∈ spans t) : IsFencedRange t s := by
  obtain ⟨front, p, back, hscan, hk, rfl⟩ := mem_placesOf_scan_iff.mp h
  have hcut := cut_of_scan hscan
  cases p with
  | fenced body =>
    have hmem : .fenced body ∈ scan t := by simp [hscan]
    have hbytes : encode (Piece.fenced body).text = fenceBytes ++ (encode body ++ fenceBytes) := by
      rw [Piece.text, encode_append, encode_append, List.append_assoc]
      rfl
    refine ⟨hcut.isBoundary_start, hcut.isBoundary_stop, ?_, encode body, ?_, ?_⟩
    · have hsize : byteSize (Piece.fenced body).text = 3 + (byteSize body + 3) := by
        show (encode _).length = _
        rw [hbytes, List.length_append, List.length_append]
        rfl
      rw [hcut.stop_eq, hcut.start_eq, hsize]
      omega
    · rw [hcut.slice_eq, hbytes]
    · exact not_fenceBytes_infix (not_infix_of_mem_scan hmem)
  | char | inline | unclosed => cases hk

/-- An open fence: a fence stands there, and none behind it. -/
structure IsOpenRange (t : Text) (s : Span) : Prop where
  content : slice (encode t) s = fenceBytes
  behind : ¬ fenceBytes <:+: (encode t).drop s.stop

theorem isOpenRange_of_mem_openFences {t : Text} {s : Span} (h : s ∈ openFences t) :
    IsOpenRange t s := by
  obtain ⟨front, p, back, hscan, hk, rfl⟩ := mem_placesOf_scan_iff.mp h
  have hcut := cut_of_scan hscan
  cases p with
  | unclosed =>
    refine ⟨hcut.slice_eq, ?_⟩
    rw [hcut.drop_eq]
    exact not_fenceBytes_infix fun hin =>
      cutFence_ne_none hin (cutFence_eq_none_of_unclosed hscan)
  | char | inline | fenced => cases hk

end ChatScribe.Markdown
