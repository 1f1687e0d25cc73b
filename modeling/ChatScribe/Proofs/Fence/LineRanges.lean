import ChatScribe.Proofs.Fence.Ranges
import Mathlib.Data.List.Forall2

/-!
# Lines as ranges

A line is marked as code if a block holds one of its characters or the line feed behind it. Here the marks
are read in bytes: `Agrees` carries them from the pieces of the scan to ranges, and `isCodeLine_iff` says
that the line feed makes no difference, except to an empty line. `spans_and_markedLines` puts all
together that is known of the ranges of spans and of lines.
-/

namespace ChatScribe.Markdown

open Utf8

/-- The byte of a line feed. -/
def newlineByte : UInt8 := 0x0A

/-- The ranges of lines, the first one from `start` on. There is a line feed between each two. -/
def linePlaces (start : Nat) : List Text → List Span
  | [] => []
  | l :: ls => ⟨start, start + byteSize l⟩ :: linePlaces (start + byteSize l + 1) ls

/-- A place in a block, which is a span over more than one line. -/
def InBlock (t : Text) (i : Nat) : Prop := ∃ s ∈ spans t, newlineByte ∈ slice (encode t) s ∧ i ∈ s

/-- A line that shares a byte with a block, or an empty one inside of a block. -/
def IsCodeLine (t : Text) (place : Span) : Prop :=
  ∃ s ∈ spans t, newlineByte ∈ slice (encode t) s ∧
    ((∃ i, i ∈ place ∧ i ∈ s) ∨ place.start = place.stop ∧ s.start < place.start ∧ place.stop < s.stop)

/-! ## Blocks, piece by piece -/

/-- A place in a piece that is a block, if the first piece starts at `start`. -/
def Covers : Nat → List Piece → Nat → Prop
  | _, [], _ => False
  | start, p :: ps, i =>
    p.isBlock = true ∧ i ∈ (⟨start, start + byteSize p.text⟩ : Span) ∨
      Covers (start + byteSize p.text) ps i

theorem le_of_covers {start i : Nat} {ps : List Piece} (h : Covers start ps i) : start ≤ i := by
  induction ps generalizing start with
  | nil => exact h.elim
  | cons p ps ih =>
    rcases h with ⟨-, hi⟩ | h
    · exact hi.1
    · exact Nat.le_trans (Nat.le_add_right _ _) (ih h)

theorem covers_iff {start i : Nat} {ps : List Piece} :
    Covers start ps i ↔ ∃ front p back, ps = front ++ p :: back ∧ p.isBlock = true ∧
      i ∈ (⟨start + byteSize (front.flatMap Piece.text),
        start + byteSize (front.flatMap Piece.text) + byteSize p.text⟩ : Span) := by
  constructor
  · intro h
    induction ps generalizing start with
    | nil => exact h.elim
    | cons p ps ih =>
      rcases h with ⟨hp, hi⟩ | h
      · exact ⟨[], p, ps, rfl, hp, hi⟩
      · obtain ⟨front, q, back, rfl, hq, hi⟩ := ih h
        refine ⟨p :: front, q, back, rfl, hq, ?_⟩
        rw [List.flatMap_cons, byteSize_append, ← Nat.add_assoc start]
        exact hi
  · rintro ⟨front, p, back, rfl, hp, hi⟩
    induction front generalizing start with
    | nil => exact Or.inl ⟨hp, hi⟩
    | cons q front ih =>
      rw [List.flatMap_cons, byteSize_append, ← Nat.add_assoc start] at hi
      exact Or.inr (ih hi)

theorem newlineByte_mem_encode_iff {t : Text} : newlineByte ∈ encode t ↔ '\n' ∈ t := by
  constructor
  · intro h
    obtain ⟨c, hc, hbyte⟩ := List.mem_flatMap.mp h
    have hnumber := toNat_eq_of_mem_encodeChar (by decide) hbyte
    exact (Char.toNat_inj.mp hnumber : c = '\n') ▸ hc
  · intro h
    exact List.mem_flatMap.mpr ⟨'\n', h, List.mem_singleton_self _⟩

/-- A fenced span is a block if there is a line feed in it, for there is none in its fences. -/
theorem isBlock_fenced_iff (body : Text) :
    (Piece.fenced body).isBlock = true ↔ '\n' ∈ (Piece.fenced body).text := by
  have hmark : '\n' ∉ fenceMark := by decide
  rw [Piece.isBlock, List.contains_iff_mem, Piece.text]
  simp [hmark]

/-- Blocks are the spans with a line feed. -/
theorem covers_scan_iff (t : Text) (i : Nat) : Covers 0 (scan t) i ↔ InBlock t i := by
  rw [covers_iff]
  simp only [Nat.zero_add]
  constructor
  · rintro ⟨front, p, back, hscan, hp, hi⟩
    cases p with
    | fenced body =>
      refine ⟨_, mem_placesOf_scan_iff.mpr ⟨front, .fenced body, back, hscan, rfl, rfl⟩, ?_, hi⟩
      rw [(cut_of_scan hscan).slice_eq, newlineByte_mem_encode_iff]
      exact (isBlock_fenced_iff body).mp hp
    | char | inline | unclosed => cases hp
  · rintro ⟨s, hs, hline, hi⟩
    obtain ⟨front, p, back, hscan, hk, rfl⟩ := mem_placesOf_scan_iff.mp hs
    cases p with
    | fenced body =>
      rw [(cut_of_scan hscan).slice_eq, newlineByte_mem_encode_iff] at hline
      exact ⟨front, .fenced body, back, hscan, (isBlock_fenced_iff body).mpr hline, hi⟩
    | char | inline | unclosed => cases hk

/-! ## Marks in bytes -/

/-- Characters, the first one from `n` on, are marked where all of their bytes have a property, and only
there. -/
inductive Agrees (B : Nat → Prop) : Nat → List (Char × Bool) → Prop
  | nil {n : Nat} : Agrees B n []
  | cons {n : Nat} {c : Char} {b : Bool} {xs : List (Char × Bool)}
      (h : ∀ i, n ≤ i → i < n + (encodeChar c).length → (B i ↔ b = true))
      (hxs : Agrees B (n + (encodeChar c).length) xs) : Agrees B n ((c, b) :: xs)

namespace Agrees

variable {B : Nat → Prop} {n : Nat} {xs : List (Char × Bool)}

/-- Only the bytes from `n` on matter. -/
theorem congr {B' : Nat → Prop} (h : Agrees B n xs) (hB : ∀ i, n ≤ i → (B i ↔ B' i)) :
    Agrees B' n xs := by
  induction h with
  | nil => exact .nil
  | @cons n c b xs h hxs ih =>
    refine .cons (fun i hle hlt => ?_) (ih fun i hle => hB i (by omega))
    rw [← hB i hle]
    exact h i hle hlt

/-- A text whose marks are all of one kind. -/
theorem marks_append {f : Bool} {w : Text}
    (hw : ∀ i, n ≤ i → i < n + byteSize w → (B i ↔ f = true))
    (h : Agrees B (n + byteSize w) xs) : Agrees B n (marks f w ++ xs) := by
  induction w generalizing n with
  | nil => exact h
  | cons c w ih =>
    rw [byteSize_cons, ← Nat.add_assoc] at hw h
    exact .cons (fun i hle hlt => hw i hle (by omega)) (ih (fun i hle hlt => hw i (by omega) hlt) h)

end Agrees

/-- The marks of pieces say which of them are blocks. -/
theorem agrees_piecesMarks (start : Nat) (ps : List Piece) :
    Agrees (Covers start ps) start (piecesMarks ps) := by
  induction ps generalizing start with
  | nil => exact .nil
  | cons p ps ih =>
    rw [piecesMarks_cons]
    refine Agrees.marks_append (fun i hle hlt => ?_) ((ih _).congr fun i hle => ?_)
    · refine ⟨fun h => ?_, fun hp => Or.inl ⟨hp, hle, hlt⟩⟩
      rcases h with ⟨hp, -⟩ | h
      · exact hp
      · have hbehind := le_of_covers h
        omega
    · refine ⟨Or.inr, fun h => ?_⟩
      rcases h with ⟨-, -, hlt⟩ | h
      · have hstop : i < start + byteSize p.text := hlt
        omega
      · exact h

/-- A line is marked if one of its bytes or the place behind them is. -/
theorem forall₂_cutLines {B : Nat → Prop} {n : Nat} {xs : List (Char × Bool)} (h : Agrees B n xs)
    (hend : ¬ B (n + byteSize (xs.map Prod.fst))) :
    List.Forall₂ (fun line place => line.fenced = true ↔ ∃ i, place.start ≤ i ∧ i ≤ place.stop ∧ B i)
      (cutLines xs) (linePlaces n ((cutLines xs).map Line.text)) := by
  induction h with
  | @nil n =>
    refine .cons ?_ .nil
    refine iff_of_false Bool.false_ne_true ?_
    rintro ⟨i, hlow, hhigh, hi⟩
    have hi' : i = n := Nat.le_antisymm hhigh hlow
    exact hend (hi' ▸ hi)
  | @cons n c b xs hc hxs ih =>
    rw [List.map_cons, byteSize_cons, ← Nat.add_assoc] at hend
    have hrest := ih hend
    by_cases hline : c = '\n'
    · -- an empty line, whose place is that of its line feed
      subst hline
      rw [cutLines_newline_cons]
      refine .cons ?_ hrest
      have hhere : B n ↔ b = true := hc n (Nat.le_refl n) (Nat.lt_succ_self n)
      rw [← hhere]
      constructor
      · exact fun hn => ⟨n, Nat.le_refl n, Nat.le_refl n, hn⟩
      · rintro ⟨i, hlow, hhigh, hi⟩
        have hi' : i = n := Nat.le_antisymm hhigh hlow
        exact hi' ▸ hi
    · -- the character joins the line that starts behind it
      obtain ⟨l, ls, hl⟩ := List.exists_cons_of_ne_nil (cutLines_ne_nil xs)
      rw [hl, List.map_cons, linePlaces, List.forall₂_cons] at hrest
      rw [cutLines_cons_of_ne hline b hl, List.map_cons, linePlaces]
      dsimp only at hrest ⊢
      rw [byteSize_cons, ← Nat.add_assoc]
      refine .cons ?_ hrest.2
      have hpos := List.length_pos_of_ne_nil (encodeChar_ne_nil c)
      rw [Bool.or_eq_true, hrest.1]
      constructor
      · rintro (hb | ⟨i, hlow, hhigh, hi⟩)
        · exact ⟨n, Nat.le_refl n, by dsimp only; omega, (hc n (Nat.le_refl n) (by omega)).mpr hb⟩
        · exact ⟨i, Nat.le_trans (Nat.le_add_right _ _) hlow, hhigh, hi⟩
      · rintro ⟨i, hlow, hhigh, hi⟩
        by_cases hfirst : i < n + (encodeChar c).length
        · exact Or.inl ((hc i hlow hfirst).mp hi)
        · exact Or.inr ⟨i, by omega, hhigh, hi⟩

/-! ## Where lines stand -/

/-- A line stands at its place, and behind it there is a line feed or nothing. -/
def IsLineAt (t l : Text) (place : Span) : Prop :=
  ∃ u v, Cut t place u l v ∧ (v = [] ∨ ∃ r, v = '\n' :: r)

theorem forall₂_isLineAt_unlines (u : Text) {ls : List Text} (hne : ls ≠ []) :
    List.Forall₂ (IsLineAt (u ++ Text.unlines ls)) ls (linePlaces (byteSize u) ls) := by
  induction ls generalizing u with
  | nil => exact absurd rfl hne
  | cons l ls ih =>
    by_cases hls : ls = []
    · subst hls
      exact .cons ⟨u, [], ⟨by simp [Text.unlines, Text.join], rfl, rfl⟩, Or.inl rfl⟩ .nil
    · have hjoin : Text.unlines (l :: ls) = l ++ '\n' :: Text.unlines ls := by
        rw [Text.unlines, Text.join_cons_of_ne_nil _ _ hls, Text.unlines]
        simp
      have hsize : byteSize (u ++ (l ++ ['\n'])) = byteSize u + byteSize l + 1 := by
        rw [byteSize_append, byteSize_append, ← Nat.add_assoc]
        rfl
      have hrest := ih (u ++ (l ++ ['\n'])) hls
      rw [hsize] at hrest
      rw [hjoin]
      refine .cons ⟨u, '\n' :: Text.unlines ls, ⟨rfl, rfl, rfl⟩, Or.inr ⟨_, rfl⟩⟩ ?_
      simpa using hrest

theorem forall₂_isLineAt_lines (t : Text) :
    List.Forall₂ (IsLineAt t) (Text.lines t) (linePlaces 0 (Text.lines t)) := by
  have hlines := forall₂_isLineAt_unlines [] (Text.lines_ne_nil t)
  rw [Text.unlines_lines] at hlines
  exact hlines

/-! ## Which lines are code -/

/-- A span starts with a backtick. -/
theorem IsFencedRange.head?_drop {t : Text} {s : Span} (h : IsFencedRange t s) :
    ((encode t).drop s.start).head? = some tickByte := by
  obtain ⟨body, hslice, -⟩ := h.content
  unfold slice at hslice
  cases hdrop : (encode t).drop s.start with
  | nil => simp [hdrop, fenceBytes] at hslice
  | cons b bs =>
    have hsize := h.size
    obtain ⟨m, hm⟩ : ∃ m, s.stop - s.start = m + 1 := ⟨s.stop - s.start - 1, by omega⟩
    rw [hdrop, hm, List.take_succ_cons] at hslice
    rw [List.head?_cons, (List.cons.inj hslice).1]

theorem IsFencedRange.stop_le {t : Text} {s : Span} (h : IsFencedRange t s) : s.stop ≤ byteSize t := by
  obtain ⟨u, v, rfl, hu⟩ := h.isBoundary_stop
  rw [byteSize_append, ← hu]
  exact Nat.le_add_right _ _

/-- The line feed behind a line makes no difference, except to an empty line. A block starts with a
backtick, so with a line feed it holds the byte in front, which is one of the line if the line has any. -/
theorem exists_inBlock_iff {t l : Text} {place : Span} (h : IsLineAt t l place) :
    (∃ i, place.start ≤ i ∧ i ≤ place.stop ∧ InBlock t i) ↔ IsCodeLine t place := by
  obtain ⟨u, v, hcut, hv⟩ := h
  have horder : place.start ≤ place.stop := by
    rw [hcut.start_eq, hcut.stop_eq]
    exact Nat.le_add_right _ _
  constructor
  · rintro ⟨i, hlow, hhigh, s, hs, hline, hi⟩
    refine ⟨s, hs, hline, ?_⟩
    rcases Nat.lt_or_eq_of_le hhigh with hlt | rfl
    · exact Or.inl ⟨i, ⟨hlow, hlt⟩, hi⟩
    -- the block holds the line feed, and does not start with it
    have hrange := isFencedRange_of_mem_spans hs
    have hfeed : ((encode t).drop place.stop).head? = some newlineByte := by
      rw [hcut.drop_eq]
      rcases hv with rfl | ⟨r, rfl⟩
      · have hsize := hcut.byteSize_eq
        have hstop := hrange.stop_le
        have hlt := hi.2
        rw [show byteSize [] = 0 from rfl] at hsize
        omega
      · rfl
    have hne : s.start ≠ place.stop := by
      intro heq
      have htick := hrange.head?_drop
      rw [heq, hfeed] at htick
      cases htick
    have hbefore : s.start < place.stop := Nat.lt_of_le_of_ne hi.1 hne
    rcases Nat.lt_or_eq_of_le horder with hlt | heq
    · refine Or.inl ⟨place.stop - 1, ⟨by omega, by omega⟩, by omega, ?_⟩
      exact Nat.lt_of_le_of_lt (Nat.sub_le _ _) hi.2
    · exact Or.inr ⟨heq, by omega, hi.2⟩
  · rintro ⟨s, hs, hline, ⟨i, hplace, hi⟩ | ⟨heq, hstart, hstop⟩⟩
    · exact ⟨i, hplace.1, Nat.le_of_lt hplace.2, s, hs, hline, hi⟩
    · exact ⟨place.stop, horder, Nat.le_refl _, s, hs, hline, by omega, hstop⟩

/-- The lines of a text stand at their places, and those of blocks are marked. -/
theorem forall₂_markedLines (t : Text) :
    List.Forall₂ (fun line place => slice (encode t) place = encode line.text ∧
      (line.fenced = true ↔ IsCodeLine t place)) (markedLines t) (linePlaces 0 (Text.lines t)) := by
  have hend : ¬ Covers 0 (scan t) (0 + byteSize ((markedChars t).map Prod.fst)) := by
    rw [map_fst_markedChars, Nat.zero_add, covers_scan_iff]
    rintro ⟨s, hs, -, hi⟩
    exact absurd hi.2 (Nat.not_lt.mpr (isFencedRange_of_mem_spans hs).stop_le)
  have hmarks := forall₂_cutLines (agrees_piecesMarks 0 (scan t)) hend
  rw [← markedChars_eq, ← markedLines, map_text_markedLines] at hmarks
  have hlines : List.Forall₂ (fun line place => IsLineAt t line.text place) (markedLines t)
      (linePlaces 0 (Text.lines t)) := by
    have hmap := forall₂_isLineAt_lines t
    rw [← map_text_markedLines, List.forall₂_map_left_iff] at hmap
    rw [← map_text_markedLines]
    exact hmap
  refine List.Forall₂.mp (fun line place hfenced hline => ?_) hmarks hlines
  refine ⟨?_, ?_⟩
  · obtain ⟨u, v, hcut, -⟩ := hline
    exact hcut.slice_eq
  · rw [hfenced, ← exists_inBlock_iff hline]
    simp only [covers_scan_iff]

/-- What the scan finds, in bytes. Each of its steps goes forward and stays inside of the text. The spans
and the open fences are those that the steps find. The spans stand apart and in order, and each is a fence,
bytes without a fence, and a fence, between two places where the text can be cut. At most one fence is
open, and no fence stands behind it. The lines are those between line feeds, and marked are those that
share a byte with a span over more than one line, or are empty and lie inside of one. -/
theorem spans_and_markedLines (t : Text) :
    (∀ i < byteSize t,
      i < (move (encode t) i).span.stop ∧ (move (encode t) i).span.stop ≤ byteSize t) ∧
    spans t = movesOf .fenced (encode t) 0 ∧ openFences t = movesOf .unclosed (encode t) 0 ∧
    (spans t).Pairwise (fun s s' => s.stop ≤ s'.start) ∧ (∀ s ∈ spans t, IsFencedRange t s) ∧
    (openFences t).length ≤ 1 ∧ (∀ s ∈ openFences t, IsOpenRange t s) ∧
    (markedLines t).map Line.text = Text.lines t ∧
    List.Forall₂ (fun line place => slice (encode t) place = encode line.text ∧
      (line.fenced = true ↔ IsCodeLine t place)) (markedLines t) (linePlaces 0 (Text.lines t)) := by
  have hmoves : ∀ k, k ≠ .char → placesOf k 0 (scan t) = movesOf k (encode t) 0 := fun k hk =>
    (movesOf_append_encode hk [] t).symm
  refine ⟨fun i hi => ⟨lt_stop_move _ i, stop_move_le hi⟩, hmoves _ (by decide), hmoves _ (by decide),
    pairwise_placesOf _ _ _, fun s hs => isFencedRange_of_mem_spans hs, ?_,
    fun s hs => isOpenRange_of_mem_openFences hs, map_text_markedLines t, forall₂_markedLines t⟩
  rw [← unclosedFences_eq_length]
  exact unclosedFences_le_one t

end ChatScribe.Markdown
