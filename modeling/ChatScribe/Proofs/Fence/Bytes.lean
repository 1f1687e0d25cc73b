import ChatScribe.Proofs.Fence.Spans
import ChatScribe.Proofs.Text.Utf8

/-!
# The scan over bytes

All marks of the scan are backticks, and no byte of another character is the byte of a backtick. So the
scan can go over the bytes of a text, from place to place: `move` is one step of it and `moves` all of
them. Each step goes forward and stays inside of the bytes (`lt_stop_move`, `stop_move_le`), and the
steps find the spans and the open fences of the text at the places where `scan` finds them
(`movesOf_append_encode`).
-/

namespace ChatScribe.Markdown

open Utf8

/-- The byte of a backtick. -/
def tickByte : UInt8 := 0x60

/-- The bytes of a fence. -/
def fenceBytes : List UInt8 := [tickByte, tickByte, tickByte]

/-- How many bytes stand in front of `p`, where it stands first. -/
def offset? (p : List UInt8) : List UInt8 → Option Nat
  | [] => none
  | b :: bs => if p <+: b :: bs then some 0 else (offset? p bs).map (· + 1)

/-- A step of the scan: what it finds, and where. It goes on behind that. -/
structure Move where
  kind : Kind
  span : Span
deriving Repr, DecidableEq

/-- The step from one place of the bytes. -/
def move (bs : List UInt8) (i : Nat) : Move :=
  if fenceBytes <+: bs.drop i then
    match offset? fenceBytes (bs.drop (i + 3)) with
    | some n => ⟨.fenced, ⟨i, i + 3 + n + 3⟩⟩
    | none => ⟨.unclosed, ⟨i, i + 3⟩⟩
  else if [tickByte] <+: bs.drop i then
    match offset? [tickByte] (bs.drop (i + 1)) with
    | some n => ⟨.inline, ⟨i, i + 1 + n + 1⟩⟩
    | none => ⟨.char, ⟨i, i + 1⟩⟩
  else ⟨.char, ⟨i, i + 1⟩⟩

/-! ## Progress -/

section

variable {bs p : List UInt8} {i n : Nat}

/-- What is found lies in the bytes. -/
theorem offset?_add_length_le (h : offset? p bs = some n) : n + p.length ≤ bs.length := by
  induction bs generalizing n with
  | nil => cases h
  | cons b bs ih =>
    rw [offset?] at h
    split at h
    · obtain rfl := Option.some.inj h
      rename_i hp
      rw [Nat.zero_add]
      exact hp.length_le
    · obtain ⟨m, hm, rfl⟩ := Option.map_eq_some_iff.mp h
      have hle := ih hm
      rw [List.length_cons]
      omega

/-- Each step goes forward. -/
theorem lt_stop_move (bs : List UInt8) (i : Nat) : i < (move bs i).span.stop := by
  unfold move
  split
  · split <;> dsimp only <;> omega
  · split
    · split <;> dsimp only <;> omega
    · exact Nat.lt_succ_self i

/-- No step leaves the bytes. -/
theorem stop_move_le (h : i < bs.length) : (move bs i).span.stop ≤ bs.length := by
  unfold move
  split
  · rename_i hfence
    have hlength := hfence.length_le
    rw [List.length_drop] at hlength
    have hthree : fenceBytes.length = 3 := rfl
    split
    · rename_i n hn
      have hle := offset?_add_length_le hn
      rw [List.length_drop] at hle
      dsimp only
      omega
    · dsimp only
      omega
  · split
    · split
      · rename_i n hn
        have hle := offset?_add_length_le hn
        rw [List.length_drop, List.length_singleton] at hle
        dsimp only
        omega
      · exact h
    · exact h

end

/-- The steps of the scan, from one place to the end of the bytes. -/
def moves (bs : List UInt8) (i : Nat) : List Move :=
  if _h : i < bs.length then move bs i :: moves bs (move bs i).span.stop else []
termination_by bs.length - i
decreasing_by
  have := lt_stop_move bs i
  omega

/-- The places of the steps of one kind. -/
def movesOf (k : Kind) (bs : List UInt8) (i : Nat) : List Span :=
  ((moves bs i).filter fun m => m.kind = k).map Move.span

theorem movesOf_of_lt {bs : List UInt8} {i : Nat} (h : i < bs.length) (k : Kind) :
    movesOf k bs i = if (move bs i).kind = k
      then (move bs i).span :: movesOf k bs (move bs i).span.stop
      else movesOf k bs (move bs i).span.stop := by
  unfold movesOf
  rw [moves, dif_pos h, List.filter_cons]
  by_cases hk : (move bs i).kind = k
  · rw [if_pos (decide_eq_true hk), if_pos hk, List.map_cons]
  · rw [if_neg (by simpa using hk), if_neg hk]

theorem movesOf_length (k : Kind) (bs : List UInt8) : movesOf k bs bs.length = [] := by
  unfold movesOf
  rw [moves, dif_neg (Nat.lt_irrefl _)]
  rfl

/-! ## Backticks in the bytes of a text -/

theorem encodeChar_tick : encodeChar tick = [tickByte] := rfl

/-- The byte of a backtick stands for a backtick. -/
theorem tickByte_not_mem_encodeChar {c : Char} (hc : c ≠ tick) : tickByte ∉ encodeChar c := by
  intro hmem
  have hnumber := toNat_eq_of_mem_encodeChar (by decide) hmem
  exact hc (Char.toNat_inj.mp hnumber)

theorem encodeChar_ne_nil (c : Char) : encodeChar c ≠ [] := by
  intro hnil
  cases hnil ▸ sequence_encodeChar c

/-- Backticks at the front of a text are their bytes at the front of its bytes. -/
theorem replicate_prefix_encode_iff (n : Nat) (t : Text) :
    List.replicate n tickByte <+: encode t ↔ List.replicate n tick <+: t := by
  -- on the number of backticks, each of which is one byte
  induction n generalizing t with
  | zero => simp
  | succ n ih =>
    cases t with
    | nil => simp [encode]
    | cons c t =>
      rw [encode_cons, List.replicate_succ, List.replicate_succ, List.cons_prefix_cons]
      by_cases hc : c = tick
      · subst hc
        rw [encodeChar_tick, List.singleton_append, List.cons_prefix_cons, ih]
        simp
      · obtain ⟨b, rest, hb⟩ := List.exists_cons_of_ne_nil (encodeChar_ne_nil c)
        have hne : tickByte ≠ b := fun h =>
          tickByte_not_mem_encodeChar hc (by rw [hb, h]; exact List.mem_cons_self)
        rw [hb, List.cons_append, List.cons_prefix_cons]
        exact iff_of_false (fun h => hne h.1) fun h => hc h.1.symm

theorem fenceBytes_prefix_iff (t : Text) : fenceBytes <+: encode t ↔ fenceMark <+: t :=
  replicate_prefix_encode_iff 3 t

theorem tickByte_prefix_iff (t : Text) : [tickByte] <+: encode t ↔ [tick] <+: t :=
  replicate_prefix_encode_iff 1 t

/-- The search goes on behind bytes that are no backticks. -/
theorem offset?_append_of_not_mem {w : List UInt8} (hw : tickByte ∉ w) (q bs : List UInt8) :
    offset? (tickByte :: q) (w ++ bs) = (offset? (tickByte :: q) bs).map (· + w.length) := by
  induction w with
  | nil => simp
  | cons b w ih =>
    rw [List.mem_cons, not_or] at hw
    have hfirst : ¬ tickByte :: q <+: b :: (w ++ bs) := fun h =>
      hw.1 (List.cons_prefix_cons.mp h).1
    rw [List.cons_append, offset?, if_neg hfirst, ih hw.2, Option.map_map]
    rfl

/-- The search over the bytes of a text goes from character to character. -/
theorem offset?_encode_cons (n : Nat) (c : Char) (t : Text) :
    offset? (List.replicate (n + 1) tickByte) (encode (c :: t))
      = if List.replicate (n + 1) tick <+: c :: t then some 0
        else (offset? (List.replicate (n + 1) tickByte) (encode t)).map
          (· + (encodeChar c).length) := by
  by_cases hc : c = tick
  · subst hc
    have hiff := replicate_prefix_encode_iff (n + 1) (tick :: t)
    rw [encode_cons, encodeChar_tick, List.singleton_append] at hiff ⊢
    rw [offset?]
    by_cases hp : List.replicate (n + 1) tick <+: tick :: t
    · rw [if_pos hp, if_pos (hiff.mpr hp)]
    · rw [if_neg hp, if_neg fun h => hp (hiff.mp h)]
      rfl
  · have hfirst : ¬ List.replicate (n + 1) tick <+: c :: t := fun h =>
      hc (List.cons_prefix_cons.mp h).1.symm
    rw [if_neg hfirst, encode_cons]
    exact offset?_append_of_not_mem (tickByte_not_mem_encodeChar hc) _ _

theorem byteSize_cons (c : Char) (t : Text) :
    byteSize (c :: t) = (encodeChar c).length + byteSize t := by
  unfold byteSize
  rw [encode_cons, List.length_append]

/-- A character more in front of a cut. -/
theorem map_byteSize_cons (c : Char) (cut? : Option (Text × Text)) :
    (cut?.map fun cut => byteSize cut.1).map (· + (encodeChar c).length)
      = (cut?.map fun (a, b) => (c :: a, b)).map fun cut => byteSize cut.1 := by
  rw [Option.map_map, Option.map_map]
  congr 1
  funext cut
  show byteSize cut.1 + _ = byteSize (c :: cut.1)
  rw [byteSize_cons, Nat.add_comm]

/-- The search for a fence finds the same in the bytes. -/
theorem offset?_fenceBytes (t : Text) :
    offset? fenceBytes (encode t) = (cutFence t).map fun cut => byteSize cut.1 := by
  fun_induction cutFence t with
  | case1 => rfl
  | case2 r =>
    have hfence : List.replicate 3 tick <+: tick :: tick :: tick :: r := ⟨r, rfl⟩
    exact (offset?_encode_cons 2 _ _).trans (if_pos hfence)
  | case3 c r hc ih =>
    have hfirst : ¬ List.replicate 3 tick <+: c :: r := by
      rintro ⟨s, hs⟩
      obtain ⟨htick, hr⟩ := List.cons.inj hs
      exact hc s htick.symm hr.symm
    refine (offset?_encode_cons 2 c r).trans ?_
    rw [if_neg hfirst]
    show (offset? fenceBytes (encode r)).map _ = _
    rw [ih, map_byteSize_cons]

/-- The search for a backtick finds the same in the bytes. -/
theorem offset?_tickByte (t : Text) :
    offset? [tickByte] (encode t) = (Text.splitOnce tick t).map fun cut => byteSize cut.1 := by
  induction t with
  | nil => rfl
  | cons c t ih =>
    refine (offset?_encode_cons 0 c t).trans ?_
    rw [Text.splitOnce]
    by_cases hc : c = tick
    · have hfirst : List.replicate (0 + 1) tick <+: c :: t := ⟨t, by rw [hc]; rfl⟩
      rw [if_pos hfirst, if_pos hc]
      rfl
    · have hfirst : ¬ List.replicate (0 + 1) tick <+: c :: t := fun h =>
        hc (List.cons_prefix_cons.mp h).1.symm
      rw [if_neg hfirst, if_neg hc]
      show (offset? [tickByte] (encode t)).map _ = _
      rw [ih, map_byteSize_cons]

/-! ## The same pieces -/

section

variable {r body rest : Text}

/-- Behind other bytes a step looks at the bytes of a text. -/
theorem move_append_encode (u : List UInt8) (t : Text) :
    move (u ++ encode t) u.length =
      if fenceMark <+: t then
        match offset? fenceBytes ((encode t).drop 3) with
        | some n => ⟨.fenced, ⟨u.length, u.length + 3 + n + 3⟩⟩
        | none => ⟨.unclosed, ⟨u.length, u.length + 3⟩⟩
      else if [tick] <+: t then
        match offset? [tickByte] ((encode t).drop 1) with
        | some n => ⟨.inline, ⟨u.length, u.length + 1 + n + 1⟩⟩
        | none => ⟨.char, ⟨u.length, u.length + 1⟩⟩
      else ⟨.char, ⟨u.length, u.length + 1⟩⟩ := by
  unfold move
  rw [List.drop_left, ← List.drop_drop, ← List.drop_drop, List.drop_left]
  simp only [fenceBytes_prefix_iff, tickByte_prefix_iff]

theorem move_fenced (h : cutFence r = some (body, rest)) (u : List UInt8) :
    move (u ++ encode (tick :: tick :: tick :: r)) u.length
      = ⟨.fenced, ⟨u.length, u.length + byteSize (Piece.fenced body).text⟩⟩ := by
  have hfence : fenceMark <+: tick :: tick :: tick :: r := ⟨r, rfl⟩
  have hdrop : (encode (tick :: tick :: tick :: r)).drop 3 = encode r := rfl
  have hthree : byteSize fenceMark = 3 := rfl
  rw [move_append_encode, if_pos hfence, hdrop, offset?_fenceBytes, h, Option.map_some]
  simp only [Piece.text, byteSize_append, hthree, Nat.add_assoc]

theorem move_unclosed (h : cutFence r = none) (u : List UInt8) :
    move (u ++ encode (tick :: tick :: tick :: r)) u.length
      = ⟨.unclosed, ⟨u.length, u.length + byteSize Piece.unclosed.text⟩⟩ := by
  have hfence : fenceMark <+: tick :: tick :: tick :: r := ⟨r, rfl⟩
  have hdrop : (encode (tick :: tick :: tick :: r)).drop 3 = encode r := rfl
  rw [move_append_encode, if_pos hfence, hdrop, offset?_fenceBytes, h, Option.map_none]
  rfl

/-- A single backtick is no fence. -/
theorem fenceMark_not_prefix_of_ne (hr : ∀ s, r ≠ tick :: tick :: s) : ¬ fenceMark <+: tick :: r := by
  rintro ⟨s, hs⟩
  exact hr s (List.cons.inj hs).2.symm

theorem move_inline (hr : ∀ s, r ≠ tick :: tick :: s)
    (h : Text.splitOnce tick r = some (body, rest)) (u : List UInt8) :
    move (u ++ encode (tick :: r)) u.length
      = ⟨.inline, ⟨u.length, u.length + byteSize (Piece.inline body).text⟩⟩ := by
  have htick : [tick] <+: tick :: r := ⟨r, rfl⟩
  have hdrop : (encode (tick :: r)).drop 1 = encode r := rfl
  have hone : byteSize [tick] = 1 := rfl
  rw [move_append_encode, if_neg (fenceMark_not_prefix_of_ne hr), if_pos htick, hdrop,
    offset?_tickByte, h, Option.map_some]
  have hsize : byteSize (Piece.inline body).text = 1 + byteSize body + 1 := by
    show byteSize ([tick] ++ body ++ [tick]) = _
    rw [byteSize_append, byteSize_append, hone]
  simp only [hsize, Nat.add_assoc]

theorem move_lone (hr : ∀ s, r ≠ tick :: tick :: s) (h : Text.splitOnce tick r = none)
    (u : List UInt8) :
    move (u ++ encode (tick :: r)) u.length
      = ⟨.char, ⟨u.length, u.length + byteSize (Piece.char tick).text⟩⟩ := by
  have htick : [tick] <+: tick :: r := ⟨r, rfl⟩
  have hdrop : (encode (tick :: r)).drop 1 = encode r := rfl
  rw [move_append_encode, if_neg (fenceMark_not_prefix_of_ne hr), if_pos htick, hdrop,
    offset?_tickByte, h, Option.map_none]
  rfl

end

/-- A step that takes a piece of a text goes on with the rest of the text. -/
theorem movesOf_of_move {k : Kind} {u : List UInt8} {piece : Piece} {t rest : Text}
    (ht : t = piece.text ++ rest) (hne : t ≠ [])
    (hmove : move (u ++ encode t) u.length
      = ⟨piece.kind, ⟨u.length, u.length + byteSize piece.text⟩⟩)
    (hrest : ∀ v, movesOf k (v ++ encode rest) v.length = placesOf k v.length (scan rest)) :
    movesOf k (u ++ encode t) u.length = placesOf k u.length (piece :: scan rest) := by
  have hlt : u.length < (u ++ encode t).length := by
    obtain ⟨c, s, rfl⟩ := List.exists_cons_of_ne_nil hne
    have hpos := List.length_pos_of_ne_nil (encodeChar_ne_nil c)
    rw [List.length_append, encode_cons, List.length_append]
    omega
  have hbytes : u ++ encode t = (u ++ encode piece.text) ++ encode rest := by
    rw [ht, encode_append, List.append_assoc]
  have hbehind := hrest (u ++ encode piece.text)
  rw [← hbytes, List.length_append] at hbehind
  rw [movesOf_of_lt hlt, hmove, placesOf]
  dsimp only
  rw [show u.length + byteSize piece.text = u.length + (encode piece.text).length from rfl, hbehind]

/-- The bytes of a character that is no backtick are passed one by one. -/
theorem movesOf_append_of_not_mem {k : Kind} (hk : k ≠ .char) {w : List UInt8} (hw : tickByte ∉ w)
    (u bs : List UInt8) :
    movesOf k (u ++ (w ++ bs)) u.length = movesOf k (u ++ (w ++ bs)) (u.length + w.length) := by
  induction w generalizing u with
  | nil => rfl
  | cons b w ih =>
    rw [List.mem_cons, not_or] at hw
    have hmove : move (u ++ (b :: w ++ bs)) u.length = ⟨.char, ⟨u.length, u.length + 1⟩⟩ := by
      have hfence : ¬ fenceBytes <+: b :: (w ++ bs) := fun h => hw.1 (List.cons_prefix_cons.mp h).1
      have htick : ¬ [tickByte] <+: b :: (w ++ bs) := fun h => hw.1 (List.cons_prefix_cons.mp h).1
      unfold move
      rw [List.drop_left, List.cons_append, if_neg hfence, if_neg htick]
    have hlt : u.length < (u ++ (b :: w ++ bs)).length := by simp
    have hbytes : u ++ (b :: w ++ bs) = (u ++ [b]) ++ (w ++ bs) := by simp
    have hrest := ih hw.2 (u ++ [b])
    rw [← hbytes, List.length_append, List.length_singleton] at hrest
    rw [movesOf_of_lt hlt, hmove, if_neg (Ne.symm hk), hrest, List.length_cons, Nat.add_assoc,
      Nat.add_comm 1]

/-- The scan over bytes finds what the scan of the text finds, at the same places. Only single characters
are more steps, for each byte is one. The induction follows the scan of the text, behind any bytes. -/
theorem movesOf_append_encode {k : Kind} (hk : k ≠ .char) (u : List UInt8) (t : Text) :
    movesOf k (u ++ encode t) u.length = placesOf k u.length (scan t) := by
  fun_induction scan t generalizing u with
  | case1 => simpa [encode, placesOf] using movesOf_length k u
  | case2 r body rest hcut ih =>
    have ht : tick :: tick :: tick :: r = (Piece.fenced body).text ++ rest := by
      rw [eq_append_of_cutFence hcut]
      rfl
    exact movesOf_of_move ht (List.cons_ne_nil _ _) (move_fenced hcut u) ih
  | case3 r hcut ih =>
    exact movesOf_of_move rfl (List.cons_ne_nil _ _) (move_unclosed hcut u) ih
  | case4 r hr body rest hsplit ih =>
    have ht : tick :: r = (Piece.inline body).text ++ rest := by
      rw [Text.eq_append_of_splitOnce hsplit]
      simp [Piece.text]
    exact movesOf_of_move ht (List.cons_ne_nil _ _) (move_inline hr hsplit u) ih
  | case5 r hr hsplit ih =>
    exact movesOf_of_move rfl (List.cons_ne_nil _ _) (move_lone hr hsplit u) ih
  | case6 c r _ hc ih =>
    -- as many steps as the character has bytes, none of them of the kind
    have hbehind := ih (u ++ encodeChar c)
    rw [List.append_assoc, List.length_append] at hbehind
    rw [encode_cons, movesOf_append_of_not_mem hk (tickByte_not_mem_encodeChar hc), hbehind, placesOf]
    have hsize : byteSize (Piece.char c).text = (encodeChar c).length := by
      show (encodeChar c ++ []).length = _
      rw [List.append_nil]
    rw [hsize]
    exact (if_neg (Ne.symm hk)).symm

end ChatScribe.Markdown
