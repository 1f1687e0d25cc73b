import ChatScribe.Text.Utf8
import Mathlib.Tactic.Common

/-!
# UTF-8 there and back

`Sequence` lists the byte sequences that stand for a character, byte range by byte range, and
`WellFormed` are the bytes that consist of such sequences. It speaks of bytes alone. Decoding undoes
encoding (`decode?_encode`), nothing else is decoded (`eq_encode_of_decode?`), and the bytes of texts are
the well-formed ones (`wellFormed_iff_exists_encode`).
-/

namespace ChatScribe.Utf8

/-! ## Well-formed bytes -/

/-- A byte that can continue a character. -/
def IsTail (b : UInt8) : Prop := 0x80 ≤ b.toNat ∧ b.toNat ≤ 0xBF

/-- The byte sequences that stand for a character. -/
inductive Sequence : List UInt8 → Prop
  | one {a : UInt8} (ha : a.toNat ≤ 0x7F) : Sequence [a]
  /-- The bytes `C0` and `C1` would start a character of one byte. -/
  | two {a b : UInt8} (ha : 0xC2 ≤ a.toNat ∧ a.toNat ≤ 0xDF) (hb : IsTail b) : Sequence [a, b]
  /-- A character of two bytes is not written in three, and no half of a surrogate pair is written. -/
  | three {a b c : UInt8} (ha : 0xE0 ≤ a.toNat ∧ a.toNat ≤ 0xEF) (hb : IsTail b) (hc : IsTail c)
      (hlong : a.toNat = 0xE0 → 0xA0 ≤ b.toNat) (hhalf : a.toNat = 0xED → b.toNat ≤ 0x9F) :
      Sequence [a, b, c]
  /-- A character of three bytes is not written in four, and no number above the last one is
  written. -/
  | four {a b c d : UInt8} (ha : 0xF0 ≤ a.toNat ∧ a.toNat ≤ 0xF4) (hb : IsTail b) (hc : IsTail c)
      (hd : IsTail d) (hlong : a.toNat = 0xF0 → 0x90 ≤ b.toNat)
      (hlast : a.toNat = 0xF4 → b.toNat ≤ 0x8F) : Sequence [a, b, c, d]

/-- Bytes that consist of whole sequences. -/
inductive WellFormed : List UInt8 → Prop
  | nil : WellFormed []
  | cons {s rest : List UInt8} (hs : Sequence s) (h : WellFormed rest) : WellFormed (s ++ rest)

/-! ## One character -/

theorem toNat_ofNat_of_lt {n : Nat} (h : n < 256) : (UInt8.ofNat n).toNat = n := by
  rw [UInt8.toNat_ofNat']
  exact Nat.mod_eq_of_lt h

theorem eq_ofNat_of_toNat {b : UInt8} {n : Nat} (h : b.toNat = n) : b = UInt8.ofNat n := by
  rw [← h, UInt8.ofNat_toNat]

/-- No character has the number of half a surrogate pair, or one above the last. -/
theorem toNat_lt_or (c : Char) : c.toNat < 0xD800 ∨ 0xDFFF < c.toNat ∧ c.toNat < 0x110000 := c.valid

theorem charFrom?_eq_some_iff {least n : Nat} {c : Char} :
    charFrom? least n = some c ↔ least ≤ n ∧ c.toNat = n := by
  unfold charFrom?
  rw [Option.dite_none_right_eq_some]
  constructor
  · rintro ⟨hn, hc⟩
    obtain rfl := Option.some.inj hc
    exact ⟨hn.1, rfl⟩
  · rintro ⟨hle, rfl⟩
    exact ⟨⟨hle, c.valid⟩, rfl⟩

theorem tail?_eq_some_iff {b : UInt8} {x : Nat} : tail? b = some x ↔ IsTail b ∧ b.toNat = 0x80 + x := by
  unfold tail? IsTail
  dsimp only
  constructor
  · intro h
    split at h
    · have hx := Option.some.inj h
      omega
    · cases h
  · rintro ⟨⟨hlow, hhigh⟩, hx⟩
    rw [if_pos ⟨hlow, by omega⟩, hx, Nat.add_sub_cancel_left]

/-! ### The bytes of a character, by its number -/

section

variable {c : Char}

theorem encodeChar_of_one (h : c.toNat < 0x80) : encodeChar c = [UInt8.ofNat c.toNat] := by
  unfold encodeChar
  dsimp only
  rw [if_pos h]

theorem encodeChar_of_two (hlow : 0x80 ≤ c.toNat) (h : c.toNat < 0x800) :
    encodeChar c = [UInt8.ofNat (0xC0 + c.toNat / 64), UInt8.ofNat (0x80 + c.toNat % 64)] := by
  unfold encodeChar
  dsimp only
  rw [if_neg (by omega), if_pos h]

theorem encodeChar_of_three (hlow : 0x800 ≤ c.toNat) (h : c.toNat < 0x10000) :
    encodeChar c = [UInt8.ofNat (0xE0 + c.toNat / 4096), UInt8.ofNat (0x80 + c.toNat / 64 % 64),
      UInt8.ofNat (0x80 + c.toNat % 64)] := by
  unfold encodeChar
  dsimp only
  rw [if_neg (by omega), if_neg (by omega), if_pos h]

theorem encodeChar_of_four (hlow : 0x10000 ≤ c.toNat) :
    encodeChar c = [UInt8.ofNat (0xF0 + c.toNat / 262144), UInt8.ofNat (0x80 + c.toNat / 4096 % 64),
      UInt8.ofNat (0x80 + c.toNat / 64 % 64), UInt8.ofNat (0x80 + c.toNat % 64)] := by
  unfold encodeChar
  dsimp only
  rw [if_neg (by omega), if_neg (by omega), if_neg (by omega)]

/-- A character takes one to four bytes. -/
inductive Width (c : Char) : Prop
  | one (h : c.toNat < 0x80)
  | two (hlow : 0x80 ≤ c.toNat) (h : c.toNat < 0x800)
  | three (hlow : 0x800 ≤ c.toNat) (h : c.toNat < 0x10000)
  | four (hlow : 0x10000 ≤ c.toNat)

theorem width (c : Char) : Width c := by
  by_cases hone : c.toNat < 0x80
  · exact .one hone
  by_cases htwo : c.toNat < 0x800
  · exact .two (by omega) htwo
  by_cases hthree : c.toNat < 0x10000
  · exact .three (by omega) hthree
  · exact .four (by omega)

end

/-- The size of a text whose characters take one byte or three. -/
theorem length_encode {wide : Char → Bool} {t : Text}
    (hone : ∀ c ∈ t, wide c = false → c.toNat < 0x80)
    (hthree : ∀ c ∈ t, wide c = true → 0x800 ≤ c.toNat ∧ c.toNat < 0x10000) :
    (encode t).length = t.length + 2 * t.countP wide := by
  induction t with
  | nil => rfl
  | cons c t ih =>
    have hrest := ih (fun d hd => hone d (List.mem_cons_of_mem c hd))
      fun d hd => hthree d (List.mem_cons_of_mem c hd)
    have hcons : (encode (c :: t)).length = (encodeChar c).length + (encode t).length := by
      rw [encode, List.flatMap_cons, List.length_append]
      rfl
    rw [hcons, hrest, List.length_cons]
    cases hwide : wide c with
    | false =>
      rw [encodeChar_of_one (hone c List.mem_cons_self hwide),
        List.countP_cons_of_neg (by simp [hwide])]
      simp only [List.length_cons, List.length_nil]
      omega
    | true =>
      obtain ⟨hlow, hhigh⟩ := hthree c List.mem_cons_self hwide
      rw [encodeChar_of_three hlow hhigh, List.countP_cons_of_pos hwide]
      simp only [List.length_cons, List.length_nil]
      omega

theorem length_encode_of_ascii {t : Text} (h : ∀ c ∈ t, c.toNat < 0x80) :
    (encode t).length = t.length := by
  have hnone : t.countP (fun _ => false) = 0 := List.countP_eq_zero.mpr fun c hc => Bool.false_ne_true
  have hnarrow : ∀ c ∈ t, (fun _ : Char => false) c = true → 0x800 ≤ c.toNat ∧ c.toNat < 0x10000 :=
    fun c _ hwide => absurd hwide Bool.false_ne_true
  rw [length_encode (fun c hc _ => h c hc) hnarrow, hnone]
  omega

/-! ### Reading a character -/

/-- What it takes to read a character from bytes. It is not written in more bytes than it needs. -/
inductive Reads (c : Char) (rest : List UInt8) : List UInt8 → Prop
  | one {a : UInt8} (ha : a.toNat < 0x80) (hc : c.toNat = a.toNat) : Reads c rest (a :: rest)
  | two {a b : UInt8} {x : Nat} (ha : 0xC0 ≤ a.toNat ∧ a.toNat < 0xE0) (hx : tail? b = some x)
      (hleast : 0x80 ≤ c.toNat) (hc : c.toNat = (a.toNat - 0xC0) * 64 + x) :
      Reads c rest (a :: b :: rest)
  | three {a b d : UInt8} {x y : Nat} (ha : 0xE0 ≤ a.toNat ∧ a.toNat < 0xF0) (hx : tail? b = some x)
      (hy : tail? d = some y) (hleast : 0x800 ≤ c.toNat)
      (hc : c.toNat = (a.toNat - 0xE0) * 4096 + x * 64 + y) : Reads c rest (a :: b :: d :: rest)
  | four {a b d e : UInt8} {x y z : Nat} (ha : 0xF0 ≤ a.toNat ∧ a.toNat < 0xF8)
      (hx : tail? b = some x) (hy : tail? d = some y) (hz : tail? e = some z)
      (hleast : 0x10000 ≤ c.toNat)
      (hc : c.toNat = (a.toNat - 0xF0) * 262144 + x * 4096 + y * 64 + z) :
      Reads c rest (a :: b :: d :: e :: rest)

variable {c : Char} {bs rest s : List UInt8}

/-- A character with a number that is large enough is what the number names. -/
theorem map_charFrom?_eq {least n : Nat} (hleast : least ≤ c.toNat) (hc : c.toNat = n) :
    (charFrom? least n).map (·, rest) = some (c, rest) := by
  rw [charFrom?_eq_some_iff.mpr ⟨hc ▸ hleast, hc⟩]
  rfl

theorem Reads.next?_eq (h : Reads c rest bs) : next? bs = some (c, rest) := by
  cases h with
  | one ha hc =>
    unfold next?
    dsimp only
    rw [if_pos ha, map_charFrom?_eq (Nat.zero_le _) hc]
  | two ha hx hleast hc =>
    unfold next?
    dsimp only
    rw [if_neg (by omega), if_neg (by omega), if_pos ha.2, hx, Option.bind_eq_bind, Option.bind_some,
      map_charFrom?_eq hleast hc]
  | three ha hx hy hleast hc =>
    unfold next?
    dsimp only
    rw [if_neg (by omega), if_neg (by omega), if_neg (by omega), if_pos ha.2, hx, hy,
      Option.bind_eq_bind, Option.bind_some, Option.bind_some, map_charFrom?_eq hleast hc]
  | four ha hx hy hz hleast hc =>
    unfold next?
    dsimp only
    rw [if_neg (by omega), if_neg (by omega), if_neg (by omega), if_neg (by omega), if_pos ha.2, hx, hy,
      hz, Option.bind_eq_bind, Option.bind_some, Option.bind_some, Option.bind_some,
      map_charFrom?_eq hleast hc]

theorem reads_of_next? (h : next? bs = some (c, rest)) : Reads c rest bs := by
  -- each branch binds its continuation bytes and asks for the number
  unfold next? at h
  split at h
  · cases h
  rename_i a r
  dsimp only at h
  split at h
  · obtain ⟨c', hc, heq⟩ := Option.map_eq_some_iff.mp h
    obtain ⟨rfl, rfl⟩ := Prod.mk.inj heq
    exact .one ‹_› (charFrom?_eq_some_iff.mp hc).2
  split at h
  · cases h
  split at h
  · split at h
    · obtain ⟨x, hx, h⟩ := Option.bind_eq_some_iff.mp h
      obtain ⟨c', hc, heq⟩ := Option.map_eq_some_iff.mp h
      obtain ⟨rfl, rfl⟩ := Prod.mk.inj heq
      obtain ⟨hleast, hc⟩ := charFrom?_eq_some_iff.mp hc
      exact .two (by omega) hx (by omega) hc
    · cases h
  split at h
  · split at h
    · obtain ⟨x, hx, h⟩ := Option.bind_eq_some_iff.mp h
      obtain ⟨y, hy, h⟩ := Option.bind_eq_some_iff.mp h
      obtain ⟨c', hc, heq⟩ := Option.map_eq_some_iff.mp h
      obtain ⟨rfl, rfl⟩ := Prod.mk.inj heq
      obtain ⟨hleast, hc⟩ := charFrom?_eq_some_iff.mp hc
      exact .three (by omega) hx hy (by omega) hc
    · cases h
  split at h
  · split at h
    · obtain ⟨x, hx, h⟩ := Option.bind_eq_some_iff.mp h
      obtain ⟨y, hy, h⟩ := Option.bind_eq_some_iff.mp h
      obtain ⟨z, hz, h⟩ := Option.bind_eq_some_iff.mp h
      obtain ⟨c', hc, heq⟩ := Option.map_eq_some_iff.mp h
      obtain ⟨rfl, rfl⟩ := Prod.mk.inj heq
      obtain ⟨hleast, hc⟩ := charFrom?_eq_some_iff.mp hc
      exact .four (by omega) hx hy hz (by omega) hc
    · cases h
  · cases h

/-- A continuation byte holds six bits. -/
theorem tail?_ofNat {x : Nat} (h : x < 64) : tail? (UInt8.ofNat (0x80 + x)) = some x := by
  have hbyte : (UInt8.ofNat (0x80 + x)).toNat = 0x80 + x := toNat_ofNat_of_lt (by omega)
  rw [tail?_eq_some_iff, IsTail, hbyte]
  omega

theorem reads_encodeChar_append (c : Char) (rest : List UInt8) :
    Reads c rest (encodeChar c ++ rest) := by
  have hvalid := toNat_lt_or c
  cases width c with
  | one h =>
    have ha : (UInt8.ofNat c.toNat).toNat = c.toNat := toNat_ofNat_of_lt (by omega)
    rw [encodeChar_of_one h]
    exact .one (by omega) ha.symm
  | two hlow h =>
    have ha : (UInt8.ofNat (0xC0 + c.toNat / 64)).toNat = 0xC0 + c.toNat / 64 :=
      toNat_ofNat_of_lt (by omega)
    rw [encodeChar_of_two hlow h]
    exact .two (by omega) (tail?_ofNat (by omega)) hlow (by omega)
  | three hlow h =>
    have ha : (UInt8.ofNat (0xE0 + c.toNat / 4096)).toNat = 0xE0 + c.toNat / 4096 :=
      toNat_ofNat_of_lt (by omega)
    rw [encodeChar_of_three hlow h]
    exact .three (by omega) (tail?_ofNat (by omega)) (tail?_ofNat (by omega)) hlow (by omega)
  | four hlow =>
    have ha : (UInt8.ofNat (0xF0 + c.toNat / 262144)).toNat = 0xF0 + c.toNat / 262144 :=
      toNat_ofNat_of_lt (by omega)
    rw [encodeChar_of_four hlow]
    exact .four (by omega) (tail?_ofNat (by omega)) (tail?_ofNat (by omega)) (tail?_ofNat (by omega))
      hlow (by omega)

/-- What is read as a character is how the character is written. -/
theorem Reads.eq_encodeChar_append (h : Reads c rest bs) : bs = encodeChar c ++ rest := by
  cases h with
  | @one a ha hc =>
    rw [encodeChar_of_one (by omega), ← eq_ofNat_of_toNat hc.symm]
    rfl
  | @two a b x ha hx hleast hc =>
    obtain ⟨⟨_, _⟩, hb⟩ := tail?_eq_some_iff.mp hx
    rw [encodeChar_of_two hleast (by omega),
      ← eq_ofNat_of_toNat (b := a) (by omega), ← eq_ofNat_of_toNat (b := b) (by omega)]
    rfl
  | @three a b d x y ha hx hy hleast hc =>
    obtain ⟨⟨_, _⟩, hb⟩ := tail?_eq_some_iff.mp hx
    obtain ⟨⟨_, _⟩, hd⟩ := tail?_eq_some_iff.mp hy
    rw [encodeChar_of_three hleast (by omega), ← eq_ofNat_of_toNat (b := a) (by omega),
      ← eq_ofNat_of_toNat (b := b) (by omega), ← eq_ofNat_of_toNat (b := d) (by omega)]
    rfl
  | @four a b d e x y z ha hx hy hz hleast hc =>
    obtain ⟨⟨_, _⟩, hb⟩ := tail?_eq_some_iff.mp hx
    obtain ⟨⟨_, _⟩, hd⟩ := tail?_eq_some_iff.mp hy
    obtain ⟨⟨_, _⟩, he⟩ := tail?_eq_some_iff.mp hz
    rw [encodeChar_of_four hleast, ← eq_ofNat_of_toNat (b := a) (by omega),
      ← eq_ofNat_of_toNat (b := b) (by omega), ← eq_ofNat_of_toNat (b := d) (by omega),
      ← eq_ofNat_of_toNat (b := e) (by omega)]
    rfl

theorem next?_eq_some_iff : next? bs = some (c, rest) ↔ bs = encodeChar c ++ rest := by
  constructor
  · intro h
    exact (reads_of_next? h).eq_encodeChar_append
  · rintro rfl
    exact (reads_encodeChar_append c rest).next?_eq

/-! ### Bytes of ASCII -/

/-- A byte below `80` is a character by itself. -/
theorem toNat_eq_of_mem_encodeChar {b : UInt8} (hb : b.toNat < 0x80) (h : b ∈ encodeChar c) :
    c.toNat = b.toNat := by
  have hwide : ∀ {n : Nat}, 0x80 ≤ n → n < 256 → b ≠ UInt8.ofNat n := by
    rintro n hlow hhigh rfl
    rw [toNat_ofNat_of_lt hhigh] at hb
    omega
  have hvalid := toNat_lt_or c
  cases width c with
  | one hc =>
    rw [encodeChar_of_one hc, List.mem_singleton] at h
    rw [h, toNat_ofNat_of_lt (by omega)]
  | two hlow hc =>
    rw [encodeChar_of_two hlow hc] at h
    simp only [List.mem_cons, List.not_mem_nil, or_false] at h
    rcases h with h | h <;> exact absurd h (hwide (by omega) (by omega))
  | three hlow hc =>
    rw [encodeChar_of_three hlow hc] at h
    simp only [List.mem_cons, List.not_mem_nil, or_false] at h
    rcases h with h | h | h <;> exact absurd h (hwide (by omega) (by omega))
  | four hlow =>
    rw [encodeChar_of_four hlow] at h
    simp only [List.mem_cons, List.not_mem_nil, or_false] at h
    rcases h with h | h | h | h <;> exact absurd h (hwide (by omega) (by omega))

/-! ### Sequences -/

theorem isTail_ofNat {x : Nat} (h : x < 64) : IsTail (UInt8.ofNat (0x80 + x)) :=
  (tail?_eq_some_iff.mp (tail?_ofNat h)).1

/-- How a character is written is one of the sequences. -/
theorem sequence_encodeChar (c : Char) : Sequence (encodeChar c) := by
  have hvalid := toNat_lt_or c
  cases width c with
  | one h =>
    have ha : (UInt8.ofNat c.toNat).toNat = c.toNat := toNat_ofNat_of_lt (by omega)
    rw [encodeChar_of_one h]
    exact .one (by omega)
  | two hlow h =>
    have ha : (UInt8.ofNat (0xC0 + c.toNat / 64)).toNat = 0xC0 + c.toNat / 64 :=
      toNat_ofNat_of_lt (by omega)
    rw [encodeChar_of_two hlow h]
    exact .two (by omega) (isTail_ofNat (by omega))
  | three hlow h =>
    have ha : (UInt8.ofNat (0xE0 + c.toNat / 4096)).toNat = 0xE0 + c.toNat / 4096 :=
      toNat_ofNat_of_lt (by omega)
    have hb : (UInt8.ofNat (0x80 + c.toNat / 64 % 64)).toNat = 0x80 + c.toNat / 64 % 64 :=
      toNat_ofNat_of_lt (by omega)
    rw [encodeChar_of_three hlow h]
    exact .three (by omega) (isTail_ofNat (by omega)) (isTail_ofNat (by omega)) (by omega) (by omega)
  | four hlow =>
    have ha : (UInt8.ofNat (0xF0 + c.toNat / 262144)).toNat = 0xF0 + c.toNat / 262144 :=
      toNat_ofNat_of_lt (by omega)
    have hb : (UInt8.ofNat (0x80 + c.toNat / 4096 % 64)).toNat = 0x80 + c.toNat / 4096 % 64 :=
      toNat_ofNat_of_lt (by omega)
    rw [encodeChar_of_four hlow]
    exact .four (by omega) (isTail_ofNat (by omega)) (isTail_ofNat (by omega))
      (isTail_ofNat (by omega)) (by omega) (by omega)

theorem exists_toNat_eq {n : Nat} (h : n < 0xD800 ∨ 0xDFFF < n ∧ n < 0x110000) :
    ∃ c : Char, c.toNat = n :=
  ⟨Char.ofNatAux n h, rfl⟩

theorem IsTail.tail?_eq {b : UInt8} (h : IsTail b) : tail? b = some (b.toNat - 0x80) := by
  have hlow : 0x80 ≤ b.toNat := h.1
  exact tail?_eq_some_iff.mpr ⟨h, by omega⟩

/-- Each sequence is how some character is written. -/
theorem Sequence.exists_eq_encodeChar (h : Sequence s) : ∃ c, s = encodeChar c := by
  -- the ranges of the bytes are those of the numbers that name a character
  suffices hreads : ∃ c, Reads c [] s by
    obtain ⟨c, hc⟩ := hreads
    exact ⟨c, hc.eq_encodeChar_append.trans (List.append_nil _)⟩
  cases h with
  | @one a ha =>
    obtain ⟨c, hc⟩ := @exists_toNat_eq a.toNat (by omega)
    exact ⟨c, .one (by omega) hc⟩
  | @two a b ha hb =>
    have hb' : 0x80 ≤ b.toNat ∧ b.toNat ≤ 0xBF := hb
    obtain ⟨c, hc⟩ := @exists_toNat_eq ((a.toNat - 0xC0) * 64 + (b.toNat - 0x80)) (by omega)
    exact ⟨c, .two (by omega) hb.tail?_eq (by omega) hc⟩
  | @three a b d ha hb hd hlong hhalf =>
    have hb' : 0x80 ≤ b.toNat ∧ b.toNat ≤ 0xBF := hb
    have hd' : 0x80 ≤ d.toNat ∧ d.toNat ≤ 0xBF := hd
    obtain ⟨c, hc⟩ := @exists_toNat_eq
      ((a.toNat - 0xE0) * 4096 + (b.toNat - 0x80) * 64 + (d.toNat - 0x80)) (by omega)
    exact ⟨c, .three (by omega) hb.tail?_eq hd.tail?_eq (by omega) hc⟩
  | @four a b d e ha hb hd he hlong hlast =>
    have hb' : 0x80 ≤ b.toNat ∧ b.toNat ≤ 0xBF := hb
    have hd' : 0x80 ≤ d.toNat ∧ d.toNat ≤ 0xBF := hd
    have he' : 0x80 ≤ e.toNat ∧ e.toNat ≤ 0xBF := he
    obtain ⟨c, hc⟩ := @exists_toNat_eq ((a.toNat - 0xF0) * 262144 + (b.toNat - 0x80) * 4096 +
      (d.toNat - 0x80) * 64 + (e.toNat - 0x80)) (by omega)
    exact ⟨c, .four (by omega) hb.tail?_eq hd.tail?_eq he.tail?_eq (by omega) hc⟩

/-! ## Texts -/

variable {t : Text}

theorem encode_cons (c : Char) (t : Text) : encode (c :: t) = encodeChar c ++ encode t :=
  List.flatMap_cons

theorem encode_append (s t : Text) : encode (s ++ t) = encode s ++ encode t := List.flatMap_append

/-- Decoding undoes encoding. -/
theorem decode?_encode (t : Text) : decode? (encode t) = some t := by
  induction t with
  | nil => rw [encode, List.flatMap_nil, decode?]; rfl
  | cons c t ih =>
    have hnext : next? (encodeChar c ++ encode t) = some (c, encode t) := next?_eq_some_iff.mpr rfl
    have hne : (encodeChar c ++ encode t).isEmpty = false := by
      cases hbytes : encodeChar c ++ encode t with
      | nil => rw [hbytes] at hnext; cases hnext
      | cons _ _ => rfl
    rw [encode, List.flatMap_cons, ← encode, decode?, hne, if_neg Bool.false_ne_true]
    split
    · rename_i hnone
      rw [hnext] at hnone
      cases hnone
    · rename_i hsome
      rw [hnext] at hsome
      obtain ⟨rfl, rfl⟩ := Prod.mk.inj (Option.some.inj hsome)
      rw [ih]
      rfl

/-- Only the bytes of a text are decoded to it. -/
theorem eq_encode_of_decode? (h : decode? bs = some t) : bs = encode t := by
  fun_induction decode? bs generalizing t with
  | case1 bs hempty =>
    rw [← Option.some.inj h]
    exact List.isEmpty_iff.mp hempty
  | case2 bs hne hnone => cases h
  | case3 bs hne c rest hnext ih =>
    obtain ⟨u, hu, rfl⟩ := Option.map_eq_some_iff.mp h
    rw [next?_eq_some_iff.mp hnext, ih hu]
    rfl

theorem wellFormed_encode (t : Text) : WellFormed (encode t) := by
  induction t with
  | nil => exact .nil
  | cons c t ih => exact .cons (sequence_encodeChar c) ih

/-- The well-formed bytes are those of texts. -/
theorem wellFormed_iff_exists_encode : WellFormed bs ↔ ∃ t, bs = encode t := by
  constructor
  · intro h
    induction h with
    | nil => exact ⟨[], rfl⟩
    | cons hs h ih =>
      obtain ⟨c, rfl⟩ := hs.exists_eq_encodeChar
      obtain ⟨t, rfl⟩ := ih
      exact ⟨c :: t, rfl⟩
  · rintro ⟨t, rfl⟩
    exact wellFormed_encode t

end ChatScribe.Utf8
