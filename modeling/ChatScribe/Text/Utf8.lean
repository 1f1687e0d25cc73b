import ChatScribe.Text.Basic

/-!
# Text as bytes in UTF-8

`encode` writes a text as bytes, `decode?` reads bytes that are well formed and no others: no
character is written in more bytes than it needs, and no half of a surrogate pair is written at all.
-/

namespace ChatScribe.Utf8

/-- The bytes of a character. -/
def encodeChar (c : Char) : List UInt8 :=
  let n := c.toNat
  if n < 0x80 then [UInt8.ofNat n]
  else if n < 0x800 then [UInt8.ofNat (0xC0 + n / 64), UInt8.ofNat (0x80 + n % 64)]
  else if n < 0x10000 then
    [UInt8.ofNat (0xE0 + n / 4096), UInt8.ofNat (0x80 + n / 64 % 64), UInt8.ofNat (0x80 + n % 64)]
  else
    [UInt8.ofNat (0xF0 + n / 262144), UInt8.ofNat (0x80 + n / 4096 % 64),
      UInt8.ofNat (0x80 + n / 64 % 64), UInt8.ofNat (0x80 + n % 64)]

/-- The bytes of a text. -/
def encode (t : Text) : List UInt8 := t.flatMap encodeChar

/-- The six bits of a byte that continues a character. -/
def tail? (b : UInt8) : Option Nat :=
  let n := b.toNat
  if 0x80 ≤ n ∧ n < 0xC0 then some (n - 0x80) else none

/-- The character with a number, if the number is at least `least` and there is such a character. -/
def charFrom? (least n : Nat) : Option Char :=
  if h : least ≤ n ∧ n.isValidChar then some (Char.ofNatAux n h.2) else none

/-- The first character and the bytes behind it. -/
def next? : List UInt8 → Option (Char × List UInt8)
  | [] => none
  | a :: r =>
    let n := a.toNat
    if n < 0x80 then (charFrom? 0 n).map (·, r)
    else if n < 0xC0 then none
    else if n < 0xE0 then
      match r with
      | b :: r => do
        let x ← tail? b
        (charFrom? 0x80 ((n - 0xC0) * 64 + x)).map (·, r)
      | _ => none
    else if n < 0xF0 then
      match r with
      | b :: c :: r => do
        let x ← tail? b
        let y ← tail? c
        (charFrom? 0x800 ((n - 0xE0) * 4096 + x * 64 + y)).map (·, r)
      | _ => none
    else if n < 0xF8 then
      match r with
      | b :: c :: d :: r => do
        let x ← tail? b
        let y ← tail? c
        let z ← tail? d
        (charFrom? 0x10000 ((n - 0xF0) * 262144 + x * 4096 + y * 64 + z)).map (·, r)
      | _ => none
    else none

theorem length_lt_of_next? {bs rest : List UInt8} {c : Char} (h : next? bs = some (c, rest)) :
    rest.length < bs.length := by
  unfold next? at h
  split at h
  · simp at h
  · rename_i a r
    dsimp only at h
    split at h
    · simp only [Option.map_eq_some_iff, Prod.mk.injEq] at h
      obtain ⟨_, _, _, rfl⟩ := h
      simp
    · split at h
      · simp at h
      · split at h
        · split at h
          · simp only [Option.bind_eq_bind, Option.bind_eq_some_iff, Option.map_eq_some_iff,
              Prod.mk.injEq] at h
            obtain ⟨_, _, _, _, _, rfl⟩ := h
            simp only [List.length_cons]
            omega
          · simp at h
        · split at h
          · split at h
            · simp only [Option.bind_eq_bind, Option.bind_eq_some_iff, Option.map_eq_some_iff,
                Prod.mk.injEq] at h
              obtain ⟨_, _, _, _, _, _, _, rfl⟩ := h
              simp only [List.length_cons]
              omega
            · simp at h
          · split at h
            · split at h
              · simp only [Option.bind_eq_bind, Option.bind_eq_some_iff, Option.map_eq_some_iff,
                  Prod.mk.injEq] at h
                obtain ⟨_, _, _, _, _, _, _, _, _, rfl⟩ := h
                simp only [List.length_cons]
                omega
              · simp at h
            · simp at h

/-- The text that well-formed bytes spell. -/
def decode? (bs : List UInt8) : Option Text :=
  if bs.isEmpty then some []
  else
    match _h : next? bs with
    | none => none
    | some (c, rest) => (decode? rest).map (c :: ·)
termination_by bs.length
decreasing_by exact length_lt_of_next? _h

end ChatScribe.Utf8
