import ChatScribe.Charset.Decode
import ChatScribe.Proofs.Text.Utf8

/-!
# UTF-16 there and back

A text is written as units of sixteen bits, and a unit as two bytes in one order or the other. Reading
goes the same two ways back: `units?` undoes the second step and `ofUnits?` the first. `WellFormed` speaks
of bytes alone: they come in pairs, and the halves of surrogate pairs come together. The bytes of texts
are the well-formed ones (`wellFormed_iff_exists_encode`), and no others are decoded.
-/

namespace ChatScribe.Utf16

open Charset

/-! ## Writing -/

/-- The units of a character: one, or the two halves of a surrogate pair. -/
def charUnits (c : Char) : List Nat :=
  if c.toNat < 0x10000 then [c.toNat]
  else [0xD800 + (c.toNat - 0x10000) / 0x400, 0xDC00 + (c.toNat - 0x10000) % 0x400]

/-- The two bytes of a unit. -/
def unitBytes (order : ByteOrder) (u : Nat) : List UInt8 :=
  match order with
  | .big => [UInt8.ofNat (u / 256), UInt8.ofNat (u % 256)]
  | .little => [UInt8.ofNat (u % 256), UInt8.ofNat (u / 256)]

/-- The bytes of a text. -/
def encode (order : ByteOrder) (t : Text) : List UInt8 :=
  (t.flatMap charUnits).flatMap (unitBytes order)

/-! ## Well-formed bytes -/

/-- The unit that two bytes spell. -/
def unitOf (order : ByteOrder) (a b : UInt8) : Nat :=
  match order with
  | .big => 256 * a.toNat + b.toNat
  | .little => 256 * b.toNat + a.toNat

def IsHighHalf (u : Nat) : Prop := 0xD800 ≤ u ∧ u ≤ 0xDBFF

def IsLowHalf (u : Nat) : Prop := 0xDC00 ≤ u ∧ u ≤ 0xDFFF

/-- Bytes in pairs, in which a high half is followed by a low one, and no half stands alone. -/
inductive WellFormed (order : ByteOrder) : List UInt8 → Prop
  | nil : WellFormed order []
  | unit {a b : UInt8} {rest : List UInt8} (hhigh : ¬ IsHighHalf (unitOf order a b))
      (hlow : ¬ IsLowHalf (unitOf order a b)) (h : WellFormed order rest) :
      WellFormed order (a :: b :: rest)
  | pair {a b c d : UInt8} {rest : List UInt8} (hhigh : IsHighHalf (unitOf order a b))
      (hlow : IsLowHalf (unitOf order c d)) (h : WellFormed order rest) :
      WellFormed order (a :: b :: c :: d :: rest)

/-! ## Bytes and units -/

variable {order : ByteOrder} {bs : List UInt8} {us : List Nat} {t : Text}

theorem units?_cons_cons (order : ByteOrder) (a b : UInt8) (bs : List UInt8) :
    units? order (a :: b :: bs) = (units? order bs).map (unitOf order a b :: ·) := by
  cases order <;> rfl

theorem unitOf_lt (order : ByteOrder) (a b : UInt8) : unitOf order a b < 0x10000 := by
  have ha := a.toNat_lt
  have hb := b.toNat_lt
  cases order with
  | big => show 256 * a.toNat + b.toNat < _; omega
  | little => show 256 * b.toNat + a.toNat < _; omega

/-- Two bytes are those of the unit that they spell. -/
theorem unitBytes_unitOf (order : ByteOrder) (a b : UInt8) : unitBytes order (unitOf order a b) = [a, b] := by
  have ha := a.toNat_lt
  have hb := b.toNat_lt
  cases order with
  | big =>
    have hfirst : (256 * a.toNat + b.toNat) / 256 = a.toNat := by omega
    have hsecond : (256 * a.toNat + b.toNat) % 256 = b.toNat := by omega
    rw [unitBytes, unitOf, hfirst, hsecond, UInt8.ofNat_toNat, UInt8.ofNat_toNat]
  | little =>
    have hfirst : (256 * b.toNat + a.toNat) % 256 = a.toNat := by omega
    have hsecond : (256 * b.toNat + a.toNat) / 256 = b.toNat := by omega
    rw [unitBytes, unitOf, hfirst, hsecond, UInt8.ofNat_toNat, UInt8.ofNat_toNat]

/-- A unit is spelled by its bytes. -/
theorem exists_unitBytes_eq (order : ByteOrder) {u : Nat} (h : u < 0x10000) :
    ∃ a b, unitBytes order u = [a, b] ∧ unitOf order a b = u := by
  have hhigh : (UInt8.ofNat (u / 256)).toNat = u / 256 := Utf8.toNat_ofNat_of_lt (by omega)
  have hlow : (UInt8.ofNat (u % 256)).toNat = u % 256 := Utf8.toNat_ofNat_of_lt (by omega)
  cases order with
  | big =>
    refine ⟨_, _, rfl, ?_⟩
    rw [unitOf, hhigh, hlow]
    omega
  | little =>
    refine ⟨_, _, rfl, ?_⟩
    rw [unitOf, hhigh, hlow]
    omega

theorem units?_flatMap_unitBytes (h : ∀ u ∈ us, u < 0x10000) :
    units? order (us.flatMap (unitBytes order)) = some us := by
  induction us with
  | nil => rfl
  | cons u us ih =>
    obtain ⟨a, b, hbytes, hunit⟩ := exists_unitBytes_eq order (h u List.mem_cons_self)
    have hrest := ih fun v hv => h v (List.mem_cons_of_mem u hv)
    rw [List.flatMap_cons, hbytes]
    show units? order (a :: b :: us.flatMap (unitBytes order)) = _
    rw [units?_cons_cons, hrest, hunit]
    rfl

/-- Only the bytes of units are read as these units. -/
theorem of_units? : ∀ {bs : List UInt8} {us : List Nat}, units? order bs = some us →
    bs = us.flatMap (unitBytes order) ∧ ∀ u ∈ us, u < 0x10000
  | [], us, h => by
    rw [← Option.some.inj h]
    exact ⟨rfl, fun _ hu => (nomatch hu)⟩
  | [_], us, h => by cases h
  | a :: b :: bs, us, h => by
    rw [units?_cons_cons] at h
    obtain ⟨vs, hvs, rfl⟩ := Option.map_eq_some_iff.mp h
    obtain ⟨hbytes, hlt⟩ := of_units? hvs
    rw [List.flatMap_cons, unitBytes_unitOf, ← hbytes]
    exact ⟨rfl, List.forall_mem_cons.mpr ⟨unitOf_lt order a b, hlt⟩⟩

/-! ## Units and characters -/

theorem ofCode?_eq_some_iff {n : Nat} {c : Char} : ofCode? n = some c ↔ c.toNat = n := by
  unfold ofCode?
  constructor
  · intro h
    split at h
    · rename_i hn
      rw [← Option.some.inj h, Char.ofNat, dif_pos hn]
      rfl
    · cases h
  · rintro rfl
    have hvalid : c.toNat.isValidChar := c.valid
    rw [if_pos hvalid, Char.ofNat_toNat]

theorem ofCode?_toNat (c : Char) : ofCode? c.toNat = some c := ofCode?_eq_some_iff.mpr rfl

/-- A unit that is no high half is a character of its own. -/
theorem ofUnits?_cons {u : Nat} (h : ¬ IsHighHalf u) (us : List Nat) :
    ofUnits? (u :: us) = (ofCode? u).bind fun c => (ofUnits? us).map (c :: ·) := by
  have hrange : ¬ (0xD800 ≤ u ∧ u < 0xDC00) := by
    unfold IsHighHalf at h
    omega
  cases us with
  | nil =>
    rw [ofUnits?, ofUnits?]
    cases ofCode? u <;> rfl
  | cons v r =>
    rw [ofUnits?, if_neg hrange]
    rfl

theorem ofUnits?_cons_cons {u v : Nat} (hu : IsHighHalf u) (hv : IsLowHalf v) (us : List Nat) :
    ofUnits? (u :: v :: us) = (ofCode? (0x10000 + (u - 0xD800) * 0x400 + (v - 0xDC00))).bind
      fun c => (ofUnits? us).map (c :: ·) := by
  unfold IsHighHalf at hu
  unfold IsLowHalf at hv
  rw [ofUnits?, if_pos (by omega), if_pos (by omega)]
  rfl

theorem charUnits_of_one {c : Char} (h : c.toNat < 0x10000) : charUnits c = [c.toNat] := if_pos h

theorem charUnits_of_two {c : Char} (h : 0x10000 ≤ c.toNat) : charUnits c
    = [0xD800 + (c.toNat - 0x10000) / 0x400, 0xDC00 + (c.toNat - 0x10000) % 0x400] :=
  if_neg (by omega)

theorem lt_of_mem_charUnits {c : Char} {u : Nat} (h : u ∈ charUnits c) : u < 0x10000 := by
  have hvalid := Utf8.toNat_lt_or c
  by_cases hone : c.toNat < 0x10000
  · rw [charUnits_of_one hone, List.mem_singleton] at h
    omega
  · rw [charUnits_of_two (by omega)] at h
    simp only [List.mem_cons, List.not_mem_nil, or_false] at h
    omega

/-- Units with those of a character in front. -/
theorem ofUnits?_charUnits_append (c : Char) (us : List Nat) :
    ofUnits? (charUnits c ++ us) = (ofUnits? us).map (c :: ·) := by
  have hvalid := Utf8.toNat_lt_or c
  by_cases hone : c.toNat < 0x10000
  · have hhigh : ¬ IsHighHalf c.toNat := by
      unfold IsHighHalf
      omega
    rw [charUnits_of_one hone, List.singleton_append, ofUnits?_cons hhigh, ofCode?_toNat]
    rfl
  · have hhigh : IsHighHalf (0xD800 + (c.toNat - 0x10000) / 0x400) := by
      unfold IsHighHalf
      omega
    have hlow : IsLowHalf (0xDC00 + (c.toNat - 0x10000) % 0x400) := by
      unfold IsLowHalf
      omega
    have hcode : 0x10000 + (0xD800 + (c.toNat - 0x10000) / 0x400 - 0xD800) * 0x400 +
        (0xDC00 + (c.toNat - 0x10000) % 0x400 - 0xDC00) = c.toNat := by
      omega
    rw [charUnits_of_two (by omega), List.cons_append, List.singleton_append,
      ofUnits?_cons_cons hhigh hlow, hcode, ofCode?_toNat]
    rfl

theorem ofUnits?_flatMap_charUnits (t : Text) : ofUnits? (t.flatMap charUnits) = some t := by
  induction t with
  | nil => rfl
  | cons c t ih =>
    rw [List.flatMap_cons, ofUnits?_charUnits_append, ih]
    rfl

/-- The first unit of a text that is no high half, or the first two, are those of its first character. -/
theorem of_ofUnits?_cons {u : Nat} (hu : u < 0x10000) (h : ofUnits? (u :: us) = some t) :
    ∃ c rest s, u :: us = charUnits c ++ rest ∧ t = c :: s ∧ ofUnits? rest = some s := by
  by_cases hhigh : IsHighHalf u
  · cases us with
    | nil =>
      -- half a pair has no character
      obtain ⟨c, hc, -⟩ := Option.map_eq_some_iff.mp h
      have hnumber := ofCode?_eq_some_iff.mp hc
      have hvalid := Utf8.toNat_lt_or c
      unfold IsHighHalf at hhigh
      omega
    | cons v r =>
      by_cases hlow : IsLowHalf v
      · rw [ofUnits?_cons_cons hhigh hlow] at h
        obtain ⟨c, hc, h⟩ := Option.bind_eq_some_iff.mp h
        obtain ⟨s, hs, rfl⟩ := Option.map_eq_some_iff.mp h
        have hnumber := ofCode?_eq_some_iff.mp hc
        unfold IsHighHalf at hhigh
        unfold IsLowHalf at hlow
        have hfirst : 0xD800 + (c.toNat - 0x10000) / 0x400 = u := by omega
        have hsecond : 0xDC00 + (c.toNat - 0x10000) % 0x400 = v := by omega
        refine ⟨c, r, s, ?_, rfl, hs⟩
        rw [charUnits_of_two (by omega), hfirst, hsecond]
        rfl
      · unfold IsHighHalf at hhigh
        unfold IsLowHalf at hlow
        rw [ofUnits?, if_pos (by omega), if_neg (by omega)] at h
        cases h
  · rw [ofUnits?_cons hhigh] at h
    obtain ⟨c, hc, h⟩ := Option.bind_eq_some_iff.mp h
    obtain ⟨s, hs, rfl⟩ := Option.map_eq_some_iff.mp h
    have hnumber := ofCode?_eq_some_iff.mp hc
    refine ⟨c, us, s, ?_, rfl, hs⟩
    rw [charUnits_of_one (by omega), hnumber]
    rfl

/-- Only the units of a text are read as it. -/
theorem eq_flatMap_of_ofUnits? (hus : ∀ u ∈ us, u < 0x10000) (h : ofUnits? us = some t) :
    us = t.flatMap charUnits := by
  induction t generalizing us with
  | nil =>
    cases us with
    | nil => rfl
    | cons u us =>
      obtain ⟨c, rest, s, -, hnil, -⟩ := of_ofUnits?_cons (hus u List.mem_cons_self) h
      cases hnil
  | cons c t ih =>
    cases us with
    | nil => cases h
    | cons u us =>
      obtain ⟨c', rest, s, hunits, hcons, hrest⟩ := of_ofUnits?_cons (hus u List.mem_cons_self) h
      obtain ⟨rfl, rfl⟩ := List.cons.inj hcons
      rw [hunits] at hus ⊢
      rw [List.flatMap_cons, ← ih (fun v hv => hus v (List.mem_append_right _ hv)) hrest]

/-! ## Texts -/

/-- Decoding undoes encoding. -/
theorem decode?_encode (order : ByteOrder) (t : Text) :
    decode? (.utf16 order) (encode order t) = some t := by
  have hlt : ∀ u ∈ t.flatMap charUnits, u < 0x10000 := by
    intro u hu
    obtain ⟨c, -, hc⟩ := List.mem_flatMap.mp hu
    exact lt_of_mem_charUnits hc
  show (units? order (encode order t)).bind ofUnits? = some t
  rw [encode, units?_flatMap_unitBytes hlt]
  exact ofUnits?_flatMap_charUnits t

/-- Only the bytes of a text are decoded to it. -/
theorem eq_encode_of_decode? (h : decode? (.utf16 order) bs = some t) : bs = encode order t := by
  obtain ⟨us, hus, ht⟩ := Option.bind_eq_some_iff.mp
    (show (units? order bs).bind ofUnits? = some t from h)
  obtain ⟨hbytes, hlt⟩ := of_units? hus
  rw [encode, ← eq_flatMap_of_ofUnits? hlt ht, hbytes]

theorem encode_cons (order : ByteOrder) (c : Char) (t : Text) :
    encode order (c :: t) = (charUnits c).flatMap (unitBytes order) ++ encode order t := by
  rw [encode, List.flatMap_cons, List.flatMap_append]
  rfl

theorem wellFormed_encode (order : ByteOrder) (t : Text) : WellFormed order (encode order t) := by
  induction t with
  | nil => exact .nil
  | cons c t ih =>
    have hvalid := Utf8.toNat_lt_or c
    rw [encode_cons]
    by_cases hone : c.toNat < 0x10000
    · obtain ⟨a, b, hbytes, hunit⟩ := exists_unitBytes_eq order hone
      rw [charUnits_of_one hone, List.flatMap_singleton, hbytes]
      refine .unit ?_ ?_ ih
      · unfold IsHighHalf
        omega
      · unfold IsLowHalf
        omega
    · obtain ⟨a, b, hfirst, hhigh⟩ :=
        @exists_unitBytes_eq order (0xD800 + (c.toNat - 0x10000) / 0x400) (by omega)
      obtain ⟨d, e, hsecond, hlow⟩ :=
        @exists_unitBytes_eq order (0xDC00 + (c.toNat - 0x10000) % 0x400) (by omega)
      rw [charUnits_of_two (by omega), List.flatMap_cons, List.flatMap_singleton, hfirst, hsecond]
      refine .pair ?_ ?_ ih
      · unfold IsHighHalf
        omega
      · unfold IsLowHalf
        omega

/-- The well-formed bytes are those of texts. -/
theorem wellFormed_iff_exists_encode : WellFormed order bs ↔ ∃ t, bs = encode order t := by
  constructor
  · intro h
    induction h with
    | nil => exact ⟨[], rfl⟩
    | @unit a b rest hhigh hlow h ih =>
      obtain ⟨t, rfl⟩ := ih
      have hlt := unitOf_lt order a b
      unfold IsHighHalf at hhigh
      unfold IsLowHalf at hlow
      obtain ⟨c, hc⟩ := @Utf8.exists_toNat_eq (unitOf order a b) (by omega)
      refine ⟨c :: t, ?_⟩
      rw [encode_cons, charUnits_of_one (by omega), List.flatMap_singleton, hc, unitBytes_unitOf]
      rfl
    | @pair a b d e rest hhigh hlow h ih =>
      obtain ⟨t, rfl⟩ := ih
      unfold IsHighHalf at hhigh
      unfold IsLowHalf at hlow
      obtain ⟨c, hc⟩ := @Utf8.exists_toNat_eq
        (0x10000 + (unitOf order a b - 0xD800) * 0x400 + (unitOf order d e - 0xDC00)) (by omega)
      have hfirst : 0xD800 + (c.toNat - 0x10000) / 0x400 = unitOf order a b := by omega
      have hsecond : 0xDC00 + (c.toNat - 0x10000) % 0x400 = unitOf order d e := by omega
      refine ⟨c :: t, ?_⟩
      rw [encode_cons, charUnits_of_two (by omega), hfirst, hsecond, List.flatMap_cons,
        List.flatMap_singleton, unitBytes_unitOf, unitBytes_unitOf]
      rfl
  · rintro ⟨t, rfl⟩
    exact wellFormed_encode order t

end ChatScribe.Utf16
