import ChatScribe.Text.Basic

/-!
# Numbers in texts

A number is read back from its digits, so two numbers that are written alike are the same.
-/

namespace ChatScribe.Text

theorem ofNat_eq_toDigits (n : Nat) : ofNat n = Nat.toDigits 10 n := by
  unfold ofNat
  rw [Nat.toString_eq_repr, Nat.toList_repr]

theorem ofNat_ne_nil (n : Nat) : ofNat n ≠ [] := by
  rw [ofNat_eq_toDigits]
  exact Nat.toDigits_ne_nil

/-- The digits of a number are ASCII digits. -/
theorem isAsciiDigit_of_mem_ofNat {n : Nat} {c : Char} (h : c ∈ ofNat n) :
    isAsciiDigit c = true := by
  rw [ofNat_eq_toDigits] at h
  exact Nat.isDigit_of_mem_toDigits (by omega) (by omega) h

theorem toNat_lt_of_isAsciiDigit {c : Char} (h : isAsciiDigit c = true) : c.toNat < 0x80 := by
  unfold isAsciiDigit at h
  rw [Bool.and_eq_true, decide_eq_true_eq, decide_eq_true_eq] at h
  have hhigh : c.toNat ≤ 57 := h.2
  omega

/-- Digits show. -/
theorem isSpace_of_isAsciiDigit {c : Char} (h : isAsciiDigit c = true) : isSpace c = false := by
  unfold isAsciiDigit at h
  rw [Bool.and_eq_true, decide_eq_true_eq, decide_eq_true_eq] at h
  have hlow : 48 ≤ c.toNat := h.1
  have hhigh : c.toNat ≤ 57 := h.2
  unfold isSpace
  simp
  omega

/-- A number is read back from its digits. -/
theorem decimal_ofNat (n : Nat) : decimal (ofNat n) = n := by
  have hfold : ∀ (l : Text) (k : Nat), (∀ c ∈ l, isAsciiDigit c = true) →
      l.foldl (fun m d => 10 * m + hexValue d) k = Nat.ofDigitChars 10 l k := by
    intro l
    induction l with
    | nil =>
      intro k _
      rfl
    | cons c l ih =>
      intro k hl
      have hc : hexValue c = c.toNat - '0'.toNat := by
        unfold hexValue
        rw [if_pos (hl c List.mem_cons_self)]
      rw [List.foldl_cons, hc, ih _ fun d hd => hl d (List.mem_cons_of_mem c hd)]
      rfl
  unfold decimal
  rw [hfold _ 0 fun c hc => isAsciiDigit_of_mem_ofNat hc, ofNat_eq_toDigits]
  exact Nat.ofDigitChars_ten_toDigits

/-- Different numbers have different digits. -/
theorem ofNat_injective : Function.Injective ofNat :=
  Function.LeftInverse.injective decimal_ofNat

end ChatScribe.Text
