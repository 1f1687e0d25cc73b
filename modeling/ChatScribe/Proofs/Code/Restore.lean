import ChatScribe.Markdown.Code
import ChatScribe.Proofs.Text.Digits
import ChatScribe.Proofs.Text.Prefix
import Mathlib.Data.List.TakeWhile

/-!
# Putting records in place of placeholders

`restore` reads a text once from left to right. The laws here let it be used on a text in parts:
a placeholder with a record becomes that record (`restore_placeholder`), and a text can be cut in front
of every character that cannot go on inside of a placeholder (`restore_append`). The opening mark is
such a character, so half a placeholder in front of a whole one does no harm. What holds no placeholder
with a record stays (`restore_of_namesNone`), so `restore` is a substitution in one pass.
-/

namespace ChatScribe

namespace Markdown.Code

/-- Can a placeholder go on with this character? -/
def continues (c : Char) : Bool := label.contains c || Text.isAsciiDigit c || c == closeMark

theorem continues_openMark : continues openMark = false := by decide

/-- A character that stands in no placeholder. -/
def Stops (c : Char) : Prop := continues c = false ∧ c ≠ openMark

theorem stops_of_isSpace {c : Char} (h : Text.isSpace c = true) : Stops c := by
  have hspace : ∀ d, continues d = true ∨ d = openMark → Text.isSpace d = false := by
    intro d hd
    rcases hd with hd | hd
    · unfold continues at hd
      rw [Bool.or_eq_true, Bool.or_eq_true] at hd
      rcases hd with (hd | hd) | hd
      · have hlabel : label.all (fun l => !Text.isSpace l) = true := by decide
        have hmem := List.all_eq_true.mp hlabel d (List.contains_iff_mem.mp hd)
        rw [Bool.not_eq_true'] at hmem
        exact hmem
      · exact Text.isSpace_of_isAsciiDigit hd
      · rw [beq_iff_eq.mp hd]
        decide
    · rw [hd]
      decide
  constructor
  · rw [← Bool.not_eq_true]
    intro hc
    rw [hspace c (Or.inl hc)] at h
    cases h
  · intro hc
    rw [hspace c (Or.inr hc)] at h
    cases h

/-- The characters of a placeholder show. -/
theorem isSpace_of_mem_placeholder {n : Nat} {c : Char} (h : c ∈ placeholder n) :
    Text.isSpace c = false := by
  rw [← Bool.not_eq_true]
  intro hspace
  obtain ⟨hgoes, hopen⟩ := stops_of_isSpace hspace
  unfold continues at hgoes
  simp only [Bool.or_eq_false_iff, beq_eq_false_iff_ne] at hgoes
  obtain ⟨⟨hlabel, hdigit⟩, hclose⟩ := hgoes
  unfold placeholder at h
  simp only [List.mem_append, List.mem_cons, List.not_mem_nil, or_false] at h
  rcases h with ((h | h) | h) | h
  · exact hopen h
  · rw [List.contains_iff_mem.mpr h] at hlabel
    cases hlabel
  · rw [Text.isAsciiDigit_of_mem_ofNat h] at hdigit
    cases hdigit
  · exact hclose h

/-! ## Reading a placeholder -/

/-- One or more digits. -/
def IsNumber (digits : Text) : Prop := digits ≠ [] ∧ ∀ c ∈ digits, Text.isAsciiDigit c = true

/-- What stands for code under a number that is written in some digits. -/
def token (digits : Text) : Text := openMark :: label ++ digits ++ [closeMark]

theorem isNumber_ofNat (n : Nat) : IsNumber (Text.ofNat n) :=
  ⟨Text.ofNat_ne_nil n, fun _ hc => Text.isAsciiDigit_of_mem_ofNat hc⟩

/-- The digits of a placeholder are read as the number they denote, zeros in front or not. -/
theorem readNumber?_digits {digits : Text} (h : IsNumber digits) (r : Text) :
    readNumber? (label ++ digits ++ [closeMark] ++ r) = some (Text.decimal digits, r) := by
  obtain ⟨hne, hdigits⟩ := h
  have hread : Text.dropPrefix? label (label ++ digits ++ [closeMark] ++ r)
      = some (digits ++ closeMark :: r) := by
    rw [List.append_assoc, List.append_assoc, Text.dropPrefix?_append_self]
    rfl
  -- the closing mark is no digit, so the run of digits is the number
  have htake : (digits ++ closeMark :: r).takeWhile Text.isAsciiDigit = digits := by
    rw [List.takeWhile_append_of_pos hdigits, List.takeWhile_cons, if_neg (by decide),
      List.append_nil]
  have hdrop : (digits ++ closeMark :: r).dropWhile Text.isAsciiDigit = closeMark :: r := by
    rw [List.dropWhile_append_of_pos hdigits, List.dropWhile_cons, if_neg (by decide)]
  obtain ⟨d, ds, rfl⟩ := List.exists_cons_of_ne_nil hne
  unfold readNumber?
  rw [hread]
  dsimp only
  rw [htake, hdrop]
  dsimp only
  rw [if_pos rfl]

/-- A whole placeholder is read as its number. -/
theorem readNumber?_ofNat (n : Nat) (r : Text) :
    readNumber? (label ++ Text.ofNat n ++ [closeMark] ++ r) = some (n, r) := by
  rw [readNumber?_digits (isNumber_ofNat n), Text.decimal_ofNat]

/-- Nothing else is read. -/
theorem eq_of_readNumber? {t rest : Text} {n : Nat} (h : readNumber? t = some (n, rest)) :
    ∃ digits, IsNumber digits ∧ Text.decimal digits = n ∧
      t = label ++ digits ++ [closeMark] ++ rest := by
  unfold readNumber? at h
  cases hp : Text.dropPrefix? label t with
  | none => rw [hp] at h; cases h
  | some r =>
    have hsplit := List.takeWhile_append_dropWhile (p := Text.isAsciiDigit) (l := r)
    have hdigits : ∀ c ∈ r.takeWhile Text.isAsciiDigit, Text.isAsciiDigit c = true :=
      fun c hc => List.all_eq_true.mp List.all_takeWhile c hc
    rw [hp] at h
    dsimp only at h
    cases hd : r.takeWhile Text.isAsciiDigit with
    | nil => rw [hd] at h; cases h
    | cons d ds =>
      cases hw : r.dropWhile Text.isAsciiDigit with
      | nil => rw [hd, hw] at h; cases h
      | cons c s =>
        rw [hd, hw] at h hsplit
        rw [hd] at hdigits
        dsimp only at h
        by_cases hclose : c = closeMark
        · rw [if_pos hclose] at h
          obtain ⟨rfl, rfl⟩ := Prod.mk.inj (Option.some.inj h)
          refine ⟨d :: ds, ⟨List.cons_ne_nil d ds, hdigits⟩, rfl, ?_⟩
          rw [Text.eq_append_of_dropPrefix? hp, ← hsplit, hclose]
          simp
        · rw [if_neg hclose] at h
          cases h

/-- A placeholder that was read is read again when more text follows. -/
theorem readNumber?_append {t rest : Text} {n : Nat} (h : readNumber? t = some (n, rest))
    (v : Text) : readNumber? (t ++ v) = some (n, rest ++ v) := by
  obtain ⟨digits, hdigits, rfl, rfl⟩ := eq_of_readNumber? h
  rw [List.append_assoc, readNumber?_digits hdigits]

/-- All characters behind the opening mark can stand in a placeholder. -/
theorem continues_of_mem {digits : Text} (h : IsNumber digits) {c : Char}
    (hc : c ∈ label ++ digits ++ [closeMark]) : continues c = true := by
  rw [List.mem_append, List.mem_append, List.mem_singleton] at hc
  unfold continues
  rcases hc with (hc | hc) | rfl
  · rw [List.contains_iff_mem.mpr hc, Bool.true_or, Bool.true_or]
  · rw [h.2 c hc, Bool.or_true, Bool.true_or]
  · simp

/-- A text that is no placeholder does not become one when the text that follows starts with a
character that no placeholder goes on with. -/
theorem readNumber?_append_eq_none {t v : Text} (h : readNumber? t = none)
    (hv : ∀ c, v.head? = some c → continues c = false) : readNumber? (t ++ v) = none := by
  rw [Option.eq_none_iff_forall_not_mem]
  rintro ⟨n, rest⟩ hread
  obtain ⟨digits, hdigits, -, hsplit⟩ := eq_of_readNumber? hread
  have hread' : ∀ s, t ≠ label ++ digits ++ [closeMark] ++ s := by
    rintro s rfl
    rw [readNumber?_digits hdigits] at h
    cases h
  -- the placeholder ends in `t`, or it reaches into `v` and goes on with its first character
  rcases List.append_eq_append_iff.mp hsplit with ⟨a, hfront, hback⟩ | ⟨a, ht, -⟩
  · cases a with
    | nil =>
      rw [List.append_nil] at hfront
      exact hread' [] (by rw [List.append_nil, hfront])
    | cons c a =>
      have hstop := hv c (by rw [hback]; rfl)
      rw [continues_of_mem hdigits (by rw [hfront]; simp)] at hstop
      cases hstop
  · exact hread' a ht

/-! ## Restoring in parts -/

section

variable {records : List Text}

@[simp] theorem restore_nil : restore records [] = [] := by rw [restore]

/-- A character other than the opening mark stays. -/
theorem restore_cons_of_ne {c : Char} (hc : c ≠ openMark) (r : Text) :
    restore records (c :: r) = c :: restore records r := by
  rw [restore, if_neg hc]

/-- What follows an opening mark is restored as the record, if it is a placeholder that has one. -/
theorem restore_openMark_of_some {r rest record : Text} {n : Nat}
    (h : readNumber? r = some (n, rest)) (hr : records[n]? = some record) :
    restore records (openMark :: r) = record ++ restore records rest := by
  rw [restore, if_pos rfl]
  split
  · rename_i k s hk
    rw [h] at hk
    obtain ⟨rfl, rfl⟩ := Prod.mk.inj (Option.some.inj hk)
    rw [hr]
  · rename_i hk
    rw [h] at hk
    cases hk

/-- An opening mark stays if no placeholder with a record follows it. -/
theorem restore_openMark_of_none {r : Text}
    (h : ∀ n rest, readNumber? r = some (n, rest) → records[n]? = none) :
    restore records (openMark :: r) = openMark :: restore records r := by
  rw [restore, if_pos rfl]
  split
  · rename_i k s hk
    rw [h k s hk]
  · rfl

/-- A text without opening marks is left as it is, whatever follows. -/
theorem restore_append_of_not_mem {u : Text} (h : openMark ∉ u) (v : Text) :
    restore records (u ++ v) = u ++ restore records v := by
  induction u with
  | nil => rfl
  | cons c u ih =>
    rw [List.mem_cons, not_or] at h
    rw [List.cons_append, restore_cons_of_ne (Ne.symm h.1), ih h.2, List.cons_append]

theorem restore_of_not_mem {t : Text} (h : openMark ∉ t) : restore records t = t := by
  have happend : restore records (t ++ []) = t ++ restore records [] := restore_append_of_not_mem h []
  rwa [List.append_nil, restore_nil, List.append_nil] at happend

/-- Without records every text is left as it is. -/
theorem restore_of_no_records (t : Text) : restore [] t = t := by
  induction t with
  | nil => exact restore_nil
  | cons c t ih =>
    by_cases hc : c = openMark
    · rw [hc, restore_openMark_of_none (fun _ _ _ => rfl), ih]
    · rw [restore_cons_of_ne hc, ih]

/-- A text can be restored in parts. The second part must start with a character that no placeholder
goes on with. -/
theorem restore_append (u : Text) {v : Text} (hv : ∀ c, v.head? = some c → continues c = false) :
    restore records (u ++ v) = restore records u ++ restore records v := by
  -- a placeholder is taken off as a whole, so the induction is on the length
  induction hlen : u.length using Nat.strongRecOn generalizing u with
  | ind k ih =>
    subst hlen
    cases u with
    | nil => rw [restore_nil]; rfl
    | cons c r =>
      by_cases hc : c = openMark
      · subst hc
        have hrest := ih r.length (by simp) r rfl
        by_cases hread : ∃ n rest record, readNumber? r = some (n, rest) ∧ records[n]? = some record
        · obtain ⟨n, rest, record, hn, hr⟩ := hread
          have hlt := length_lt_of_readNumber? hn
          have hmore := ih rest.length (by rw [List.length_cons]; omega) rest rfl
          rw [List.cons_append, restore_openMark_of_some (readNumber?_append hn v) hr,
            restore_openMark_of_some hn hr, hmore, List.append_assoc]
        · have hnone : ∀ n rest, readNumber? r = some (n, rest) → records[n]? = none := by
            intro n rest hn
            cases hr : records[n]? with
            | none => rfl
            | some record => exact absurd ⟨n, rest, record, hn, hr⟩ hread
          -- what `v` brings along cannot complete a placeholder that `r` starts with
          have hnone' : ∀ n rest, readNumber? (r ++ v) = some (n, rest) → records[n]? = none := by
            intro n rest hn
            cases hr : readNumber? r with
            | none =>
              rw [readNumber?_append_eq_none hr hv] at hn
              cases hn
            | some p =>
              obtain ⟨m, s⟩ := p
              rw [readNumber?_append hr v] at hn
              obtain ⟨rfl, -⟩ := Prod.mk.inj (Option.some.inj hn)
              exact hnone m s hr
          rw [List.cons_append, restore_openMark_of_none hnone', restore_openMark_of_none hnone,
            hrest]
          rfl
      · rw [List.cons_append, restore_cons_of_ne hc, restore_cons_of_ne hc,
          ih r.length (by simp) r rfl]
        rfl

/-- A placeholder in front of some text. -/
theorem restore_token_append {digits : Text} (h : IsNumber digits) (v : Text) :
    restore records (token digits ++ v)
      = (records[Text.decimal digits]?).getD (token digits) ++ restore records v := by
  have hread := readNumber?_digits h v
  have htoken : token digits ++ v = openMark :: (label ++ digits ++ [closeMark] ++ v) := by
    simp [token]
  rw [htoken]
  cases hrecord : records[Text.decimal digits]? with
  | some record => rw [restore_openMark_of_some hread hrecord, Option.getD_some]
  | none =>
    have hnone : ∀ n rest, readNumber? (label ++ digits ++ [closeMark] ++ v) = some (n, rest) →
        records[n]? = none := by
      intro n rest hn
      rw [hread] at hn
      rw [← (Prod.mk.inj (Option.some.inj hn)).1, hrecord]
    have hplain : openMark ∉ label ++ digits ++ [closeMark] := by
      intro hmem
      have hgoes := continues_of_mem h hmem
      rw [continues_openMark] at hgoes
      cases hgoes
    rw [restore_openMark_of_none hnone, restore_append_of_not_mem hplain, Option.getD_none]
    simp [token]

/-- A placeholder with a record becomes that record, zeros in front of its number or not, and any
other one stays. What stands around it makes no difference. -/
theorem restore_token (u v : Text) {digits : Text} (h : IsNumber digits) :
    restore records (u ++ token digits ++ v)
      = restore records u ++ (records[Text.decimal digits]?).getD (token digits) ++
        restore records v := by
  have hhead : ∀ c, (token digits ++ v).head? = some c → continues c = false := by
    intro c hc
    rw [← Option.some.inj hc]
    exact continues_openMark
  rw [List.append_assoc, restore_append u hhead, restore_token_append h, List.append_assoc]

/-- A placeholder with a record becomes that record, whatever stands around it. -/
theorem restore_placeholder (u v : Text) {i : Nat} {record : Text}
    (h : records[i]? = some record) :
    restore records (u ++ placeholder i ++ v)
      = restore records u ++ record ++ restore records v := by
  have htoken : placeholder i = token (Text.ofNat i) := rfl
  rw [htoken, restore_token u v (isNumber_ofNat i), Text.decimal_ofNat, h, Option.getD_some]

/-- A placeholder with a record, in front of some text. -/
theorem restore_placeholder_append {i : Nat} {record : Text} (v : Text)
    (h : records[i]? = some record) :
    restore records (placeholder i ++ v) = record ++ restore records v := by
  have hwhole := restore_placeholder [] v h
  rw [List.nil_append, restore_nil, List.nil_append] at hwhole
  exact hwhole

theorem restore_placeholder_alone {i : Nat} {record : Text} (h : records[i]? = some record) :
    restore records (placeholder i) = record := by
  have halone := restore_placeholder_append [] h
  rw [List.append_nil, restore_nil, List.append_nil] at halone
  exact halone

/-! ## A substitution in one pass -/

/-- A text without a whole placeholder that has a record. -/
def NamesNone (records : List Text) (t : Text) : Prop :=
  ∀ digits, IsNumber digits → Text.decimal digits < records.length → ¬ token digits <:+: t

/-- A text that names no record is left as it is. -/
theorem restore_of_namesNone {t : Text} (h : NamesNone records t) : restore records t = t := by
  induction t with
  | nil => exact restore_nil
  | cons c r ih =>
    have hrest : NamesNone records r := fun digits hd hlt hin =>
      h digits hd hlt (List.infix_cons hin)
    by_cases hc : c = openMark
    · subst hc
      have hnone : ∀ n rest, readNumber? r = some (n, rest) → records[n]? = none := by
        intro n rest hread
        obtain ⟨digits, hdigits, rfl, rfl⟩ := eq_of_readNumber? hread
        rw [List.getElem?_eq_none_iff, ← Nat.not_lt]
        intro hlt
        exact h digits hdigits hlt ⟨[], rest, by simp [token]⟩
      rw [restore_openMark_of_none hnone, ih hrest]
    · rw [restore_cons_of_ne hc, ih hrest]

end

/-- Putting records in place of placeholders is a substitution in one pass. A text that names no record
is left as it is. A placeholder with a record becomes that record, which is not looked at again, even
if it has a placeholder in it; what stands in front and behind is restored on its own, even if it ends
or starts with parts of placeholders. The same goes for a number with zeros in front, and a placeholder
whose number is too large for a record stays. -/
theorem restore_substitutes (records : List Text) :
    (∀ t, NamesNone records t → restore records t = t) ∧
    (∀ u v i record, records[i]? = some record →
      restore records (u ++ placeholder i ++ v)
        = restore records u ++ record ++ restore records v) ∧
    (∀ u v digits, IsNumber digits →
      restore records (u ++ token digits ++ v)
        = restore records u ++ (records[Text.decimal digits]?).getD (token digits) ++
          restore records v) :=
  ⟨fun _ h => restore_of_namesNone h, fun u v _ _ h => restore_placeholder u v h,
    fun u v _ h => restore_token u v h⟩

/-- A placeholder between the parts of another one, with a record that is a placeholder itself. -/
theorem restore_substitutes_between_parts :
    let records := ["a".toList, placeholder 0]
    let front := openMark :: label
    let back := '0' :: closeMark :: token "007".toList
    records[1]? = some (placeholder 0) ∧ IsNumber "007".toList ∧
      restore records (front ++ placeholder 1 ++ back) = front ++ placeholder 0 ++ back := by
  intro records front back
  have hrecord : records[1]? = some (placeholder 0) := rfl
  have hdigits : "007".toList.all Text.isAsciiDigit = true := by decide
  have hseven : IsNumber "007".toList := ⟨by decide, List.all_eq_true.mp hdigits⟩
  obtain ⟨hfree, hnamed, hnumber⟩ := restore_substitutes records
  have hfront : restore records front = front := by
    apply hfree
    intro digits _ _ hin
    have hclose : closeMark ∈ front := hin.mem (by simp [token])
    revert hclose
    decide
  have hback : restore records back = back := by
    have hstart : restore records ['0', closeMark] = ['0', closeMark] :=
      restore_of_not_mem (by decide)
    have htoken := hnumber ['0', closeMark] [] "007".toList hseven
    rw [hstart, restore_nil, List.append_nil, List.append_nil] at htoken
    exact htoken
  refine ⟨hrecord, hseven, ?_⟩
  rw [hnamed front back 1 (placeholder 0) hrecord, hfront, hback]

end Markdown.Code

end ChatScribe
