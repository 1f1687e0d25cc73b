import ChatScribe.Json.Reader
import ChatScribe.Proofs.Text.Lines
import Mathlib.Tactic.Common

/-!
# How numbers are spelled in JSON

`IsNumber` is the grammar of numbers: a sign, whole digits without a leading zero, a fraction and an
exponent, all but the whole digits left out where there are none. The reader takes a number as far as it
goes and keeps its spelling: it takes nothing else (`isNumber_of_readNumber`), and it takes the whole
number where no digit, point or exponent letter follows (`readNumber_append`).
-/

namespace ChatScribe.Json

/-! ## The grammar -/

/-- Digits in base ten, at least one. -/
def IsDigits (s : Text) : Prop := s ≠ [] ∧ ∀ c ∈ s, Text.isAsciiDigit c = true

/-- The digits of a whole number. Zero is written with one digit. -/
def IsWhole (s : Text) : Prop := IsDigits s ∧ ¬ (s.length > 1 ∧ s.head? = some '0')

/-- A point and digits, or nothing. -/
inductive IsFraction : Text → Prop
  | nil : IsFraction []
  | point {ds : Text} (h : IsDigits ds) : IsFraction ('.' :: ds)

/-- A letter, a sign that may be left out, and digits, or nothing. -/
inductive IsExponent : Text → Prop
  | nil : IsExponent []
  | bare {c : Char} {ds : Text} (hc : c = 'e' ∨ c = 'E') (h : IsDigits ds) : IsExponent (c :: ds)
  | signed {c sign : Char} {ds : Text} (hc : c = 'e' ∨ c = 'E') (hsign : sign = '+' ∨ sign = '-')
      (h : IsDigits ds) : IsExponent (c :: sign :: ds)

/-- A number without its sign. -/
inductive IsUnsigned : Text → Prop
  | mk {whole fraction exponent : Text} (hwhole : IsWhole whole) (hfraction : IsFraction fraction)
      (hexponent : IsExponent exponent) : IsUnsigned (whole ++ fraction ++ exponent)

/-- A number. -/
inductive IsNumber : Text → Prop
  | plus {s : Text} (h : IsUnsigned s) : IsNumber s
  | minus {s : Text} (h : IsUnsigned s) : IsNumber ('-' :: s)

/-! ## Digits -/

/-- A text that goes on with no character of which `p` holds. -/
def NotNext (p : Char → Prop) (s : Text) : Prop := ∀ c ∈ s.head?, ¬ p c

theorem notNext_cons {p : Char → Prop} {c : Char} {s : Text} : NotNext p (c :: s) ↔ ¬ p c := by
  simp [NotNext]

theorem readDigits_append {ds rest : Text} (h : IsDigits ds)
    (hrest : NotNext (Text.isAsciiDigit · = true) rest) :
    readDigits (ds ++ rest) = some (ds, rest) := by
  obtain ⟨hne, hall⟩ := h
  obtain ⟨htake, hdrop⟩ := Text.takeWhile_and_dropWhile_append hall
    fun c hc => Bool.eq_false_iff.mpr (hrest c hc)
  unfold readDigits
  rw [htake, hdrop]
  exact if_neg (by simpa using hne)

theorem isDigits_of_readDigits {t ds rest : Text} (h : readDigits t = some (ds, rest)) :
    IsDigits ds ∧ t = ds ++ rest := by
  unfold readDigits at h
  dsimp only at h
  split_ifs at h with hempty
  obtain ⟨rfl, rfl⟩ := Prod.mk.inj (Option.some.inj h)
  refine ⟨⟨by simpa using hempty, fun c hc => ?_⟩, List.takeWhile_append_dropWhile.symm⟩
  exact List.all_eq_true.mp List.all_takeWhile c hc

/-- Digits start with one, which is no sign. -/
theorem IsDigits.exists_cons {ds : Text} (h : IsDigits ds) :
    ∃ d r, ds = d :: r ∧ Text.isAsciiDigit d = true := by
  obtain ⟨d, r, rfl⟩ := List.exists_cons_of_ne_nil h.1
  exact ⟨d, r, rfl, h.2 d (List.mem_cons_self ..)⟩

/-! ## Fraction and exponent -/

theorem readFraction_append {s rest : Text} (h : IsFraction s)
    (hrest : NotNext (fun c => Text.isAsciiDigit c = true ∨ c = '.') rest) :
    readFraction (s ++ rest) = some (s, rest) := by
  cases h with
  | nil =>
    rw [List.nil_append, readFraction]
    rintro r rfl
    exact notNext_cons.mp hrest (.inr rfl)
  | point h =>
    rw [List.cons_append, readFraction, readDigits_append h fun c hc hdigit => hrest c hc (.inl hdigit)]
    rfl

theorem isFraction_of_readFraction {t s rest : Text} (h : readFraction t = some (s, rest)) :
    IsFraction s ∧ t = s ++ rest := by
  unfold readFraction at h
  split at h
  · obtain ⟨⟨ds, r⟩, hds, heq⟩ := Option.map_eq_some_iff.mp h
    obtain ⟨rfl, rfl⟩ := Prod.mk.inj heq
    obtain ⟨hdigits, rfl⟩ := isDigits_of_readDigits hds
    exact ⟨.point hdigits, rfl⟩
  · obtain ⟨rfl, rfl⟩ := Prod.mk.inj (Option.some.inj h)
    exact ⟨.nil, rfl⟩

/-- The condition under which the reader goes on with an exponent. -/
theorem isLetter_iff {c : Char} :
    (decide (c = 'e') || decide (c = 'E')) = true ↔ c = 'e' ∨ c = 'E' := by
  rw [Bool.or_eq_true, decide_eq_true_iff, decide_eq_true_iff]

theorem readExponent_append {s rest : Text} (h : IsExponent s)
    (hrest : NotNext (fun c => Text.isAsciiDigit c = true ∨ c = 'e' ∨ c = 'E') rest) :
    readExponent (s ++ rest) = some (s, rest) := by
  have hdigit : NotNext (Text.isAsciiDigit · = true) rest := fun c hc hdigit => hrest c hc (.inl hdigit)
  cases h with
  | nil =>
    cases rest with
    | nil => rfl
    | cons c r =>
      have hc := isLetter_iff.not.mpr fun hc => notNext_cons.mp hrest (.inr hc)
      unfold readExponent
      exact if_neg hc
  | bare hc h =>
    obtain ⟨d, r, rfl, hd⟩ := h.exists_cons
    rw [List.cons_append, List.cons_append, readExponent, if_pos (isLetter_iff.mpr hc),
      ← List.cons_append, readDigits_append h hdigit]
    · rfl
    · rintro r' heq
      obtain ⟨rfl, -⟩ := List.cons.inj heq
      cases hd
    · rintro r' heq
      obtain ⟨rfl, -⟩ := List.cons.inj heq
      cases hd
  | signed hc hsign h =>
    obtain rfl | rfl := hsign
    all_goals
      rw [List.cons_append, List.cons_append, readExponent, if_pos (isLetter_iff.mpr hc),
        readDigits_append h hdigit]
      rfl

theorem isExponent_of_readExponent {t s rest : Text} (h : readExponent t = some (s, rest)) :
    IsExponent s ∧ t = s ++ rest := by
  unfold readExponent at h
  split at h
  · split_ifs at h with hc
    · replace hc := isLetter_iff.mp hc
      split at h
      all_goals
        obtain ⟨⟨ds, r⟩, hds, heq⟩ := Option.map_eq_some_iff.mp h
        obtain ⟨rfl, rfl⟩ := Prod.mk.inj heq
        obtain ⟨hdigits, rfl⟩ := isDigits_of_readDigits hds
      · exact ⟨.signed hc (.inl rfl) hdigits, rfl⟩
      · exact ⟨.signed hc (.inr rfl) hdigits, rfl⟩
      · exact ⟨.bare hc hdigits, rfl⟩
    · obtain ⟨rfl, rfl⟩ := Prod.mk.inj (Option.some.inj h)
      exact ⟨.nil, rfl⟩
  · obtain ⟨rfl, rfl⟩ := Prod.mk.inj (Option.some.inj h)
    exact ⟨.nil, rfl⟩

/-! ## Numbers -/

/-- A text that does not go on as a number would. -/
def EndsNumber : Text → Prop :=
  NotNext fun c => Text.isAsciiDigit c = true ∨ c = '.' ∨ c = 'e' ∨ c = 'E'

/-- An exponent starts with no digit and no point. -/
theorem IsExponent.notNext {s rest : Text} (h : IsExponent s) (hrest : EndsNumber rest) :
    NotNext (fun c => Text.isAsciiDigit c = true ∨ c = '.') (s ++ rest) := by
  have hletter : ∀ {c : Char}, c = 'e' ∨ c = 'E' → ¬ (Text.isAsciiDigit c = true ∨ c = '.') := by
    rintro c (rfl | rfl) <;> decide
  cases h with
  | nil => exact fun c hc hnext => hrest c hc (hnext.imp_right .inl)
  | bare hc h => exact notNext_cons.mpr (hletter hc)
  | signed hc hsign h => exact notNext_cons.mpr (hletter hc)

/-- A fraction starts with no digit. -/
theorem IsFraction.notNext {s rest : Text} (h : IsFraction s)
    (hrest : NotNext (fun c => Text.isAsciiDigit c = true ∨ c = '.') rest) :
    NotNext (Text.isAsciiDigit · = true) (s ++ rest) := by
  cases h with
  | nil => exact fun c hc hdigit => hrest c hc (.inl hdigit)
  | point h => exact notNext_cons.mpr (by decide)

theorem readUnsigned_append {s rest : Text} (h : IsUnsigned s) (hrest : EndsNumber rest) :
    readUnsigned (s ++ rest) = some (s, rest) := by
  obtain ⟨hwhole, hfraction, hexponent⟩ := h
  have hpoint := hexponent.notNext hrest
  have hdigit := hfraction.notNext hpoint
  have hletter : NotNext (fun c => Text.isAsciiDigit c = true ∨ c = 'e' ∨ c = 'E') rest :=
    fun c hc hnext => hrest c hc (hnext.imp_right .inr)
  unfold readUnsigned
  rw [List.append_assoc, List.append_assoc, readDigits_append hwhole.1 hdigit]
  simp only [Option.bind_eq_bind, Option.bind_some]
  rw [if_neg hwhole.2, readFraction_append hfraction hpoint, Option.bind_some,
    readExponent_append hexponent hletter]
  simp

theorem isUnsigned_of_readUnsigned {t s rest : Text} (h : readUnsigned t = some (s, rest)) :
    IsUnsigned s ∧ t = s ++ rest := by
  unfold readUnsigned at h
  simp only [Option.bind_eq_bind] at h
  obtain ⟨⟨whole, r⟩, hwhole, hbehind⟩ := Option.bind_eq_some_iff.mp h
  split_ifs at hbehind with hzero
  obtain ⟨⟨fraction, r'⟩, hfraction, hletter⟩ := Option.bind_eq_some_iff.mp hbehind
  obtain ⟨⟨exponent, r''⟩, hexponent, heq⟩ := Option.bind_eq_some_iff.mp hletter
  obtain ⟨rfl, rfl⟩ := Prod.mk.inj (Option.some.inj heq)
  obtain ⟨hdigits, rfl⟩ := isDigits_of_readDigits hwhole
  obtain ⟨hpoint, rfl⟩ := isFraction_of_readFraction hfraction
  obtain ⟨hexp, rfl⟩ := isExponent_of_readExponent hexponent
  exact ⟨.mk ⟨hdigits, hzero⟩ hpoint hexp, by simp⟩

/-- A number without its sign starts with a digit. -/
theorem IsUnsigned.exists_cons {s : Text} (h : IsUnsigned s) :
    ∃ d r, s = d :: r ∧ Text.isAsciiDigit d = true := by
  obtain ⟨hwhole, hfraction, hexponent⟩ := h
  obtain ⟨d, r, rfl, hd⟩ := hwhole.1.exists_cons
  exact ⟨d, _, by rw [List.cons_append, List.cons_append], hd⟩

theorem readNumber_append {s rest : Text} (h : IsNumber s) (hrest : EndsNumber rest) :
    readNumber (s ++ rest) = some (s, rest) := by
  cases h with
  | plus h =>
    rw [readNumber]
    · exact readUnsigned_append h hrest
    · rintro r heq
      obtain ⟨d, s, rfl, hd⟩ := h.exists_cons
      obtain ⟨rfl, -⟩ := List.cons.inj heq
      cases hd
  | minus h =>
    rw [List.cons_append, readNumber, readUnsigned_append h hrest]
    rfl

theorem isNumber_of_readNumber {t s rest : Text} (h : readNumber t = some (s, rest)) :
    IsNumber s ∧ t = s ++ rest := by
  unfold readNumber at h
  split at h
  · obtain ⟨⟨n, r⟩, hn, heq⟩ := Option.map_eq_some_iff.mp h
    obtain ⟨rfl, rfl⟩ := Prod.mk.inj heq
    obtain ⟨hunsigned, rfl⟩ := isUnsigned_of_readUnsigned hn
    exact ⟨.minus hunsigned, rfl⟩
  · obtain ⟨hunsigned, rfl⟩ := isUnsigned_of_readUnsigned h
    exact ⟨.plus hunsigned, rfl⟩

end ChatScribe.Json
