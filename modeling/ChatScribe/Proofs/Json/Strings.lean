import ChatScribe.Json.Reader
import ChatScribe.Proofs.Text.Utf8

/-!
# How strings are spelled in JSON

A character of a string can stand for itself, be escaped by a letter, or be escaped by its number, and
beyond the first plane that takes the numbers of two surrogates. `SpellsPieces` is the grammar of what
stands between the quotes and `Denotes` the text that it stands for; a lone surrogate stands for none. The
reader follows them (`readString_eq_some_iff`), and what the writer writes is among the spellings of a
text (`spellsString_quote`).
-/

namespace ChatScribe.Json

/-! ## The grammar -/

/-- The letters of escapes, and the characters that they stand for. -/
def shortEscapes : List (Char × Char) :=
  [('"', '"'), ('\\', '\\'), ('/', '/'), ('b', '\x08'), ('f', '\x0c'), ('n', '\n'), ('r', '\r'),
    ('t', '\t')]

/-- Pieces, and what stands for them between quotes. -/
inductive SpellsPieces : List Piece → Text → Prop
  | nil : SpellsPieces [] []
  | plain {c : Char} {ps : List Piece} {s : Text} (hc : 0x20 ≤ c.toNat) (hquote : c ≠ '"')
      (hescape : c ≠ '\\') (h : SpellsPieces ps s) : SpellsPieces (.char c :: ps) (c :: s)
  | short {c e : Char} {ps : List Piece} {s : Text} (he : (c, e) ∈ shortEscapes)
      (h : SpellsPieces ps s) : SpellsPieces (.char e :: ps) ('\\' :: c :: s)
  | unit {a b c d : Char} {n : Nat} {ps : List Piece} {s : Text} (hn : hexQuad? a b c d = some n)
      (h : SpellsPieces ps s) : SpellsPieces (.unit n :: ps) ('\\' :: 'u' :: a :: b :: c :: d :: s)

/-- Half of a surrogate pair. -/
def IsSurrogate (n : Nat) : Prop := 0xD800 ≤ n ∧ n < 0xE000

/-- Pieces, and the text that they stand for. Two numbers that make up a surrogate pair stand for one
character. -/
inductive Denotes : List Piece → Text → Prop
  | nil : Denotes [] []
  | char {c : Char} {ps : List Piece} {t : Text} (h : Denotes ps t) : Denotes (.char c :: ps) (c :: t)
  | unit {n : Nat} {ps : List Piece} {t : Text} (hn : ¬ IsSurrogate n) (h : Denotes ps t) :
      Denotes (.unit n :: ps) (Char.ofNat n :: t)
  | pair {high low : Nat} {ps : List Piece} {t : Text} (hhigh : 0xD800 ≤ high ∧ high < 0xDC00)
      (hlow : 0xDC00 ≤ low ∧ low < 0xE000) (h : Denotes ps t) :
      Denotes (.unit high :: .unit low :: ps) (pairChar high low :: t)

/-- A string with its quotes, and the text that it stands for, if it stands for one. -/
def SpellsString (content : Option Text) (s : Text) : Prop :=
  ∃ ps inner, SpellsPieces ps inner ∧ s = '"' :: (inner ++ ['"']) ∧
    ∀ t, content = some t ↔ Denotes ps t

/-! ## Reading pieces -/

theorem shortEscape?_eq_some_iff {c e : Char} : shortEscape? c = some e ↔ (c, e) ∈ shortEscapes := by
  unfold shortEscape? shortEscapes
  constructor
  · intro h
    split at h
    case h_9 => cases h
    all_goals
      obtain rfl := Option.some.inj h
      simp
  · simp only [List.mem_cons, Prod.mk.injEq, List.not_mem_nil, or_false]
    rintro (⟨rfl, rfl⟩ | ⟨rfl, rfl⟩ | ⟨rfl, rfl⟩ | ⟨rfl, rfl⟩ | ⟨rfl, rfl⟩ | ⟨rfl, rfl⟩ | ⟨rfl, rfl⟩ |
      ⟨rfl, rfl⟩) <;> rfl

/-- A character that stands for itself. -/
theorem readPieces_plain {c : Char} (hc : 0x20 ≤ c.toNat) (hquote : c ≠ '"') (hescape : c ≠ '\\')
    (r : Text) : readPieces (c :: r) = (readPieces r).map fun (ps, rest) => (.char c :: ps, rest) := by
  have hkeep : ¬ (decide (c.toNat < 0x20) || decide (c = '\\')) = true := by
    simp [hescape, hc]
  rw [readPieces]
  · exact if_neg hkeep
  · exact fun heq => hquote heq
  · exact fun _ _ _ _ _ heq _ => hescape heq
  · exact fun _ _ heq _ => hescape heq

/-- An escape with a letter. -/
theorem readPieces_short {c e : Char} (he : shortEscape? c = some e) (r : Text) :
    readPieces ('\\' :: c :: r)
      = (readPieces r).map fun (ps, rest) => (.char e :: ps, rest) := by
  have hletter : c ≠ 'u' := by
    rintro rfl
    cases he
  rw [readPieces]
  · rw [he]
  · exact fun _ _ _ _ _ heq _ => hletter heq

/-- An escape with a number. -/
theorem readPieces_unit {a b c d : Char} {n : Nat} (hn : hexQuad? a b c d = some n) (r : Text) :
    readPieces ('\\' :: 'u' :: a :: b :: c :: d :: r)
      = (readPieces r).map fun (ps, rest) => (.unit n :: ps, rest) := by
  rw [readPieces, hn]

theorem readPieces_append {ps : List Piece} {s : Text} (h : SpellsPieces ps s) (rest : Text) :
    readPieces (s ++ '"' :: rest) = some (ps, rest) := by
  induction h with
  | nil => rw [List.nil_append, readPieces]
  | plain hc hquote hescape h ih =>
    rw [List.cons_append, readPieces_plain hc hquote hescape, ih]
    rfl
  | short he h ih =>
    rw [List.cons_append, List.cons_append, readPieces_short (shortEscape?_eq_some_iff.mpr he), ih]
    rfl
  | unit hn h ih =>
    simp only [List.cons_append]
    rw [readPieces_unit hn, ih]
    rfl

/-- Where the reader puts a piece in front, it has read the others. -/
theorem exists_of_map_cons {p : Piece} {ps : List Piece} {x : Option (List Piece × Text)} {rest : Text}
    (h : x.map (fun (qs, r) => (p :: qs, r)) = some (ps, rest)) :
    ∃ qs, x = some (qs, rest) ∧ ps = p :: qs := by
  obtain ⟨⟨qs, r⟩, rfl, heq⟩ := Option.map_eq_some_iff.mp h
  obtain ⟨rfl, rfl⟩ := Prod.mk.inj heq
  exact ⟨qs, rfl, rfl⟩

/-- Pieces are read from a text that spells them, up to a quote. -/
theorem exists_spellsPieces {t rest : Text} {ps : List Piece} (h : readPieces t = some (ps, rest)) :
    ∃ s, SpellsPieces ps s ∧ t = s ++ '"' :: rest := by
  fun_induction readPieces t generalizing ps with
  | case1 => cases h
  | case2 r =>
    obtain ⟨rfl, rfl⟩ := Prod.mk.inj (Option.some.inj h)
    exact ⟨[], .nil, rfl⟩
  | case3 a b c d r n hn ih =>
    obtain ⟨qs, hr, rfl⟩ := exists_of_map_cons h
    obtain ⟨s, hs, rfl⟩ := ih hr
    exact ⟨_, .unit hn hs, rfl⟩
  | case4 => cases h
  | case5 c r hu e he ih =>
    obtain ⟨qs, hr, rfl⟩ := exists_of_map_cons h
    obtain ⟨s, hs, rfl⟩ := ih hr
    exact ⟨_, .short (shortEscape?_eq_some_iff.mp he) hs, rfl⟩
  | case6 => cases h
  | case7 => cases h
  | case8 c r hquote hu hescape hc ih =>
    obtain ⟨qs, hr, rfl⟩ := exists_of_map_cons h
    obtain ⟨s, hs, rfl⟩ := ih hr
    simp only [Bool.or_eq_true, decide_eq_true_eq, not_or, Nat.not_lt] at hc
    exact ⟨_, .plain hc.1 hquote hc.2 hs, rfl⟩

/-! ## The text of pieces -/

theorem isHighSurrogate_iff {n : Nat} : isHighSurrogate n = true ↔ 0xD800 ≤ n ∧ n < 0xDC00 := by
  simp [isHighSurrogate]

theorem isLowSurrogate_iff {n : Nat} : isLowSurrogate n = true ↔ 0xDC00 ≤ n ∧ n < 0xE000 := by
  simp [isLowSurrogate]

/-- The two halves together are all surrogates. -/
theorem isSurrogate_iff {n : Nat} :
    IsSurrogate n ↔ isHighSurrogate n = true ∨ isLowSurrogate n = true := by
  rw [isHighSurrogate_iff, isLowSurrogate_iff, IsSurrogate]
  omega

theorem textOfPieces_unit {n : Nat} (hn : ¬ IsSurrogate n) (ps : List Piece) :
    textOfPieces (.unit n :: ps) = (textOfPieces ps).map (Char.ofNat n :: ·) := by
  obtain ⟨hhigh, hlow⟩ := not_or.mp (isSurrogate_iff.not.mp hn)
  cases ps with
  | nil => simp [textOfPieces, hhigh, hlow]
  | cons p ps =>
    cases p with
    | char c => simp [textOfPieces, hhigh, hlow]
    | unit low => rw [textOfPieces, if_neg hhigh, if_neg hlow]

theorem textOfPieces_of_denotes {ps : List Piece} {t : Text} (h : Denotes ps t) :
    textOfPieces ps = some t := by
  induction h with
  | nil => rfl
  | char h ih => rw [textOfPieces, ih, Option.map_some]
  | unit hn h ih => rw [textOfPieces_unit hn, ih, Option.map_some]
  | pair hhigh hlow h ih =>
    rw [textOfPieces, if_pos (isHighSurrogate_iff.mpr hhigh), if_pos (isLowSurrogate_iff.mpr hlow), ih,
      Option.map_some]

theorem denotes_of_textOfPieces {ps : List Piece} {t : Text} (h : textOfPieces ps = some t) :
    Denotes ps t := by
  fun_induction textOfPieces ps generalizing t with
  | case1 =>
    obtain rfl := Option.some.inj h
    exact .nil
  | case2 c r ih =>
    obtain ⟨t, ht, rfl⟩ := Option.map_eq_some_iff.mp h
    exact .char (ih ht)
  | case3 high low r hhigh hlow ih =>
    obtain ⟨t, ht, rfl⟩ := Option.map_eq_some_iff.mp h
    exact .pair (isHighSurrogate_iff.mp hhigh) (isLowSurrogate_iff.mp hlow) (ih ht)
  -- half of a pair stands in front of what is not the other half, or stands behind none
  | case4 => cases h
  | case5 => cases h
  | case6 high low r hhigh hlow ih =>
    obtain ⟨t, ht, rfl⟩ := Option.map_eq_some_iff.mp h
    exact .unit (isSurrogate_iff.not.mpr (not_or.mpr ⟨hhigh, hlow⟩)) (ih ht)
  | case7 => cases h
  | case8 n r hpair hn ih =>
    obtain ⟨t, ht, rfl⟩ := Option.map_eq_some_iff.mp h
    rw [Bool.or_eq_true] at hn
    exact .unit (isSurrogate_iff.not.mpr hn) (ih ht)

theorem textOfPieces_eq_some_iff {ps : List Piece} {t : Text} :
    textOfPieces ps = some t ↔ Denotes ps t :=
  ⟨denotes_of_textOfPieces, textOfPieces_of_denotes⟩

/-! ## Reading a string -/

/-- The reader takes a string for what it stands for, whatever follows it, and takes nothing else for a
string. -/
theorem readString_eq_some_iff {t rest : Text} {content : Option Text} :
    readString t = some (content, rest) ↔
      ∃ s, SpellsString content s ∧ '"' :: t = s ++ rest := by
  unfold readString
  constructor
  · intro h
    obtain ⟨⟨ps, r⟩, hps, heq⟩ := Option.map_eq_some_iff.mp h
    obtain ⟨rfl, rfl⟩ := Prod.mk.inj heq
    obtain ⟨inner, hinner, rfl⟩ := exists_spellsPieces hps
    refine ⟨'"' :: (inner ++ ['"']), ⟨ps, inner, hinner, rfl, fun t => textOfPieces_eq_some_iff⟩, ?_⟩
    simp
  · rintro ⟨s, ⟨ps, inner, hinner, rfl, hcontent⟩, heq⟩
    obtain rfl : t = inner ++ '"' :: rest := by simpa using heq
    have hsame : textOfPieces ps = content :=
      Option.ext fun t => textOfPieces_eq_some_iff.trans (hcontent t).symm
    rw [readPieces_append hinner, ← hsame, Option.map_some]

/-! ## Writing a string -/

/-- The digits that the writer uses are read as the numbers that they stand for. -/
theorem hexValue_digit : ∀ d < 16,
    Text.isHexDigit (Char.ofNat (if d < 10 then 48 + d else 87 + d)) = true ∧
      Text.hexValue (Char.ofNat (if d < 10 then 48 + d else 87 + d)) = d := by
  decide

theorem hexQuad?_hexByte {n : Nat} (h : n < 256) :
    ∃ a b, hexByte n = [a, b] ∧ hexQuad? '0' '0' a b = some n := by
  obtain ⟨hhigh, hhighValue⟩ := hexValue_digit (n / 16 % 16) (by omega)
  obtain ⟨hlow, hlowValue⟩ := hexValue_digit (n % 16) (by omega)
  refine ⟨_, _, rfl, ?_⟩
  unfold hexQuad?
  rw [hhighValue, hlowValue, if_pos]
  · have hzero : Text.hexValue '0' = 0 := rfl
    rw [hzero]
    congr 1
    omega
  · have hzero : Text.isHexDigit '0' = true := rfl
    simp only [List.all_cons, List.all_nil, hzero, hhigh, hlow, Bool.and_self]

/-- What the writer puts for a character is one piece, and stands for that character. -/
theorem exists_piece_escapeChar (c : Char) {ps : List Piece} {s t : Text} (hs : SpellsPieces ps s)
    (ht : Denotes ps t) :
    ∃ p, SpellsPieces (p :: ps) (escapeChar c ++ s) ∧ Denotes (p :: ps) (c :: t) := by
  -- the writer has letters for all that must be escaped but most control characters
  have hshort : ∀ letter, (letter, c) ∈ shortEscapes →
      ∃ p, SpellsPieces (p :: ps) (['\\', letter] ++ s) ∧ Denotes (p :: ps) (c :: t) :=
    fun letter hletter => ⟨.char c, .short hletter hs, .char ht⟩
  unfold escapeChar
  split_ifs with hquote hescape hn hr ht' hb hf hc
  · exact hshort '"' (by simp [shortEscapes, hquote])
  · exact hshort '\\' (by simp [shortEscapes, hescape])
  · exact hshort 'n' (by simp [shortEscapes, hn])
  · exact hshort 'r' (by simp [shortEscapes, hr])
  · exact hshort 't' (by simp [shortEscapes, ht'])
  · exact hshort 'b' (by simp [shortEscapes, hb])
  · exact hshort 'f' (by simp [shortEscapes, hf])
  · obtain ⟨a, b, hab, hquad⟩ := hexQuad?_hexByte (n := c.toNat) (by omega)
    rw [hab]
    have hnot : ¬ IsSurrogate c.toNat := fun hsurrogate => by
      have := hsurrogate.1
      omega
    refine ⟨.unit c.toNat, .unit hquad hs, ?_⟩
    simpa only [Char.ofNat_toNat] using Denotes.unit hnot ht
  · exact ⟨.char c, .plain (Nat.le_of_not_lt hc) hquote hescape hs, .char ht⟩

/-- What the writer puts for a text between quotes stands for it. -/
theorem exists_spellsPieces_flatMap (t : Text) :
    ∃ ps, SpellsPieces ps (t.flatMap escapeChar) ∧ Denotes ps t := by
  induction t with
  | nil => exact ⟨[], .nil, .nil⟩
  | cons c t ih =>
    obtain ⟨ps, hs, ht⟩ := ih
    obtain ⟨p, hp⟩ := exists_piece_escapeChar c hs ht
    exact ⟨p :: ps, by rwa [List.flatMap_cons]⟩

/-- The writer spells the text that it is given. -/
theorem spellsString_quote (t : Text) : SpellsString (some t) (quote t) := by
  obtain ⟨ps, hs, ht⟩ := exists_spellsPieces_flatMap t
  refine ⟨ps, _, hs, rfl, fun t' => ?_⟩
  rw [← textOfPieces_eq_some_iff, textOfPieces_of_denotes ht]

end ChatScribe.Json
