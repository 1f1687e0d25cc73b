import ChatScribe.Charset.Decode

/-!
# Guessing an encoding

A page without a declaration is read in the encoding that its bytes look like. Bytes that are UTF-8 are
UTF-8, and escape sequences among plain bytes are ISO-2022-JP. For other bytes each remaining encoding
has a score, which says how much of what it reads looks like a language written in it; Western European
is what is left when no score is above zero.
-/

namespace ChatScribe.Charset

/-- Does every byte belong to ASCII? -/
def allAscii (bs : List UInt8) : Bool := bs.all isAscii

/-! ## Encodings of two bytes per character -/

def isIdeograph (c : Char) : Bool := 0x4E00 ≤ c.toNat && c.toNat ≤ 0x9FFF

def isHangul (c : Char) : Bool := 0xAC00 ≤ c.toNat && c.toNat ≤ 0xD7A3

/-- How typical a character is of East Asian text. -/
def ideographScore (c : Char) : Int :=
  let n := c.toNat
  if 0x3040 ≤ n && n ≤ 0x30FF then 2
  else if isIdeograph c then 2
  else if isHangul c then 3
  else if 0x3000 ≤ n && n ≤ 0x303F then 1
  else if 0xFF61 ≤ n && n ≤ 0xFF9F then -2
  else if 0xE000 ≤ n && n ≤ 0xF8FF then -4
  else if n < 0x80 then 0
  else -1

/-- The pairs of neighbouring characters. -/
def pairs : Text → List (Char × Char)
  | c :: d :: r => (c, d) :: pairs (d :: r)
  | _ => []

/-- A Latin letter next to an ideograph is not typical, and a Korean syllable next to one neither. -/
def adjacencyScore (p : Char × Char) : Int :=
  let wide (c : Char) : Bool := 0x3040 ≤ c.toNat
  if (Text.isAsciiAlpha p.1 && wide p.2) || (wide p.1 && Text.isAsciiAlpha p.2) then -3
  else if (isHangul p.1 && isIdeograph p.2) || (isIdeograph p.1 && isHangul p.2) then -3
  else 0

/-- Common characters stand in the first half of each standard. -/
def isCommonLead (c : Charset) (b : UInt8) : Bool :=
  let n := b.toNat
  match c with
  | .gbk => 0xB0 ≤ n && n ≤ 0xD7
  | .big5 => 0xA4 ≤ n && n ≤ 0xC6
  | .eucKr => 0xB0 ≤ n && n ≤ 0xC8
  | .eucJp => (0xA4 ≤ n && n ≤ 0xA5) || (0xB0 ≤ n && n ≤ 0xCF)
  | .shiftJis => (0x82 ≤ n && n ≤ 0x83) || (0x88 ≤ n && n ≤ 0x97)
  | _ => false

def sum (ns : List Int) : Int := ns.foldl (· + ·) 0

def wideScore (c : Charset) (bs : List UInt8) (t : Text) : Int :=
  let common : Int := (bs.filter (isCommonLead c)).length
  if 2 ≤ (t.filter fun x => 0x3040 ≤ x.toNat).length then
    2 * sum (t.map ideographScore) + common + 4 * sum ((pairs t).map adjacencyScore)
  else 0

/-! ## Encodings of one byte per character -/

/-- A script that is not Latin: a code page for it, its small letters, its other letters, and the
letters that are common in its languages. -/
structure Script where
  page : CodePage
  small : Char → Bool
  capital : Char → Bool
  common : Text

def within (low high : Nat) (c : Char) : Bool := low ≤ c.toNat && c.toNat ≤ high

def cyrillic (page : CodePage) : Script :=
  ⟨page, within 0x430 0x45F, within 0x400 0x42F, "оеаинтсрвлкмдпуья".toList⟩

def scripts : List Script :=
  [ cyrillic .windows1251, cyrillic .koi8U, cyrillic .iso8859p5, cyrillic .ibm866,
    ⟨.windows1253, within 0x3AC 0x3CE, within 0x386 0x3AB, "αοιτεσνηρςυκπμλάέίόή".toList⟩,
    ⟨.windows1255, within 0x5D0 0x5EA, within 0x5B0 0x5CF, "יוהלאבתמרשםן".toList⟩,
    ⟨.windows1256, within 0x621 0x652, within 0x660 0x6D5, "اليمنرتبوهسدع".toList⟩,
    ⟨.windows874, within 0xE01 0xE3A, within 0xE3F 0xE5B, "านรอกงมยลวดทสตปบคหเแไ".toList⟩]

namespace Script

/-- How typical a character is of a script. Anything that is no letter is not. -/
def letterScore (s : Script) (c : Char) : Int :=
  if c.toNat < 0x80 then 0
  else if s.common.contains c then 3
  else if s.small c || s.capital c then 1
  else -3

/-- A small letter in front of a capital is not typical, nor is a letter next to a Latin one. -/
def pairScore (s : Script) (p : Char × Char) : Int :=
  let letter (c : Char) : Bool := s.small c || s.capital c
  if s.small p.1 && s.capital p.2 then -4
  else if (letter p.1 && Text.isAsciiAlpha p.2) || (Text.isAsciiAlpha p.1 && letter p.2) then -6
  else if s.small p.1 && s.small p.2 then 1
  else 0

/-- A few letters alone say nothing. -/
def score (s : Script) (t : Text) : Int :=
  sum (t.map s.letterScore) + sum ((pairs t).map s.pairScore) - 6

end Script

/-- Latvian has a long i between small letters, where the Western European letter with that byte hardly
ever stands. -/
def isBaltic (bs : List UInt8) : Bool :=
  let isSmall (b : UInt8) : Bool := 0x61 ≤ b.toNat && b.toNat ≤ 0x7A
  let rec go : List UInt8 → Bool
    | a :: b :: c :: r => (isSmall a && b.toNat == 0xEF && isSmall c) || go (b :: c :: r)
    | _ => false
  bs.all (fun b => isAscii b || b.toNat == 0xEF) && go bs

/-! ## The guess -/

/-- The encodings that are scored, each with its score. One that cannot read the bytes has none. -/
def scores (bs : List UInt8) : List (Charset × Int) :=
  let wide := [Charset.gbk, .eucJp, .eucKr, .shiftJis, .big5].filterMap fun c =>
    (c.decode? bs).map fun t => (c, wideScore c bs t)
  let narrow := scripts.filterMap fun s =>
    (s.page.decode? bs).map fun t => (Charset.page s.page, s.score t)
  wide ++ narrow

/-- The entry with the highest score, the first of equals. -/
def best : Charset × Int → List (Charset × Int) → Charset × Int
  | b, [] => b
  | b, x :: xs => best (if b.2 < x.2 then x else b) xs

/-- The encoding that bytes look like. -/
def detect (bs : List UInt8) : Charset :=
  if allAscii bs && bs.contains 0x1B && (decode? .iso2022Jp bs).isSome then .iso2022Jp
  else if (Utf8.decode? bs).isSome then .utf8
  else if isBaltic bs then .page .iso8859p4
  else (best (.page .windows1252, 0) (scores bs)).1

end ChatScribe.Charset
