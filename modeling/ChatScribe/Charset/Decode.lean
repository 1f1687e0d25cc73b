import ChatScribe.Charset.Basic
import ChatScribe.Charset.Index.Big5
import ChatScribe.Charset.Index.EucKr
import ChatScribe.Charset.Index.FourByte
import ChatScribe.Charset.Index.Gb18030
import ChatScribe.Charset.Index.Jis0208
import ChatScribe.Charset.Index.Jis0212
import ChatScribe.Text.Utf8

/-!
# From bytes to text

`Charset.decode?` reads bytes in an encoding. It answers only when all of them spell characters: a page
with a malformed byte has no text.
-/

namespace ChatScribe.Charset

/-- The character with a number, if there is one. -/
def ofCode? (n : Nat) : Option Char := if n.isValidChar then some (Char.ofNat n) else none

def isAscii (b : UInt8) : Bool := b.toNat < 0x80

def ofAscii (b : UInt8) : Char := Char.ofNat b.toNat

/-! ## Sixteen-bit units -/

/-- The units that bytes spell in pairs. -/
def units? (order : ByteOrder) : List UInt8 → Option (List Nat)
  | [] => some []
  | [_] => none
  | a :: b :: r =>
    let n := match order with
      | .big => 256 * a.toNat + b.toNat
      | .little => 256 * b.toNat + a.toNat
    (units? order r).map (n :: ·)

/-- The text that units spell: a high and a low half make one character. -/
def ofUnits? : List Nat → Option Text
  | [] => some []
  | [u] => (ofCode? u).map ([·])
  | u :: v :: r =>
    if 0xD800 ≤ u ∧ u < 0xDC00 then
      if 0xDC00 ≤ v ∧ v < 0xE000 then do
        let c ← ofCode? (0x10000 + (u - 0xD800) * 0x400 + (v - 0xDC00))
        (ofUnits? r).map (c :: ·)
      else none
    else do
      let c ← ofCode? u
      (ofUnits? (v :: r)).map (c :: ·)

/-! ## Chinese -/

/-- The number of a two-byte character of GB 18030 or of Big5: `width` numbers for each first byte, in
which the second byte has a gap. -/
def twoByteNumber (width gap low high : Nat) (a b : UInt8) : Nat :=
  (a.toNat - 0x81) * width + (b.toNat - if b.toNat < gap then low else high)

/-- The private characters of GB 18030, in three areas. -/
def gbPrivate? (a b : UInt8) : Option Char :=
  let a := a.toNat
  let b := b.toNat
  if 0xAA ≤ a && a ≤ 0xAF && 0xA1 ≤ b then ofCode? (0xE000 + (a - 0xAA) * 94 + (b - 0xA1))
  else if 0xF8 ≤ a && 0xA1 ≤ b then ofCode? (0xE234 + (a - 0xF8) * 94 + (b - 0xA1))
  else if 0xA1 ≤ a && a ≤ 0xA7 && b ≤ 0xA0 then
    ofCode? (0xE4C6 + (a - 0xA1) * 96 + (b - if b < 0x7F then 0x40 else 0x41))
  else none

def isDigitByte (b : UInt8) : Bool := 0x30 ≤ b.toNat && b.toNat ≤ 0x39

def isLeadByte (b : UInt8) : Bool := 0x81 ≤ b.toNat && b.toNat ≤ 0xFE

/-- Reads GB 18030, of which GBK is read as a part. -/
def gb? : List UInt8 → Option Text
  | [] => some []
  | a :: r =>
    if isAscii a then (gb? r).map (ofAscii a :: ·)
    else if a.toNat = 0x80 then (gb? r).map ('€' :: ·)
    else
      match r with
      | b :: r =>
        if !isLeadByte a then none
        else if isDigitByte b then
          match r with
          | c :: d :: r =>
            if isLeadByte c && isDigitByte d then do
              let n := (((a.toNat - 0x81) * 10 + (b.toNat - 0x30)) * 126 + (c.toNat - 0x81)) * 10 +
                (d.toNat - 0x30)
              let x ← Index.fourByte? n
              (gb? r).map (x :: ·)
            else none
          | _ => none
        else if 0x40 ≤ b.toNat && b.toNat ≤ 0xFE && b.toNat ≠ 0x7F then do
          let x ← (Index.gb18030.get? (twoByteNumber 190 0x7F 0x40 0x41 a b)).or (gbPrivate? a b)
          (gb? r).map (x :: ·)
        else none
      | [] => none

/-- The characters of Big5 that are a letter with a mark. -/
def big5Marked? : Nat → Option Text
  | 1133 => some ['\u00CA', '\u0304']
  | 1135 => some ['\u00CA', '\u030C']
  | 1164 => some ['\u00EA', '\u0304']
  | 1166 => some ['\u00EA', '\u030C']
  | _ => none

/-- The text of a two-byte character of Big5. -/
def big5Text? (n : Nat) : Option Text :=
  (big5Marked? n).or
    (if 942 ≤ n then (Index.big5.get? (n - 942)).map ([·]) else none)

def big5? : List UInt8 → Option Text
  | [] => some []
  | a :: r =>
    if isAscii a then (big5? r).map (ofAscii a :: ·)
    else
      match r with
      | b :: r =>
        let n := b.toNat
        if isLeadByte a && ((0x40 ≤ n && n ≤ 0x7E) || (0xA1 ≤ n && n ≤ 0xFE)) then do
          let t ← big5Text? (twoByteNumber 157 0x7F 0x40 0x62 a b)
          (big5? r).map (t ++ ·)
        else none
      | [] => none

/-! ## Korean -/

def eucKr? : List UInt8 → Option Text
  | [] => some []
  | a :: r =>
    if isAscii a then (eucKr? r).map (ofAscii a :: ·)
    else
      match r with
      | b :: r =>
        if isLeadByte a && 0x41 ≤ b.toNat && b.toNat ≤ 0xFE then do
          let x ← Index.eucKr.get? (twoByteNumber 190 0 0 0x41 a b)
          (eucKr? r).map (x :: ·)
        else none
      | [] => none

/-! ## Japanese -/

/-- The half-width syllable of a byte. -/
def halfKana? (b : UInt8) : Option Char :=
  let n := b.toNat
  if 0xA1 ≤ n ∧ n ≤ 0xDF then ofCode? (0xFF61 + (n - 0xA1)) else none

/-- A byte of a row or of a column, counted from zero. -/
def cell? (b : UInt8) : Option Nat :=
  let n := b.toNat
  if 0xA1 ≤ n ∧ n ≤ 0xFE then some (n - 0xA1) else none

def eucJp? : List UInt8 → Option Text
  | [] => some []
  | a :: r =>
    if isAscii a then (eucJp? r).map (ofAscii a :: ·)
    else
      match r with
      | b :: r =>
        if a.toNat = 0x8E then do
          let x ← halfKana? b
          (eucJp? r).map (x :: ·)
        else if a.toNat = 0x8F then
          match r with
          | c :: r => do
            let x ← Index.jis0212.get? ((← cell? b) * 94 + (← cell? c))
            (eucJp? r).map (x :: ·)
          | [] => none
        else do
          let x ← Index.jis0208.get? ((← cell? a) * 94 + (← cell? b))
          (eucJp? r).map (x :: ·)
      | [] => none

/-- The two-byte character of Shift_JIS with a number. Some numbers are for private use. -/
def shiftJisChar? (n : Nat) : Option Char :=
  if 8836 ≤ n ∧ n ≤ 10715 then ofCode? (0xE000 + (n - 8836)) else Index.jis0208.get? n

def shiftJis? : List UInt8 → Option Text
  | [] => some []
  | a :: r =>
    if a.toNat ≤ 0x80 then (shiftJis? r).map (ofAscii a :: ·)
    else
      match halfKana? a, r with
      | some x, r => (shiftJis? r).map (x :: ·)
      | none, b :: r =>
        let lead := a.toNat
        let trail := b.toNat
        let isLead := (0x81 ≤ lead && lead ≤ 0x9F) || (0xE0 ≤ lead && lead ≤ 0xFC)
        let isTrail := 0x40 ≤ trail && trail ≤ 0xFC && trail ≠ 0x7F
        if isLead && isTrail then do
          let n := (lead - if lead < 0xA0 then 0x81 else 0xC1) * 188 +
            (trail - if trail < 0x7F then 0x40 else 0x41)
          let x ← shiftJisChar? n
          (shiftJis? r).map (x :: ·)
        else none
      | none, [] => none

/-- The character sets that escape sequences of ISO-2022-JP choose. -/
inductive JisSet
  | ascii
  | roman
  | katakana
  | kanji
deriving DecidableEq, Repr

/-- The set that an escape sequence chooses, and the bytes behind it. -/
def jisEscape? : List UInt8 → Option (JisSet × List UInt8)
  | 0x28 :: 0x42 :: r => some (.ascii, r)
  | 0x28 :: 0x4A :: r => some (.roman, r)
  | 0x28 :: 0x49 :: r => some (.katakana, r)
  | 0x24 :: 0x40 :: r => some (.kanji, r)
  | 0x24 :: 0x42 :: r => some (.kanji, r)
  | _ => none

/-- Reads ISO-2022-JP. `fresh` says that an escape sequence has just been read: two of them must have a
character between them. Every step takes a byte, so the number of bytes bounds the steps. -/
def iso2022JpFrom? (set : JisSet) (fresh : Bool) : Nat → List UInt8 → Option Text
  | _, [] => some []
  | 0, _ => none
  | fuel + 1, a :: r =>
    let n := a.toNat
    if n = 0x1B then
      match jisEscape? r with
      | some (set, rest) => if fresh then none else iso2022JpFrom? set true fuel rest
      | none => none
    else
      let one (c? : Option Char) : Option Text := do
        let c ← c?
        (iso2022JpFrom? set false fuel r).map (c :: ·)
      match set with
      | .ascii => one (if n < 0x80 ∧ n ≠ 0x0E ∧ n ≠ 0x0F then some (ofAscii a) else none)
      | .roman =>
        if n = 0x5C then one (some '¥')
        else if n = 0x7E then one (some '‾')
        else one (if n < 0x80 ∧ n ≠ 0x0E ∧ n ≠ 0x0F then some (ofAscii a) else none)
      | .katakana => one (if 0x21 ≤ n ∧ n ≤ 0x5F then ofCode? (0xFF61 + (n - 0x21)) else none)
      | .kanji =>
        match r with
        | b :: r =>
          if 0x21 ≤ n ∧ n ≤ 0x7E ∧ 0x21 ≤ b.toNat ∧ b.toNat ≤ 0x7E then do
            let x ← Index.jis0208.get? ((n - 0x21) * 94 + (b.toNat - 0x21))
            (iso2022JpFrom? set false fuel r).map (x :: ·)
          else none
        | [] => none

/-! ## All encodings -/

/-- The private character of a byte above ASCII. -/
def userChar (b : UInt8) : Char :=
  if isAscii b then ofAscii b else Char.ofNat (0xF780 + (b.toNat - 0x80))

/-- The text that bytes spell in an encoding. -/
def decode? (c : Charset) (bs : List UInt8) : Option Text :=
  match c with
  | .utf8 => Utf8.decode? bs
  | .utf16 order => (units? order bs).bind ofUnits?
  | .page p => p.decode? bs
  | .gbk | .gb18030 => gb? bs
  | .big5 => big5? bs
  | .eucJp => eucJp? bs
  | .eucKr => eucKr? bs
  | .shiftJis => shiftJis? bs
  | .iso2022Jp => iso2022JpFrom? .ascii false bs.length bs
  | .userDefined => some (bs.map userChar)
  | .replacement => if bs.isEmpty then some [] else none

end ChatScribe.Charset
