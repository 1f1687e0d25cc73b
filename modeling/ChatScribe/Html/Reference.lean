import ChatScribe.Html.Entity

/-!
# Character references

What an ampersand in a page stands for: `read` takes the text behind it and answers with the
characters meant and the text that follows, or with nothing when the ampersand means itself.
-/

namespace ChatScribe.Html.Reference

/-- The character put in place of what is none. -/
def replacement : Char := '\uFFFD'

/-- The characters that the numbers from 128 to 159 stand for, as in the code page of western
Windows. Zero marks the five numbers that stand for themselves. -/
def highControls : List Nat :=
  [0x20AC, 0, 0x201A, 0x0192, 0x201E, 0x2026, 0x2020, 0x2021, 0x02C6, 0x2030, 0x0160, 0x2039,
    0x0152, 0, 0x017D, 0, 0, 0x2018, 0x2019, 0x201C, 0x201D, 0x2022, 0x2013, 0x2014, 0x02DC,
    0x2122, 0x0161, 0x203A, 0x0153, 0, 0x017E, 0x0178]

/-- The character with a number. Zero, surrogates and numbers past the last character have none. -/
def ofNumber (n : Nat) : Char :=
  if n = 0 || n > 0x10FFFF || (0xD800 ≤ n && n ≤ 0xDFFF) then replacement
  else if 0x80 ≤ n && n ≤ 0x9F then
    match highControls[n - 0x80]?.getD 0 with
    | 0 => Char.ofNat n
    | m => Char.ofNat m
  else Char.ofNat n

/-- Drops the semicolon at the front, if there is one. -/
def dropSemicolon : Text → Text
  | ';' :: r => r
  | t => t

/-- Reads the number of a character behind its hash mark. -/
def readNumber (t : Text) : Option (Text × Text) :=
  match t with
  | 'x' :: r | 'X' :: r =>
    let digits := r.takeWhile Text.isHexDigit
    if digits.isEmpty then none
    else some ([ofNumber (Entity.hexNumber digits)], dropSemicolon (r.dropWhile Text.isHexDigit))
  | _ =>
    let digits := t.takeWhile Text.isAsciiDigit
    if digits.isEmpty then none
    else
      let n := Text.decimal digits
      some ([ofNumber n], dropSemicolon (t.dropWhile Text.isAsciiDigit))

/-- The longest of the first `n` characters of `run` that is a name without semicolon. Inside of an
attribute such a name does not count if a letter, a digit or an equals sign follows. -/
def readBare (inAttribute : Bool) (run rest : Text) : Nat → Option (Text × Text)
  | 0 => none
  | n + 1 =>
    let name := run.take (n + 1)
    match Entity.lookupBare? name with
    | some cs =>
      let rest := run.drop (n + 1) ++ rest
      if inAttribute && rest.head?.any (fun c => c == '=' || Text.isAsciiAlphanum c) then none
      else some (cs, rest)
    | none => readBare inAttribute run rest n

/-- Reads the name of a character: the longest name that the text starts with. -/
def readName (inAttribute : Bool) (t : Text) : Option (Text × Text) :=
  let run := t.takeWhile Text.isAsciiAlphanum
  let rest := t.dropWhile Text.isAsciiAlphanum
  let named := match rest with
    | ';' :: r => (Entity.lookup? run).map fun cs => (cs, r)
    | _ => none
  match named with
  | some found => some found
  | none => readBare inAttribute run rest (min run.length Entity.maxLength)

/-- Reads a reference behind its ampersand. -/
def read (inAttribute : Bool) (t : Text) : Option (Text × Text) :=
  match t with
  | '#' :: r => readNumber r
  | _ => readName inAttribute t

end ChatScribe.Html.Reference
