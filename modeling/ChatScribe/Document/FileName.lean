import ChatScribe.Document.Title

/-!
# File names of saved documents

A document is saved as `GeminiChatRecord-<day>-<time>-<title>.md`, with the local time of the save
and the title that its first line shows.
-/

namespace ChatScribe

/-- A valid day and time of the calendar, as far as a file name shows it. A leap second is second
sixty. -/
structure Moment where
  year : Int
  month : Nat
  day : Nat
  hour : Nat
  minute : Nat
  second : Nat
deriving Repr, DecidableEq

namespace Moment

def isLeapYear (year : Int) : Bool := year % 4 == 0 && (year % 100 != 0 || year % 400 == 0)

/-- The number of days of a month; a month that does not exist has none. -/
def daysIn (year : Int) (month : Nat) : Nat :=
  match month with
  | 1 | 3 | 5 | 7 | 8 | 10 | 12 => 31
  | 4 | 6 | 9 | 11 => 30
  | 2 => if isLeapYear year then 29 else 28
  | _ => 0

/-- The moment of a calendar day and a time of day, if both exist. Years run over the range that
days can be counted in. A second may be given more than a thousand million nanoseconds at the end
of a minute only: it is then the leap second. -/
def ofParts? (year : Int) (month day hour minute second nanosecond : Nat) : Option Moment :=
  let dayExists := -262143 ≤ year && year ≤ 262142 && 1 ≤ day && day ≤ daysIn year month
  let timeExists := hour < 24 && minute < 60 && second < 60 &&
    (nanosecond < 1000000000 || (second == 59 && nanosecond < 2000000000))
  if dayExists && timeExists then
    some ⟨year, month, day, hour, minute, if nanosecond < 1000000000 then second else second + 1⟩
  else none

/-- A number with zeros in front up to a width. -/
def padded (width n : Nat) : Text :=
  let digits := Text.ofNat n
  List.replicate (width - digits.length) '0' ++ digits

/-- A year has four digits; outside of these it has a sign in front and may have more. -/
def yearText (year : Int) : Text :=
  if 0 ≤ year ∧ year ≤ 9999 then padded 4 year.toNat
  else (if year < 0 then '-' else '+') :: padded 4 year.natAbs

/-- Day and time, as `YYYYMMDD-HHMMSS`. -/
def stamp (m : Moment) : Text :=
  yearText m.year ++ padded 2 m.month ++ padded 2 m.day ++
    '-' :: padded 2 m.hour ++ padded 2 m.minute ++ padded 2 m.second

end Moment

namespace FileName

/-- The title of a document without a usable heading. -/
def untitled : Text := "Untitled".toList

/-- At most this many characters of a title go into a file name. -/
def maxTitleLength : Nat := 80

/-- The first line of a document, without its line end. A document that holds no character has no
line. -/
def firstLine (markdown : Text) : Text :=
  let line := markdown.takeWhile (· != '\n')
  if line.length < markdown.length then (Text.dropSuffix? ['\r'] line).getD line else line

/-- Drops a leading brand together with the white space behind it. -/
def stripBrand (t : Text) : Text := ((Title.dropBrand? t).map Text.trimStart).getD t

/-- A heading made fit for a file name. -/
def titlePart (raw : Text) : Text :=
  (Title.joinWords ((stripBrand raw.trim).filter Title.isTitleChar)).take maxTitleLength

/-- The title in the name of a document: that of a first line that starts with a hash. -/
def titleOf (markdown : Text) : Text :=
  match firstLine markdown with
  | '#' :: heading =>
    let title := titlePart heading
    if title.isEmpty then untitled else title
  | _ => untitled

/-- The name under which a document is saved. -/
def ofDocument (markdown : Text) (savedAt : Moment) : Text :=
  "GeminiChatRecord-".toList ++ savedAt.stamp ++ '-' :: titleOf markdown ++ ".md".toList

end FileName

end ChatScribe
