import StoryEngine.Json.Record
import StoryEngine.Text.Blank
import StoryEngine.Text.Numeral

/-!
# Timestamps

Points in time in UTC, read from the date and time notation of RFC 3339 with an offset and written
in the same notation. Reading allows blanks between the parts and a space in place of `T`. The
calendar has a first and a last year, and a point in time must lie within it both at its offset and
in UTC.
-/

namespace StoryEngine

/-- A point in time in UTC. -/
structure Timestamp where
  /-- Days since 1 January 1970. -/
  day : Int
  /-- Seconds of the day. -/
  second : Nat
  /-- Nanoseconds of the second; a leap second runs on beyond the first thousand million. -/
  nano : Nat
  deriving DecidableEq, Repr

namespace Timestamp

/-- Nanoseconds of a second. -/
def nanosPerSecond : Nat := 1000000000

/-- Seconds of a day. -/
def secondsPerDay : Nat := 86400

/-- Whether a year of the Gregorian calendar has a leap day. -/
def isLeapYear (year : Int) : Bool :=
  year % 4 = 0 && (year % 100 ≠ 0 || year % 400 = 0)

/-- Length of a month. -/
def daysInMonth (year : Int) (month : Nat) : Nat :=
  if month = 2 then (if isLeapYear year then 29 else 28)
  else if month ∈ [4, 6, 9, 11] then 30
  else 31

/-- Days from 1 January 1970 to a date. Years are counted from March, in eras of 400 years. -/
def dayOfDate (year : Int) (month dayOfMonth : Nat) : Int :=
  let marchYear := if month ≤ 2 then year - 1 else year
  let era := marchYear / 400
  let yearOfEra := marchYear - era * 400
  let marchMonth : Int := if month ≤ 2 then month + 9 else month - 3
  let dayOfYear := (153 * marchMonth + 2) / 5 + dayOfMonth - 1
  let dayOfEra := yearOfEra * 365 + yearOfEra / 4 - yearOfEra / 100 + dayOfYear
  era * 146097 + dayOfEra - 719468

/-- Year, month and day of the month of a day. -/
def dateOfDay (day : Int) : Int × Nat × Nat :=
  let shifted := day + 719468
  let era := shifted / 146097
  let dayOfEra := shifted - era * 146097
  let yearOfEra := (dayOfEra - dayOfEra / 1460 + dayOfEra / 36524 - dayOfEra / 146096) / 365
  let dayOfYear := dayOfEra - (365 * yearOfEra + yearOfEra / 4 - yearOfEra / 100)
  let marchMonth := (5 * dayOfYear + 2) / 153
  let dayOfMonth := dayOfYear - (153 * marchMonth + 2) / 5 + 1
  let month := if marchMonth < 10 then marchMonth + 3 else marchMonth - 9
  let year := yearOfEra + era * 400 + (if month ≤ 2 then 1 else 0)
  (year, month.toNat, dayOfMonth.toNat)

/-- The first year of the calendar. -/
def firstYear : Int := -262143

/-- The last year of the calendar. -/
def lastYear : Int := 262142

/-- Whether a day lies within the calendar. -/
def inCalendar (day : Int) : Bool :=
  dayOfDate firstYear 1 1 ≤ day && day ≤ dayOfDate lastYear 12 31

/-- Reads from one to `limit` digits, or any number of them if there is no limit. -/
def readNumber (limit : Option Nat) (cs : List Char) : Option (Nat × List Char) :=
  let digits := cs.takeWhile Char.isDigit
  let taken := match limit with
    | some n => digits.take n
    | none => digits
  if taken = [] then none else some (Text.digitsValue taken, cs.drop taken.length)

/-- Reads a number of at most two digits in a range, after blanks. -/
def readPart (least greatest : Nat) (cs : List Char) : Option (Nat × List Char) := do
  let (n, rest) ← readNumber (some 2) (Text.skipBlanks cs)
  if least ≤ n ∧ n ≤ greatest then pure (n, rest) else none

/-- Reads a year: four digits at most, or any number of them after a sign. -/
def readYear (cs : List Char) : Option (Int × List Char) := do
  let (year, rest) ← match Text.skipBlanks cs with
    | '-' :: rest => (readNumber none rest).map fun (n, rest) => (-(n : Int), rest)
    | '+' :: rest => (readNumber none rest).map fun (n, rest) => ((n : Int), rest)
    | cs => (readNumber (some 4) cs).map fun (n, rest) => ((n : Int), rest)
  if firstYear ≤ year ∧ year ≤ lastYear then pure (year, rest) else none

/-- Reads a mark, after blanks. -/
def readMark (mark : Char) (cs : List Char) : Option (List Char) :=
  match Text.skipBlanks cs with
  | c :: rest => if c = mark then some rest else none
  | [] => none

/-- Reads a fraction of a second, if there is one; the first nine digits count. -/
def readFraction : List Char → Option (Nat × List Char)
  | '.' :: cs =>
    let digits := cs.takeWhile Char.isDigit
    let counted := digits.take 9
    if digits = [] then none
    else
      let nanoseconds := Text.digitsValue counted * Nat.pow 10 (9 - counted.length)
      some (nanoseconds, cs.dropWhile Char.isDigit)
  | cs => some (0, cs)

/-- Reads hours and minutes of an offset, in minutes; blanks and colons may stand between them. -/
def readOffsetMinutes : List Char → Option (Nat × List Char)
  | a :: b :: rest =>
    if a.isDigit && b.isDigit then
      match rest.dropWhile fun c => c = ':' || Text.isBlank c with
      | c :: d :: rest =>
        if '0' ≤ c && c ≤ '5' && d.isDigit then
          let minutes := 60 * Text.digitsValue [a, b] + Text.digitsValue [c, d]
          if minutes < 1440 then some (minutes, rest) else none
        else none
      | _ => none
    else none
  | _ => none

/-- Reads an offset from UTC, in minutes. -/
def readOffset (cs : List Char) : Option (Int × List Char) :=
  match cs with
  | 'Z' :: rest | 'z' :: rest => some (0, rest)
  | '+' :: rest => (readOffsetMinutes rest).map fun (n, rest) => ((n : Int), rest)
  | '-' :: rest | '−' :: rest => (readOffsetMinutes rest).map fun (n, rest) => (-(n : Int), rest)
  | u :: t :: c :: rest =>
    if [u.toLower, t.toLower, c.toLower] = ['u', 't', 'c'] then some (0, rest) else none
  | _ => none

/-- The point in time of a local date and time at an offset, in minutes, from UTC. -/
def ofLocal (day : Int) (second nano : Nat) (offset : Int) : Timestamp :=
  let shifted : Int := second - offset * 60
  { day := day + shifted / secondsPerDay
    second := (shifted % secondsPerDay).toNat
    nano := nano }

/-- Reads the mark between date and time. -/
def readSeparator : List Char → Option (List Char)
  | 'T' :: rest | 't' :: rest | ' ' :: rest => some rest
  | _ => none

/-- Reads a point in time. -/
def ofText? (text : String) : Option Timestamp := do
  let (year, rest) ← readYear text.toList
  let rest ← readMark '-' rest
  let (month, rest) ← readPart 1 12 rest
  let rest ← readMark '-' rest
  let (dayOfMonth, rest) ← readPart 1 31 rest
  let rest ← readSeparator rest
  let (hour, rest) ← readPart 0 23 rest
  let rest ← readMark ':' rest
  let (minute, rest) ← readPart 0 59 rest
  let rest ← readMark ':' rest
  let (second, rest) ← readPart 0 60 rest
  let (nano, rest) ← readFraction rest
  let (offset, rest) ← readOffset (Text.skipBlanks rest)
  if Text.skipBlanks rest ≠ [] then none
  if daysInMonth year month < dayOfMonth then none
  let (second, nano) := if second = 60 then (59, nano + nanosPerSecond) else (second, nano)
  let localDay := dayOfDate year month dayOfMonth
  let time := ofLocal localDay ((hour * 60 + minute) * 60 + second) nano offset
  if inCalendar time.day then pure time else none

/-- A number with leading zeros up to a width. -/
def padded (width n : Nat) : List Char :=
  let digits := Nat.toDigits 10 n
  List.replicate (width - digits.length) '0' ++ digits

/-- A year: four digits, or a sign and more where four do not hold it. -/
def yearChars (year : Int) : List Char :=
  if 0 ≤ year ∧ year ≤ 9999 then padded 4 year.toNat
  else (if year < 0 then '-' else '+') :: padded 4 year.natAbs

/-- A fraction of a second in thousandths, millionths or nanoseconds, whichever is exact first. -/
def fractionChars (nano : Nat) : List Char :=
  if nano = 0 then []
  else if nano % 1000000 = 0 then '.' :: padded 3 (nano / 1000000)
  else if nano % 1000 = 0 then '.' :: padded 6 (nano / 1000)
  else '.' :: padded 9 nano

/-- The point in time in UTC. -/
def toText (time : Timestamp) : String :=
  let (year, month, dayOfMonth) := dateOfDay time.day
  let second := time.second % 60 + time.nano / nanosPerSecond
  String.ofList <|
    yearChars year ++ '-' :: padded 2 month ++ '-' :: padded 2 dayOfMonth ++
      'T' :: padded 2 (time.second / 3600) ++ ':' :: padded 2 (time.second / 60 % 60) ++
      ':' :: padded 2 second ++ fractionChars (time.nano % nanosPerSecond) ++ ['Z']

/-- Reads a point in time from a JSON string. -/
def ofRaw (raw : Json.Raw) : Json.Decoded Timestamp := do
  match ofText? (← raw.text) with
  | some time => pure time
  | none => throw (.unexpected "a date and time")

end Timestamp

end StoryEngine
