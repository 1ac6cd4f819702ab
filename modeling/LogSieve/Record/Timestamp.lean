import LogSieve.Text.Blank

/-!
# Timestamps

Points in time of the Gregorian calendar, without a time zone, to the nanosecond. A timestamp is
written to the second, as in `2018-03-01 10:20:30`; `parse?` reads that layout, with some freedom
in blanks, signs and digits, and the internet layout with an offset from universal time.
-/

namespace LogSieve

/-! ### Dates -/

/-- Has the year a 29th of February? -/
def isLeapYear (year : Int) : Bool :=
  year % 4 == 0 && (year % 100 != 0 || year % 400 == 0)

/-- The number of days of a month. -/
def daysInMonth (year : Int) (month : Nat) : Nat :=
  if month = 2 then if isLeapYear year then 29 else 28
  else if month = 4 || month = 6 || month = 9 || month = 11 then 30
  else 31

/-- A day of the calendar. -/
structure Date where
  /-- The year; 0 is the year before year 1. -/
  year : Int
  /-- The month, from 1. -/
  month : Nat
  /-- The day of the month, from 1. -/
  day : Nat
  /-- Years are bounded on both sides. -/
  year_bounded : -262143 ≤ year ∧ year ≤ 262142
  /-- There are twelve months. -/
  month_bounded : 1 ≤ month ∧ month ≤ 12
  /-- The month has the day. -/
  day_bounded : 1 ≤ day ∧ day ≤ daysInMonth year month
deriving DecidableEq

namespace Date

/-- The day of a year, month and day of the month, if there is one. -/
def ofCivil? (year : Int) (month day : Nat) : Option Date :=
  if h : (-262143 ≤ year ∧ year ≤ 262142) ∧ (1 ≤ month ∧ month ≤ 12) ∧
      (1 ≤ day ∧ day ≤ daysInMonth year month) then
    some ⟨year, month, day, h.1, h.2.1, h.2.2⟩
  else none

/-- The day after. -/
def next? (date : Date) : Option Date :=
  if date.day < daysInMonth date.year date.month then
    ofCivil? date.year date.month (date.day + 1)
  else if date.month < 12 then ofCivil? date.year (date.month + 1) 1
  else ofCivil? (date.year + 1) 1 1

/-- The day before. -/
def previous? (date : Date) : Option Date :=
  if 1 < date.day then ofCivil? date.year date.month (date.day - 1)
  else if 1 < date.month then
    ofCivil? date.year (date.month - 1) (daysInMonth date.year (date.month - 1))
  else ofCivil? (date.year - 1) 12 31

end Date

/-! ### Times of day -/

/-- A time of day. Any minute may have a 61st second. -/
structure Clock where
  /-- The hour. -/
  hour : Nat
  /-- The minute. -/
  minute : Nat
  /-- The second; 60 is a leap second. -/
  second : Nat
  /-- The nanosecond within the second. -/
  nano : Nat
  /-- There are 24 hours. -/
  hour_lt : hour < 24
  /-- There are 60 minutes. -/
  minute_lt : minute < 60
  /-- There are at most 61 seconds. -/
  second_le : second ≤ 60
  /-- There are 10^9 nanoseconds. -/
  nano_lt : nano < 1000000000
deriving DecidableEq

/-- The time of day of an hour, minute, second and nanosecond, if there is one. -/
def Clock.ofParts? (hour minute second nano : Nat) : Option Clock :=
  if h : hour < 24 ∧ minute < 60 ∧ second ≤ 60 ∧ nano < 1000000000 then
    some ⟨hour, minute, second, nano, h.1, h.2.1, h.2.2.1, h.2.2.2⟩
  else none

/-- A point in time. -/
structure Timestamp where
  /-- The day. -/
  date : Date
  /-- The time of that day. -/
  clock : Clock
deriving DecidableEq

namespace Timestamp

/-- The point in time of the given parts, if there is one. -/
def ofParts? (year : Int) (month day hour minute second nano : Nat) : Option Timestamp := do
  let date ← Date.ofCivil? year month day
  let clock ← Clock.ofParts? hour minute second nano
  return ⟨date, clock⟩

/-- The timestamp without its fraction of a second. -/
def toSeconds (t : Timestamp) : Timestamp :=
  { t with clock := { t.clock with nano := 0, nano_lt := by decide } }

/-- The nanoseconds since the last second that is no leap second. -/
def nanosecond (t : Timestamp) : Nat :=
  if t.clock.second = 60 then t.clock.nano + 1000000000 else t.clock.nano

/-- The same point in time for a clock that is `minutes` ahead, by less than a day. -/
def ahead? (t : Timestamp) (minutes : Int) : Option Timestamp := do
  let total := (t.clock.hour * 60 + t.clock.minute : Nat) + minutes
  let date ←
    if total < 0 then t.date.previous?
    else if 1440 ≤ total then t.date.next?
    else some t.date
  let within := (total % 1440).toNat
  let clock ← Clock.ofParts? (within / 60) (within % 60) t.clock.second t.clock.nano
  return ⟨date, clock⟩

/-! ### Writing -/

/-- A number with at least `width` digits. -/
def padded (width n : Nat) : List Char :=
  let digits := Nat.toDigits 10 n
  List.replicate (width - digits.length) '0' ++ digits

/-- A year: four digits, and beyond them a sign and at least four digits. -/
def yearChars (year : Int) : List Char :=
  if 0 ≤ year && year ≤ 9999 then padded 4 year.natAbs
  else (if year < 0 then '-' else '+') :: padded 4 year.natAbs

/-- The timestamp to the second. -/
def renderChars (t : Timestamp) : List Char :=
  yearChars t.date.year ++ '-' :: (padded 2 t.date.month ++ '-' :: (padded 2 t.date.day ++
    ' ' :: (padded 2 t.clock.hour ++ ':' :: (padded 2 t.clock.minute ++
      ':' :: padded 2 t.clock.second))))

/-- The timestamp to the second, as in `2018-03-01 10:20:30`. -/
def render (t : Timestamp) : String := String.ofList t.renderChars

/-! ### Reading parts -/

/-- The number written by digits. -/
def digitsValue (digits : List Char) : Nat :=
  digits.foldl (fun n c => n * 10 + (c.toNat - 48)) 0

/-- Reads at least `least` and at most `most` digits. -/
def readDigits (least most : Nat) (text : List Char) : Option (Nat × List Char) :=
  let digits := (text.take most).takeWhile Char.isDigit
  if digits.length < least then none else some (digitsValue digits, text.drop digits.length)

/-- Reads one given character. -/
def readChar (c : Char) : List Char → Option (List Char)
  | [] => none
  | d :: rest => if d = c then some rest else none

/-- Reads a fraction of a second, if one follows: a point and at least one digit. Digits behind the
ninth are dropped. -/
def readNano (text : List Char) : Option (Nat × List Char) :=
  match text with
  | '.' :: rest =>
    let digits := rest.takeWhile Char.isDigit
    if digits.isEmpty then none
    else
      let kept := digits.take 9
      some (digitsValue kept * Nat.pow 10 (9 - kept.length), rest.dropWhile Char.isDigit)
  | _ => some (0, text)

/-! ### The layouts of log files -/

/-- Reads a number of at most two digits behind blanks. -/
def readPart (text : List Char) : Option (Nat × List Char) :=
  readDigits 1 2 (Text.trimStart text)

/-- Reads a year behind blanks: at most four digits, or any number of them behind a sign. -/
def readYear (text : List Char) : Option (Int × List Char) :=
  match Text.trimStart text with
  | '-' :: rest => (readDigits 1 rest.length rest).map fun (n, rest) => (-(n : Int), rest)
  | '+' :: rest => (readDigits 1 rest.length rest).map fun (n, rest) => ((n : Int), rest)
  | rest => (readDigits 1 4 rest).map fun (n, rest) => ((n : Int), rest)

/-- Reads what stands between date and time: blanks, or a `T`. -/
def readSeparator (byLetter : Bool) (text : List Char) : Option (List Char) :=
  if byLetter then readChar 'T' text else some (Text.trimStart text)

/-- The timestamp written in the layout of log files. -/
def parsePlain? (byLetter : Bool) (text : List Char) : Option Timestamp := do
  let (year, rest) ← readYear text
  let (month, rest) ← readPart (← readChar '-' rest)
  let (day, rest) ← readPart (← readChar '-' rest)
  let (hour, rest) ← readPart (← readSeparator byLetter rest)
  let (minute, rest) ← readPart (← readChar ':' rest)
  let (second, rest) ← readPart (← readChar ':' rest)
  let (nano, rest) ← readNano rest
  if rest.isEmpty then ofParts? year month day hour minute second nano else none

/-! ### The internet layout -/

/-- Reads the offset from universal time in minutes: a `Z`, or a sign, hours and minutes. -/
def readOffset (text : List Char) : Option (Int × List Char) := do
  let signed (sign : Int) (rest : List Char) : Option (Int × List Char) := do
    let (hours, rest) ← readDigits 2 2 rest
    let (minutes, rest) ← readDigits 2 2 (← readChar ':' rest)
    if hours < 24 && minutes < 60 then return (sign * (hours * 60 + minutes : Nat), rest) else none
  match text with
  | 'Z' :: rest => return (0, rest)
  | 'z' :: rest => return (0, rest)
  | '+' :: rest => signed 1 rest
  | '-' :: rest => signed (-1) rest
  | '−' :: rest => signed (-1) rest
  | _ => none

/-- Reads the letter or the blank between date and time. -/
def readInternetSeparator : List Char → Option (List Char)
  | [] => none
  | c :: rest => if c = 'T' || c = 't' || c = ' ' then some rest else none

/-- The timestamp written in the internet layout, in universal time. -/
def parseInternet? (text : List Char) : Option Timestamp := do
  let (year, rest) ← readDigits 4 4 text
  let (month, rest) ← readDigits 2 2 (← readChar '-' rest)
  let (day, rest) ← readDigits 2 2 (← readChar '-' rest)
  let (hour, rest) ← readDigits 2 2 (← readInternetSeparator rest)
  let (minute, rest) ← readDigits 2 2 (← readChar ':' rest)
  let (second, rest) ← readDigits 2 2 (← readChar ':' rest)
  let (nano, rest) ← readNano rest
  let (offset, rest) ← readOffset rest
  if rest.isEmpty then
    (← ofParts? year month day hour minute second nano).ahead? (-offset)
  else none

/-! ### Reading -/

/-- The timestamp that a text holds, between white space. -/
def parse? (text : String) : Option Timestamp :=
  let chars := Text.trim text.toList
  (parseInternet? chars).or ((parsePlain? false chars).or (parsePlain? true chars))

end Timestamp

end LogSieve
