import LayerLint.Number.Reader

/-!
# Days and moments

A day is a year, a month and a day of the Gregorian calendar. A moment is a time of a day to the
microsecond, and it may say how many minutes its clock is ahead of universal time. A text may be
spelled like a day or a moment that no calendar or clock has.
-/

namespace LayerLint
namespace Calendar

/-- A day. -/
structure Day where
  year : Nat
  month : Nat
  day : Nat
  deriving DecidableEq, Inhabited

/-- A time of a day. -/
structure Clock where
  hour : Nat
  minute : Nat
  second : Nat
  micro : Nat := 0
  deriving DecidableEq, Inhabited

/-- A day, or a moment. The zone of a moment is the number of minutes its clock is ahead. -/
inductive Stamp
  | day (date : Day)
  | moment (date : Day) (clock : Clock) (zone : Option Int)
  deriving DecidableEq, Inhabited

/-- What no calendar or clock has. -/
inductive Fault
  | year (number : Nat)
  | month
  | day
  | hour
  | minute
  | second
  | zone (minutes : Int)
  deriving DecidableEq

/-- Numbers between brackets, separated by commas. -/
def listed (numbers : List Nat) : String :=
  String.intercalate ", " (numbers.map toString)

/-- A span of seconds as messages show it, in days and in seconds that are not negative. -/
def renderSpan (seconds : Int) : String :=
  let days := seconds.fdiv 86400
  let rest := seconds.fmod 86400
  let parts :=
    (if days = 0 then [] else ["days=" ++ toString days]) ++
      (if rest = 0 then [] else ["seconds=" ++ toString rest])
  "datetime.timedelta(" ++ (if parts.isEmpty then "0" else String.intercalate ", " parts) ++ ")"

/-- The message for a day or a moment that does not exist. -/
def Fault.message : Fault → String
  | .year number => "year " ++ toString number ++ " is out of range"
  | .month => "month must be in 1..12"
  | .day => "day is out of range for month"
  | .hour => "hour must be in 0..23"
  | .minute => "minute must be in 0..59"
  | .second => "second must be in 0..59"
  | .zone minutes =>
      "offset must be a timedelta strictly between -timedelta(hours=24) and timedelta(hours=24), not " ++
        renderSpan (minutes * 60) ++ "."

/-- Whether a year has a day more than usual. -/
def isLeap (year : Nat) : Bool :=
  year % 4 == 0 && (year % 100 != 0 || year % 400 == 0)

/-- The number of days of a month. -/
def monthLength (year month : Nat) : Nat :=
  if month = 2 then (if isLeap year then 29 else 28)
  else if month = 4 ∨ month = 6 ∨ month = 9 ∨ month = 11 then 30
  else 31

/-- The number of days before a year. -/
def daysBeforeYear (year : Nat) : Nat :=
  let past := year - 1
  past * 365 + past / 4 - past / 100 + past / 400

/-- The number of days before a month of a year. -/
def daysBeforeMonth (year : Nat) : Nat → Nat
  | 0 => 0
  | 1 => 0
  | month + 2 => daysBeforeMonth year (month + 1) + monthLength year (month + 1)

namespace Day

/-- What is wrong with a day, if anything. -/
def fault? (day : Day) : Option Fault :=
  if day.year = 0 then some (.year day.year)
  else if day.month = 0 ∨ 12 < day.month then some .month
  else if day.day = 0 ∨ monthLength day.year day.month < day.day then some .day
  else none

/-- The number of a day in the calendar. -/
def number (day : Day) : Nat :=
  daysBeforeYear day.year + daysBeforeMonth day.year day.month + day.day

end Day

/-- What is wrong with a time of a day, if anything. -/
def Clock.fault? (clock : Clock) : Option Fault :=
  if 23 < clock.hour then some .hour
  else if 59 < clock.minute then some .minute
  else if 59 < clock.second then some .second
  else none

/-- The number of microseconds since the day began. -/
def Clock.micros (clock : Clock) : Nat :=
  ((clock.hour * 60 + clock.minute) * 60 + clock.second) * 1000000 + clock.micro

namespace Stamp

/-- What is wrong with a stamp, if anything. A zone is looked at first. -/
def fault? : Stamp → Option Fault
  | .day date => date.fault?
  | .moment date clock zone =>
      let wrongZone := zone.bind fun minutes =>
        if minutes.natAbs < 24 * 60 then none else some (Fault.zone minutes)
      (wrongZone.orElse fun _ => date.fault?).orElse fun _ => clock.fault?

/-- Whether two stamps are the same. Moments with zones are compared in universal time. -/
def same (first second : Stamp) : Bool :=
  match first, second with
  | .moment date clock (some zone), .moment date' clock' (some zone') =>
      ((date.number * 1440 : Nat) - zone) * 60000000 + clock.micros ==
        ((date'.number * 1440 : Nat) - zone') * 60000000 + clock'.micros
  | _, _ => first == second

/-- The numbers of a time of a day: seconds and microseconds are left out when they are zero. -/
def clockNumbers (clock : Clock) : List Nat :=
  [clock.hour, clock.minute] ++
    if clock.micro ≠ 0 then [clock.second, clock.micro]
    else if clock.second ≠ 0 then [clock.second]
    else []

/-- A zone as messages show it. -/
def renderZone (minutes : Int) : String :=
  if minutes = 0 then "datetime.timezone.utc"
  else "datetime.timezone(" ++ renderSpan (minutes * 60) ++ ")"

/-- A stamp as messages show it. -/
def render : Stamp → String
  | .day date => "datetime.date(" ++ listed [date.year, date.month, date.day] ++ ")"
  | .moment date clock zone =>
      "datetime.datetime(" ++ listed ([date.year, date.month, date.day] ++ clockNumbers clock) ++
        ((zone.map fun minutes => ", tzinfo=" ++ renderZone minutes).getD "") ++ ")"

/-- A number with at least the given number of digits. -/
def padded (width number : Nat) : String :=
  let digits := Nat.toDigits 10 number
  String.ofList (List.replicate (width - digits.length) '0' ++ digits)

/-- A day as a name. -/
def labelDay (date : Day) : String :=
  padded 4 date.year ++ "-" ++ padded 2 date.month ++ "-" ++ padded 2 date.day

/-- A zone as part of a name. -/
def labelZone (minutes : Int) : String :=
  (if minutes < 0 then "-" else "+") ++ padded 2 (minutes.natAbs / 60) ++ ":" ++
    padded 2 (minutes.natAbs % 60)

/-- A stamp as a name. -/
def label : Stamp → String
  | .day date => labelDay date
  | .moment date clock zone =>
      labelDay date ++ " " ++ padded 2 clock.hour ++ ":" ++ padded 2 clock.minute ++ ":" ++
        padded 2 clock.second ++ (if clock.micro = 0 then "" else "." ++ padded 6 clock.micro) ++
        ((zone.map labelZone).getD "")

end Stamp

/-- The digits at the front of a text, at least and at most as many as given, and the rest. -/
def cutDigits? (least most : Nat) (text : List Char) : Option (List Char × List Char) :=
  let digits := (text.takeWhile (Number.isDigitOf 10)).take most
  if digits.length < least then none else some (digits, text.drop digits.length)

/-- The number at the front of a text, and the rest. -/
def cutNumber? (least most : Nat) (text : List Char) : Option (Nat × List Char) :=
  (cutDigits? least most text).map fun parts => (Number.ofDigits 10 parts.1, parts.2)

/-- The text behind a character. -/
def behind? (c : Char) : List Char → Option (List Char)
  | [] => none
  | first :: rest => if first = c then some rest else none

/-- Whether a character is a space or a tab. -/
def isSpace (c : Char) : Bool :=
  c == ' ' || c == '\t'

/-- The microseconds of the digits behind a decimal point. -/
def microsOf (digits : List Char) : Nat :=
  Number.ofDigits 10 ((digits ++ List.replicate 6 '0').take 6)

/-- A distance in hours and optional minutes that takes up a whole text. -/
def distance? (text : List Char) : Option Nat := do
  let (hours, rest) ← cutNumber? 1 2 text
  if rest.isEmpty then some (hours * 60)
  else
    let (minutes, rest) ← cutNumber? 2 2 (← behind? ':' rest)
    if rest.isEmpty then some (hours * 60 + minutes) else none

/-- A zone that takes up a whole text: nothing, a letter, or a sign and a distance. -/
def zone? (text : List Char) : Option (Option Int) :=
  if text.isEmpty then some none
  else
    match text.dropWhile isSpace with
    | ['Z'] => some (some 0)
    | '+' :: rest => (distance? rest).map fun minutes => some (minutes : Int)
    | '-' :: rest => (distance? rest).map fun minutes => some (-(minutes : Int))
    | _ => none

/-- The text behind what separates a day from the time of the day. -/
def behindDay? (text : List Char) : Option (List Char) :=
  match text with
  | 'T' :: rest => some rest
  | 't' :: rest => some rest
  | _ => if text.head?.any isSpace then some (text.dropWhile isSpace) else none

/-- A time of a day with an optional zone that takes up a whole text. -/
def time? (text : List Char) : Option (Clock × Option Int) := do
  let (hour, rest) ← cutNumber? 1 2 text
  let (minute, rest) ← cutNumber? 2 2 (← behind? ':' rest)
  let (second, rest) ← cutNumber? 2 2 (← behind? ':' rest)
  let (micro, rest) := match rest with
    | '.' :: places =>
        (microsOf (places.takeWhile (Number.isDigitOf 10)), places.dropWhile (Number.isDigitOf 10))
    | _ => (0, rest)
  let zone ← zone? rest
  some ({ hour, minute, second, micro }, zone)

/-- The stamp that a text is spelled like. Months and days have one or two digits; if `full` is set, a
day without a time has two of each. -/
def stamp? (full : Bool) (text : List Char) : Option Stamp := do
  let (year, rest) ← cutNumber? 4 4 text
  let (month, rest) ← cutDigits? 1 2 (← behind? '-' rest)
  let (number, rest) ← cutDigits? 1 2 (← behind? '-' rest)
  let day : Day := ⟨year, Number.ofDigits 10 month, Number.ofDigits 10 number⟩
  if rest.isEmpty then
    if full && (month.length < 2 || number.length < 2) then none else some (.day day)
  else
    let (clock, zone) ← time? (← behindDay? rest)
    some (.moment day clock zone)

end Calendar
end LayerLint
