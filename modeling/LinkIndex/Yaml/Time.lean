import LinkIndex.Json.Reader
import LinkIndex.Yaml.Error

/-!
Dates and times of day, as they are read from a text and written: the date, the
time with six digits of a second where there are any, and the distance from
universal time if it is known.
-/

namespace LinkIndex.Yaml

structure Date where
  year : Nat
  month : Nat
  day : Nat
  deriving DecidableEq, Repr

/-- A date with a time of day. The offset is in minutes. -/
structure Timestamp where
  date : Date
  hour : Nat
  minute : Nat
  second : Nat
  micros : Nat
  offset : Option Int
  deriving DecidableEq, Repr

/-- A number with at least `width` digits. -/
def padded (width n : Nat) : String :=
  let digits := Text.decimal n
  String.ofList (List.replicate (width - digits.length) '0' ++ digits)

def isLeapYear (year : Nat) : Bool :=
  year % 4 = 0 && (year % 100 ≠ 0 || year % 400 = 0)

def daysInMonth (year month : Nat) : Nat :=
  if month = 2 then if isLeapYear year then 29 else 28
  else if month = 4 ∨ month = 6 ∨ month = 9 ∨ month = 11 then 30
  else 31

namespace Date

/-- A day that exists. -/
def of? (year month day : Nat) : Except Error Date :=
  if year = 0 then .error (.noSuchTime .year)
  else if month < 1 ∨ 12 < month then .error (.noSuchTime .month)
  else if day < 1 ∨ daysInMonth year month < day then .error (.noSuchTime .day)
  else .ok ⟨year, month, day⟩

/-- The last year of the calendar. -/
def lastYear : Nat := 9999

/-- The next day, if there is one. -/
def next (d : Date) : Except Error Date :=
  if d.day < daysInMonth d.year d.month then .ok { d with day := d.day + 1 }
  else if d.month < 12 then .ok ⟨d.year, d.month + 1, 1⟩
  else if d.year < lastYear then .ok ⟨d.year + 1, 1, 1⟩
  else .error .afterLastDay

/-- The days of all years before, and of this year up to the day. -/
def number (d : Date) : Nat :=
  let years := d.year - 1
  let months := List.range (d.month - 1)
  years * 365 + years / 4 - years / 100 + years / 400 +
    months.foldl (fun days m => days + daysInMonth d.year (m + 1)) 0 + d.day

def text (d : Date) : String :=
  padded 4 d.year ++ "-" ++ padded 2 d.month ++ "-" ++ padded 2 d.day

end Date

namespace Timestamp

/-- A time of day that exists, on a day that exists. -/
def of? (date : Date) (hour minute second micros : Nat) (offset : Option Int) :
    Except Error Timestamp :=
  if 23 < hour then .error (.noSuchTime .hour)
  else if 59 < minute then .error (.noSuchTime .minute)
  else if 59 < second then .error (.noSuchTime .second)
  else .ok ⟨date, hour, minute, second, micros, offset⟩

/-- The same time one second later, if there is such a time. -/
def nextSecond (t : Timestamp) : Except Error Timestamp :=
  if t.second < 59 then .ok { t with second := t.second + 1 }
  else if t.minute < 59 then .ok { t with second := 0, minute := t.minute + 1 }
  else if t.hour < 23 then .ok { t with second := 0, minute := 0, hour := t.hour + 1 }
  else do return { t with second := 0, minute := 0, hour := 0, date := ← t.date.next }

/-- Minutes of all days before and of this one, by the clock of the time itself. -/
def minutes (t : Timestamp) : Int :=
  (t.date.number * 24 + t.hour) * 60 + t.minute

def offsetText (minutes : Int) : String :=
  let n := minutes.natAbs
  (if minutes < 0 then "-" else "+") ++ padded 2 (n / 60) ++ ":" ++ padded 2 (n % 60)

def text (t : Timestamp) : String :=
  t.date.text ++ "T" ++ padded 2 t.hour ++ ":" ++ padded 2 t.minute ++ ":" ++ padded 2 t.second ++
    (if t.micros = 0 then "" else "." ++ padded 6 t.micros) ++
    (t.offset.elim "" offsetText)

end Timestamp

/-- A text as a date or as a date with a time, in parts. -/
structure TimeText where
  year : List Char
  month : List Char
  day : List Char
  /-- The time of day, if there is one. -/
  time : Option (List Char × List Char × List Char) := none
  fraction : List Char := []
  /-- The sign and the digits of the offset; no sign for universal time. -/
  zone : Option (Option (Char × List Char × List Char)) := none

/-- A number of `least` to `most` digits. -/
def takeDigits (least most : Nat) (cs : List Char) : Option (List Char × List Char) :=
  let digits := (cs.takeWhile Char.isDigit).take most
  if digits.length < least then none else some (digits, cs.drop digits.length)

def takeChar (c : Char) : List Char → Option (List Char)
  | ch :: rest => if ch = c then some rest else none
  | [] => none

def skipSpaceOrTab (cs : List Char) : List Char :=
  cs.dropWhile fun c => c = ' ' || c = '\t'

/-- The zone behind a time, up to the end of the text. -/
def readZone (t : TimeText) (cs : List Char) : Option TimeText :=
  match cs with
  | [] => some t
  | _ =>
    match skipSpaceOrTab cs with
    | ['Z'] => some { t with zone := some none }
    | sign :: rest =>
      if sign = '+' ∨ sign = '-' then
        match takeDigits 1 2 rest with
        | some (hours, []) => some { t with zone := some (some (sign, hours, [])) }
        | some (hours, ':' :: rest) =>
          match takeDigits 2 2 rest with
          | some (minutes, []) => some { t with zone := some (some (sign, hours, minutes)) }
          | _ => none
        | _ => none
      else none
    | [] => none

/-- The time of day behind a date, up to the end of the text. -/
def readClock (t : TimeText) (cs : List Char) : Option TimeText := do
  let cs ← match cs with
    | 'T' :: rest => some rest
    | 't' :: rest => some rest
    | ' ' :: rest => some (skipSpaceOrTab rest)
    | '\t' :: rest => some (skipSpaceOrTab rest)
    | _ => none
  let (hour, cs) ← takeDigits 1 2 cs
  let (minute, cs) ← takeDigits 2 2 (← takeChar ':' cs)
  let (second, cs) ← takeDigits 2 2 (← takeChar ':' cs)
  let t := { t with time := some (hour, minute, second) }
  match cs with
  | '.' :: rest =>
    readZone { t with fraction := rest.takeWhile Char.isDigit } (rest.dropWhile Char.isDigit)
  | cs => readZone t cs

/-- Reads a text as a date with or without a time. A line feed at its end does not count. -/
def TimeText.read (cs : List Char) : Option TimeText := do
  let cs := (Text.dropSuffix? ['\n'] cs).getD cs
  let (year, cs) ← takeDigits 4 4 cs
  let (month, cs) ← takeDigits 1 2 (← takeChar '-' cs)
  let (day, cs) ← takeDigits 1 2 (← takeChar '-' cs)
  let t : TimeText := { year, month, day }
  match cs with
  | [] => some t
  | cs => readClock t cs

/-- A date alone is a date only with two digits for the month and the day. -/
def TimeText.isImplicit (t : TimeText) : Bool :=
  t.time.isSome || (t.month.length = 2 && t.day.length = 2)

inductive Moment
  | date (date : Date)
  | time (time : Timestamp)
  deriving DecidableEq, Repr

/-- Millionths of a second, rounded by the seventh digit. -/
def microsOf (fraction : List Char) : Nat :=
  let digits := fraction.take 6
  let whole := Json.digitsValue digits * Nat.pow 10 (6 - digits.length)
  match fraction.drop 6 with
  | d :: _ => if '5' ≤ d then whole + 1 else whole
  | [] => whole

/-- The offset of a zone in minutes. It is less than a day. -/
def offsetOf (zone : Option (Option (Char × List Char × List Char))) :
    Except Error (Option Int) :=
  match zone with
  | none => .ok none
  | some none => .ok (some 0)
  | some (some (sign, hours, minutes)) =>
    let n : Int := Json.digitsValue hours * 60 + Json.digitsValue minutes
    let offset := if sign = '-' then -n else n
    if 1440 ≤ n then .error (.noSuchZone offset) else .ok (some offset)

/-- What a text denotes, if it exists. -/
def TimeText.moment (t : TimeText) : Except Error Moment := do
  let number := Json.digitsValue
  match t.time with
  | none => return .date (← Date.of? (number t.year) (number t.month) (number t.day))
  | some (hour, minute, second) =>
    let offset ← offsetOf t.zone
    let date ← Date.of? (number t.year) (number t.month) (number t.day)
    let micros := microsOf t.fraction
    let time ← Timestamp.of? date (number hour) (number minute) (number second)
      (micros % 1000000) offset
    return .time (← if micros < 1000000 then pure time else time.nextSecond)

end LinkIndex.Yaml
