import LessonService.Text.Blank

namespace LessonService

/-- A day of the calendar. Years run from 1 to 9999. -/
structure Date where
  year : Int
  month : Nat
  day : Nat
deriving DecidableEq

/-- A number with zeros in front up to a width. -/
def Text.padded (width n : Nat) : Text :=
  let digits := Text.ofNat n
  List.replicate (width - digits.length) ('0' : CodePoint) ++ digits

namespace Date

/-- The number of days before a year that starts in March, counted from the year 0. -/
def daysBeforeYear (y : Int) : Int := 365 * y + y.fdiv 4 - y.fdiv 100 + y.fdiv 400

/-- The number of days before a month of a year that starts in March. -/
def daysBeforeMonth (m : Nat) : Nat := (153 * m + 2) / 5

/-- The distance in days from the first day of 1970. -/
def toDays (d : Date) : Int :=
  let y := if d.month ≤ 2 then d.year - 1 else d.year
  let m := (d.month + 9) % 12
  daysBeforeYear y + daysBeforeMonth m + (d.day - 1 : Int) - 719468

/-- The day at a distance from the first day of 1970. -/
def ofDays (n : Int) : Date :=
  let z := n + 719468
  let era := z.fdiv 146097
  let dayOfEra := (z - era * 146097).toNat
  let yearOfEra := (dayOfEra - dayOfEra / 1460 + dayOfEra / 36524 - dayOfEra / 146096) / 365
  let dayOfYear := dayOfEra - (365 * yearOfEra + yearOfEra / 4 - yearOfEra / 100)
  let m := (5 * dayOfYear + 2) / 153
  let month := if m < 10 then m + 3 else m - 9
  let year : Int := yearOfEra + era * 400
  ⟨if month ≤ 2 then year + 1 else year, month, dayOfYear - daysBeforeMonth m + 1⟩

def toText (d : Date) : Text :=
  Text.padded 4 d.year.toNat ++ "-" ++ Text.padded 2 d.month ++ "-" ++ Text.padded 2 d.day

end Date

/-- A time of a day, and how many seconds it is ahead of universal time, if that is known. -/
structure DateTime where
  date : Date
  /-- Microseconds since the day began. -/
  micros : Nat
  offset : Option Int
deriving DecidableEq

namespace DateTime

def clockText (seconds : Nat) : Text :=
  Text.padded 2 (seconds / 3600) ++ ":" ++ Text.padded 2 (seconds / 60 % 60) ++ ":" ++ Text.padded 2 (seconds % 60)

def offsetText (offset : Int) : Text :=
  let size := offset.natAbs
  let sign : Text := if offset < 0 then "-" else "+"
  let seconds : Text := if size % 60 = 0 then [] else ":" ++ Text.padded 2 (size % 60)
  sign ++ Text.padded 2 (size / 3600) ++ ":" ++ Text.padded 2 (size / 60 % 60) ++ seconds

/-- Date and time with something between them. Whole seconds have no fraction. -/
def toText (between : Text) (t : DateTime) : Text :=
  let fraction : Text := if t.micros % 1000000 = 0 then [] else "." ++ Text.padded 6 (t.micros % 1000000)
  t.date.toText ++ between ++ clockText (t.micros / 1000000) ++ fraction ++ t.offset.elim [] offsetText

end DateTime

/-- Microseconds since 1970 began in universal time. -/
structure Instant where
  micros : Int
deriving DecidableEq

inductive TimeError where
  /-- A span that is longer than any between two instants. -/
  | spanTooLong (days : Int)
  | spanNotCountable
  | outOfRange
deriving DecidableEq

def TimeError.message : TimeError → Text
  | spanTooLong days => "days=" ++ Text.ofInt days ++ "; must have magnitude <= 999999999"
  | spanNotCountable => "Python int too large to convert to C int"
  | outOfRange => "date value out of range"

namespace Instant

def microsPerDay : Int := 86400 * 1000000

def ofDateTime (t : DateTime) : Instant :=
  ⟨t.date.toDays * microsPerDay + t.micros - t.offset.getD 0 * 1000000⟩

def toDateTime (i : Instant) : DateTime :=
  let days := i.micros.fdiv microsPerDay
  ⟨Date.ofDays days, (i.micros - days * microsPerDay).toNat, some 0⟩

def toText (i : Instant) : Text := i.toDateTime.toText "T"

/-- Milliseconds since 1970. -/
def millis (i : Instant) : Rat := (i.micros : Rat) / 1000

/-- The first instant of the year 1. -/
def first : Instant := ofDateTime ⟨⟨1, 1, 1⟩, 0, none⟩

/-- The instant some seconds earlier. -/
def minusSeconds (i : Instant) (seconds : Int) : Except TimeError Instant :=
  let days := seconds.fdiv 86400
  if days ≥ 2147483648 then .error .spanNotCountable
  else if days > 999999999 then .error (.spanTooLong days)
  else
    let earlier : Instant := ⟨i.micros - seconds * 1000000⟩
    if earlier.micros < first.micros then .error .outOfRange else .ok earlier

def minusDays (i : Instant) (days : Int) : Except TimeError Instant := i.minusSeconds (days * 86400)

end Instant

namespace DateTime

/-- The digits of a number of fixed width, and the rest. -/
def number? (width : Nat) (t : Text) : Option (Nat × Text) :=
  let digits := t.take width
  if digits.length = width && digits.all CodePoint.isDigit then
    some (digits.foldl (fun n c => n * 10 + (c.value - 0x30)) 0, t.drop width)
  else none

def expect? (cs : List Char) (t : Text) : Option Text :=
  match t with
  | c :: rest => if cs.any fun d => d.toNat = c.value then some rest else none
  | [] => none

def date? (t : Text) : Option (Date × Text) := do
  let (year, t) ← number? 4 t
  let (month, t) ← number? 2 (← expect? ['-'] t)
  let (day, t) ← number? 2 (← expect? ['-'] t)
  return (⟨year, month, day⟩, t)

/-- Up to six digits of a fraction after a point. -/
def fraction (t : Text) : Nat × Text :=
  match expect? ['.', ','] t with
  | none => (0, t)
  | some digits =>
    let kept := (digits.takeWhile CodePoint.isDigit)
    let six := (kept.take 6) ++ List.replicate (6 - kept.length) ('0' : CodePoint)
    (six.foldl (fun n c => n * 10 + (c.value - 0x30)) 0, digits.drop kept.length)

/-- The second number after a colon, or zero. -/
def further (t : Text) : Nat × Text :=
  ((expect? [':'] t).bind (number? 2)).getD (0, t)

def zone? (t : Text) : Option (Option Int) :=
  match t with
  | [] => some none
  | c :: rest =>
    if c = 'Z' && rest.isEmpty then some (some 0)
    else if c = '+' || c = '-' then do
      let (hours, t) ← number? 2 rest
      let (minutes, t) := further t
      let (seconds, t) := further t
      let size : Int := hours * 3600 + minutes * 60 + seconds
      if t.isEmpty then return some (if c = '-' then -size else size) else none
    else none

/-- Reads a date, or a date and a time. -/
def ofText? (t : Text) : Option DateTime := do
  let (date, t) ← date? t
  if t.isEmpty then return ⟨date, 0, none⟩
  else
    let (hours, t) ← number? 2 (← expect? ['T', ' '] t)
    let (minutes, t) := further t
    let (seconds, t) := further t
    let (micros, t) := fraction t
    let offset ← zone? t
    return ⟨date, (hours * 3600 + minutes * 60 + seconds) * 1000000 + micros, offset⟩

end DateTime

def Instant.ofText? (t : Text) : Option Instant := (DateTime.ofText? t).map Instant.ofDateTime

end LessonService
