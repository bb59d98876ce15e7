import LessonService.Number.Double
import LessonService.Text.Letters
import LessonService.Text.Blank

namespace LessonService

namespace CodePoint

/-- The digit that a character of any script stands for. -/
def digit? (c : CodePoint) : Option Nat :=
  if c.value < 0x80 then (if c.isDigit then some (c.value - 0x30) else none)
  else (LetterTable.zeros.toList.find? fun z => z ≤ c.value && c.value ≤ z + 9).map fun z => c.value - z

end CodePoint

namespace Decimal

/-- How many digits a whole number may have where numbers are read from or written to text. -/
def maxDigits : Nat := 4300

/-- What is said of a number that has too many digits to be read. -/
def longText (digits : Nat) : Text :=
  "Exceeds the limit (4300 digits) for integer string conversion: value has " ++ Text.ofNat digits
    ++ " digits; use sys.set_int_max_str_digits() to increase the limit"

/-- What is said of a number that has too many digits to be written. -/
def unwritableText : Text :=
  "Exceeds the limit (4300 digits) for integer string conversion; use sys.set_int_max_str_digits() to increase the limit"

/-- Whether a whole number has few enough digits to be written. -/
def isWritable (n : Int) : Bool := n.natAbs < Nat.pow 10 maxDigits

/-- The text of a whole number that has few enough digits. -/
def written (n : Int) : Except Overflow Text := if isWritable n then .ok (Text.ofInt n) else .error .digits

def ofDigits (digits : List Nat) : Nat := digits.foldl (fun n d => n * 10 + d) 0

/-- Digits with single underscores between them. -/
def spaced? : Text → Option (List Nat)
  | [] => none
  | c :: t => c.digit?.bind fun d => (after t).map (d :: ·)
where
  /-- What may follow a digit. -/
  after : Text → Option (List Nat)
    | [] => some []
    | [c] => c.digit?.map fun d => [d]
    | c :: d :: t =>
      if c = '_' then d.digit?.bind fun n => (after t).map (n :: ·)
      else c.digit?.bind fun n => (after (d :: t)).map (n :: ·)

/-- A sign, if there is one, and what follows it. -/
def signed : Text → Bool × Text
  | c :: t => if c = '-' then (true, t) else if c = '+' then (false, t) else (false, c :: t)
  | [] => (false, [])

/-- Why a text is no whole number. -/
inductive WholeError where
  | malformed
  | tooLong (digits : Nat)
deriving DecidableEq

/-- The longest run of characters up to a condition, and the rest. -/
def part (holds : CodePoint → Bool) (t : Text) : Text × Text := (t.takeWhile holds, t.dropWhile holds)

/-- A character that may stand around a number. The separators of ASCII are none. -/
def isGap (c : CodePoint) : Bool := c.isPlainBlank || (c.value > 0x7F && c.isBlank)

def isDigitOrJoint (c : CodePoint) : Bool := c = '_' || c.digit?.isSome

/-- The whole number that a text stands for, gaps around it aside. Too many digits are a fault
whatever follows them. -/
def whole (t : Text) : Except WholeError Int :=
  let (negative, size) := signed (Text.trimBy isGap t)
  let (digits, rest) := part isDigitOrJoint size
  match spaced? digits with
  | none => .error .malformed
  | some ds =>
    if ds.length > maxDigits then .error (.tooLong ds.length)
    else if !rest.isEmpty then .error .malformed
    else
      let n : Int := ofDigits ds
      .ok (if negative then -n else n)

/-- Beyond this power of ten every number is infinite or zero. -/
def farthestPower : Int := 400

/-- The number nearest to a decimal fraction: its digits, and the power of ten of the last one. -/
def scaled (negative : Bool) (digits : List Nat) (power : Int) : Double :=
  let digits := digits.dropWhile (· = 0)
  if digits.isEmpty then (if negative then .negativeZero else .finite 0)
  else
    let order := power + digits.length
    if order > farthestPower then .infinite negative
    else if order < -farthestPower then (if negative then .negativeZero else .finite 0)
    else
      let n : Rat := (ofDigits digits : Nat)
      let size := if power < 0 then n / ((Nat.pow 10 power.natAbs : Nat) : Rat) else n * ((Nat.pow 10 power.toNat : Nat) : Rat)
      Double.round (if negative then -size else size)

def isExponentMark (c : CodePoint) : Bool := c = 'e' || c = 'E'

/-- The power of ten after a number, if there is one. -/
def power? : Text → Option Int
  | [] => some 0
  | c :: t =>
    if isExponentMark c then
      let (negative, digits) := signed t
      (spaced? digits).map fun ds =>
        let n : Int := ofDigits (ds.dropWhile (· = 0) |>.take 20)
        if negative then -n else n
    else none

/-- A fraction without a sign: digits, a point, digits and a power of ten. -/
def unsigned? (negative : Bool) (t : Text) : Option Double :=
  let (mantissa, power) := part (fun c => !isExponentMark c) t
  let (before, rest) := part (fun c => c ≠ '.') mantissa
  let after := rest.drop 1
  let digits? (t : Text) : Option (List Nat) := if t.isEmpty then some [] else spaced? t
  if before.isEmpty && after.isEmpty then none
  else do
    let whole ← digits? before
    let fraction ← digits? after
    let power ← power? power
    return scaled negative (whole ++ fraction) (power - fraction.length)

/-- The number that a text stands for, gaps around it aside. -/
def double? (t : Text) : Option Double :=
  let (negative, size) := signed (Text.trimBy isGap t)
  let name := Text.toString (size.map CodePoint.lower)
  if name = "inf" || name = "infinity" then some (.infinite negative)
  else if name = "nan" then some .undefined
  else unsigned? negative size

def digitsOf (n : Nat) : List Nat := (n.repr.toList.map fun c => c.toNat - 48)

/-- The decimal order of a positive value: the power of ten just above it. -/
def decimalOrder (q : Rat) : Int :=
  let guess : Int := ((digitsOf q.num.natAbs).length : Int) - (digitsOf q.den).length
  if q ≥ tenTo guess then guess + 1 else guess
where
  tenTo (e : Int) : Rat := if e < 0 then 1 / ((Nat.pow 10 e.natAbs : Nat) : Rat) else ((Nat.pow 10 e.toNat : Nat) : Rat)

/-- The nearest number of so many significant digits that reads back as a positive value, with the
power of ten of its last digit. -/
def candidate? (q : Rat) (order : Int) (count : Nat) : Option (Nat × Int) :=
  let power := order - count
  let unit := decimalOrder.tenTo power
  let low := (q / unit).floor.toNat
  let readsBack (n : Nat) : Bool := Double.round ((n : Rat) * unit) = .finite q
  let lowDistance := q - (low : Rat) * unit
  let highDistance := ((low + 1 : Nat) : Rat) * unit - q
  let closerHigh := highDistance < lowDistance || (highDistance = lowDistance && low % 2 = 1)
  let choices := if closerHigh then [low + 1, low] else [low, low + 1]
  (choices.find? readsBack).map fun n => (n, power)

/-- The shortest digits of a positive value. Seventeen are always enough. -/
def shortest (q : Rat) : Nat × Int :=
  let order := decimalOrder q
  ((List.range 17).findSome? fun k => candidate? q order (k + 1)).getD (0, 0)

/-- Digits without the zeros at their end, and the place of the point counted from their start. -/
def layOut (n : Nat) (power : Int) : List Nat × Int :=
  let digits := digitsOf n
  let kept := (digits.reverse.dropWhile (· = 0)).reverse
  (kept, power + digits.length)

def digitText (ds : List Nat) : Text := ds.map fun d => ⟨0x30 + d⟩

/-- Digits with the point at a place: plainly, or with a power of ten when they are far from it. -/
def place (digits : List Nat) (point : Int) : Text :=
  if -4 < point && point ≤ 16 then
    if point ≤ 0 then "0." ++ digitText (List.replicate point.natAbs 0 ++ digits)
    else if digits.length ≤ point.toNat then
      digitText (digits ++ List.replicate (point.toNat - digits.length) 0) ++ ".0"
    else digitText (digits.take point.toNat) ++ "." ++ digitText (digits.drop point.toNat)
  else
    let exponent := point - 1
    let sign : Text := if exponent < 0 then "e-" else "e+"
    let size := digitText (digitsOf exponent.natAbs)
    let size := if size.length < 2 then ('0' : CodePoint) :: size else size
    let fraction : Text := if digits.length ≤ 1 then [] else "." ++ digitText (digits.drop 1)
    digitText (digits.take 1) ++ fraction ++ sign ++ size

/-- The text of a number: the shortest that reads back as it. -/
def ofDouble : Double → Text
  | .undefined => "nan"
  | .infinite negative => if negative then "-inf" else "inf"
  | .negativeZero => "-0.0"
  | .finite q =>
    if q = 0 then "0.0"
    else
      let (n, power) := shortest (if q < 0 then -q else q)
      let (digits, point) := layOut n power
      (if q < 0 then Text.ofString "-" else []) ++ place digits point

end Decimal

/-- The kind of error that a caller sees. -/
def Overflow.name : Overflow → Text
  | conversion | quotient | infinite => "OverflowError"
  | undefined | digits => "ValueError"

def Overflow.message : Overflow → Text
  | conversion => "int too large to convert to float"
  | quotient => "integer division result too large for a float"
  | infinite => "cannot convert float infinity to integer"
  | undefined => "cannot convert float NaN to integer"
  | digits => Decimal.unwritableText

end LessonService
