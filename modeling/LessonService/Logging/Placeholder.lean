import LessonService.Content

namespace LessonService.Logging

/-- A percent sign, flags, a width, a precision and a letter that says how a value is written. -/
structure Placeholder where
  name : Option Text
  flags : Text
  width : Nat
  precision : Option Nat
  letter : CodePoint

namespace Placeholder

def has (p : Placeholder) (flag : Char) : Bool := (flag : CodePoint) ∈ p.flags

def isFlag (c : CodePoint) : Bool := c = '#' || c = '0' || c = '-' || c = '+' || c = ' '

/-- The digits at the start of a text as a number, and the rest. -/
def number (t : Text) : Nat × Text :=
  let (digits, rest) := Decimal.part CodePoint.isDigit t
  (Decimal.ofDigits (digits.map fun c => c.value - 0x30), rest)

/-- The name in parentheses, if there is one, and the rest. -/
def nameAndRest (t : Text) : Option (Option Text × Text) :=
  match t with
  | c :: rest =>
    if c ≠ '(' then some (none, t)
    else
      let (name, rest) := Decimal.part (fun c => c ≠ ')') rest
      if rest.isEmpty then none else some (some name, rest.drop 1)
  | [] => some (none, [])

/-- Reads what follows a percent sign. -/
def read? (t : Text) : Option (Placeholder × Text) := do
  let (name, t) ← nameAndRest t
  let (flags, t) := Decimal.part isFlag t
  let (width, t) := number t
  let (precision, t) : Option Nat × Text :=
    if t.head? = some ('.' : CodePoint) then
      let (n, t) := number (t.drop 1)
      (some n, t)
    else (none, t)
  let isSize (c : CodePoint) : Bool := c = 'h' || c = 'l' || c = 'L'
  match (if t.head?.elim false isSize then t.drop 1 else t) with
  | [] => none
  | letter :: rest => return (⟨name, flags, width, precision, letter⟩, rest)

/-- A text filled up with blanks. -/
def padded (p : Placeholder) (t : Text) : Text :=
  let blanks : Text := List.replicate (p.width - t.length) (' ' : CodePoint)
  if p.has '-' then t ++ blanks else blanks ++ t

/-- A number filled up with zeros or blanks. -/
def paddedNumber (p : Placeholder) (isNegative : Bool) (start digits : Text) : Text :=
  let sign : Text := if isNegative then "-" else if p.has '+' then "+" else if p.has ' ' then " " else ""
  let start := sign ++ start
  if p.has '0' && !p.has '-' then
    start ++ List.replicate (p.width - start.length - digits.length) ('0' : CodePoint) ++ digits
  else p.padded (start ++ digits)

/-- The digits with zeros in front up to the precision. -/
def wholeDigits (p : Placeholder) (digits : Text) : Text :=
  List.replicate (p.precision.getD 0 - digits.length) ('0' : CodePoint) ++ digits

/-- The digits of a number in a base up to sixteen. -/
def digitsIn (base : Nat) (n : Nat) : Text := (Nat.toDigits base n).map fun c => ⟨c.toNat⟩

def wholeNumber? : Content → Option Int
  | .flag b => some (if b then 1 else 0)
  | .number (.whole n) => some n
  | _ => none

def numberOf? : Content → Option Number
  | .flag b => some (.whole (if b then 1 else 0))
  | .number n => some n
  | _ => none

/-- A number in a base, with what marks the base if that is asked for. -/
def inBase (p : Placeholder) (base : Nat) (mark : Text) (n : Int) : Text :=
  p.paddedNumber (n < 0) (if p.has '#' then mark else []) (p.wholeDigits (digitsIn base n.natAbs))

def upper (t : Text) : Text := t.map fun c => if c.isLowerLetter then ⟨c.value - 32⟩ else c

/-- A number with a fixed count of places, six unless it is given. -/
def fixed (p : Placeholder) : Double → Text
  | .undefined => p.padded "nan"
  | .infinite negative => p.padded (if negative then "-inf" else "inf")
  | .negativeZero => write true 0
  | .finite q => write (q < 0) q
where
  /-- The sign, and the places of a value. -/
  write (isNegative : Bool) (q : Rat) : Text :=
    let places := p.precision.getD 6
    let n := (Double.nearestWhole (q * ((Nat.pow 10 places : Nat) : Rat))).natAbs
    let fraction : Text :=
      if places = 0 then (if p.has '#' then "." else "") else "." ++ Text.padded places (n % Nat.pow 10 places)
    p.paddedNumber isNegative [] (Text.ofNat (n / Nat.pow 10 places) ++ fraction)

/-- A text with everything outside ASCII escaped. -/
def plainLiteral (t : Text) : Text :=
  t.flatMap fun c =>
    if c.value < 0x80 then [c]
    else if c.value ≤ 0xFF then "\\x" ++ Literal.hexDigits 2 c.value
    else if c.value ≤ 0xFFFF then "\\u" ++ Literal.hexDigits 4 c.value
    else "\\U" ++ Literal.hexDigits 8 c.value

/-- A value as the placeholder wants it. -/
def write? (p : Placeholder) (c : Content) : Option Text :=
  let cut (t : Text) : Text := p.padded (p.precision.elim t fun n => t.take n)
  match Text.toString [p.letter] with
  | "s" => some (cut c.shown)
  | "r" => some (cut c.literal)
  | "a" => some (cut (plainLiteral c.literal))
  | "d" | "i" | "u" => do
    let n ← (← numberOf? c).truncated.toOption
    let digits ← (Decimal.written n.natAbs).toOption
    return p.paddedNumber (n < 0) [] (p.wholeDigits digits)
  | "o" => (wholeNumber? c).map (p.inBase 8 "0o")
  | "x" => (wholeNumber? c).map (p.inBase 16 "0x")
  | "X" => (wholeNumber? c).map fun n => upper (p.inBase 16 "0x" n)
  | "f" | "F" => do return p.fixed (← (← numberOf? c).toDouble.toOption)
  | "c" =>
    match c with
    | .text [c] => some (p.padded [c])
    | .number (.whole n) => if 0 ≤ n && n < 0x110000 then some (p.padded [⟨n.toNat⟩]) else none
    | _ => none
  | _ => none

end Placeholder

/-- The values for placeholders: those that are left in their order, or a record. -/
inductive Values where
  | inOrder (left : List Content)
  | byName (fields : List (Text × Content)) (isTaken : Bool)

namespace Values

def ofArgs : List Content → Values
  | [.record (f :: fs)] => byName (f :: fs) false
  | args => inOrder args

/-- The value for a placeholder, and the values after it. -/
def next? : Values → Option Text → Option (Content × Values)
  | inOrder (c :: left), none => some (c, inOrder left)
  | byName fields isTaken, some name => (Content.field? name fields).map fun c => (c, byName fields isTaken)
  | byName fields false, none => some (.record fields, byName fields true)
  | _, _ => none

def isUsedUp : Values → Bool
  | inOrder left => left.isEmpty
  | byName _ _ => true

end Values

/-- Fills the placeholders of a message, within a number of steps. -/
def fillFrom? : Nat → Values → Text → Option Text
  | 0, _, _ => none
  | _ + 1, values, [] => if values.isUsedUp then some [] else none
  | steps + 1, values, c :: t =>
    if c ≠ '%' then (fillFrom? steps values t).map (c :: ·)
    else do
      let (p, t) ← Placeholder.read? t
      if p.letter = '%' then return "%" ++ (← fillFrom? steps values t)
      else
        let (value, values) ← values.next? p.name
        return (← p.write? value) ++ (← fillFrom? steps values t)

/-- A message with its values. Without values it stands as it is. -/
def fill? (message : Text) (args : List Content) : Option Text :=
  if args.isEmpty then some message else fillFrom? (message.length + 1) (.ofArgs args) message

end LessonService.Logging
