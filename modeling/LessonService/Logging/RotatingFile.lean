import LessonService.Number.Decimal

namespace LessonService.Logging

/-- A file that is put aside before it grows too long. The files put aside are numbered, the newest first, and only some
are kept. -/
structure RotatingFile where
  name : Text
  /-- The size that is not reached. -/
  maxBytes : Int
  keptCount : Nat
  current : Text := []
  /-- What has been put aside, the newest first. -/
  earlier : List Text := []

namespace RotatingFile

/-- Whether a file with a line more would be too long. A character of the line counts as one byte. -/
def isFull (f : RotatingFile) (line : Text) : Bool := (Text.byteCount f.current + line.length : Int) ≥ f.maxBytes

/-- Puts the file aside, unless none is kept. -/
def rotate (f : RotatingFile) : RotatingFile :=
  if f.keptCount = 0 then f else { f with current := [], earlier := (f.current :: f.earlier).take f.keptCount }

def write (f : RotatingFile) (line : Text) : RotatingFile :=
  let f := if f.isFull line then f.rotate else f
  { f with current := f.current ++ line }

/-- Digits of other kinds than decimal ones. -/
def otherDigits : List (Nat × Nat) := [
  (0xB2, 0xB3), (0xB9, 0xB9), (0x1369, 0x1371), (0x19DA, 0x19DA), (0x2070, 0x2070), (0x2074, 0x2079),
  (0x2080, 0x2089), (0x2460, 0x2468), (0x2474, 0x247C), (0x2488, 0x2490), (0x24EA, 0x24EA), (0x24F5, 0x24FD),
  (0x24FF, 0x24FF), (0x2776, 0x277E), (0x2780, 0x2788), (0x278A, 0x2792), (0x10A40, 0x10A43),
  (0x10E60, 0x10E68), (0x11052, 0x1105A), (0x1F100, 0x1F10A)]

def isAnyDigit (c : CodePoint) : Bool :=
  c.digit?.isSome || otherDigits.any fun (low, high) => c.isBetween low high

/-- The name of a file put aside: a number at its end is set off by a hyphen. -/
def rotatedName (name : Text) : Text :=
  let number := (name.reverse.takeWhile fun (c : CodePoint) => c ≠ '.').reverse
  if number.isEmpty || !number.all isAnyDigit then name
  else name.take (name.length - number.length - 1) ++ "-" ++ number

/-- All files with what they hold. -/
def files (f : RotatingFile) : List (Text × Text) :=
  (f.name, f.current) :: f.earlier.zipIdx.map fun (t, i) => (rotatedName (f.name ++ "." ++ Text.ofNat (i + 1)), t)

end RotatingFile

end LessonService.Logging
