import LessonService.Text.HiddenTable
import LessonService.Text.Letters
import LessonService.Text.Quoted

namespace LessonService.Literal

/-- The last digits of a number in base sixteen. -/
def hexDigits : Nat → Nat → Text
  | 0, _ => []
  | count + 1, n => hexDigits count (n / 16) ++ [Quoted.hexDigit (n % 16)]

def isHidden (c : CodePoint) : Bool :=
  c.value < 0x20 || c.value = 0x7F || (c.value > 0x7F && CodePoint.isIn HiddenTable.ranges c.value)

def escape (quote c : CodePoint) : Text :=
  if c = quote || c = '\\' then ['\\', c]
  else if c = '\t' then ['\\', 't']
  else if c = '\n' then ['\\', 'n']
  else if c = '\r' then ['\\', 'r']
  else if !isHidden c then [c]
  else if c.value ≤ 0xFF then '\\' :: 'x' :: hexDigits 2 c.value
  else if c.value ≤ 0xFFFF then '\\' :: 'u' :: hexDigits 4 c.value
  else '\\' :: 'U' :: hexDigits 8 c.value

/-- Between apostrophes, or between double quotes if the text holds apostrophes and no double quotes, with everything
escaped that cannot be seen. -/
def encode (t : Text) : Text :=
  let quote : CodePoint := if ('\'' : CodePoint) ∈ t && ('"' : CodePoint) ∉ t then '"' else '\''
  quote :: (t.flatMap (escape quote) ++ [quote])

end LessonService.Literal
