import LessonService.Text.Basic

namespace LessonService.Quoted

def hexDigit (n : Nat) : CodePoint := ⟨if n < 10 then 0x30 + n else 0x57 + n⟩

/-- The escape of a unit of 16 bits. -/
def unit (n : Nat) : Text :=
  ['\\', 'u', hexDigit (n / 4096 % 16), hexDigit (n / 256 % 16), hexDigit (n / 16 % 16), hexDigit (n % 16)]

def units (n : Nat) : Text :=
  if n < 0x10000 then unit n
  else unit (0xD800 + (n - 0x10000) / 0x400) ++ unit (0xDC00 + (n - 0x10000) % 0x400)

def escape (ascii : Bool) (c : CodePoint) : Text :=
  if c = '"' then ['\\', '"']
  else if c = '\\' then ['\\', '\\']
  else if c = '\n' then ['\\', 'n']
  else if c = '\r' then ['\\', 'r']
  else if c = '\t' then ['\\', 't']
  else if c.value = 0x0C then ['\\', 'f']
  else if c.value = 0x08 then ['\\', 'b']
  else if c.value < 0x20 then unit c.value
  else if ascii && c.value > 0x7E then units c.value
  else [c]

/-- Between double quotes, as in JSON. Quotes, backslashes and control characters are escaped, and for `ascii` everything
outside ASCII as well, in UTF-16 units of four digits. -/
def encode (ascii : Bool) (t : Text) : Text := ('"' : CodePoint) :: (t.flatMap (escape ascii) ++ [('"' : CodePoint)])

end LessonService.Quoted
