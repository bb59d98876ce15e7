import LessonService.Number.Decimal
import LessonService.Text.CharacterReference
import LessonService.Text.Utf8

namespace LessonService.Web.Percent

/-- The bytes of a text in ASCII. A percent sign that no two digits follow stands for itself. -/
def bytes : Text → List Nat
  | [] => []
  | [c] => [c.value]
  | [c, d] => [c.value, d.value]
  | c :: d :: e :: t =>
    if c = '%' && d.isHexDigit && e.isHexDigit then CharacterReference.valueIn 16 [d, e] :: bytes t
    else c.value :: bytes (d :: e :: t)

/-- Splits a text where characters of ASCII and others meet. -/
def runs : Text → List (Bool × Text)
  | [] => []
  | c :: t =>
    let plain : Bool := c.value < 0x80
    match runs t with
    | (p, run) :: rest => if p = plain then (p, c :: run) :: rest else (plain, [c]) :: (p, run) :: rest
    | [] => [(plain, [c])]

def decode (t : Text) : Text :=
  (runs t).flatMap fun (plain, run) => if plain then Utf8.decode (bytes run) else run

/-- A part of a query, where a plus sign stands for a space. -/
def decodeField (t : Text) : Text := decode (t.map fun (c : CodePoint) => if c = '+' then ⟨0x20⟩ else c)

/-- The names and values of a query, in order. -/
def fields (query : Text) : List (Text × Text) :=
  ((Text.splitOn '&' query).filter fun part => !part.isEmpty).map fun part =>
    let name := part.takeWhile fun (c : CodePoint) => c ≠ '='
    (decodeField name, decodeField (part.drop (name.length + 1)))

def hexDigit (n : Nat) : CodePoint := ⟨if n < 10 then 0x30 + n else 0x37 + n⟩

/-- Characters that stand for themselves in a whole address. -/
def isSafe (c : CodePoint) : Bool :=
  c.isLetter || c.isDigit || c ∈ ("_.-~:/%#?=@[]!$&'()*+,;" : Text)

/-- An address in ASCII. Percent signs stay as they are. -/
def encode (t : Text) : Text :=
  t.flatMap fun c =>
    if isSafe c then [c]
    else (Utf8.encodeOne c).flatMap fun b => ['%', hexDigit (b / 16), hexDigit (b % 16)]

end LessonService.Web.Percent
