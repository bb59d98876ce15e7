import LessonService.Text.Basic

namespace LessonService

def CodePoint.isBlank (c : CodePoint) : Bool :=
  let n := c.value
  (0x09 ≤ n && n ≤ 0x0D) || (0x1C ≤ n && n ≤ 0x20) || n = 0x85 || n = 0xA0 || n = 0x1680
    || (0x2000 ≤ n && n ≤ 0x200A) || n = 0x2028 || n = 0x2029 || n = 0x202F || n = 0x205F || n = 0x3000

/-- Space, tab, line feed, vertical tab, form feed and carriage return. -/
def CodePoint.isPlainBlank (c : CodePoint) : Bool := c.value = 0x20 || (0x09 ≤ c.value && c.value ≤ 0x0D)

def CodePoint.isLineBreak (c : CodePoint) : Bool :=
  let n := c.value
  (0x0A ≤ n && n ≤ 0x0D) || (0x1C ≤ n && n ≤ 0x1E) || n = 0x85 || n = 0x2028 || n = 0x2029

namespace Text

def trimLeft (holds : CodePoint → Bool) (t : Text) : Text := t.dropWhile holds

def trimRight (holds : CodePoint → Bool) (t : Text) : Text := (t.reverse.dropWhile holds).reverse

def trimBy (holds : CodePoint → Bool) (t : Text) : Text := trimRight holds (trimLeft holds t)

/-- The text without the blanks at its ends. -/
def trim (t : Text) : Text := trimBy CodePoint.isBlank t

def isBlank (t : Text) : Bool := t.all CodePoint.isBlank

/-- The runs of characters that are not blank, one character at a time from the right. -/
def wordsAndStart : Text → Text × List Text
  | [] => ([], [])
  | c :: t =>
    let (word, rest) := wordsAndStart t
    if c.isBlank then ([], if word.isEmpty then rest else word :: rest) else (c :: word, rest)

/-- The parts between blanks. -/
def words (t : Text) : List Text :=
  let (word, rest) := wordsAndStart t
  if word.isEmpty then rest else word :: rest

/-- The parts between line breaks. A break at the end starts no line. -/
def lines : Text → List Text
  | [] => []
  | c :: t =>
    if c.value = 0x0D then
      match t with
      | d :: t' => if d.value = 0x0A then [] :: lines t' else [] :: lines (d :: t')
      | [] => [[]]
    else if c.isLineBreak then [] :: lines t
    else
      match lines t with
      | [] => [[c]]
      | l :: ls => (c :: l) :: ls

end Text

end LessonService
