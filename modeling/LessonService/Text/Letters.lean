import LessonService.Text.Basic
import LessonService.Text.LetterTable

namespace LessonService.CodePoint

open LetterTable

/-- Finds the last range that starts at or before a number, between two indices. -/
def findRange (start : Nat → Nat) (n : Nat) : Nat → Nat → Nat → Nat
  | 0, low, _ => low
  | fuel + 1, low, high =>
    if high ≤ low + 1 then low
    else
      let middle := (low + high) / 2
      if start middle ≤ n then findRange start n fuel middle high else findRange start n fuel low middle

def isIn (ranges : Array (Nat × Nat)) (n : Nat) : Bool :=
  let i := findRange (fun k => (ranges[k]?).elim 0 Prod.fst) n 32 0 ranges.size
  match ranges[i]? with
  | some (low, high) => low ≤ n && n ≤ high
  | none => false

/-- Letters, numbers and the underscore. -/
def isWord (c : CodePoint) : Bool :=
  if c.value < 0x80 then c.isLetter || c.isDigit || c.value = 0x5F else isIn wordRanges c.value

/-- The letters, digits and underscore of ASCII. -/
def isPlainWord (c : CodePoint) : Bool := c.isLetter || c.isDigit || c.value = 0x5F

def isLowercase (c : CodePoint) : Bool :=
  if c.value < 0x80 then c.isLowerLetter else isIn lowercaseRanges c.value

/-- The lowercase of a character by itself, one character for one. -/
def lower (c : CodePoint) : CodePoint :=
  if c.value < 0x80 then (if c.isUpperLetter then ⟨c.value + 32⟩ else c)
  else
    let i := findRange (fun k => (lowercaseRuns[k]?).elim 0 Prod.fst) c.value 32 0 lowercaseRuns.size
    match lowercaseRuns[i]? with
    | some (first, last, step, image) =>
      if first ≤ c.value && c.value ≤ last && (c.value - first) % step = 0 then ⟨image + (c.value - first)⟩ else c
    | none => c

/-- Whether a character is an ASCII letter, given in lowercase, in any case. The dotted and dotless
i, the long s and the Kelvin sign count as letters of their pairs. -/
def isCaseOf (letter c : CodePoint) : Bool :=
  c.lower = letter
    || (letter.value = 0x69 && c.value = 0x131)
    || (letter.value = 0x73 && c.value = 0x17F)

end LessonService.CodePoint

namespace LessonService.Text

/-- Whether a character has a case. -/
def isCased (c : CodePoint) : Bool := c.isLowercase || c.lower ≠ c

/-- A text in lowercase. A dotted capital i becomes two characters, and a sigma that ends a word
gets its own form. -/
def lowerAfter (inWord : Bool) : Text → Text
  | [] => []
  | c :: t =>
    let image : Text :=
      if c.value = 0x130 then [⟨0x69⟩, ⟨0x307⟩]
      else if c.value = 0x3A3 && inWord && !(t.head?.elim false isCased) then [⟨0x3C2⟩]
      else [c.lower]
    image ++ lowerAfter (isCased c) t

def lower (t : Text) : Text := lowerAfter false t

end LessonService.Text
