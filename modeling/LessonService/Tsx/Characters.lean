import LessonService.Text.Basic

namespace LessonService.Tsx

abbrev Characters := Array CodePoint

namespace Characters

/-- The number of a character, zero after the end. -/
def code (cs : Characters) (i : Nat) : Nat := (cs[i]?).elim 0 CodePoint.value

def is (cs : Characters) (i : Nat) (c : Char) : Bool := cs.code i = c.toNat

/-- Whether a text stands at a position. -/
def startsWith (cs : Characters) (i : Nat) (t : Text) : Bool := (cs.extract i (i + t.length)).toList = t

/-- Where the characters of a class that start at a position end. -/
def span (holds : Nat → Bool) (cs : Characters) (i : Nat) : Nat :=
  if h : i < cs.size then
    if holds cs[i].value then span holds cs (i + 1) else i
  else i
termination_by cs.size - i

/-- The position after one or more characters of a class. -/
def some1 (holds : Nat → Bool) (cs : Characters) (i : Nat) : Option Nat :=
  let j := span holds cs i
  if j > i then some j else none

end Characters

def isDigit (c : Nat) : Bool := 0x30 ≤ c && c ≤ 0x39

def isHexDigit (c : Nat) : Bool := isDigit c || (0x41 ≤ c && c ≤ 0x46) || (0x61 ≤ c && c ≤ 0x66)

def isLetter (c : Nat) : Bool := (0x41 ≤ c && c ≤ 0x5A) || (0x61 ≤ c && c ≤ 0x7A)

def isLineEnd (c : Nat) : Bool := c = 0x0A || c = 0x2028 || c = 0x2029

/-- The separators of the Unicode space category. -/
def isSpaceSeparator (c : Nat) : Bool :=
  c = 0x20 || c = 0xA0 || c = 0x1680 || (0x2000 ≤ c && c ≤ 0x200A) || c = 0x202F || c = 0x205F || c = 0x3000

/-- What may stand between tokens. -/
def isSpace (c : Nat) : Bool :=
  (0x09 ≤ c && c ≤ 0x0D) || isSpaceSeparator c || c = 0xFEFF || c = 0x2028 || c = 0x2029
    || c = 0x2060 || c = 0x200B

/-- The blanks that the scanner for inserted semicolons and markup text passes over. -/
def isScannerBlank (c : Nat) : Bool :=
  (0x09 ≤ c && c ≤ 0x0D) || c = 0x20 || c = 0x85 || c = 0x1680 || (0x2000 ≤ c && c ≤ 0x2006)
    || (0x2008 ≤ c && c ≤ 0x200A) || c = 0x2028 || c = 0x2029 || c = 0x205F || c = 0x3000

/-- The ASCII punctuation that no name contains. -/
def isPunctuation (c : Nat) : Bool :=
  ":;`\"'@#.,|^&<=>+-*/\\%?!~()[]\x7b\x7d".toList.any fun p => p.toNat = c

def isNameCharacter (c : Nat) : Bool := c > 0x1F && !isSpace c && !isPunctuation c

def isNameStart (c : Nat) : Bool := isNameCharacter c && !isDigit c

end LessonService.Tsx
