namespace LessonService

/-- The number of a character or of an unpaired surrogate. -/
structure CodePoint where
  value : Nat
deriving DecidableEq, Hashable

instance : Coe Char CodePoint := ⟨fun c => ⟨c.toNat⟩⟩

/-- Unlike a string, a text may hold unpaired surrogates, which arrive in requests and replies and which no character
stands for. -/
abbrev Text := List CodePoint

namespace CodePoint

def isUnpaired (c : CodePoint) : Bool := 0xD800 ≤ c.value && c.value ≤ 0xDFFF

def isBetween (low high : Nat) (c : CodePoint) : Bool := low ≤ c.value && c.value ≤ high

def isDigit (c : CodePoint) : Bool := c.isBetween 0x30 0x39

def isLowerLetter (c : CodePoint) : Bool := c.isBetween 0x61 0x7A

def isUpperLetter (c : CodePoint) : Bool := c.isBetween 0x41 0x5A

def isLetter (c : CodePoint) : Bool := c.isLowerLetter || c.isUpperLetter

def isHexDigit (c : CodePoint) : Bool := c.isDigit || c.isBetween 0x41 0x46 || c.isBetween 0x61 0x66

/-- The character, with a question mark in the place of an unpaired surrogate. -/
def toChar (c : CodePoint) : Char := if c.isUnpaired then '?' else Char.ofNat c.value

/-- How many bytes the character takes in a file. -/
def byteCount (c : CodePoint) : Nat :=
  if c.value < 0x80 || c.isUnpaired then 1
  else if c.value < 0x800 then 2
  else if c.value < 0x10000 then 3
  else 4

end CodePoint

namespace Text

def ofString (s : String) : Text := s.toList.map fun c => ⟨c.toNat⟩

instance : Coe String Text := ⟨ofString⟩

/-- The text as a string, with question marks in the place of unpaired surrogates. -/
def toString (t : Text) : String := String.ofList (t.map CodePoint.toChar)

def ofNat (n : Nat) : Text := ofString (n.repr)

def ofInt (n : Int) : Text := ofString (n.repr)

def byteCount (t : Text) : Nat := t.foldl (fun n c => n + c.byteCount) 0

/-- The texts with a separator between any two. -/
def join (separator : Text) : List Text → Text
  | [] => []
  | [t] => t
  | t :: ts => t ++ separator ++ join separator ts

def ofLines (lines : List String) : Text := join (ofString "\n") (lines.map ofString)

/-- What follows a given start, if the text has it. -/
def dropStart? (start t : Text) : Option Text :=
  if start.isPrefixOf t then some (t.drop start.length) else none

/-- Whether one text occurs in another. -/
def contains (part : Text) : Text → Bool
  | [] => part.isEmpty
  | c :: t => part.isPrefixOf (c :: t) || contains part t

/-- Texts in the order of their code points. -/
def sorted (ts : List Text) : List Text := ts.mergeSort fun a b => !(b.map CodePoint.value < a.map CodePoint.value)

/-- The parts between separators; at least one. -/
def splitOn (separator : CodePoint) : Text → List Text
  | [] => [[]]
  | c :: t =>
    if c = separator then [] :: splitOn separator t
    else
      match splitOn separator t with
      | part :: parts => (c :: part) :: parts
      | [] => [[c]]

end Text

end LessonService
