import LessonService.Text.Blank
import LessonService.Text.CharacterReference

namespace LessonService.Script.MarkupText

/-- The lines of a text: parted at line feeds, carriage returns and pairs of them. -/
def lines : Text → List Text
  | [] => [[]]
  | [c] => if c = '\n' || c = '\r' then [[], []] else [[c]]
  | c :: d :: t =>
    if c = '\r' && d = '\n' then [] :: lines t
    else if c = '\n' || c = '\r' then [] :: lines (d :: t)
    else
      match lines (d :: t) with
      | l :: ls => (c :: l) :: ls
      | [] => [[c]]

def isSpace (c : CodePoint) : Bool := c = ' '

def isSpaceOrTab (c : CodePoint) : Bool := c = ' ' || c = '\t'

/-- A line that holds something other than spaces and tabs. -/
def isFull (line : Text) : Bool := !line.all isSpaceOrTab

/-- What a line contributes, by whether it is the first, the last, and the last full one. -/
def piece (first last lastFull : Bool) (line : Text) : Text :=
  let spaced := line.map fun (c : CodePoint) => if c = '\t' then (' ' : CodePoint) else c
  let spaced := if first then spaced else Text.trimLeft isSpace spaced
  let spaced := if last then spaced else Text.trimRight isSpace spaced
  if spaced.isEmpty || lastFull then spaced else spaced ++ [(' ' : CodePoint)]

/-- The last full line, or the first line if there is none. -/
def lastFull (ls : List Text) : Nat :=
  ls.zipIdx.foldl (fun last (line, i) => if isFull line then i else last) 0

def layOut (t : Text) : Text :=
  let ls := lines t
  let full := lastFull ls
  ls.zipIdx.flatMap fun (line, i) => piece (i = 0) (i + 1 = ls.length) (i = full) line

/-- The text that a page shows for what is written between tags. -/
def clean (raw : Text) : Text := layOut (CharacterReference.decode raw)

end LessonService.Script.MarkupText
