import LessonService.Text.Blank
import LessonService.Text.Letters

namespace LessonService

/-- A place in a text: the character before it, if there is one, and what follows. -/
structure Place where
  previous : Option CodePoint
  rest : Text

def Place.start (t : Text) : Place := ⟨none, t⟩

inductive Pattern where
  /-- One character of a class. -/
  | one (holds : CodePoint → Bool)
  /-- As many characters of a class as possible, and at least so many. -/
  | most (holds : CodePoint → Bool) (least : Nat)
  /-- As few characters of a class as possible, and at least so many. -/
  | fewest (holds : CodePoint → Bool) (least : Nat)
  /-- No character, between two neighbours for which a condition holds. -/
  | between (holds : Option CodePoint → Option CodePoint → Bool)
  /-- No character, where a pattern could go on. -/
  | ahead (next : Pattern)
  | nothing
  | both (first second : Pattern)
  | either (first second : Pattern)

namespace Pattern

/-- The places after each number of characters of a class, the nearest first. -/
def along (holds : CodePoint → Bool) (previous : Option CodePoint) : Text → List Place
  | [] => [⟨previous, []⟩]
  | c :: t => ⟨previous, c :: t⟩ :: (if holds c then along holds (some c) t else [])

/-- The places where a pattern can end when it starts at a place, the preferred one first. -/
def ends : Pattern → Place → List Place
  | one holds, p =>
    match p.rest with
    | c :: t => if holds c then [⟨some c, t⟩] else []
    | [] => []
  | most holds least, p => ((along holds p.previous p.rest).drop least).reverse
  | fewest holds least, p => (along holds p.previous p.rest).drop least
  | between holds, p => if holds p.previous p.rest.head? then [p] else []
  | ahead next, p => if (next.ends p).isEmpty then [] else [p]
  | nothing, p => [p]
  | both first second, p => (first.ends p).flatMap second.ends
  | either first second, p => first.ends p ++ second.ends p

/-- Where the pattern ends, if it starts at a place. -/
def end? (p : Pattern) (place : Place) : Option Place := (p.ends place).head?

/-- What lies between a place and a later one. -/
def spanned (a b : Place) : Text := a.rest.take (a.rest.length - b.rest.length)

/-- A text parted by a pattern: characters outside it, and what it matched. -/
inductive Segment where
  | kept (c : CodePoint)
  | found (t : Text)

/-- Parts a text from the left. Matches do not overlap, and an empty one is none. -/
def segmentsFrom (p : Pattern) (previous : Option CodePoint) (t : Text) : List Segment :=
  match t with
  | [] => []
  | c :: rest =>
    match p.end? ⟨previous, c :: rest⟩ with
    | some e =>
      if _shorter : e.rest.length < (c :: rest).length then
        .found (spanned ⟨previous, c :: rest⟩ e) :: segmentsFrom p e.previous e.rest
      else .kept c :: segmentsFrom p (some c) rest
    | none => .kept c :: segmentsFrom p (some c) rest
termination_by t.length
decreasing_by
  · assumption
  · exact Nat.lt_succ_self _
  · exact Nat.lt_succ_self _

def segments (p : Pattern) (t : Text) : List Segment := segmentsFrom p none t

/-- Everything the pattern matches. -/
def findAll (p : Pattern) (t : Text) : List Text :=
  (p.segments t).filterMap fun
    | .found m => some m
    | .kept _ => none

/-- Puts something else in the place of every match. -/
def replaceAll (p : Pattern) (change : Text → Text) (t : Text) : Text :=
  (p.segments t).flatMap fun
    | .found m => change m
    | .kept c => [c]

def remove (p : Pattern) (t : Text) : Text := p.replaceAll (fun _ => []) t

/-- The first place from which the pattern matches. -/
def findFrom? (p : Pattern) (previous : Option CodePoint) : Text → Option (Place × Place)
  | [] =>
    (p.end? ⟨previous, []⟩).map fun e => (⟨previous, []⟩, e)
  | c :: t =>
    match p.end? ⟨previous, c :: t⟩ with
    | some e => some (⟨previous, c :: t⟩, e)
    | none => findFrom? p (some c) t

def find? (p : Pattern) (t : Text) : Option (Place × Place) := findFrom? p none t

def occursIn (p : Pattern) (t : Text) : Bool := (p.find? t).isSome

def seq : List Pattern → Pattern
  | [] => nothing
  | [p] => p
  | p :: ps => both p (seq ps)

def oneOf : List Pattern → Pattern
  | [] => between fun _ _ => false
  | [p] => p
  | p :: ps => either p (oneOf ps)

def optional (p : Pattern) : Pattern := either p nothing

def exactly (t : Text) : Pattern := seq (t.map fun c => one (· = c))

/-- A text of ASCII characters, its letters in any case. -/
def inAnyCase (t : Text) : Pattern :=
  seq (t.map fun c => if c.isLowerLetter then one c.isCaseOf else one (· = c))

/-- The same where only the letters of ASCII count. -/
def inPlainCase (t : Text) : Pattern :=
  seq (t.map fun c => one fun d => d = c || (c.isLowerLetter && d.value + 32 = c.value))

def charIn (cs : String) (c : CodePoint) : Bool := cs.toList.any fun d => d.toNat = c.value

def blanks : Pattern := most CodePoint.isBlank 0

def someBlanks : Pattern := most CodePoint.isBlank 1

def oneIn (cs : String) : Pattern := one (charIn cs)

def manyIn (cs : String) : Pattern := most (charIn cs) 0

/-- The edge of a word, given what counts as part of one. -/
def edgeOf (isWord : CodePoint → Bool) : Pattern :=
  between fun a b => a.elim false isWord != b.elim false isWord

def edge : Pattern := edgeOf CodePoint.isWord

def lineStart : Pattern := between fun a _ => a.elim true fun c => c.value = 0x0A

def lineEnd : Pattern := between fun _ b => b.elim true fun c => c.value = 0x0A

def textStart : Pattern := between fun a _ => a.isNone

/-- A line end, with or without a carriage return before it. -/
def lineFeed : Pattern := both (optional (oneIn "\r")) (oneIn "\n")

def notLineFeed (c : CodePoint) : Bool := c.value ≠ 0x0A

end Pattern

end LessonService
