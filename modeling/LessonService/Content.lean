import LessonService.Failure
import LessonService.Json
import LessonService.Text.Literal
import LessonService.Time

namespace LessonService

/-- A value that errors and answers are made of: one of JSON, or besides a tuple, a set, a date, a time or a failure. -/
inductive Content where
  | null
  | flag (b : Bool)
  | number (n : Number)
  | text (t : Text)
  | list (items : List Content)
  | tuple (items : List Content)
  /-- Different members, in the order in which they are visited. -/
  | set (members : List Content)
  | record (fields : List (Text × Content))
  | date (d : Date)
  | time (t : DateTime)
  | failure (f : Failure)

namespace Content

instance : Inhabited Content := ⟨null⟩

instance : Coe Text Content := ⟨text⟩

instance : Coe Bool Content := ⟨flag⟩

def ofString (s : String) : Content := text (Text.ofString s)

def ofInt (n : Int) : Content := number (.whole n)

def ofOption (f : α → Content) : Option α → Content
  | some a => f a
  | none => null

mutual

def ofJson : Json → Content
  | .null => null
  | .flag b => flag b
  | .number n => number n
  | .text t => text t
  | .list items => list (ofJsonItems items)
  | .record fields => record (ofJsonFields fields)

def ofJsonItems : List Json → List Content
  | [] => []
  | j :: js => ofJson j :: ofJsonItems js

def ofJsonFields : List (Text × Json) → List (Text × Content)
  | [] => []
  | (n, j) :: fs => (n, ofJson j) :: ofJsonFields fs

end

def field? (name : Text) (fields : List (Text × Content)) : Option Content :=
  (fields.find? fun f => f.1 = name).map Prod.snd

/-- Gives a field a value, in its old place if it is there already. -/
def setField (name : Text) (value : Content) : List (Text × Content) → List (Text × Content)
  | [] => [(name, value)]
  | (n, v) :: fields => if n = name then (n, value) :: fields else (n, v) :: setField name value fields

/-- Nothing, false, zero and everything without a part. -/
def isVacant : Content → Bool
  | null => true
  | flag b => !b
  | number n => n.value? = some 0
  | text t => t.isEmpty
  | list items => items.isEmpty
  | tuple items => items.isEmpty
  | set members => members.isEmpty
  | record fields => fields.isEmpty
  | _ => false

/-- A date as a call that makes it. -/
def dateCall (d : Date) : List Text := [Text.ofInt d.year, Text.ofNat d.month, Text.ofNat d.day]

/-- A time as a call that makes it. Trailing zeros of seconds and their fraction are left out. -/
def timeCall (t : DateTime) : List Text :=
  let seconds := t.micros / 1000000
  let fraction := t.micros % 1000000
  dateCall t.date ++ [Text.ofNat (seconds / 3600), Text.ofNat (seconds / 60 % 60)]
    ++ (if seconds % 60 = 0 && fraction = 0 then [] else [Text.ofNat (seconds % 60)])
    ++ (if fraction = 0 then [] else [Text.ofNat fraction])
    ++ (match t.offset with
      | none => []
      | some 0 => [Text.ofString "tzinfo=datetime.timezone.utc"]
      | some n => [
        "tzinfo=datetime.timezone(datetime.timedelta(" ++ Text.ofString (if n < 0 then "days=-1, " else "")
          ++ "seconds=" ++ Text.ofInt (n.fmod 86400) ++ "))"])

/-- What a failure was made with. The text of a missing key is a literal already. -/
def failureArgument (f : Failure) : Text :=
  if f.text.isEmpty || f.name = ("KeyError" : Text) then f.text else Literal.encode f.text

mutual

/-- A value as a literal: texts in quotes, and every part as a literal. -/
def literal : Content → Text
  | null => "None"
  | flag b => if b then "True" else "False"
  | number n => n.toText
  | text t => Literal.encode t
  | list items => "[" ++ Text.join ", " (literals items) ++ "]"
  | tuple items =>
    match literals items with
    | [only] => "(" ++ only ++ ",)"
    | all => "(" ++ Text.join ", " all ++ ")"
  | set members => if members.isEmpty then "set()" else "\x7b" ++ Text.join ", " (literals members) ++ "\x7d"
  | record fields => "\x7b" ++ Text.join ", " (fieldLiterals fields) ++ "\x7d"
  | date d => "datetime.date(" ++ Text.join ", " (dateCall d) ++ ")"
  | time t => "datetime.datetime(" ++ Text.join ", " (timeCall t) ++ ")"
  | failure f => f.name ++ "(" ++ failureArgument f ++ ")"

def literals : List Content → List Text
  | [] => []
  | c :: cs => literal c :: literals cs

def fieldLiterals : List (Text × Content) → List Text
  | [] => []
  | (n, c) :: fs => (Literal.encode n ++ ": " ++ literal c) :: fieldLiterals fs

end

/-- A value as it is shown: a text as it stands, everything else as a literal or a plain date. -/
def shown : Content → Text
  | text t => t
  | date d => d.toText
  | time t => t.toText " "
  | failure f => f.text
  | other => other.literal

/-- A failure in one line. -/
def failureLine (f : Failure) : Text := if f.text.isEmpty then f.name else f.name ++ ": " ++ f.text

mutual

/-- The value with everything that JSON does not know as a text or a list. -/
def plain : Content → Content
  | list items => list (plainItems items)
  | tuple items => list (plainItems items)
  | set members => list (plainItems members)
  | record fields => record (plainFields fields)
  | date d => text d.toText
  | time t => text (t.toText " ")
  | failure f => text (failureLine f)
  | other => other

def plainItems : List Content → List Content
  | [] => []
  | c :: cs => plain c :: plainItems cs

def plainFields : List (Text × Content) → List (Text × Content)
  | [] => []
  | (n, c) :: fs => (n, plain c) :: plainFields fs

end

mutual

/-- How many steps down a value is followed to make it plain: two for each list or record on the longest way. -/
def depth : Content → Nat
  | list items | tuple items | set items => depthOfAll items + 2
  | record fields => depthOfFields fields + 2
  | _ => 1

def depthOfAll : List Content → Nat
  | [] => 0
  | c :: cs => max (depth c) (depthOfAll cs)

def depthOfFields : List (Text × Content) → Nat
  | [] => 0
  | (_, c) :: fs => max (depth c) (depthOfFields fs)

end

/-- How far down a value is followed, whether to make it plain or to write it. -/
def maxDepth : Nat := 985

/-- The plain value, unless it goes too far down. -/
def plain? (c : Content) : Option Content := if c.depth > maxDepth then none else some c.plain

end Content

end LessonService
