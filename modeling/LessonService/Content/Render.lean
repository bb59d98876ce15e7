import LessonService.Content
import LessonService.Json.Write

namespace LessonService.Content

/-- Why a value has no text as JSON. Failures and numbers that are not finite have none, nor have members of a set that
have no order. -/
inductive RenderError where
  | unsupported (typeName : Text)
  | notFinite
  /-- A whole number has too many digits. -/
  | longNumber
  /-- Lists and records lie in one another too deeply. -/
  | tooDeep
  /-- Two members of a set that cannot be compared. -/
  | unordered (first second : Text)
  /-- Unpaired surrogates at a place in the result. -/
  | unencodable (run : Text) (position : Nat)
deriving DecidableEq

/-- The kind of error that a caller sees. -/
def RenderError.name : RenderError → Text
  | unsupported _ | unordered _ _ => "TypeError"
  | notFinite | longNumber => "ValueError"
  | tooDeep => "RecursionError"
  | unencodable _ _ => "UnicodeEncodeError"

/-- How a message counts positions: one, or from the first to the last. -/
def RenderError.message : RenderError → Text
  | unsupported name => "Object of type " ++ name ++ " is not JSON serializable"
  | notFinite => "Out of range float values are not JSON compliant"
  | longNumber => Decimal.unwritableText
  | tooDeep => "maximum recursion depth exceeded"
  | unordered a b => "'<' not supported between instances of '" ++ a ++ "' and '" ++ b ++ "'"
  | unencodable run position =>
    match run with
    | [c] =>
      "'utf-8' codec can't encode character '" ++ Literal.escape ⟨0⟩ c ++ "' in position " ++ Text.ofNat position
        ++ ": surrogates not allowed"
    | _ =>
      "'utf-8' codec can't encode characters in position " ++ Text.ofNat position ++ "-"
        ++ Text.ofNat (position + run.length - 1) ++ ": surrogates not allowed"

def typeName : Content → Text
  | null => "NoneType"
  | flag _ => "bool"
  | number (.whole _) => "int"
  | number (.real _) => "float"
  | text _ => "str"
  | list _ => "list"
  | tuple _ => "tuple"
  | set _ => "set"
  | record _ => "dict"
  | date _ => "datetime.date"
  | time _ => "datetime.datetime"
  | failure f => f.name

/-- The number that a member of a set counts as. -/
def asNumber? : Content → Option Number
  | flag b => some (.whole (if b then 1 else 0))
  | number n => some n
  | _ => none

/-- Whether one member of a set comes before another, if they can be compared. -/
def isBefore? (a b : Content) : Option Bool :=
  match asNumber? a, asNumber? b with
  | some x, some y => some (x.less y)
  | _, _ =>
    match a, b with
    | text s, text t => some (s.map CodePoint.value < t.map CodePoint.value)
    | date c, date d => some (c.toDays < d.toDays)
    | time s, time t => some ((Instant.ofDateTime s).micros < (Instant.ofDateTime t).micros)
    | _, _ => none

/-- The first member that cannot be compared with the one before it. -/
def incomparable? : List Content → Option RenderError
  | a :: b :: cs => if (isBefore? b a).isNone then some (.unordered b.typeName a.typeName) else incomparable? (b :: cs)
  | _ => none

/-- Texts of members, in the order of the members. -/
def inOrder (members : List Content) (texts : List Text) : List Text :=
  ((members.zip texts).mergeSort fun a b => !(isBefore? b.1 a.1).getD false).map Prod.snd

def numberText : Number → Except RenderError Text
  | .whole n => if Decimal.isWritable n then .ok (Text.ofInt n) else .error .longNumber
  | .real x => if x.value?.isSome then .ok (Decimal.ofDouble x) else .error .notFinite

/-- The levels that are left below one of so many. -/
def levelsBelow : Nat → Except RenderError Nat
  | 0 => .error .tooDeep
  | levels + 1 => .ok levels

mutual

/-- A value as JSON, written on so many levels at most: what lies in a list or a record is a level further down, and so
is what is written in place of a value that JSON does not know. Dates and times are written as texts, tuples as lists,
and sets as lists in order. -/
def written (levels : Nat) : Content → Except RenderError Text
  | list items | tuple items => do return bracketed (← writtenItems (← levelsBelow levels) items)
  | set members => do
    let levels ← levelsBelow levels
    match incomparable? members with
    | some e => .error e
    | none => return bracketed (inOrder members (← writtenItems (← levelsBelow levels) members))
  | record fields => do return "\x7b" ++ Text.join "," (← writtenFields (← levelsBelow levels) fields) ++ "\x7d"
  | null => .ok "null"
  | flag b => .ok (if b then "true" else "false")
  | number n => numberText n
  | text t => .ok (Quoted.encode false t)
  | date d => (levelsBelow levels).map fun _ => Quoted.encode false d.toText
  | time t => (levelsBelow levels).map fun _ => Quoted.encode false (t.toText "T")
  | failure f => levelsBelow levels >>= fun _ => .error (.unsupported f.name)
where
  /-- Parts as a list. -/
  bracketed (ts : List Text) : Text := "[" ++ Text.join "," ts ++ "]"

def writtenItems (levels : Nat) : List Content → Except RenderError (List Text)
  | [] => .ok []
  | c :: cs => do return (← written levels c) :: (← writtenItems levels cs)

def writtenFields (levels : Nat) : List (Text × Content) → Except RenderError (List Text)
  | [] => .ok []
  | (n, c) :: fs => do return (Quoted.encode false n ++ ":" ++ (← written levels c)) :: (← writtenFields levels fs)

end

/-- The value as JSON that can be sent. -/
def render (c : Content) : Except RenderError Text := do
  let t ← c.written maxDepth
  let start := t.takeWhile fun c => !c.isUnpaired
  let run := (t.drop start.length).takeWhile CodePoint.isUnpaired
  if run.isEmpty then return t else .error (.unencodable run start.length)

end LessonService.Content
