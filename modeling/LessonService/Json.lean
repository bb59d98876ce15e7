import LessonService.Number

namespace LessonService

/-- The values of JSON. A record keeps its fields in the order in which their names first appeared. -/
inductive Json where
  | null
  | flag (b : Bool)
  | number (n : Number)
  | text (t : Text)
  | list (items : List Json)
  | record (fields : List (Text × Json))

namespace Json

instance : Inhabited Json := ⟨null⟩

instance : Coe Text Json := ⟨text⟩

instance : Coe Bool Json := ⟨flag⟩

def ofString (s : String) : Json := text (Text.ofString s)

def ofNat (n : Nat) : Json := number (.whole n)

def ofInt (n : Int) : Json := number (.whole n)

def ofOption (f : α → Json) : Option α → Json
  | some a => f a
  | none => null

/-- Gives a field a value, in its old place if it is there already. -/
def setField (name : Text) (value : Json) : List (Text × Json) → List (Text × Json)
  | [] => [(name, value)]
  | (n, v) :: fields => if n = name then (n, value) :: fields else (n, v) :: setField name value fields

def field? (j : Json) (name : Text) : Option Json :=
  match j with
  | record fields => (fields.find? fun f => f.1 = name).map Prod.snd
  | _ => none

def text? : Json → Option Text
  | text t => some t
  | _ => none

def items? : Json → Option (List Json)
  | list js => some js
  | _ => none

def fields? : Json → Option (List (Text × Json))
  | record fs => some fs
  | _ => none

end Json

end LessonService
