import LessonService.Json
import LessonService.Text.Quoted

namespace LessonService.Json

def numberText : Number → Text
  | .whole n => Text.ofInt n
  | .real (.infinite negative) => if negative then "-Infinity" else "Infinity"
  | .real .undefined => "NaN"
  | .real x => Decimal.ofDouble x

mutual

/-- The text of a value, for `ascii` in ASCII only. -/
def write (ascii : Bool) : Json → Text
  | null => "null"
  | flag b => if b then "true" else "false"
  | number n => numberText n
  | text t => Quoted.encode ascii t
  | list items => '[' :: (Text.join "," (writeItems ascii items) ++ "]")
  | record fields => '\x7b' :: (Text.join "," (writeFields ascii fields) ++ "\x7d")

def writeItems (ascii : Bool) : List Json → List Text
  | [] => []
  | j :: js => write ascii j :: writeItems ascii js

def writeFields (ascii : Bool) : List (Text × Json) → List Text
  | [] => []
  | (n, j) :: fs => (Quoted.encode ascii n ++ ":" ++ write ascii j) :: writeFields ascii fs

end

end LessonService.Json
