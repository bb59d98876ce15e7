import LessonService.Text.Pattern

namespace LessonService.Script

open Pattern

/-- What no lesson may contain, before or after it is compiled. -/
inductive Hazard where
  | evaluation
  | functionConstructor
  | innerMarkup
  | rawMarkup
  | prototype
  | documentWrite
deriving DecidableEq

namespace Hazard

def all : List Hazard := [evaluation, functionConstructor, innerMarkup, rawMarkup, prototype, documentWrite]

def pattern : Hazard → Pattern
  | evaluation => seq [edge, exactly "eval", blanks, oneIn "("]
  | functionConstructor => seq [edge, exactly "Function", blanks, oneIn "("]
  | innerMarkup => seq [exactly "innerHTML", blanks, oneIn "="]
  | rawMarkup => exactly "dangerouslySetInnerHTML"
  | prototype => exactly "__proto__"
  | documentWrite => exactly "document.write"

def message : Hazard → Text
  | evaluation => "Contains dangerous eval() function"
  | functionConstructor => "Contains dangerous Function() constructor"
  | innerMarkup => "Contains dangerous innerHTML (XSS risk)"
  | rawMarkup => "Contains dangerouslySetInnerHTML (use with caution)"
  | prototype => "Contains __proto__ manipulation"
  | documentWrite => "Contains document.write (deprecated)"

/-- The hazards in a text. -/
def within (t : Text) : List Hazard := all.filter fun h => h.pattern.occursIn t

end Hazard

end LessonService.Script
