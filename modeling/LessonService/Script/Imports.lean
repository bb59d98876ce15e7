import LessonService.Text.Pattern

namespace LessonService.Script

open Pattern

/-- The only module that a script finds. -/
def providedModule : Text := "react"

def isQuote (c : CodePoint) : Bool := charIn "\"'" c

def isAnyQuote (c : CodePoint) : Bool := charIn "\"'`" c

/-- What may stand between `import` and `from`. -/
def isClauseCharacter (c : CodePoint) : Bool := c.isWord || c.isBlank || charIn "$*\x7b\x7d," c

def quoted : Pattern := seq [one isQuote, most (fun c => !isQuote c) 1, one isQuote]

/-- An import at the start of a line, up to the module's closing quote. -/
def staticImport : Pattern := seq [
  lineStart, blanks, exactly "import", someBlanks, optional (both (exactly "type") someBlanks),
  optional (seq [fewest isClauseCharacter 1, someBlanks, exactly "from", someBlanks]), quoted]

/-- A call that loads a module, up to the end of the module's name. -/
def loaderCall : Pattern := seq [
  between fun before _ => before.elim true fun c => !(c.isWord || charIn "$." c),
  either (exactly "import") (exactly "require"), blanks, oneIn "(", blanks, one isAnyQuote,
  most (fun c => !isAnyQuote c) 0]

/-- The end of a text, as far as a condition holds. -/
def ending (holds : CodePoint → Bool) (t : Text) : Text := (t.reverse.takeWhile holds).reverse

/-- The module that an import names: what stands between its last quotes. -/
def importTarget (found : Text) : Text := ending (fun c => !isQuote c) found.dropLast

/-- The module that a call names: what follows its quote. -/
def loaderTarget (found : Text) : Text := ending (fun c => !isAnyQuote c) found

/-- The modules a source asks for, those of imports first. -/
def targets (source : Text) : List Text :=
  (staticImport.findAll source).map importTarget ++ (loaderCall.findAll source).map loaderTarget

/-- The modules a source asks for that a script does not find. -/
def foreignTargets (source : Text) : List Text := (targets source).filter (· ≠ providedModule)

end LessonService.Script
