import LessonService.Script.Imports

namespace LessonService.Script

open Pattern

/-- The name under which a page finds the component. -/
def entryPoint : Text := "LessonComponent"

def gap : Pattern := manyIn " \t"

/-- A semicolon and the blanks around it, all of which may be absent. -/
def terminator : Pattern := seq [gap, optional (oneIn ";"), gap]

/-- A line that holds the directive only. -/
def directiveLine : Pattern := seq [
  lineStart, gap, oneIn "\"'", inAnyCase "use", someBlanks, inAnyCase "client", oneIn "\"'",
  terminator, either lineFeed lineEnd]

/-- The directive at the start of a source, with or without its quotes. -/
def leadingDirective : Pattern := seq [
  textStart, blanks, optional (oneIn "\"'"), inAnyCase "use", someBlanks, inAnyCase "client", edge,
  optional (oneIn "\"'"), gap, optional (oneIn ";"), blanks]

def withoutDirective (source : Text) : Text := leadingDirective.remove (directiveLine.remove source)

/-- From `import` at the start of a line to the next module that something comes from. -/
def importFrom : Pattern := seq [
  lineStart, gap, exactly "import", someBlanks, fewest (fun _ => true) 0, edge, exactly "from", blanks,
  quoted, terminator, optional lineFeed]

def importForEffect : Pattern := seq [
  lineStart, gap, exactly "import", blanks, quoted, terminator, optional lineFeed]

def withoutImports (source : Text) : Text := importForEffect.remove (importFrom.remove source)

def isNameStart (c : CodePoint) : Bool := c.isLetter || c = '_' || c = '$'

def isNamePart (c : CodePoint) : Bool := c.isWord || c = '$'

/-- A function that is exported by default, up to its parameters. -/
def exportedFunction : Pattern := seq [
  edge, exactly "export", someBlanks, exactly "default", someBlanks, exactly "function",
  either (seq [someBlanks, one isNameStart, most isNamePart 0]) blanks, ahead (both blanks (oneIn "<("))]

def withEntryPoint (source : Text) : Text := exportedFunction.replaceAll (fun _ => "function " ++ entryPoint) source

def exportMark : Pattern := seq [
  lineStart, gap, exactly "export", someBlanks, optional (both (exactly "default") someBlanks)]

/-- The source without export marks; what stands before them on their lines stays. -/
def withoutExports (source : Text) : Text := exportMark.replaceAll (fun m => m.takeWhile (charIn " \t")) source

/-- The source with at most one empty line at a time. -/
def withoutBlankRuns (source : Text) : Text := (most (· = '\n') 3).replaceAll (fun _ => "\n\n") source

/-- The source as a script. -/
def toScript (source : Text) : Text :=
  withoutBlankRuns (Text.trim (withoutExports (withEntryPoint (withoutImports (withoutDirective source)))))

end LessonService.Script
