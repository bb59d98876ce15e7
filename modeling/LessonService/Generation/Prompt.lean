import LessonService.Failure
import LessonService.Generation.Template
import LessonService.Request.Writing
import LessonService.Text.Pattern

namespace LessonService.Generation

open Pattern

def languageNote (outline : Text) : Text :=
  let language := Request.language outline
  if language = Request.defaultLanguage then []
  else
    "\n\nIMPORTANT: The lesson outline is in " ++ language ++ ". Generate the lesson content in " ++ language
      ++ " script while keeping the code structure and comments in English. The educational content should be in "
      ++ language ++ " to match the user's request."

/-- Asks for a first draft; attempts count from one. -/
def generationPrompt (outline : Text) (attempt : Int) : Text :=
  let note : Text :=
    if attempt > 1 then
      "\nThis is attempt " ++ Text.ofInt attempt
        ++ ". Previous attempts failed. Ensure proper syntax and structure.\n"
    else []
  fill generationTemplate
    [("LANGUAGE_NOTE", languageNote outline), ("ATTEMPT_NOTE", note), ("OUTLINE", outline)]

def repairPrompt (outline code : Text) (violations : List Text) : Text :=
  fill repairTemplate [
    ("ERROR_COUNT", Text.ofNat violations.length), ("ERRORS", numbered violations), ("CODE", code),
    ("OUTLINE", outline)]

def titlePrompt (outline : Text) : Text := fill titleTemplate [("OUTLINE", outline)]

/-- The marks around code, with the name of its language and the end of the line. -/
def fence : Pattern := seq [
  exactly "```",
  optional (oneOf (["typescript", "tsx", "jsx", "ts", "javascript", "js"].map fun l => inAnyCase (Text.ofString l))),
  manyIn " \t", optional (oneIn "\r"), optional (oneIn "\n")]

/-- What models say before the code. -/
def preamble : Pattern := seq [
  textStart,
  oneOf [inAnyCase "here's the fixed code", inAnyCase "here is the fixed code", inAnyCase "fixed code"],
  blanks, optional (oneIn ":"), blanks, manyIn "\n"]

/-- The code in an answer. -/
def cleanCode (answer : Text) : Text := Text.trim (preamble.remove (Text.trim (fence.remove answer)))

def maxTitleLength : Nat := 60

def fallbackTitle : Text := "Untitled Lesson"

/-- A text in one line that is no longer than a title may be. -/
def truncateTitle (t : Text) : Text :=
  let line := Text.join " " (Text.words t)
  if line.length ≤ maxTitleLength then line
  else Text.trimRight CodePoint.isBlank (line.take (maxTitleLength - 3)) ++ "..."

/-- The title in an answer: its first line without the marks around it. -/
def cleanTitle (answer : Text) : Text :=
  let line := ((Text.lines (Text.trim answer)).head?).getD []
  let title := Text.trim (Text.trimBy (charIn "\"'*#") (Text.trim line))
  if title.isEmpty then fallbackTitle else truncateTitle title

end LessonService.Generation
