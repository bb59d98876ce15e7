import LessonService.Request.Keywords
import LessonService.Request.Writing
import LessonService.Text.Pattern

namespace LessonService.Request

open Pattern

/-- The checks of a request, in the order in which they are made. -/
inductive Stage where
  | length
  | invisibleCharacters
  | emoji
  | spam
  | sqlInjection
  | promptInjection
  | offensive
  | educationalIntent
  | gibberish
deriving DecidableEq

def Stage.name : Stage → Text
  | length => "length"
  | invisibleCharacters => "invisible_characters"
  | emoji => "emoji"
  | spam => "spam"
  | sqlInjection => "sql_injection"
  | promptInjection => "prompt_injection"
  | offensive => "offensive"
  | educationalIntent => "educational_intent"
  | gibberish => "gibberish"

structure Rejection where
  stage : Stage
  error : Text

def minLength : Nat := 10

def maxLength : Nat := 1000

def maxEmojis : Nat := 10

/-- Characters without width, no-break spaces and unpaired surrogates. -/
def isInvisible (c : CodePoint) : Bool :=
  c.isBetween 0x200B 0x200D || c.value = 0xFEFF || c.value = 0xA0 || c.isUnpaired

def isEmoji (c : CodePoint) : Bool :=
  c.isBetween 0x1F600 0x1F64F || c.isBetween 0x1F300 0x1F5FF || c.isBetween 0x1F680 0x1F6FF
    || c.isBetween 0x2600 0x26FF || c.isBetween 0x2700 0x27BF

/-- Neither a letter or digit of ASCII nor a blank nor Indic. -/
def isSpecial (c : CodePoint) : Bool := !(c.isLetter || c.isDigit || c.isBlank || isIndic c)

/-- The length of the longest start of a text whose characters are one but for case. -/
def runLength (c : CodePoint) (t : Text) : Nat := (t.takeWhile fun d => d.lower = c.lower).length

/-- Whether a character comes more than ten times in a row, in any case. Line feeds do not count. -/
def hasLongRun : Text → Bool
  | [] => false
  | c :: t => (c.value ≠ 0x0A && runLength c t ≥ 10) || hasLongRun t

/-- A class of letters of ASCII, in any case. -/
def letterIn (letters : String) (c : CodePoint) : Bool := letters.toList.any fun d => CodePoint.isCaseOf d c

/-- One of some words, set apart by bars, in any case. -/
def anyOf (words : String) : Pattern := oneOf ((wordsOf [words]).map inAnyCase)

/-- The same as a whole word. -/
def wholeWord (words : String) : Pattern := seq [edge, anyOf words, edge]

/-- As much of a line as possible. -/
def lineRest : Pattern := most notLineFeed 0

def spamPatterns : List Pattern := [
  seq [anyOf "tes", most (letterIn "t") 3],
  seq [anyOf "asd", most (letterIn "f") 2],
  anyOf "qwerty"]

def sqlPatterns : List Pattern := [
  seq [wholeWord "select|insert|update|delete|drop|create|alter|exec|execute", lineRest,
    wholeWord "from|into|table|database"],
  exactly "--",
  seq [wholeWord "or", lineRest, oneIn "=", lineRest, wholeWord "or"],
  seq [oneIn ";", blanks, anyOf "drop"],
  seq [oneIn "'", blanks, anyOf "or", blanks, exactly "'1'", blanks, oneIn "=", blanks, exactly "'1"]]

def injectionPatterns : List Pattern := [
  seq [anyOf "ignore", someBlanks, anyOf "previous|all|above", someBlanks, anyOf "instructions"],
  seq [anyOf "you", someBlanks, anyOf "are", someBlanks, anyOf "now|a", someBlanks],
  seq [anyOf "system", blanks, oneIn ":"],
  seq [oneIn "[", anyOf "system", oneIn "]"],
  seq [anyOf "disregard", someBlanks, anyOf "previous|all"],
  seq [anyOf "forget", someBlanks, anyOf "everything|all|previous"]]

def offensivePatterns : List Pattern := [
  wholeWord "fuck|shit|damn|bitch|ass|sex|porn|xxx|nsfw",
  wholeWord "kill|murder|death|suicide|bomb|weapon|gun",
  wholeWord "hack|crack|pirate|steal|cheat|illegal"]

/-- The edge of a word of ASCII. -/
def plainEdge : Pattern := edgeOf CodePoint.isPlainWord

def latinKeyword : Pattern := seq [plainEdge, oneOf (latinKeywords.map inPlainCase), plainEdge]

def properNoun : Pattern := seq [plainEdge, one CodePoint.isUpperLetter, most CodePoint.isLowerLetter 1]

def consonantRun : Pattern := most (letterIn "bcdfghjklmnpqrstvwxyz") 6

def vowelRun : Pattern := most (letterIn "aeiou") 5

def lessonVerb : Pattern := wholeWord "lesson|learn|teach|explain|quiz|test"

def anyOccurs (patterns : List Pattern) (t : Text) : Bool := patterns.any fun p => p.occursIn t

def isSpam (t : Text) : Bool := (!t.isEmpty && t.all isSpecial) || hasLongRun t || anyOccurs spamPatterns t

def hasKeyword (t : Text) : Bool := latinKeyword.occursIn t || scriptKeywords.any fun w => Text.contains w t

/-- Whether a text could name a topic though it has no keyword. -/
def isSubstantive (t : Text) : Bool :=
  properNoun.occursIn t || t.any CodePoint.isDigit || (Text.words t).length ≥ 4 || t.any isOtherScript

/-- Words with fewer characters cannot be gibberish. -/
def minGibberishLength : Nat := 4

def isGibberishWord (word : Text) : Bool :=
  word.length ≥ minGibberishLength && (consonantRun.occursIn word || vowelRun.occursIn word)

def hasGibberish (t : Text) : Bool := (Text.words t).any isGibberishWord

/-- What is held against a text without blanks at its ends. -/
def rejectionOf? (t : Text) : Option Rejection :=
  if t.length < minLength then
    some ⟨.length, "Please enter a more detailed prompt (at least 10 characters)"⟩
  else if t.length > maxLength then some ⟨.length, "Prompt is too long (maximum 1000 characters)"⟩
  else if t.any isInvisible then
    some ⟨.invisibleCharacters, "Prompt contains invisible characters. Please use normal text."⟩
  else if t.countP isEmoji > maxEmojis then
    some ⟨.emoji, "Too many emojis in prompt. Please use more descriptive text."⟩
  else if isSpam t then some ⟨.spam, "Please enter a valid lesson-related prompt"⟩
  else if anyOccurs sqlPatterns t then
    some ⟨.sqlInjection, "Invalid characters or patterns detected in prompt"⟩
  else if anyOccurs injectionPatterns t then some ⟨.promptInjection, "Invalid prompt format detected"⟩
  else if anyOccurs offensivePatterns t then
    some ⟨.offensive, "Please enter appropriate, educational content only"⟩
  else if !hasKeyword t && !isSubstantive t then
    some ⟨.educationalIntent, "Please enter a valid prompt related to lessons, education, or learning topics"⟩
  else if !t.any isOtherScript && hasGibberish t then
    some ⟨.gibberish, "Please enter a valid prompt with real words"⟩
  else none

/-- Why a request is turned down; nothing if it is taken up. -/
def rejection? (t : Text) : Option Rejection :=
  if t.isEmpty then some ⟨.length, "Please enter a valid prompt"⟩ else rejectionOf? (Text.trim t)

/-- What to tell somebody whose request was turned down. -/
def suggestion (t : Text) : Text :=
  let trimmed := Text.trim t
  if trimmed.length < minLength then
    "Try something like: 'Interactive lesson explaining how photosynthesis works' or 'Quiz on World War 2 history'"
  else if !lessonVerb.occursIn trimmed then
    "Start your prompt with phrases like: 'Create a lesson about...', 'Quiz on...', 'Explain...', or 'Interactive tutorial on...'"
  else "Make sure your prompt describes an educational topic, subject, or learning activity"

end LessonService.Request
