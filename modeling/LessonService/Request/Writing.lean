import LessonService.Text.Basic

namespace LessonService.Request

inductive Writing where
  | devanagari
  | gujarati
  | gurmukhi
  | bengali
  | tamil
  | telugu
  | kannada
  | malayalam
  | arabic
deriving DecidableEq

namespace Writing

/-- The scripts in the order in which they are looked for. -/
def all : List Writing := [devanagari, gujarati, gurmukhi, bengali, tamil, telugu, kannada, malayalam, arabic]

def name : Writing → Text
  | devanagari => "Hindi/Marathi (Devanagari)"
  | gujarati => "Gujarati"
  | gurmukhi => "Punjabi (Gurmukhi)"
  | bengali => "Bengali"
  | tamil => "Tamil"
  | telugu => "Telugu"
  | kannada => "Kannada"
  | malayalam => "Malayalam"
  | arabic => "Urdu (Arabic)"

def has : Writing → CodePoint → Bool
  | devanagari => CodePoint.isBetween 0x900 0x97F
  | gujarati => CodePoint.isBetween 0xA80 0xAFF
  | gurmukhi => CodePoint.isBetween 0xA00 0xA7F
  | bengali => CodePoint.isBetween 0x980 0x9FF
  | tamil => CodePoint.isBetween 0xB80 0xBFF
  | telugu => CodePoint.isBetween 0xC00 0xC7F
  | kannada => CodePoint.isBetween 0xC80 0xCFF
  | malayalam => CodePoint.isBetween 0xD00 0xD7F
  | arabic => CodePoint.isBetween 0x600 0x6FF

end Writing

/-- The blocks of the scripts of India, from Devanagari to Malayalam. -/
def isIndic (c : CodePoint) : Bool := c.isBetween 0x900 0xD7F

/-- A character of one of the scripts other than Latin. -/
def isOtherScript (c : CodePoint) : Bool := isIndic c || Writing.arabic.has c

def defaultLanguage : Text := "English"

/-- The script that a text is written in, the first in order if there are several. -/
def writing? (t : Text) : Option Writing := Writing.all.find? fun w => t.any w.has

/-- What the language of a text is called. -/
def language (t : Text) : Text := (writing? t).elim defaultLanguage Writing.name

end LessonService.Request
