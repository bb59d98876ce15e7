import LessonService.Json
import LessonService.Text.CharacterReference

namespace LessonService.Json

inductive Fault where
  | expectingValue
  | expectingName
  | expectingColon
  | expectingComma
  | unterminated
  | controlCharacter
  | invalidEscape
  | invalidUnitEscape
  | extraData
deriving DecidableEq

def Fault.message : Fault → Text
  | expectingValue => "Expecting value"
  | expectingName => "Expecting property name enclosed in double quotes"
  | expectingColon => "Expecting ':' delimiter"
  | expectingComma => "Expecting ',' delimiter"
  | unterminated => "Unterminated string starting at"
  | controlCharacter => "Invalid control character at"
  | invalidEscape => "Invalid \\escape"
  | invalidUnitEscape => "Invalid \\uXXXX escape"
  | extraData => "Extra data"

/-- Why a text is no JSON. -/
inductive ReadError where
  | at (fault : Fault) (position : Nat)
  /-- A whole number has too many digits. -/
  | longNumber (digits : Nat)
  /-- Lists and records lie in one another too deeply. -/
  | tooDeep

/-- How deeply lists and records may lie in one another. -/
def maxDepth : Nat := 950

/-- What is left of a text, and where it starts. -/
structure Cursor where
  position : Nat
  rest : Text

namespace Cursor

def fail (c : Cursor) (fault : Fault) : Except ReadError α := .error (.at fault c.position)

def skip (c : Cursor) (n : Nat) : Cursor := ⟨c.position + n, c.rest.drop n⟩

def isGap (c : CodePoint) : Bool := c = ' ' || c = '\t' || c = '\n' || c = '\r'

def skipGap (c : Cursor) : Cursor := c.skip (c.rest.takeWhile isGap).length

def starts (c : Cursor) (t : Text) : Bool := t.isPrefixOf c.rest

end Cursor

/-- The character that a letter after a backslash stands for. -/
def escaped? (c : CodePoint) : Option CodePoint :=
  if c = '"' || c = '\\' || c = '/' then some c
  else if c = 'b' then some ⟨8⟩
  else if c = 'f' then some ⟨12⟩
  else if c = 'n' then some '\n'
  else if c = 'r' then some '\r'
  else if c = 't' then some '\t'
  else none

/-- A unit of four digits in base sixteen. -/
def unit? (t : Text) : Option Nat :=
  let digits := t.take 4
  if digits.length = 4 && digits.all CodePoint.isHexDigit then some (CharacterReference.valueIn 16 digits) else none

def isHighHalf (n : Nat) : Bool := 0xD800 ≤ n && n ≤ 0xDBFF

def isLowHalf (n : Nat) : Bool := 0xDC00 ≤ n && n ≤ 0xDFFF

/-- The two halves of a character outside the first plane. -/
def joinHalves (high low : Nat) : Nat := 0x10000 + (high - 0xD800) * 0x400 + (low - 0xDC00)

/-- A unit escape, given what follows its `u`: the character, and how many characters it takes
after the `u`. A pair of halves is one character. There must be something after the escape. -/
def unitEscape (c : Cursor) : Except ReadError (CodePoint × Nat) :=
  let fault := ReadError.at .invalidUnitEscape (c.position - 1)
  if c.rest.length ≤ 4 then .error fault
  else
    match unit? c.rest with
    | none => .error fault
    | some high =>
      let pair := c.rest.drop 4
      if isHighHalf high && pair.length > 6 && ("\\u" : Text).isPrefixOf pair then
        match unit? (pair.drop 2) with
        | none => .error (.at .invalidUnitEscape (c.position + 5))
        | some low => .ok (if isLowHalf low then (⟨joinHalves high low⟩, 10) else (⟨high⟩, 4))
      else .ok (⟨high⟩, 4)

/-- The rest of a string whose opening quote is at a position. -/
def readString (start : Nat) : Nat → Cursor → Text → Except ReadError (Text × Cursor)
  | 0, _, _ => .error (.at .unterminated start)
  | fuel + 1, c, read =>
    match c.rest with
    | [] => .error (.at .unterminated start)
    | d :: rest =>
      if d = '"' then .ok (read.reverse, c.skip 1)
      else if d = '\\' then
        match rest with
        | [] => .error (.at .unterminated start)
        | e :: _ =>
          if e = 'u' then do
            let (char, taken) ← unitEscape (c.skip 2)
            readString start fuel (c.skip (2 + taken)) (char :: read)
          else
            match escaped? e with
            | some char => readString start fuel (c.skip 2) (char :: read)
            | none => c.fail .invalidEscape
      else if d.value ≤ 0x1F then c.fail .controlCharacter
      else readString start fuel (c.skip 1) (d :: read)

/-- The digits at the start of a text. -/
def digitsIn (t : Text) : Text := t.takeWhile CodePoint.isDigit

/-- The length of the fraction at the start of a text. -/
def fractionLength : Text → Nat
  | c :: t => if c = '.' && !(digitsIn t).isEmpty then (digitsIn t).length + 1 else 0
  | [] => 0

/-- The length of the power of ten at the start of a text. -/
def exponentLength : Text → Nat
  | c :: t =>
    let sign := match t with
      | s :: _ => if s = '+' || s = '-' then 1 else 0
      | [] => 0
    let digits := (digitsIn (t.drop sign)).length
    if (c = 'e' || c = 'E') && digits ≠ 0 then 1 + sign + digits else 0
  | [] => 0

/-- The number at a place. -/
def readNumber (c : Cursor) : Except ReadError (Json × Cursor) :=
  let sign := if c.starts "-" then 1 else 0
  let digits := digitsIn (c.rest.drop sign)
  let digits := if digits.head? = some '0' then digits.take 1 else digits
  if digits.isEmpty then c.fail .expectingValue
  else
    let whole := sign + digits.length
    let fraction := fractionLength (c.rest.drop whole)
    let exponent := exponentLength (c.rest.drop (whole + fraction))
    let total := whole + fraction + exponent
    let next := c.skip total
    if fraction + exponent = 0 then
      if digits.length > Decimal.maxDigits then .error (.longNumber digits.length)
      else
        let n : Int := CharacterReference.valueIn 10 digits
        .ok (number (.whole (if sign = 1 then -n else n)), next)
    else .ok (number (.real ((Decimal.double? (c.rest.take total)).getD .undefined)), next)

/-- The values that have a name. -/
def named : List (String × Json) := [
  ("null", null), ("true", flag true), ("false", flag false), ("NaN", number (.real .undefined)),
  ("Infinity", number (.real (.infinite false))), ("-Infinity", number (.real (.infinite true)))]

mutual

/-- The value at a place, with so many levels to go. -/
def readValue (levels : Nat) : Nat → Cursor → Except ReadError (Json × Cursor)
  | 0, c => c.fail .expectingValue
  | fuel + 1, c =>
    match c.rest with
    | [] => c.fail .expectingValue
    | d :: rest =>
      if d = '"' then do
        let (t, next) ← readString c.position (rest.length + 1) (c.skip 1) []
        return (text t, next)
      else if d = '\x7b' then
        let c := (c.skip 1).skipGap
        if levels = 0 then .error .tooDeep
        else if c.starts "\x7d" then .ok (record [], c.skip 1)
        else readFields (levels - 1) fuel c []
      else if d = '[' then
        let c := (c.skip 1).skipGap
        if levels = 0 then .error .tooDeep
        else if c.starts "]" then .ok (list [], c.skip 1)
        else readItems (levels - 1) fuel c []
      else
        match named.find? fun n => c.starts (Text.ofString n.1) with
        | some (name, value) => .ok (value, c.skip name.length)
        | none => readNumber c

/-- The items of a list from a place on, after those read already. -/
def readItems (levels : Nat) : Nat → Cursor → List Json → Except ReadError (Json × Cursor)
  | 0, c, _ => c.fail .expectingValue
  | fuel + 1, c, items => do
    let (item, next) ← readValue levels fuel c
    let next := next.skipGap
    if next.starts "]" then return (list (item :: items).reverse, next.skip 1)
    else if next.starts "," then readItems levels fuel (next.skip 1).skipGap (item :: items)
    else next.fail .expectingComma

/-- The fields of a record from a place on, after those read already. -/
def readFields (levels : Nat) : Nat → Cursor → List (Text × Json) → Except ReadError (Json × Cursor)
  | 0, c, _ => c.fail .expectingName
  | fuel + 1, c, fields => do
    if !c.starts "\"" then c.fail .expectingName
    else
      let (name, next) ← readString c.position (c.rest.length + 1) (c.skip 1) []
      let next := next.skipGap
      if !next.starts ":" then next.fail .expectingColon
      else
        let (value, next) ← readValue levels fuel (next.skip 1).skipGap
        let next := next.skipGap
        let fields := setField name value fields
        if next.starts "\x7d" then return (record fields, next.skip 1)
        else if next.starts "," then readFields levels fuel (next.skip 1).skipGap fields
        else next.fail .expectingComma

end

/-- The value that a text stands for. -/
def read (t : Text) : Except ReadError Json := do
  let start := (Cursor.mk 0 t).skipGap
  let (value, next) ← readValue maxDepth (t.length + 1) start
  let next := next.skipGap
  if next.rest.isEmpty then return value else next.fail .extraData

end LessonService.Json
