import LessonService.Number.Decimal
import LessonService.Text.Pattern
import LessonService.Text.EntityTable
import Std.Data.HashMap

namespace LessonService.CharacterReference

def hexValue (c : CodePoint) : Nat :=
  if c.isDigit then c.value - 0x30
  else if c.isBetween 0x61 0x66 then c.value - 0x57
  else c.value - 0x37

def valueIn (base : Nat) (digits : Text) : Nat := digits.foldl (fun n c => n * base + hexValue c) 0

/-- Reads an entry such as `amp;=26`. -/
def readEntry (entry : Text) : Text × Text :=
  match Text.splitOn '=' entry with
  | name :: numbers :: _ => (name, (Text.splitOn '+' numbers).map fun n => ⟨valueIn 16 n⟩)
  | _ => ([], [])

def names : Std.HashMap Text Text :=
  EntityTable.named.foldl (fun all (line : String) =>
    (Text.splitOn ' ' (Text.ofString line)).foldl (fun all entry =>
      let (name, value) := readEntry entry
      all.insert name value) all) {}

/-- The character that a number stands for. -/
def ofNumber (n : Nat) : Text :=
  match EntityTable.replaced.find? fun r => r.1 = n with
  | some (_, c) => [⟨c⟩]
  | none =>
    if (0xD800 ≤ n && n ≤ 0xDFFF) || n > 0x10FFFF then [⟨0xFFFD⟩]
    else if EntityTable.dropped.any fun (low, high) => low ≤ n && n ≤ high then []
    else [⟨n⟩]

/-- The longest start of a name, of at least two characters, that a table has. -/
def longestName? (table : Text → Option Text) (name : Text) : Nat → Option (Text × Text)
  | 0 | 1 => none
  | n + 2 =>
    match table (name.take (n + 2)) with
    | some value => some (value, name.drop (n + 2))
    | none => longestName? table name (n + 1)

def ofNameIn (table : Text → Option Text) (name : Text) : Text :=
  match table name with
  | some value => value
  | none =>
    match longestName? table name (name.length - 1) with
    | some (value, rest) => value ++ rest
    | none => '&' :: name

/-- What a name stands for: a longer name counts for the longest one that it starts with. -/
def ofName (name : Text) : Text := ofNameIn (fun name => names[name]?) name

/-- What a reference, given with its ampersand, stands for. -/
def decodeOne (reference : Text) : Text :=
  match reference.drop 1 with
  | h :: body =>
    if h = '#' then
      let digits := Pattern.charIn ";"
      match body with
      | x :: rest =>
        if x = 'x' || x = 'X' then ofNumber (valueIn 16 (Text.trimRight digits rest))
        else ofNumber (valueIn 10 (Text.trimRight digits body))
      | [] => reference
    else ofName (h :: body)
  | [] => reference

open Pattern in
/-- A reference: a number in base ten or sixteen, or up to 32 characters that could be a name. -/
def pattern : Pattern :=
  both (oneIn "&") (oneOf [
    seq [oneIn "#", most CodePoint.isDigit 1, optional (oneIn ";")],
    seq [oneIn "#", oneIn "xX", most CodePoint.isHexDigit 1, optional (oneIn ";")],
    both (upTo 31 isNameCharacter) (optional (oneIn ";"))])
where
  isNameCharacter (c : CodePoint) : Bool := !charIn "\t\n\x0c <&#;" c
  /-- One character and at most so many more. -/
  upTo : Nat → (CodePoint → Bool) → Pattern
    | 0, holds => one holds
    | n + 1, holds => both (one holds) (optional (upTo n holds))

/-- The text with every reference replaced by what it stands for. -/
def decode (t : Text) : Text := pattern.replaceAll decodeOne t

/-- The length of the first number in a text's references that is too long to be read. -/
def overlong? (t : Text) : Option Nat :=
  (pattern.findAll t).findSome? fun m =>
    match m with
    | _ :: h :: body =>
      if h = '#' then
        let digits := body.takeWhile CodePoint.isDigit
        if digits.length > Decimal.maxDigits then some digits.length else none
      else none
    | _ => none

end LessonService.CharacterReference
