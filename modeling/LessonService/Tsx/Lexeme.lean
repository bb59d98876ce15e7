import LessonService.Tsx.Characters

namespace LessonService.Tsx.Lexeme

open Characters

/-- An escape that names a character by its number. -/
def unicodeEscape? (cs : Characters) (i : Nat) : Option Nat :=
  if cs.is i '\\' && cs.is (i + 1) 'u' then
    if cs.is (i + 2) '\x7b' then
      match some1 isHexDigit cs (i + 3) with
      | some j => if cs.is j '\x7d' then some (j + 1) else none
      | none => none
    else if (List.range 4).all fun k => isHexDigit (cs.code (i + 2 + k)) then some (i + 6)
    else none
  else none

/-- Where an escape breaks off that is none. -/
def escapeBreakOff (cs : Characters) (i : Nat) : Nat :=
  if cs.is (i + 1) 'u' then
    if cs.is (i + 2) '\x7b' then span isHexDigit cs (i + 3) else min (span isHexDigit cs (i + 2)) (i + 5)
  else i + 1

/-- Where the start of a name or of an escape breaks off, if none is there. -/
def breakOff (cs : Characters) (i : Nat) : Nat :=
  if cs.is i '#' then if cs.is (i + 1) '\\' then escapeBreakOff cs (i + 1) else i + 1
  else if cs.is i '\\' then
    if cs.is (i + 1) 'x' then min (span isHexDigit cs (i + 2)) (i + 3) else escapeBreakOff cs i
  else i

def nameEnd : Nat → Characters → Nat → Nat
  | 0, _, i => i
  | fuel + 1, cs, i =>
    let j := span isNameCharacter cs i
    match unicodeEscape? cs j with
    | some k => nameEnd fuel cs k
    | none => j

def identifier? (cs : Characters) (i : Nat) : Option Nat :=
  if i < cs.size && isNameStart (cs.code i) then some (nameEnd cs.size cs (i + 1))
  else (unicodeEscape? cs i).map (nameEnd cs.size cs)

def privateName? (cs : Characters) (i : Nat) : Option Nat :=
  if cs.is i '#' then identifier? cs (i + 1) else none

/-- One or more digits, any two of which may be parted by an underscore. -/
def digitsFrom (holds : Nat → Bool) : Nat → Characters → Nat → Nat
  | 0, _, i => i
  | fuel + 1, cs, i =>
    let j := span holds cs i
    if cs.is j '_' && holds (cs.code (j + 1)) then digitsFrom holds fuel cs (j + 1) else j

def digits? (holds : Nat → Bool) (cs : Characters) (i : Nat) : Option Nat :=
  if holds (cs.code i) then some (digitsFrom holds cs.size cs i) else none

def radix? (low high : Char) (holds : Nat → Bool) (cs : Characters) (i : Nat) : Option Nat :=
  if cs.is i '0' && (cs.is (i + 1) low || cs.is (i + 1) high) then digits? holds cs (i + 2) else none

def exponent? (cs : Characters) (i : Nat) : Option Nat :=
  if cs.is i 'e' || cs.is i 'E' then
    let j := if cs.is (i + 1) '+' || cs.is (i + 1) '-' then i + 2 else i + 1
    digits? isDigit cs j
  else none

/-- A whole part as it may stand before a point or an exponent. -/
def wholePart? (cs : Characters) (i : Nat) : Option Nat :=
  let j := if cs.is i '0' then i + 1 else i
  let c := cs.code j
  if 0x31 ≤ c && c ≤ 0x39 then
    let k := if cs.is (j + 1) '_' then j + 2 else j + 1
    some ((digits? isDigit cs k).getD (j + 1))
  else if cs.is i '0' then some (i + 1)
  else none

def longest : List (Option Nat) → Option Nat
  | [] => none
  | none :: rest => longest rest
  | some n :: rest => some (max n ((longest rest).getD n))

def number? (cs : Characters) (i : Nat) : Option Nat :=
  let hex := radix? 'x' 'X' isHexDigit cs i
  let binary := radix? 'b' 'B' (fun c => c = 0x30 || c = 0x31) cs i
  let octal := radix? 'o' 'O' (fun c => 0x30 ≤ c && c ≤ 0x37) cs i
  let decimal := digits? isDigit cs i
  let withExponent (j : Nat) : Nat := (exponent? cs j).getD j
  let pointed := (wholePart? cs i).bind fun j =>
    if cs.is j '.' then some (withExponent ((digits? isDigit cs (j + 1)).getD (j + 1))) else none
  let fraction := if cs.is i '.' then (digits? isDigit cs (i + 1)).map withExponent else none
  let scaled := (wholePart? cs i).bind (exponent? cs)
  let big := [hex, binary, octal, decimal].map fun e =>
    e.bind fun j => if cs.is j 'n' then some (j + 1) else none
  longest ([hex, binary, octal, decimal, pointed, fraction, scaled] ++ big)

def isMarkupNameCharacter (c : Nat) : Bool := isLetter c || isDigit c || c = 0x5F || c = 0x24

/-- A name in markup that holds a hyphen. -/
def hyphenatedName? (cs : Characters) (i : Nat) : Option Nat :=
  let c := cs.code i
  if isMarkupNameCharacter c && !isDigit c then
    let j := span isMarkupNameCharacter cs i
    if cs.is j '-' then some (span (fun c => isMarkupNameCharacter c || c = 0x2D) cs j) else none
  else none

def characterReference? (cs : Characters) (i : Nat) : Option Nat :=
  if cs.is i '&' then
    let close (low high start stop : Nat) : Option Nat :=
      if low ≤ stop - start && stop - start ≤ high && cs.is stop ';' then some (stop + 1) else none
    if cs.is (i + 1) '#' then
      if cs.is (i + 2) 'x' || cs.is (i + 2) 'X' then close 1 6 (i + 3) (span isHexDigit cs (i + 3))
      else close 1 5 (i + 2) (span isDigit cs (i + 2))
    else close 1 30 (i + 1) (span isLetter cs (i + 1))
  else none

/-- Text of an attribute up to the quote or something that could be a character reference. -/
def attributeText : Nat → (quote : Nat) → Characters → Nat → Nat
  | 0, _, _, i => i
  | fuel + 1, quote, cs, i =>
    if i < cs.size then
      let c := cs.code i
      if c = 0x26 then
        let d := cs.code (i + 1)
        if i + 1 < cs.size && d ≠ 0x23 && !isLetter d then attributeText fuel quote cs (i + 2) else i
      else if c = quote then i
      else attributeText fuel quote cs (i + 1)
    else i

def attributeText? (quote : Char) (cs : Characters) (i : Nat) : Option Nat :=
  let j := attributeText cs.size quote.toNat cs i
  if j > i then some j else none

def stringText? (quote : Char) (cs : Characters) (i : Nat) : Option Nat :=
  some1 (fun c => c ≠ quote.toNat && c ≠ 0x5C && c ≠ 0x0D && c ≠ 0x0A) cs i

def escape? (cs : Characters) (i : Nat) : Option Nat :=
  if cs.is i '\\' && i + 1 < cs.size then
    let c := cs.code (i + 1)
    let isOctal (c : Nat) : Bool := 0x30 ≤ c && c ≤ 0x37
    if isOctal c then
      let j := span isOctal cs (i + 1)
      some (min j (i + 4))
    else if c = 0x75 then unicodeEscape? cs i
    else if c = 0x78 then
      if isHexDigit (cs.code (i + 2)) && isHexDigit (cs.code (i + 3)) then some (i + 4) else none
    else if (c = 0x0D || c = 0x3F) && i + 2 < cs.size && isLineEnd (cs.code (i + 2)) then some (i + 3)
    else some (i + 2)
  else none

/-- The position after the end of a block comment. -/
def blockCommentEnd? : Nat → Characters → Nat → Option Nat
  | 0, _, _ => none
  | fuel + 1, cs, i =>
    if i < cs.size then
      if cs.is i '*' && cs.is (i + 1) '/' then some (i + 2) else blockCommentEnd? fuel cs (i + 1)
    else none

def comment? (cs : Characters) (i : Nat) : Option Nat :=
  if cs.is i '/' && cs.is (i + 1) '/' then
    some (span (fun c => !isLineEnd c && c ≠ 0x0D) cs (i + 2))
  else if cs.is i '/' && cs.is (i + 1) '*' then blockCommentEnd? cs.size cs (i + 2)
  else none

/-- The position after a bracket of a pattern in slashes. -/
def patternClassEnd? : Nat → Characters → Nat → Option Nat
  | 0, _, _ => none
  | fuel + 1, cs, i =>
    if i < cs.size then
      if cs.is i ']' then some (i + 1)
      else if cs.is i '\\' then
        if i + 1 < cs.size && !cs.is (i + 1) '\n' then patternClassEnd? fuel cs (i + 2) else none
      else if cs.is i '\n' then none
      else patternClassEnd? fuel cs (i + 1)
    else none

def patternEnd : Nat → Characters → Nat → Nat
  | 0, _, i => i
  | fuel + 1, cs, i =>
    if i < cs.size then
      if cs.is i '[' then
        match patternClassEnd? cs.size cs (i + 1) with
        | some j => patternEnd fuel cs j
        | none => i
      else if cs.is i '\\' then
        if i + 1 < cs.size && !cs.is (i + 1) '\n' then patternEnd fuel cs (i + 2) else i
      else if cs.is i '/' || cs.is i '\n' then i
      else patternEnd fuel cs (i + 1)
    else i

def pattern? (cs : Characters) (i : Nat) : Option Nat :=
  let j := patternEnd cs.size cs i
  if j > i then some j else none

def hashBang? (cs : Characters) (i : Nat) : Option Nat :=
  if cs.is i '#' && cs.is (i + 1) '!' then some (span (fun c => c ≠ 0x0A) cs (i + 2)) else none

/-- A token with many spellings. -/
structure Kind where
  name : String
  /-- No space may come before it. -/
  adjacent : Bool := false
  /-- Which token wins where several match. -/
  rank : Int := 0
  /-- Whether it is looked for after an error. -/
  afterError : Bool := true
  find : Characters → Nat → Option Nat
  /-- The characters that it may start with. -/
  opensWith : Nat → Bool
  /-- Whether it can go on with a character after a text that is another token. -/
  goesOn : Text → Nat → Bool := fun _ _ => false
  /-- Whether it may start with space. -/
  admitsSpace : Bool := false
  /-- The kinds that it may be found in the place of. -/
  overrides : List String := []

def isWordText (t : Text) : Bool := t.all fun c => c.isLetter

def kinds : List Kind := [
  { name := "hash_bang_line", find := hashBang?, opensWith := (· = 0x23) },
  { name := "html_character_reference", find := characterReference?, opensWith := (· = 0x26)
    goesOn := fun t c => t = ("&" : Text) && (c = 0x23 || isLetter c) },
  { name := "jsx_identifier", find := hyphenatedName?, afterError := false
    opensWith := fun c => isMarkupNameCharacter c && !isDigit c
    goesOn := fun t c => isWordText t && (isMarkupNameCharacter c || c = 0x2D), overrides := ["identifier"] },
  { name := "unescaped_double_jsx_string_fragment", find := attributeText? '"', adjacent := true, rank := 1,
    afterError := false, opensWith := (· ≠ 0x22), admitsSpace := true },
  { name := "unescaped_single_jsx_string_fragment", find := attributeText? '\'', adjacent := true, rank := 1,
    afterError := false, opensWith := (· ≠ 0x27), admitsSpace := true },
  { name := "unescaped_double_string_fragment", find := stringText? '"', adjacent := true, rank := 1,
    afterError := false, opensWith := fun c => c ≠ 0x22 && c ≠ 0x5C && c ≠ 0x0A && c ≠ 0x0D, admitsSpace := true },
  { name := "unescaped_single_string_fragment", find := stringText? '\'', adjacent := true, rank := 1,
    afterError := false, opensWith := fun c => c ≠ 0x27 && c ≠ 0x5C && c ≠ 0x0A && c ≠ 0x0D, admitsSpace := true },
  { name := "escape_sequence", find := escape?, adjacent := true, opensWith := (· = 0x5C) },
  { name := "comment", find := comment?, opensWith := (· = 0x2F)
    goesOn := fun t c => t = ("/" : Text) && (c = 0x2F || c = 0x2A) },
  { name := "regex_pattern", find := pattern?, adjacent := true, rank := -1, afterError := false
    opensWith := fun c => c ≠ 0x2F && c ≠ 0x0A, admitsSpace := true },
  { name := "regex_flags", find := some1 fun c => 0x61 ≤ c && c ≤ 0x7A, adjacent := true, afterError := false
    opensWith := fun c => 0x61 ≤ c && c ≤ 0x7A, overrides := ["identifier"] },
  { name := "number", find := number?, opensWith := fun c => isDigit c || c = 0x2E
    goesOn := fun t c => t = ("." : Text) && isDigit c },
  { name := "identifier", find := identifier?, opensWith := fun c => isNameStart c || c = 0x5C
    goesOn := fun t c => isWordText t && isNameCharacter c },
  { name := "private_property_identifier", find := privateName?, opensWith := (· = 0x23) }]

end LessonService.Tsx.Lexeme
