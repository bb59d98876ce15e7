import LessonService.Tsx.Characters

namespace LessonService.Tsx.Scanner

open Characters

/-- Which of its tokens the scanner may find. -/
structure Wanted where
  semicolon : Bool
  signatureSemicolon : Bool
  templateText : Bool
  questionMark : Bool
  markupText : Bool
  /-- An operator that may stand between operands. -/
  operator : Bool
  escape : Bool
  pattern : Bool

inductive Found where
  | semicolon
  | templateText
  | questionMark
  | markupText
  | markupComment

/-- A token that was found and where it lies. -/
structure Match where
  token : Found
  start : Nat
  stop : Nat

/-- Text of a template up to its end, an escape or a substitution. -/
def templateText (cs : Characters) (start : Nat) : Nat → Nat → Option Match
  | 0, _ => none
  | fuel + 1, i =>
    let here : Option Match := if i > start then some ⟨.templateText, start, i⟩ else none
    if cs.code i = 0 then none
    else if cs.is i '`' || cs.is i '\\' then here
    else if cs.is i '$' && cs.is (i + 1) '\x7b' then here
    else templateText cs start fuel (i + 1)

/-- Text between markup. White space that follows a line end does not count as text. -/
def markupText (cs : Characters) (start : Nat) : Nat → (sawText atLineEnd : Bool) → Nat → Option Match × Nat
  | 0, _, _, i => (none, i)
  | fuel + 1, sawText, atLineEnd, i =>
    let c := cs.code i
    if c = 0 || c = 0x3C || c = 0x3E || c = 0x7B || c = 0x7D || c = 0x26 then
      (if sawText then some ⟨.markupText, start, i⟩ else none, i)
    else if c = 0x0A then markupText cs start fuel sawText true (i + 1)
    else
      let atLineEnd := atLineEnd && isScannerBlank c
      markupText cs start fuel (sawText || !atLineEnd) atLineEnd (i + 1)

inductive Gap where
  /-- A slash that starts no comment. -/
  | blocked
  | noLineEnd
  | passed
deriving DecidableEq

/-- The position after a block comment and whether it holds a line end. -/
def passBlockComment (cs : Characters) : Nat → Bool → Nat → Nat × Bool × Bool
  | 0, sawLineEnd, i => (i, sawLineEnd, false)
  | fuel + 1, sawLineEnd, i =>
    if cs.code i = 0 then (i, sawLineEnd, false)
    else if cs.is i '*' then
      if cs.is (i + 1) '/' then (i + 2, sawLineEnd, true) else passBlockComment cs fuel sawLineEnd (i + 1)
    else passBlockComment cs fuel (sawLineEnd || isLineEnd (cs.code i)) (i + 1)

/-- Passes blanks and comments; `thorough` also passes what follows the first block comment.
Gives the outcome, the position and whether there was a comment. -/
def passGap (cs : Characters) (thorough : Bool) : Nat → (sawComment sawLineEnd : Bool) → Nat → Gap × Nat × Bool
  | 0, sawComment, _, i => (.passed, i, sawComment)
  | fuel + 1, sawComment, sawLineEnd, i =>
    let i := span isScannerBlank cs i
    if cs.is i '/' then
      if cs.is (i + 1) '/' then
        let j := span (fun c => c ≠ 0 && !isLineEnd c) cs (i + 2)
        passGap cs thorough fuel true sawLineEnd j
      else if cs.is (i + 1) '*' then
        let (j, sawLineEnd, closed) := passBlockComment cs cs.size sawLineEnd (i + 2)
        let sawComment := sawComment || closed
        if closed && !thorough && !cs.is j '/' then
          (if sawLineEnd then .passed else .noLineEnd, j, sawComment)
        else passGap cs thorough fuel sawComment sawLineEnd j
      else (.blocked, i + 1, sawComment)
    else (.passed, i, sawComment)

/-- Whether a statement may end before what stands at a position on a later line. -/
def endsBefore (w : Wanted) (cs : Characters) (i : Nat) : Bool :=
  let c := cs.code i
  if "`,.;*%><=?^|&/:".toList.any (fun p => p.toNat = c) then false
  else if c = 0x7B then !w.signatureSemicolon
  else if c = 0x28 || c = 0x5B then !w.operator
  else if c = 0x2B then cs.is (i + 1) '+'
  else if c = 0x2D then cs.is (i + 1) '-'
  else if c = 0x21 then !cs.is (i + 1) '='
  else if c = 0x69 then
    if !cs.is (i + 1) 'n' then true
    else if !(isLetter (cs.code (i + 2)) || cs.code (i + 2) > 0x7F) then false
    else if cs.startsWith (i + 2) "stanceof" then isLetter (cs.code (i + 10)) || cs.code (i + 10) > 0x7F
    else true
  else true

/-- Whether a semicolon is left out at a position. Also says whether a comment was passed and
where the search ended. -/
def semicolonAt (w : Wanted) (cs : Characters) : Nat → Nat → Bool × Bool × Nat
  | 0, i => (false, false, i)
  | fuel + 1, i =>
    let c := cs.code i
    if c = 0 then (true, false, i)
    else if c = 0x2F then
      match passGap cs false cs.size false false i with
      | (.blocked, j, sawComment) => (false, sawComment, j)
      | (.passed, j, sawComment) =>
        if !w.operator && !cs.is j ',' && !cs.is j '=' then (true, sawComment, j)
        else
          let (answer, _, k) := semicolonAfterGap w cs fuel j
          (answer, true, k)
      | (.noLineEnd, j, _) =>
        let (answer, _, k) := semicolonAfterGap w cs fuel j
        (answer, true, k)
    else semicolonAfterGap w cs fuel i
where
  semicolonAfterGap (w : Wanted) (cs : Characters) (fuel i : Nat) : Bool × Bool × Nat :=
    let c := cs.code i
    if c = 0x7D then
      let j := span isScannerBlank cs (i + 1)
      (if cs.is j ':' then w.operator else true, false, j)
    else if c = 0x0A then
      match passGap cs true cs.size false false (i + 1) with
      | (.blocked, j, sawComment) => (false, sawComment, j)
      | (_, j, sawComment) => (endsBefore w cs j, sawComment, j)
    else if !isScannerBlank c then (false, false, i)
    else semicolonAt w cs fuel (i + 1)

/-- The question mark of a conditional, and not of a chain, a default or an optional parameter. -/
def questionMark? (cs : Characters) (position : Nat) : Option Match :=
  let i := span isScannerBlank cs position
  if cs.is i '?' && !cs.is (i + 1) '?' && !cs.is (i + 1) '.' then
    let j := span isScannerBlank cs (i + 1)
    let found : Option Match := some ⟨.questionMark, i, i + 1⟩
    if cs.is j ':' || cs.is j ')' || cs.is j ',' then none
    else if cs.is j '.' then
      if isDigit (cs.code (j + 1)) then found else none
    else found
  else none

/-- A comment that runs from a markup comment mark to the end of the line. -/
def markupComment? (cs : Characters) (position : Nat) : Option Match :=
  let i := span (fun c => isScannerBlank c || isLineEnd c) cs position
  let finish (j : Nat) : Option Match :=
    some ⟨.markupComment, i, span (fun c => c ≠ 0 && !isLineEnd c) cs j⟩
  if cs.startsWith i "<!--" then finish (i + 4)
  else if cs.startsWith i "-->" then finish (i + 3)
  else none

/-- The tokens that depend on what surrounds them. -/
def scan (w : Wanted) (cs : Characters) (position : Nat) : Option Match :=
  if w.templateText then
    if w.semicolon then none else templateText cs position (cs.size + 1) position
  else
    let (text, position') :=
      if w.markupText then markupText cs position (cs.size + 1) false false position else (none, position)
    match text with
    | some m => some m
    | none =>
      if w.semicolon || w.signatureSemicolon then
        let (answer, sawComment, stopped) := semicolonAt w cs (cs.size + 1) position'
        if answer then some ⟨.semicolon, position', position'⟩
        else if !sawComment && w.questionMark && cs.is stopped '?' then questionMark? cs stopped
        else none
      else if w.questionMark then questionMark? cs position'
      else if !w.operator && !w.escape && !w.pattern then markupComment? cs position'
      else none

end LessonService.Tsx.Scanner
