import LessonService.Grammar.Parse
import LessonService.Tsx.Grammar
import LessonService.Tsx.Lexeme
import LessonService.Tsx.Scanner

namespace LessonService.Tsx

open LessonService.Grammar

/-- A token of one spelling. -/
structure Spelling where
  text : Text
  token : Nat
  adjacent : Bool

/-- The tokens of the grammar, arranged by how they are found. -/
structure TokenTable where
  word : Nat
  /-- Punctuation by its first character. -/
  punctuation : Array (Array Spelling)
  keywords : Std.HashMap Text Nat
  keywordSet : Nat
  kinds : List (Lexeme.Kind × Nat)
  afterError : Nat
  semicolon : Nat
  signatureSemicolon : Nat
  templateText : Nat
  questionMark : Nat
  markupText : Nat
  markupComment : Nat
  operator : Nat
  escape : Nat
  pattern : Nat

def TokenTable.ofVocabulary (v : Vocabulary) : TokenTable := Id.run do
  let mut punctuation : Array (Array Spelling) := Array.replicate 128 #[]
  let mut keywords : Std.HashMap Text Nat := {}
  let mut keywordSet := 0
  for h : i in [0:v.tokens.size] do
    match v.tokens[i].recogniser with
    | .exactly s =>
      let text := Text.ofString s
      if Lexeme.isWordText text then
        keywords := keywords.insert text i
        keywordSet := keywordSet ||| (1 <<< i)
      else punctuation := punctuation.modify ((text.head?).elim 0 CodePoint.value) (·.push ⟨text, i, false⟩)
    | .adjacent s =>
      let text := Text.ofString s
      punctuation := punctuation.modify ((text.head?).elim 0 CodePoint.value) (·.push ⟨text, i, true⟩)
    | _ => pure ()
  let part (name : String) : Nat := v.scannedToken name
  let kinds := Lexeme.kinds.map fun k => (k, part k.name)
  let skipped := kinds.foldl (fun set (k, n) => if k.afterError then set else set ||| (1 <<< n)) 0
  let every := (1 <<< v.tokens.size) - 1
  return {
    word := part "identifier"
    punctuation, keywords, keywordSet, kinds
    afterError := every ^^^ skipped
    semicolon := part "_automatic_semicolon"
    signatureSemicolon := part "_function_signature_automatic_semicolon"
    templateText := part "_template_chars"
    questionMark := part "_ternary_qmark"
    markupText := part "jsx_text"
    markupComment := part "html_comment"
    operator := part "||"
    escape := part "escape_sequence"
    pattern := part "regex_pattern" }

namespace TokenTable

variable (table : TokenTable)

def wanted (expected : Nat) : Scanner.Wanted where
  semicolon := expected.testBit table.semicolon
  signatureSemicolon := expected.testBit table.signatureSemicolon
  templateText := expected.testBit table.templateText
  questionMark := expected.testBit table.questionMark
  markupText := expected.testBit table.markupText
  operator := expected.testBit table.operator
  escape := expected.testBit table.escape
  pattern := expected.testBit table.pattern

def tokenOf : Scanner.Found → Nat
  | .semicolon => table.semicolon
  | .templateText => table.templateText
  | .questionMark => table.questionMark
  | .markupText => table.markupText
  | .markupComment => table.markupComment

def scan (cs : Characters) (expected position : Nat) : Option Lexed :=
  (Scanner.scan (table.wanted expected) cs position).map fun m => ⟨table.tokenOf m.token, m.start, m.stop⟩

/-- A token that matches, with what decides between it and others. -/
structure Candidate where
  lexed : Lexed
  rank : Int
  /-- Fixed spellings before others, and those that allow no space before others. -/
  fixedness : Nat

/-- The highest rank wins, then the longest token, then a fixed spelling. -/
def Candidate.beats (a b : Candidate) : Bool :=
  if a.rank ≠ b.rank then a.rank > b.rank
  else if a.lexed.stop ≠ b.lexed.stop then a.lexed.stop > b.lexed.stop
  else if a.fixedness ≠ b.fixedness then a.fixedness > b.fixedness
  else a.lexed.token < b.lexed.token

def better (best : Option Candidate) (c : Candidate) : Option Candidate :=
  match best with
  | some b => if c.beats b then some c else best
  | none => some c

def read (cs : Characters) (expected position : Nat) : Option Lexed := Id.run do
  let start := cs.span isSpace position
  if start ≥ cs.size && position ≥ cs.size then
    return if expected.testBit 0 then some ⟨0, start, start⟩ else none
  let mut best : Option Candidate := none
  for (k, token) in table.kinds do
    let isExpected := expected.testBit token || (token = table.word && expected &&& table.keywordSet ≠ 0)
    if isExpected then
      let from_ := if k.adjacent then position else start
      if let some stop := k.find cs from_ then
        best := better best ⟨⟨token, from_, stop⟩, k.rank, if k.adjacent then 1 else 0⟩
  for p in (table.punctuation[cs.code start]?).getD #[] do
    if expected.testBit p.token && (!p.adjacent || start = position) && cs.startsWith start p.text then
      best := better best
        ⟨⟨p.token, start, start + p.text.length⟩, if p.adjacent then 1 else 0, if p.adjacent then 3 else 2⟩
  match best with
  | some c => return some c.lexed
  | none => return if start ≥ cs.size && expected.testBit 0 then some ⟨0, start, start⟩ else none

def lexer (cs : Characters) : Lexer where
  scan := table.scan cs
  read := table.read cs
  keyword := fun start stop => table.keywords[(cs.extract start stop).toList]?
  skipSpace := cs.span isSpace
  breakOff := Lexeme.breakOff cs
  word := table.word
  afterError := table.afterError

end TokenTable

end LessonService.Tsx
