import LessonService.Tsx.Confusion
import LessonService.Tsx.Lexer
import LessonService.Tsx.Node

namespace LessonService.Tsx

open LessonService.Grammar

def machine : Machine := Machine.ofGrammar grammar

/-- The automaton of the grammar, made when a source is first parsed. -/
def automaton : Thunk Automaton := Thunk.mk fun _ => Automaton.ofMachine machine (confusionOf machine)

def tokenTable : TokenTable := TokenTable.ofVocabulary machine.language.vocabulary

/-- A source with its tree. -/
structure ParsedSource where
  characters : Characters
  root : Node

/-- How many bytes, and how many line ends, come before each position. -/
def layoutOf (cs : Characters) : Layout := Id.run do
  let mut bytes : Array Nat := #[0]
  let mut rows : Array Nat := #[0]
  let mut byte := 0
  let mut row := 0
  for c in cs do
    byte := byte + c.byteCount
    row := if c.value = 0x0A then row + 1 else row
    bytes := bytes.push byte
    rows := rows.push row
  return { size := cs.size, bytes, rows }

def nameOfSymbol (m : Machine) (symbol : Nat) : String × Bool :=
  if symbol = errorSymbol then ("ERROR", true)
  else if symbol < m.tokenCount then
    match m.language.vocabulary.tokens[symbol]? with
    | some t => (t.name, t.named)
    | none => ("", false)
  else (m.nameOfConstruct symbol, true)

mutual

/-- The nodes a tree shows: itself, or what is below it where it is hidden. -/
def shown (m : Machine) (newName : Option Alias) (field : Option String) : Subtree → List Node
  | .mk s names children =>
    let cs := shownAll m names children
    if newName.isSome || m.isVisible s.symbol then
      let (kind, named) := match newName with
        | some a => (a.name, a.named)
        | none => nameOfSymbol m s.symbol
      let isError := s.symbol = errorSymbol
      [.mk
        { kind, named, field, start := s.start, stop := s.stop, isError, isMissing := s.missing
          hasError := isError || s.missing || cs.any Node.hasError }
        cs]
    else
      match field with
      | none => cs
      | some f => cs.map fun
        | .mk i below => .mk { i with field := i.field.or (some f) } below

def shownAll (m : Machine) (names : Array Naming) : List Subtree → List Node
  | [] => []
  | t :: ts =>
    if t.summary.extra || t.summary.symbol = 0 then shown m none none t ++ shownAll m names ts
    else
      let here := (names[0]?).getD ⟨none, none⟩
      shown m here.newName here.field t ++ shownAll m (names.extract 1 names.size) ts

end

/-- The tree of a source. Unpaired surrogates are read as question marks. -/
def parse (source : Text) : ParsedSource :=
  let characters : Characters := (source.map fun c => if c.isUnpaired then ('?' : CodePoint) else c).toArray
  let task : Task := ⟨automaton.get, layoutOf characters, tokenTable.lexer characters⟩
  let root := (task.parse.bind fun t => (shown machine none none t).head?).getD
    (.mk ⟨"ERROR", true, none, 0, characters.size, true, false, true⟩ [])
  { characters, root }

end LessonService.Tsx
