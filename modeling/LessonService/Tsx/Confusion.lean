import LessonService.Grammar.Merging
import LessonService.Tsx.Lexeme

namespace LessonService.Tsx

open LessonService.Grammar

/-- The characters that stand for all when tokens are compared: those of ASCII and one letter more. -/
def sampleCharacters : List Nat := List.range 128 ++ [0xE9]

/-- How a token is spelled, as far as it matters to other tokens. -/
inductive Shape where
  | fixed (text : Text) (adjacent : Bool)
  | kind (k : Lexeme.Kind)
  | other

def shapeOf (t : Token) : Shape :=
  match t.recogniser with
  | .exactly s => .fixed (Text.ofString s) false
  | .adjacent s => .fixed (Text.ofString s) true
  | .lexeme name =>
    match Lexeme.kinds.find? fun k => k.name = name with
    | some k => .kind k
    | none => .other
  | _ => .other

namespace Shape

/-- Whether a token may start with a character, or with space before it. -/
def opensWith (c : Nat) : Shape → Bool
  | fixed text adjacent => text.head?.elim false (·.value = c) || (!adjacent && isSpace c)
  | kind k => k.opensWith c || (!k.adjacent && isSpace c)
  | other => false

/-- Whether a token can go on with a character after a text that is another one. -/
def goesOn (text : Text) (c : Nat) : Shape → Bool
  | fixed t _ => text.isPrefixOf t && ((t.drop text.length).head?.elim false (·.value = c))
  | kind k => k.goesOn text c
  | other => false

/-- Whether a text is just a token of the kind. -/
def isWhole (k : Lexeme.Kind) (text : Text) : Bool := !text.isEmpty && k.find text.toArray 0 = some text.length

/-- Whether a token could be found in the place of another, before whose characters may follow it. -/
def hides (follow : List Nat) (a b : Shape) : Bool :=
  match a, b with
  | fixed s _, fixed t _ => t.length < s.length && follow.any fun c => goesOn t c a
  | kind k, fixed t adjacent => (k.admitsSpace && !adjacent) || follow.any fun c => k.goesOn t c
  | fixed s _, kind k =>
    isWhole k s || (List.range s.length).any fun n =>
      isWhole k (s.take n) && !isWhole k (s.take (n + 1)) && follow.any fun c => goesOn (s.take n) c a
  | kind k, kind l => (k.admitsSpace && !l.adjacent) || k.overrides.contains l.name
  | _, _ => false

end Shape

/-- The tokens that the rules of the scanner depend on. -/
def sensitiveTokens (v : Vocabulary) (g : RuleSet) : Nat :=
  g.scanned.foldl (fun set name => set ||| (1 <<< v.scannedToken name)) 0

/-- Words that may come right after a pattern's flags are found by themselves; every other keyword is
a case of the word token. -/
def freeWords : List String := ["as", "in", "of", "instanceof", "satisfies", "implements"]

def confusionOf (m : Machine) : Confusion :=
  let v := m.language.vocabulary
  let shapes := v.tokens.map shapeOf
  let shapeAt (n : Nat) : Shape := (shapes[n]?).getD .other
  let isKeyword (n : Nat) : Bool :=
    match v.tokens[n]? with
    | some ⟨.exactly s, _, _⟩ => s.toList.all (·.isAlpha) && !freeWords.contains s
    | _ => false
  let opening := (Array.range v.tokens.size).map fun n => sampleCharacters.filter fun c => (shapeAt n).opensWith c
  let followingOf (n : Nat) : List Nat :=
    let next := membersBelow v.tokens.size ((m.followers[n]?).getD 0 ||| m.extras)
    (next.toList.flatMap fun t => (opening[t]?).getD []).eraseDups
  let following := (Array.range v.tokens.size).map followingOf
  let exempt (a b : Nat) : Bool := (a = 1 && isKeyword b) || (b = 1 && isKeyword a)
  { sensitive := sensitiveTokens v m.language.grammar
    hides := (Array.range v.tokens.size).map fun a =>
      (List.range v.tokens.size).foldl (fun set b =>
        if a ≠ b && !exempt a b && Shape.hides ((following[b]?).getD []) (shapeAt a) (shapeAt b) then set ||| (1 <<< b)
        else set) 0 }

end LessonService.Tsx
