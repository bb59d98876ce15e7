import LessonService.Grammar.Rule
import Std.Data.HashMap

namespace LessonService.Grammar

/-- How the lexer recognises a token. -/
inductive Recogniser where
  | endOfText
  | exactly (text : String)
  | adjacent (text : String)
  | lexeme (name : String)
  | scanned (name : String)
deriving DecidableEq

structure Token where
  recogniser : Recogniser
  name : String
  named : Bool

/-- A token whose name starts with an underscore stays out of the tree. -/
def isHiddenName (name : String) : Bool := name.startsWith "_"

/-- Which token or construct a mention in a rule stands for. -/
structure Vocabulary where
  tokens : Array Token
  constructs : Array String
  textTokens : Std.HashMap String Nat
  adjacentTokens : Std.HashMap String Nat
  parts : Std.HashMap String Nat
  /-- How many tokens the rules mention before the word token, which is numbered first. -/
  wordPlace : Nat

namespace Vocabulary

mutual

/-- The tokens a rule mentions, in order. -/
def mentioned : Rule → List Recogniser
  | .token s => [.exactly s]
  | .adjacent s => [.adjacent s]
  | .seq rs => mentionedIn rs
  | .choice rs => mentionedIn rs
  | .repeat1 r => mentioned r
  | .prec _ _ r => mentioned r
  | .weight _ r => mentioned r
  | .field _ r => mentioned r
  | .renamed _ r => mentioned r
  | .blank | .lexeme | .part _ => []

def mentionedIn : List Rule → List Recogniser
  | [] => []
  | r :: rs => mentioned r ++ mentionedIn rs

end

def tokensOfRule : String × Rule → List Recogniser
  | (name, .lexeme) => [.lexeme name]
  | (_, r) => mentioned r

/-- A rule that only spells a token used nowhere else is that token, under the rule's name. -/
def soleText (uses : Std.HashMap String Nat) : Rule → Option String
  | .token s => if uses.getD s 0 = 1 then some s else none
  | _ => none

def ofGrammar (g : RuleSet) : Vocabulary := Id.run do
  let mut uses : Std.HashMap String Nat := {}
  for rule in g.rules do
    for r in tokensOfRule rule do
      if let .exactly s := r then uses := uses.insert s (uses.getD s 0 + 1)
  let mut names : Std.HashMap String String := {}
  for (name, rule) in g.rules do
    if let some s := soleText uses rule then names := names.insert s name
  let mut tokens : Array Token := #[⟨.endOfText, "end", true⟩, ⟨.lexeme g.word, g.word, true⟩]
  let mut textTokens : Std.HashMap String Nat := {}
  let mut adjacentTokens : Std.HashMap String Nat := {}
  let mut wordPlace := 0
  let mut parts : Std.HashMap String Nat := ({} : Std.HashMap String Nat).insert g.word 1
  for rule in g.rules do
    for r in tokensOfRule rule do
      match r with
      | .exactly s =>
        unless textTokens.contains s do
          textTokens := textTokens.insert s tokens.size
          match names[s]? with
          | some name =>
            parts := parts.insert name tokens.size
            tokens := tokens.push ⟨r, name, true⟩
          | none => tokens := tokens.push ⟨r, s, false⟩
      | .adjacent s =>
        unless adjacentTokens.contains s do
          adjacentTokens := adjacentTokens.insert s tokens.size
          tokens := tokens.push ⟨r, s, false⟩
      | .lexeme name =>
        if name = g.word then wordPlace := tokens.size - 1
        unless parts.contains name do
          parts := parts.insert name tokens.size
          tokens := tokens.push ⟨r, name, true⟩
      | _ => pure ()
  for name in g.scanned do
    unless parts.contains name || textTokens.contains name do
      parts := parts.insert name tokens.size
      tokens := tokens.push ⟨.scanned name, name, true⟩
  let mut constructs : Array String := #[]
  for (name, _) in g.rules do
    unless parts.contains name do
      parts := parts.insert name (tokens.size + constructs.size)
      constructs := constructs.push name
  return { tokens, constructs, textTokens, adjacentTokens, parts, wordPlace }

/-- The number of what a scanned token's name stands for. -/
def scannedToken (v : Vocabulary) (name : String) : Nat :=
  (v.parts[name]?).getD (v.textTokens.getD name 0)

end Vocabulary

end LessonService.Grammar
