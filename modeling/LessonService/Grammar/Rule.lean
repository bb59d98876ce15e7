namespace LessonService.Grammar

inductive Associativity where
  | left
  | right
deriving DecidableEq

/-- How strongly a rule binds. Names are compared by the orderings that the grammar lists. -/
inductive Precedence where
  | plain
  | level (rank : Int)
  | named (name : String)
deriving DecidableEq

/-- The name a part gets in the tree in place of its own, and whether it counts as a named node. -/
structure Alias where
  name : String
  named : Bool
deriving DecidableEq

/-- Which sequences of tokens and named parts a construct may have. The annotations decide which reading wins where two
are possible, and how parts are named in the tree. -/
inductive Rule where
  | blank
  /-- The token that is written exactly so. -/
  | token (text : String)
  /-- The same, where no space may come before it. -/
  | adjacent (text : String)
  /-- The body of a token rule, whose texts the lexer knows by the rule's name. -/
  | lexeme
  | part (name : String)
  | seq (rules : List Rule)
  | choice (rules : List Rule)
  | repeat1 (rule : Rule)
  | prec (strength : Precedence) (side : Option Associativity) (rule : Rule)
  | weight (dynamic : Int) (rule : Rule)
  | field (name : String) (rule : Rule)
  | renamed (name : Alias) (rule : Rule)

instance : Coe String Rule := ⟨.part⟩

namespace Rule

def optional (r : Rule) : Rule := .choice [r, .blank]

def many (r : Rule) : Rule := .choice [.repeat1 r, .blank]

def sepBy1 (separator r : Rule) : Rule := .seq [r, many (.seq [separator, r])]

def commaSep1 (r : Rule) : Rule := sepBy1 (.token ",") r

def commaSep (r : Rule) : Rule := optional (commaSep1 r)

def strong (name : String) (r : Rule) : Rule := .prec (.named name) none r

def left (r : Rule) : Rule := .prec (.level 0) (some .left) r

def right (r : Rule) : Rule := .prec (.level 0) (some .right) r

def strongLeft (name : String) (r : Rule) : Rule := .prec (.named name) (some .left) r

def strongRight (name : String) (r : Rule) : Rule := .prec (.named name) (some .right) r

/-- The part appears in the tree as a named node of that kind. -/
def shownAs (name : String) (r : Rule) : Rule := .renamed ⟨name, true⟩ r

/-- The part appears in the tree as a token of that text. -/
def shownAsToken (name : String) (r : Rule) : Rule := .renamed ⟨name, false⟩ r

end Rule

/-- An entry of a precedence ordering: a precedence by its name, or every use of a rule. -/
inductive Ranked where
  | name (name : String)
  | rule (name : String)
deriving DecidableEq

/-- The rules of a grammar. They keep their order, the first is where texts start. -/
structure RuleSet where
  rules : List (String × Rule)
  /-- Tokens that a scanner of its own recognises; those that are also rules are shared. -/
  scanned : List String
  /-- Tokens that may stand between any two others. -/
  extras : List String
  /-- Rules that group others and do not appear in the tree. -/
  groups : List String
  /-- Rules that are expanded where they are used. -/
  inlined : List String
  /-- Each list goes from the strongest to the weakest. -/
  orderings : List (List Ranked)
  /-- The token that every keyword is a case of. -/
  word : String

end LessonService.Grammar
