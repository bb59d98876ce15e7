import LessonService.Grammar.Vocabulary

namespace LessonService.Grammar

structure Step where
  symbol : Nat
  strength : Precedence
  side : Option Associativity
  newName : Option Alias
  field : Option String
deriving DecidableEq

/-- A rule with every choice made, every repetition named and every inlined rule put in place. -/
structure Production where
  construct : Nat
  steps : List Step
  weight : Int
deriving DecidableEq

def Precedence.key : Precedence → String
  | .plain => ""
  | .level n => toString n
  | .named s => s

def sideKey : Option Associativity → String
  | none => "-"
  | some .left => "l"
  | some .right => "r"

def aliasKey : Option Alias → String
  | none => ""
  | some a => (if a.named then "+" else "-") ++ a.name

def Step.key (s : Step) : String :=
  String.intercalate "\x00" [toString s.symbol, s.strength.key, sideKey s.side, aliasKey s.newName, s.field.getD ""]

mutual

/-- A text that differs for different rules. -/
def Rule.key : Rule → String
  | .blank => "b"
  | .token s => "t\x00" ++ s ++ "\x01"
  | .adjacent s => "a\x00" ++ s ++ "\x01"
  | .lexeme => "l"
  | .part s => "p\x00" ++ s ++ "\x01"
  | .seq rs => "s(" ++ Rule.keys rs ++ ")"
  | .choice rs => "c(" ++ Rule.keys rs ++ ")"
  | .repeat1 r => "r(" ++ r.key ++ ")"
  | .prec p a r => "P" ++ p.key ++ "\x00" ++ sideKey a ++ "(" ++ r.key ++ ")"
  | .weight n r => "w" ++ toString n ++ "(" ++ r.key ++ ")"
  | .field n r => "f" ++ n ++ "(" ++ r.key ++ ")"
  | .renamed n r => "A" ++ aliasKey (some n) ++ "(" ++ r.key ++ ")"

def Rule.keys : List Rule → String
  | [] => ""
  | r :: rs => r.key ++ Rule.keys rs

end

/-- The repetitions that have been named so far, and the rules they became. -/
structure Repetitions where
  names : Std.HashMap String String := {}
  rules : Array (String × Rule) := #[]
  /-- How many were named within the current rule. -/
  count : Nat := 0

mutual

def Rule.nameRepeats (owner : String) : Rule → StateM Repetitions Rule
  | .repeat1 r => do
    let body ← r.nameRepeats owner
    let key := body.key
    if let some known := (← get).names[key]? then
      return .part known
    let n := (← get).count + 1
    let name := owner ++ "_repeat" ++ toString n
    modify fun s =>
      { names := s.names.insert key name
        rules := s.rules.push (name, .choice [.seq [.part name, .part name], body])
        count := n }
    return .part name
  | .seq rs => do return .seq (← Rule.nameRepeatsIn owner rs)
  | .choice rs => do return .choice (← Rule.nameRepeatsIn owner rs)
  | .prec p a r => do return .prec p a (← r.nameRepeats owner)
  | .weight n r => do return .weight n (← r.nameRepeats owner)
  | .field n r => do return .field n (← r.nameRepeats owner)
  | .renamed n r => do return .renamed n (← r.nameRepeats owner)
  | .blank => pure .blank
  | .token s => pure (.token s)
  | .adjacent s => pure (.adjacent s)
  | .lexeme => pure .lexeme
  | .part s => pure (.part s)

def Rule.nameRepeatsIn (owner : String) : List Rule → StateM Repetitions (List Rule)
  | [] => pure []
  | r :: rs => do
    let r ← r.nameRepeats owner
    let rs ← Rule.nameRepeatsIn owner rs
    return r :: rs

end

mutual

/-- The rules without choices that a rule stands for. -/
def Rule.readings : Rule → List Rule
  | .choice rs => Rule.readingsOfAny rs
  | .seq rs => (Rule.readingsOfAll rs).map .seq
  | .prec p a r => r.readings.map (.prec p a)
  | .weight n r => r.readings.map (.weight n)
  | .field n r => r.readings.map (.field n)
  | .renamed n r => r.readings.map (.renamed n)
  | r => [r]

def Rule.readingsOfAny : List Rule → List Rule
  | [] => []
  | r :: rs => r.readings ++ Rule.readingsOfAny rs

def Rule.readingsOfAll : List Rule → List (List Rule)
  | [] => [[]]
  | r :: rs =>
    let rest := Rule.readingsOfAll rs
    r.readings.flatMap fun first => rest.map (first :: ·)

end

/-- The annotations that hold where a mention stands. -/
structure Surroundings where
  strength : Precedence := .plain
  side : Option Associativity := none
  newName : Option Alias := none
  field : Option String := none

/-- The steps read so far and the strongest weight met. -/
structure Reading where
  steps : Array Step := #[]
  weight : Int := 0

def Reading.weigh (r : Reading) (n : Int) : Reading :=
  if n.natAbs > r.weight.natAbs then { r with weight := n } else r

/-- The last step takes what holds around the part that ends with it. -/
def Reading.relaxStrength (r : Reading) (p : Precedence) : Reading :=
  { r with steps := r.steps.modify (r.steps.size - 1) fun s => { s with strength := p } }

def Reading.relaxSide (r : Reading) (a : Option Associativity) : Reading :=
  { r with steps := r.steps.modify (r.steps.size - 1) fun s => { s with side := a } }

def Surroundings.step (around : Surroundings) (symbol : Nat) : Step :=
  ⟨symbol, around.strength, around.side, around.newName, around.field⟩

mutual

/-- Reads a rule without choices. The annotation of a part that does not end the rule says how
tightly its inner steps hold together, so its last step takes the outer annotation. -/
def Rule.read (v : Vocabulary) (around : Surroundings) (atEnd : Bool) : Rule → Reading → Reading
  | .token s, acc => { acc with steps := acc.steps.push (around.step (v.textTokens.getD s 0)) }
  | .adjacent s, acc => { acc with steps := acc.steps.push (around.step (v.adjacentTokens.getD s 0)) }
  | .part s, acc =>
    let symbol := (v.parts[s]?).getD (v.textTokens.getD s 0)
    { acc with steps := acc.steps.push (around.step symbol) }
  | .seq rs, acc => Rule.readAll v around atEnd rs acc
  | .weight n r, acc => Rule.read v around atEnd r (acc.weigh n)
  | .field n r, acc => Rule.read v { around with field := some n } atEnd r acc
  | .renamed n r, acc => Rule.read v { around with newName := some n } atEnd r acc
  | .prec p a r, acc =>
    let inner := { around with
      strength := if p = .plain then around.strength else p
      side := if a.isSome then a else around.side }
    let out := Rule.read v inner atEnd r acc
    if atEnd || out.steps.size = acc.steps.size then out
    else
      let out := if p = .plain then out else out.relaxStrength around.strength
      if a.isSome then out.relaxSide around.side else out
  | .blank, acc | .lexeme, acc | .choice _, acc | .repeat1 _, acc => acc

def Rule.readAll (v : Vocabulary) (around : Surroundings) (atEnd : Bool) : List Rule → Reading → Reading
  | [], acc => acc
  | r :: rs, acc => Rule.readAll v around atEnd rs (Rule.read v around (atEnd && rs.isEmpty) r acc)

end

def Production.key (p : Production) : String :=
  toString p.construct ++ "\x00" ++ toString p.weight ++ "\x01"
    ++ String.intercalate "\x01" (p.steps.map Step.key)

/-- Drops repeated productions and keeps the order. -/
def distinct (ps : List Production) : List Production := Id.run do
  let mut seen : Std.HashMap String Unit := {}
  let mut out : Array Production := #[]
  for p in ps do
    let key := p.key
    unless seen.contains key do
      seen := seen.insert key ()
      out := out.push p
  return out.toList

def Rule.productions (v : Vocabulary) (construct : Nat) (r : Rule) : List Production :=
  distinct <| r.readings.map fun reading =>
    let out := reading.read v {} true {}
    ⟨construct, out.steps.toList, out.weight⟩

def adopt (outer : Step) (last : Bool) (inner : Step) : Step :=
  { symbol := inner.symbol
    newName := outer.newName.or inner.newName
    field := outer.field.or inner.field
    strength := if last && inner.strength = .plain then outer.strength else inner.strength
    side := if last && inner.side.isNone then outer.side else inner.side }

/-- The steps that stand in for one mention of an inlined rule. -/
def adoptAll (outer : Step) : List Step → List Step
  | [] => []
  | [s] => [adopt outer true s]
  | s :: rest => adopt outer false s :: adoptAll outer rest

def heavier (a b : Int) : Int := if b.natAbs > a.natAbs then b else a

/-- Puts the readings of inlined rules in place of their mentions, to the given depth of nesting. -/
def inlineSteps (bodies : Std.HashMap Nat (List Production)) : Nat → List Step → List (List Step × Int)
  | 0, _ => []
  | _ + 1, [] => [([], 0)]
  | fuel + 1, s :: rest =>
    match bodies[s.symbol]? with
    | none => (inlineSteps bodies fuel rest).map fun (steps, w) => (s :: steps, w)
    | some readings => readings.flatMap fun p =>
      (inlineSteps bodies fuel (adoptAll s p.steps ++ rest)).map fun (steps, w) => (steps, heavier p.weight w)

/-- Deeper than any chain of inlined rules and any production is long. -/
def inlineDepth : Nat := 100

def Production.inlined (bodies : Std.HashMap Nat (List Production)) (p : Production) : List Production :=
  (inlineSteps bodies inlineDepth p.steps).map fun (steps, w) => ⟨p.construct, steps, heavier p.weight w⟩

/-- A grammar's symbols and productions. -/
structure Language where
  grammar : RuleSet
  vocabulary : Vocabulary
  /-- The names of the constructs, repetitions included. -/
  constructs : Array String
  productions : Array Production
  start : Nat

def Language.ofGrammar (g : RuleSet) : Language := Id.run do
  let v := Vocabulary.ofGrammar g
  let mut repeats : Repetitions := {}
  let mut rules : Array (String × Rule) := #[]
  for (name, rule) in g.rules do
    if v.parts.getD name 0 ≥ v.tokens.size then
      let (rule, next) := (rule.nameRepeats name).run { repeats with count := 0 }
      repeats := next
      rules := rules.push (name, rule)
  let all := rules ++ repeats.rules
  let constructs := all.map Prod.fst
  let mut parts := v.parts
  for h : i in [0:constructs.size] do
    parts := parts.insert constructs[i] (v.tokens.size + i)
  let v := { v with parts }
  let productionsOf := all.map fun (name, rule) => rule.productions v (parts.getD name 0)
  let mut bodies : Std.HashMap Nat (List Production) := {}
  for name in g.inlined do
    let n := parts.getD name 0
    bodies := bodies.insert n ((productionsOf[n - v.tokens.size]?).getD [])
  let mut out : Array Production := #[]
  for h : i in [0:productionsOf.size] do
    unless bodies.contains (v.tokens.size + i) do
      out := out ++ (distinct (productionsOf[i].flatMap (Production.inlined bodies))).toArray
  return { grammar := g, vocabulary := v, constructs, productions := out
           start := (g.rules.head?.map fun r => parts.getD r.1 0).getD 0 }

end LessonService.Grammar
