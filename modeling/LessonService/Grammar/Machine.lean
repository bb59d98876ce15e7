import LessonService.Grammar.Production

namespace LessonService.Grammar

/-- The name a child gets from its place in a production. -/
structure Naming where
  newName : Option Alias
  field : Option String
deriving DecidableEq

/-- A position in a production. Two positions count as one when they have read equally many
steps with equal names and the same steps remain. -/
structure Item where
  construct : Nat
  consumed : Nat
  length : Nat
  weight : Int
  /-- The annotation of the step before the position. -/
  strength : Precedence
  side : Option Associativity
  next : Option Nat
  afterNext : Option Nat
  /-- The position after the next step. -/
  successor : Nat
  /-- The names of the steps that are read. -/
  names : Array Naming

def Item.isComplete (i : Item) : Bool := i.next.isNone

/-- What an automaton for a grammar needs to know before it reads anything. Sets of tokens are numbers whose bits are the
members. -/
structure Machine where
  language : Language
  items : Array Item
  /-- The position before the whole text. -/
  start : Nat
  /-- The tokens a symbol can start with. -/
  firsts : Array Nat
  /-- For each construct, the constructs that are expected where it is: with the tokens that can
  follow them inside it, and whether they can end it. -/
  reach : Array (Array (Nat × Nat × Bool))
  /-- For each construct, how its productions start: with a symbol, and the position after it. -/
  openings : Array (Array (Nat × Nat))
  /-- The constructs that may be empty, with the position that says so. -/
  empties : Array (Nat × Nat)
  extras : Nat
  /-- For each token, the tokens that may come right after it. -/
  followers : Array Nat

namespace Machine

def tokenCount (m : Machine) : Nat := m.language.vocabulary.tokens.size

/-- A construct that a repetition became. -/
def isRepetition (m : Machine) (construct : Nat) : Bool :=
  construct - m.tokenCount ≥ m.language.vocabulary.constructs.size

def nameOfConstruct (m : Machine) (construct : Nat) : String :=
  (m.language.constructs[construct - m.tokenCount]?).getD ""

def firstOf (m : Machine) (symbol : Nat) : Nat := (m.firsts[symbol]?).getD 0

end Machine

/-- The positions numbered so far. -/
structure ItemTable where
  items : Array Item := #[]
  index : Std.HashMap String Nat := {}

/-- Numbers the positions of one production from its end to its start. -/
def ItemTable.addProduction (t : ItemTable) (p : Production) : ItemTable × Nat := Id.run do
  let steps := p.steps.toArray
  let mut t := t
  let mut successor := 0
  let mut suffixKey := ""
  let mut prefixKeys : Array String := #[""]
  for s in steps do
    prefixKeys := prefixKeys.push
      ((prefixKeys.back?).getD "" ++ aliasKey s.newName ++ "\x02" ++ s.field.getD "" ++ "\x02")
  let base := toString p.construct ++ "\x02" ++ toString p.weight ++ "\x02" ++ toString steps.size
  for k in [0:steps.size + 1] do
    let i := steps.size - k
    let before := if i = 0 then none else steps[i - 1]?
    let strength := (before.map Step.strength).getD .plain
    let side := before.bind Step.side
    let key := String.intercalate "\x03"
      [base, toString i, strength.key, sideKey side, (prefixKeys[i]?).getD "", suffixKey]
    let number ← match t.index[key]? with
      | some n => pure n
      | none =>
        let n := t.items.size
        let item : Item :=
          { construct := p.construct, consumed := i, length := steps.size, weight := p.weight
            strength, side, next := (steps[i]?).map Step.symbol
            afterNext := (steps[i + 1]?).map Step.symbol, successor
            names := (steps.extract 0 i).map fun s => ⟨s.newName, s.field⟩ }
        t := { items := t.items.push item, index := t.index.insert key n }
        pure n
    successor := number
    if i > 0 then
      suffixKey := ((steps[i - 1]?).map Step.key).getD "" ++ "\x03" ++ suffixKey
  return (t, successor)

/-- How a construct's productions start: the constructs they start with, the tokens that may come
next within them, and whether nothing more comes. -/
abbrev Starts := Array (Nat × Nat × Bool)

def addStart (xs : Starts) (construct follow : Nat) (last : Bool) : Starts :=
  match xs.findIdx? fun x => x.1 = construct with
  | some i => xs.modify i fun (c, f, l) => (c, f ||| follow, l || last)
  | none => xs.push (construct, follow, last)

/-- The tokens at one end of each symbol. There are enough rounds for facts about constructs to
travel through all of them. -/
def endsOf (stepAtEnd : List Step → Option Step) (tokens constructs : Nat) (ps : Array Production) : Array Nat :=
  Id.run do
    let mut ends : Array Nat := Array.ofFn fun i : Fin tokens => 1 <<< i.val
    ends := ends ++ Array.replicate constructs 0
    for _ in [0:constructs + 1] do
      let mut changed := false
      for p in ps do
        if let some s := stepAtEnd p.steps then
          let old := (ends[p.construct]?).getD 0
          let new := old ||| (ends[s.symbol]?).getD 0
          if new ≠ old then
            ends := ends.setIfInBounds p.construct new
            changed := true
      unless changed do break
    return ends

/-- The members of a set that are below a number. -/
def membersBelow (bound set : Nat) : Array Nat := (Array.range bound).filter set.testBit

/-- The tokens that may come right after each token within a production. -/
def followersOf (tokens : Nat) (firsts lasts : Array Nat) (ps : Array Production) : Array Nat := Id.run do
  let mut after : Array Nat := Array.replicate firsts.size 0
  for p in ps do
    for (s, next) in p.steps.zip (p.steps.drop 1) do
      after := after.modify s.symbol (· ||| (firsts[next.symbol]?).getD 0)
  let mut out : Array Nat := Array.replicate tokens 0
  for (last, follow) in lasts.zip after do
    for t in membersBelow tokens last do
      out := out.modify t (· ||| follow)
  return out

/-- What expecting one construct makes expected. -/
def reachOf (tokens constructs : Nat) (starts : Array Starts) (construct : Nat) : Array (Nat × Nat × Bool) := Id.run do
  let mut known : Array (Option (Nat × Bool)) := Array.replicate constructs none
  known := known.setIfInBounds (construct - tokens) (some (0, true))
  let mut queue : Array Nat := #[construct - tokens]
  for _ in [0:constructs * constructs] do
    match queue.back? with
    | none => break
    | some b =>
      queue := queue.pop
      let (own, inherits) := ((known[b]?).join).getD (0, false)
      for (c, follow, last) in (starts[b]?).getD #[] do
        let own' := if last then follow ||| own else follow
        let inherits' := last && inherits
        match (known[c - tokens]?).join with
        | none =>
          known := known.setIfInBounds (c - tokens) (some (own', inherits'))
          queue := queue.push (c - tokens)
        | some (o, h) =>
          let merged := (o ||| own', h || inherits')
          if merged ≠ (o, h) then
            known := known.setIfInBounds (c - tokens) (some merged)
            queue := queue.push (c - tokens)
  let mut out : Array (Nat × Nat × Bool) := #[]
  for h : i in [0:known.size] do
    if let some (own, inherits) := known[i] then out := out.push (tokens + i, own, inherits)
  return out

def Machine.ofGrammar (g : RuleSet) : Machine := Id.run do
  let language := Language.ofGrammar g
  let tokens := language.vocabulary.tokens.size
  let constructs := language.constructs.size
  let whole := tokens + constructs
  let mut table : ItemTable := {}
  let mut entries : Array Nat := #[]
  for p in language.productions do
    let (t, n) := table.addProduction p
    table := t
    entries := entries.push n
  let (table', start) := table.addProduction ⟨whole, [⟨language.start, .plain, none, none, none⟩], 0⟩
  let firsts := endsOf List.head? tokens constructs language.productions
  let mut starts : Array Starts := Array.replicate constructs #[]
  let mut openings : Array (Array (Nat × Nat)) := Array.replicate constructs #[]
  let mut empties : Array (Nat × Nat) := #[]
  for (p, n) in language.productions.zip entries do
    match p.steps with
    | [] => empties := empties.push (p.construct, n)
    | s :: rest =>
      let after := ((table'.items[n]?).map Item.successor).getD 0
      openings := openings.modify (p.construct - tokens) (·.push (s.symbol, after))
      if s.symbol ≥ tokens then
        let follow := (rest.head?.map fun r => (firsts[r.symbol]?).getD 0).getD 0
        starts := starts.modify (p.construct - tokens) (addStart · s.symbol follow rest.isEmpty)
  let reach := Array.ofFn fun i : Fin constructs => reachOf tokens constructs starts (tokens + i.val)
  let lasts := endsOf List.getLast? tokens constructs language.productions
  let extras := g.extras.foldl (fun set name => set ||| (1 <<< language.vocabulary.scannedToken name)) 0
  let followers := followersOf tokens firsts lasts language.productions
  return { language, items := table'.items, start, firsts, reach, openings, empties, extras, followers }

end LessonService.Grammar
