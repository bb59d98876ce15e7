import LessonService.Grammar.Machine

namespace LessonService.Grammar

/-- Positions, each with the number of the set of tokens that may follow, in the order of the positions. -/
abbrev Kernel := Array (Nat × Nat)

/-- The state in which errors are read. -/
def errorState : Nat := 0

def startState : Nat := 1

/-- All states of a grammar. A state holds the positions that the text so far allows, each with the tokens that may
follow its construct. -/
structure Canonical where
  /-- Sets of tokens. -/
  sets : Array Nat := #[0]
  setNumbers : Std.HashMap Nat Nat := ({} : Std.HashMap Nat Nat).insert 0 0
  kernels : Array Kernel := #[#[]]
  numbers : Std.HashMap Kernel Nat := {}
  /-- For each state, the symbols that lead on from it with the states that they lead to. -/
  moves : Array (Array (Nat × Nat)) := #[#[]]
  /-- For each state, the positions that are complete, those of empty constructs included. -/
  complete : Array Kernel := #[#[]]
  /-- For each state, the tokens it has a use for. -/
  expected : Array Nat := #[0]

namespace Canonical

def setAt (c : Canonical) (n : Nat) : Nat := (c.sets[n]?).getD 0

def kernelAt (c : Canonical) (state : Nat) : Kernel := (c.kernels[state]?).getD #[]

def movesOf (c : Canonical) (state : Nat) : Array (Nat × Nat) := (c.moves[state]?).getD #[]

def completeIn (c : Canonical) (state : Nat) : Kernel := (c.complete[state]?).getD #[]

def expectedIn (c : Canonical) (state : Nat) : Nat := (c.expected[state]?).getD 0

/-- The state that a symbol leads to. -/
def move? (c : Canonical) (state symbol : Nat) : Option Nat :=
  ((c.movesOf state).find? fun x => x.1 = symbol).map Prod.snd

def numberSet (c : Canonical) (set : Nat) : Canonical × Nat :=
  match c.setNumbers[set]? with
  | some n => (c, n)
  | none => ({ c with sets := c.sets.push set, setNumbers := c.setNumbers.insert set c.sets.size }, c.sets.size)

def numberState (c : Canonical) (kernel : Kernel) : Canonical × Nat :=
  match c.numbers[kernel]? with
  | some n => (c, n)
  | none =>
    ({ c with kernels := c.kernels.push kernel, numbers := c.numbers.insert kernel c.kernels.size }, c.kernels.size)

end Canonical

namespace Machine

variable (m : Machine)

def itemAt (n : Nat) : Option Item := m.items[n]?

def symbolCount : Nat := m.tokenCount + m.language.constructs.size

/-- The place of a symbol in the order in which states are found: tokens of the scanner alone, the
other tokens as the rules mention them, and constructs. -/
def rank (symbol : Nat) : Nat :=
  match (m.language.vocabulary.tokens[symbol]?).map Token.recogniser with
  | some (.scanned _) => symbol
  | some .endOfText => m.tokenCount
  | some _ =>
    if symbol = 1 then m.tokenCount + 2 * m.language.vocabulary.wordPlace + 1 else m.tokenCount + 2 * symbol
  | none => 4 * m.tokenCount + symbol

/-- The tokens that may follow each construct that positions expect. -/
def followsOf (positions : Array (Nat × Nat)) : Array Nat := Id.run do
  let tokens := m.tokenCount
  let mut seeds : Array (Nat × Nat) := #[]
  for (n, follow) in positions do
    if let some item := m.itemAt n then
      if let some next := item.next then
        if next ≥ tokens then
          let after := (item.afterNext.map m.firstOf).getD follow
          match seeds.findIdx? fun x => x.1 = next with
          | some i => seeds := seeds.modify i fun (c, f) => (c, f ||| after)
          | none => seeds := seeds.push (next, after)
  let mut out : Array Nat := Array.replicate m.language.constructs.size 0
  for (c, after) in seeds do
    for (d, own, inherits) in (m.reach[c - tokens]?).getD #[] do
      out := out.modify (d - tokens) fun f => f ||| own ||| (if inherits then after else 0)
  return out

/-- The tokens that positions have a use for. -/
def expectedBy (positions : Array (Nat × Nat)) (follows : Array Nat) : Nat := Id.run do
  let mut out := m.extras
  for (n, follow) in positions do
    if let some item := m.itemAt n then
      out := out ||| (item.next.map m.firstOf).getD follow
  for (c, _) in m.empties do
    out := out ||| (follows[c - m.tokenCount]?).getD 0
  return out

end Machine

/-- Positions by the symbol that has been read before them. -/
structure Successors where
  bySymbol : Array Kernel
  symbols : Array Nat := #[]

def Successors.add (s : Successors) (symbol position set : Nat) : Successors :=
  let symbols := if ((s.bySymbol[symbol]?).getD #[]).isEmpty then s.symbols.push symbol else s.symbols
  { bySymbol := s.bySymbol.modify symbol (·.push (position, set)), symbols }

namespace Canonical

/-- Positions in order; equal ones join the tokens that may follow them. -/
def joined (c : Canonical) (kernel : Kernel) : Canonical × Kernel := Id.run do
  let mut c := c
  let mut out : Kernel := #[]
  for (n, set) in kernel.qsort fun a b => a.1 < b.1 do
    match out.back? with
    | some (last, other) =>
      if last = n then
        let (c', both) := c.numberSet (c.setAt other ||| c.setAt set)
        c := c'
        out := out.pop.push (n, both)
      else out := out.push (n, set)
    | none => out := out.push (n, set)
  return (c, out)

/-- Finds where the symbols lead from a state. -/
def explore (m : Machine) (ranks : Array Nat) (c : Canonical) (state : Nat) : Canonical := Id.run do
  let mut c := c
  let kernel := c.kernelAt state
  let positions := kernel.map fun (n, set) => (n, c.setAt set)
  let follows := m.followsOf positions
  let mut complete : Kernel := #[]
  let mut found : Successors := ⟨Array.replicate m.symbolCount #[], #[]⟩
  for (n, set) in kernel do
    if let some item := m.itemAt n then
      match item.next with
      | some symbol => found := found.add symbol item.successor set
      | none => complete := complete.push (n, set)
  for h : k in [0:follows.size] do
    if follows[k] ≠ 0 then
      let (c', set) := c.numberSet follows[k]
      c := c'
      for (symbol, n) in (m.openings[k]?).getD #[] do
        found := found.add symbol n set
  for (construct, n) in m.empties do
    let (c', set) := c.numberSet ((follows[construct - m.tokenCount]?).getD 0)
    c := c'
    complete := complete.push (n, set)
  let mut moves : Array (Nat × Nat) := #[]
  for symbol in found.symbols.qsort fun a b => (ranks[a]?).getD 0 < (ranks[b]?).getD 0 do
    let (c', next) := c.joined ((found.bySymbol[symbol]?).getD #[])
    let (c', n) := c'.numberState next
    c := c'
    moves := moves.push (symbol, n)
  return { c with
    moves := c.moves.push moves
    complete := c.complete.push complete
    expected := c.expected.push (m.expectedBy positions follows) }

/-- More than any grammar has states. -/
def maxStates : Nat := 1000000

/-- All states that can be reached from the start, in the order in which they are found. -/
def ofMachine (m : Machine) : Canonical := Id.run do
  let ranks := (Array.range m.symbolCount).map m.rank
  let (c, afterText) := ({} : Canonical).numberSet 1
  let mut c := (c.numberState #[(m.start, afterText)]).1
  for state in [startState:maxStates] do
    if state ≥ c.kernels.size then break
    c := c.explore m ranks state
  return c

end Canonical

end LessonService.Grammar
