import LessonService.Grammar.Merging

namespace LessonService.Grammar

/-- A construct to be made of the last `count` symbols. -/
structure Reduction where
  construct : Nat
  count : Nat
  weight : Int
  names : Array Naming

inductive Action where
  | shift (state : Nat) (repeated : Bool)
  | shiftExtra
  | reduce (reduction : Reduction)
  | accept
  | recover

/-- Its states are the groups of states that count as one, and its actions are what the members of a group decide. -/
structure Automaton where
  machine : Machine
  canonical : Canonical
  partition : Partition
  /-- For each group, the tokens that it has an action for. -/
  expected : Array Nat
  /-- For each group that only ever makes one construct of one symbol, without a trace in the tree,
  that construct. Such groups are passed over. -/
  passing : Array (Option Nat)

/-- The constructs that some production renames. -/
def Machine.renamed (m : Machine) : Std.HashMap Nat Unit :=
  m.language.productions.foldl (fun known p =>
    p.steps.foldl (fun known s => if s.newName.isSome then known.insert s.symbol () else known) known) {}

/-- Whether a position makes a hidden construct of one symbol. -/
def Machine.passesOn (m : Machine) (renamed : Std.HashMap Nat Unit) (item : Item) : Bool :=
  let name := m.nameOfConstruct item.construct
  item.isComplete && item.length = 1 && item.weight = 0 && item.construct < m.symbolCount
    && (item.names.all fun n => n.newName.isNone && n.field.isNone)
    && (m.isRepetition item.construct || isHiddenName name)
    && !m.language.grammar.groups.contains name && !renamed.contains item.construct

/-- The construct that a state makes of one symbol whatever comes next. -/
def Canonical.passing? (c : Canonical) (m : Machine) (renamed : Std.HashMap Nat Unit) (state : Nat) : Option Nat := do
  let (n, _) ← (c.completeIn state)[0]?
  let first ← m.itemAt n
  guard (m.passesOn renamed first)
  guard ((c.kernelAt state).all fun (n, _) =>
    (m.itemAt n).any fun i => i.construct = first.construct && m.passesOn renamed i)
  guard ((c.movesOf state).isEmpty)
  return first.construct

namespace Automaton

def ofMachine (m : Machine) (confusion : Confusion) : Automaton :=
  let canonical := Canonical.ofMachine m
  let partition := canonical.merged m confusion
  let renamed := m.renamed
  { machine := m
    canonical
    partition
    expected := partition.groups.map fun states => states.foldl (fun all s => all ||| canonical.expectedIn s) 0
    passing := partition.groups.map fun states => (states[0]?).bind (canonical.passing? m renamed) }

variable (a : Automaton)

def membersOf (state : Nat) : Array Nat := (a.partition.groups[state]?).getD #[]

/-- The tokens that a state has an action for. -/
def expectedIn (state : Nat) : Nat := (a.expected[state]?).getD 0

/-- The state to stay in on coming from `source`: states that only rename what was read are passed over. -/
def settled (source : Nat) : Nat → Nat → Nat
  | 0, state => state
  | fuel + 1, state =>
    match ((a.passing[state]?).join).bind fun construct =>
        ((a.membersOf source)[0]?).bind fun s => a.canonical.move? s construct with
    | some next => settled source fuel (a.partition.of next)
    | none => state

/-- More than any chain of constructs that only rename is long. -/
def maxPassing : Nat := 100

/-- The state that a symbol leads to, if a member of `source` has a use for it. -/
def follow (source member symbol : Nat) : Option Nat :=
  (a.canonical.move? member symbol).map fun next => a.settled source maxPassing (a.partition.of next)

/-- The state after a construct that is complete. -/
def afterConstruct (state construct : Nat) : Nat :=
  (((a.membersOf state)[0]?).bind fun s => a.follow state s construct).getD errorState

def reductionAt (position : Nat) : Option Action :=
  (a.machine.itemAt position).map fun item =>
    if item.construct = a.machine.symbolCount then .accept
    else .reduce ⟨item.construct, item.length, item.weight, item.names⟩

/-- What a state does with a token. -/
def actionsFor (state token : Nat) : Array Action :=
  let isExtra := a.machine.extras.testBit token
  if state = errorState then if isExtra then #[.shiftExtra] else #[.recover]
  else
    let decided (s : Nat) : Option (Nat × Decision) :=
      if (a.canonical.expectedIn s).testBit token then
        let d := a.canonical.decisionFor a.machine s token
        if d.reads || !d.reductions.isEmpty then some (s, d) else none
      else none
    match (a.membersOf state).findSome? decided with
    | some (s, d) =>
      let reductions := d.reductions.filterMap a.reductionAt
      match if d.reads then a.follow state s token else none with
      | some next => reductions.push (.shift next d.repeated)
      | none => reductions
    | none => if isExtra then #[.shiftExtra] else #[]

/-- The state after a token, if the last of its actions reads it. -/
def afterToken (state token : Nat) : Option Nat :=
  match (a.actionsFor state token).back? with
  | some (.shift n _) => some n
  | some .shiftExtra => some state
  | _ => none

end Automaton

end LessonService.Grammar
