import LessonService.Grammar.Decision

namespace LessonService.Grammar

/-- What a lexer has to keep apart. -/
structure Confusion where
  /-- For each token, the tokens that it could be found in the place of. -/
  hides : Array Nat
  /-- The tokens whose finding depends on what else is expected. -/
  sensitive : Nat

/-- Whether a token may become expected where others are. -/
def Confusion.forbids (c : Confusion) (token expected : Nat) : Bool :=
  c.sensitive.testBit token || ((c.hides[token]?).getD 0) &&& expected ≠ 0

/-- States with the same positions that decide alike about every token. -/
structure Likeness where
  expected : Nat
  /-- For each token that some positions may be complete before, the number of what is decided, or
  zero if the token is not expected. -/
  decisions : Array (Nat × Nat)

/-- Whether two states with the same positions must stay apart. -/
def Likeness.conflicts (c : Confusion) (a b : Likeness) : Bool :=
  (a.decisions.zip b.decisions).any fun ((token, x), (_, y)) =>
    x ≠ y && (if x = 0 then c.forbids token a.expected else if y = 0 then c.forbids token b.expected else true)

/-- Numbers for what has been decided. Equal numbers stand for equal actions. -/
structure DecisionNumbers where
  /-- For each position, the first one that makes the same construct in the same way. -/
  makers : Array Nat
  numbers : Std.HashMap (Array Nat) Nat := {}

def DecisionNumbers.number (d : DecisionNumbers) (x : Decision) : DecisionNumbers × Nat :=
  let key := (x.reductions.map fun n => (d.makers[n]?).getD n) ++ #[x.reads.toNat, x.repeated.toNat]
  match d.numbers[key]? with
  | some n => (d, n)
  | none =>
    let n := d.numbers.size + 1
    ({ d with numbers := d.numbers.insert key n }, n)

/-- For each position, the first one that makes the same construct in the same way. -/
def makersOf (items : Array Item) : Array Nat := Id.run do
  let mut known : Std.HashMap String Nat := {}
  let mut out : Array Nat := #[]
  for h : n in [0:items.size] do
    let i := items[n]
    let names := i.names.toList.map fun x => aliasKey x.newName ++ "\x02" ++ x.field.getD ""
    let key := String.intercalate "\x03" (toString i.construct :: toString i.length :: toString i.weight :: names)
    out := out.push (known.getD key n)
    unless known.contains key do known := known.insert key n
  return out

/-- The states grouped by their positions, in the order of their numbers. -/
def Canonical.byPositions (c : Canonical) : Array (Array Nat) := Id.run do
  let mut index : Std.HashMap (Array Nat) Nat := {}
  let mut out : Array (Array Nat) := #[]
  for h : state in [0:c.kernels.size] do
    let positions := c.kernels[state].map Prod.fst
    match index[positions]? with
    | some i => out := out.modify i (·.push state)
    | none =>
      index := index.insert positions out.size
      out := out.push #[state]
  return out

/-- For each state, what it decides. -/
structure Likenesses where
  numbers : DecisionNumbers
  all : Array Likeness := #[]
  /-- The number of the likeness of each state. States alone with their positions have none. -/
  of : Array Nat

/-- Notes what states with the same positions decide. -/
def Canonical.noteLikenesses (c : Canonical) (m : Machine) (l : Likenesses) (states : Array Nat) : Likenesses :=
  Id.run do
    let sets (state : Nat) : Array Nat := (c.completeIn state).map Prod.snd
    let relevant := states.foldl (fun all s => (sets s).foldl (fun all n => all ||| c.setAt n) all) 0
    let tokens := membersBelow m.tokenCount relevant
    let mut l := l
    let mut known : Std.HashMap (Array Nat) Nat := {}
    let mut decided : Std.HashMap (Nat × Array Nat) Nat := {}
    for state in states do
      match known[sets state]? with
      | some n => l := { l with of := l.of.setIfInBounds state n }
      | none =>
        let expected := c.expectedIn state
        let mut decisions : Array (Nat × Nat) := #[]
        for token in tokens do
          if expected.testBit token then
            let complete := c.completeFor state token
            match decided[(token, complete)]? with
            | some n => decisions := decisions.push (token, n)
            | none =>
              let (numbers, n) :=
                l.numbers.number (m.decide (c.kernelAt state) token complete (c.move? state token).isSome)
              l := { l with numbers }
              decided := decided.insert (token, complete) n
              decisions := decisions.push (token, n)
          else decisions := decisions.push (token, 0)
        known := known.insert (sets state) l.all.size
        l := { l with of := l.of.setIfInBounds state l.all.size, all := l.all.push ⟨expected, decisions⟩ }
    return l

def Likenesses.conflict (l : Likenesses) (c : Confusion) (a b : Nat) : Bool :=
  let i := (l.of[a]?).getD 0
  let j := (l.of[b]?).getD 0
  i ≠ j &&
    match l.all[i]?, l.all[j]? with
    | some x, some y => x.conflicts c y
    | _, _ => false

/-- A partition of the states into groups. -/
structure Partition where
  groups : Array (Array Nat)
  groupOf : Array Nat

namespace Partition

def ofGroups (states : Nat) (groups : Array (Array Nat)) : Partition := Id.run do
  let mut groupOf : Array Nat := Array.replicate states 0
  for h : g in [0:groups.size] do
    for s in groups[g] do
      groupOf := groupOf.setIfInBounds s g
  return ⟨groups, groupOf⟩

def of (p : Partition) (state : Nat) : Nat := (p.groupOf[state]?).getD 0

/-- Splits one group: a state that must stay apart from one that is kept before it goes into a new
group with all others of the kind. -/
def splitGroup (apart : Partition → Nat → Nat → Bool) (p : Partition) (g : Nat) : Partition := Id.run do
  let mut kept : Array Nat := #[]
  let mut others : Array Nat := #[]
  for s in (p.groups[g]?).getD #[] do
    if kept.any fun k => apart p k s then others := others.push s else kept := kept.push s
  if others.isEmpty then return p
  return {
    groups := (p.groups.setIfInBounds g kept).push others
    groupOf := others.foldl (fun of s => of.setIfInBounds s p.groups.size) p.groupOf }

/-- Splits all groups, also those that come into being on the way. -/
def split (apart : Partition → Nat → Nat → Bool) (p : Partition) : Partition := Id.run do
  let mut p := p
  for g in [0:p.groupOf.size] do
    if g ≥ p.groups.size then break
    p := p.splitGroup apart g
  return p

end Partition

/-- Whether some symbol is read in two states and leads to states of different groups. -/
def Canonical.leadApart (c : Canonical) (reads : Nat → Nat → Bool) (p : Partition) (a b : Nat) : Bool :=
  ((c.movesOf a).zip (c.movesOf b)).any fun ((symbol, s), (_, t)) =>
    p.of s ≠ p.of t && reads a symbol && reads b symbol

/-- The groups of states that count as one. -/
def Canonical.merged (c : Canonical) (m : Machine) (confusion : Confusion) : Partition := Id.run do
  let positions := c.byPositions
  let likenesses := positions.foldl (fun l states => if states.size > 1 then c.noteLikenesses m l states else l)
    ({ numbers := { makers := makersOf m.items }, of := Array.replicate c.kernels.size 0 } : Likenesses)
  let readsToken (state token : Nat) : Bool := token < m.tokenCount
    && ((c.completeFor state token).isEmpty || (c.decisionFor m state token).reads)
  let reads (state symbol : Nat) : Bool := symbol ≥ m.tokenCount || readsToken state symbol
  let mut p := (Partition.ofGroups c.kernels.size positions).split fun p a b =>
    likenesses.conflict confusion a b || c.leadApart readsToken p a b
  for _ in [0:c.kernels.size] do
    let next := p.split (c.leadApart reads)
    if next.groups.size = p.groups.size then break
    p := next
  return p

end LessonService.Grammar
