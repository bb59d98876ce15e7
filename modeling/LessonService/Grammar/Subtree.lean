import LessonService.Grammar.Machine

namespace LessonService.Grammar

/-- Where each character of a text lies: how many bytes and how many line ends come before it. -/
structure Layout where
  size : Nat
  bytes : Array Nat
  rows : Array Nat

namespace Layout

def bytesAt (l : Layout) (position : Nat) : Nat := (l.bytes[position]?).getD 0

def rowAt (l : Layout) (position : Nat) : Nat := (l.rows[position]?).getD 0

def bytesBetween (l : Layout) (a b : Nat) : Nat := l.bytesAt b - l.bytesAt a

def rowsBetween (l : Layout) (a b : Nat) : Nat := l.rowAt b - l.rowAt a

end Layout

/-- Not tokens or constructs: text that fits nowhere, and a run of it that may grow. -/
def errorSymbol : Nat := 65535

def errorRunSymbol : Nat := 65534

def isErrorLike (symbol : Nat) : Bool := symbol = errorSymbol || symbol = errorRunSymbol

/-- What readings are compared by: what the errors in a tree cost, how much weight the grammar gives it, and how many
nodes it shows. -/
structure Summary where
  symbol : Nat
  /-- Where the space before it starts. -/
  outset : Nat
  start : Nat
  stop : Nat
  cost : Nat := 0
  weight : Int := 0
  visibleChildren : Nat := 0
  visibleDescendants : Nat := 0
  extra : Bool := false
  missing : Bool := false
  /-- How many stretches in it fit no token. -/
  unknown : Nat := 0
  /-- A keyword, also where it serves as the word it is spelled like. -/
  keyword : Bool := false

/-- A tree as the parser builds it, hidden constructs included. -/
inductive Subtree where
  | mk (summary : Summary) (names : Array Naming) (children : List Subtree)

namespace Subtree

def summary : Subtree → Summary
  | mk s _ _ => s

def names : Subtree → Array Naming
  | mk _ n _ => n

def children : Subtree → List Subtree
  | mk _ _ cs => cs

def isError (t : Subtree) : Bool := t.summary.symbol = errorSymbol

def withSummary (f : Summary → Summary) : Subtree → Subtree
  | mk s n cs => mk (f s) n cs

end Subtree

/-- What an error costs: as such, for a token that is missing, and for what is skipped. -/
def costOfRecovery : Nat := 500

def costOfMissing : Nat := 110

def costOfSkippedTree : Nat := 100

def costOfSkippedCharacter : Nat := 1

def costOfSkippedLine : Nat := 30

namespace Machine

variable (m : Machine)

/-- Whether a symbol of itself makes a node. -/
def isVisible (symbol : Nat) : Bool :=
  if symbol = errorSymbol then true
  else if symbol = errorRunSymbol || symbol = 0 then false
  else if symbol < m.tokenCount then
    match m.language.vocabulary.tokens[symbol]? with
    | some t => !t.named || !isHiddenName t.name
    | none => false
  else
    let name := m.nameOfConstruct symbol
    !(m.isRepetition symbol) && !isHiddenName name && !m.language.grammar.groups.contains name

/-- Adds what a child contributes to the summary of its parent. An error pays for each node that it
shows, but not for a stretch that fits no token. -/
def countChild (shown : Nat → Bool) (names : Array Naming) (acc : Summary × Nat) (child : Subtree) : Summary × Nat :=
  let (s, index) := acc
  let c := child.summary
  let cost := if c.symbol = errorRunSymbol then s.cost else s.cost + c.cost
  let skipped :=
    if isErrorLike s.symbol && !c.extra && !(child.isError && child.children.isEmpty) then
      if shown c.symbol then costOfSkippedTree
      else costOfSkippedTree * c.visibleChildren
    else 0
  let renamed := !c.extra && c.symbol ≠ 0 && ((names[index]?).bind Naming.newName).isSome
  let visibleChildren :=
    if renamed || shown c.symbol then s.visibleChildren + 1
    else if child.children.isEmpty then s.visibleChildren
    else s.visibleChildren + c.visibleChildren
  let visibleDescendants := s.visibleDescendants + c.visibleDescendants
    + (if renamed || shown c.symbol then 1 else 0)
  let unknown := s.unknown + (if child.isError && child.children.isEmpty then 1 else c.unknown)
  ({ s with unknown, cost := cost + skipped, weight := s.weight + c.weight, visibleChildren, visibleDescendants },
    if c.extra then index else index + 1)

/-- A node of the given children, at `position` if there are none. An error pays for its length, and a
run that may still grow also for each stretch that fits no token. -/
def node (layout : Layout) (position : Nat) (symbol : Nat) (names : Array Naming) (children : List Subtree) : Subtree :=
  let outset := (children.head?.map fun c => c.summary.outset).getD position
  let start := (children.head?.map fun c => c.summary.start).getD position
  let stop := (children.getLast?.map fun c => c.summary.stop).getD position
  let (s, _) := children.foldl (countChild m.isVisible names) ({ symbol, outset, start, stop : Summary }, 0)
  let cost :=
    if isErrorLike symbol then
      s.cost + costOfRecovery + costOfSkippedCharacter * layout.bytesBetween start stop
        + costOfSkippedLine * layout.rowsBetween start stop
        + (if symbol = errorRunSymbol then costOfRecovery * s.unknown else 0)
    else s.cost
  .mk { s with cost } names children

/-- How many nodes a tree shows, itself included. -/
def shownNodes (t : Subtree) : Nat :=
  t.summary.visibleDescendants + (if m.isVisible t.summary.symbol then 1 else 0)
    + (if t.summary.symbol = errorRunSymbol then 1 else 0)

end Machine

mutual

/-- Orders trees by their symbols and the number of their children, from the top. -/
def Subtree.order : Subtree → Subtree → Ordering
  | .mk s _ cs, .mk t _ ds =>
    (compare s.symbol t.symbol).then ((compare cs.length ds.length).then (Subtree.orderAll cs ds))

def Subtree.orderAll : List Subtree → List Subtree → Ordering
  | c :: cs, d :: ds => (Subtree.order c d).then (Subtree.orderAll cs ds)
  | _, _ => .eq

end

/-- Whether the second reading of the same text is preferred to the first. -/
def Subtree.yieldsTo (a b : Subtree) : Bool :=
  if b.summary.cost < a.summary.cost then true
  else if a.summary.cost < b.summary.cost then false
  else if b.summary.weight > a.summary.weight then true
  else if a.summary.weight > b.summary.weight then false
  else if a.summary.cost > 0 then true
  else Subtree.order a b = .gt

/-- Two readings between which later text cannot tell. -/
def Subtree.isEquivalent (a b : Subtree) : Bool :=
  a.summary.symbol = b.summary.symbol
    && ((a.summary.cost > 0 && b.summary.cost > 0)
      || (a.summary.start = b.summary.start && a.summary.outset = b.summary.outset
        && a.summary.stop = b.summary.stop && a.children.length = b.children.length
        && a.summary.extra = b.summary.extra))

/-- Splits off the extra tokens that end a list. -/
def splitTrailingExtras (ts : List Subtree) : List Subtree × List Subtree :=
  let extras := (ts.reverse.takeWhile fun t => t.summary.extra).reverse
  (ts.take (ts.length - extras.length), extras)

end LessonService.Grammar
