import LessonService.Grammar.Canonical

namespace LessonService.Grammar

/-- The actions that are left for a token: the complete positions whose constructs are made, and
whether the token is read. -/
structure Decision where
  reductions : Array Nat := #[]
  reads : Bool := false
  /-- The token is read only to go on with a repetition. -/
  repeated : Bool := false

def Ranked.describes (r : Ranked) (p : Precedence) (constructs : List String) : Bool :=
  match r with
  | .name n => p = .named n
  | .rule n => constructs.contains n

/-- Walks down an ordering until both sides have been seen. An entry for both counts for the left. -/
def compareIn (p : Precedence) (ps : List String) (q : Precedence) (qs : List String) :
    List Ranked → Bool → Bool → Option Ordering
  | [], _, _ => none
  | r :: rest, sawLeft, sawRight =>
    if Ranked.describes r p ps then
      if sawRight then some .lt else compareIn p ps q qs rest true sawRight
    else if Ranked.describes r q qs then
      if sawLeft then some .gt else compareIn p ps q qs rest sawLeft true
    else compareIn p ps q qs rest sawLeft sawRight

def compareNamed (p : Precedence) (ps : List String) (q : Precedence) (qs : List String) :
    List (List Ranked) → Ordering
  | [] => .eq
  | o :: rest => (compareIn p ps q qs o false false).getD (compareNamed p ps q qs rest)

/-- The complete positions that compete for a token, with what decides between them and reading on. -/
structure Contest where
  reductions : Array Nat := #[]
  strength : Precedence := .plain
  constructs : List Nat := []
  hasLeft : Bool := false
  hasRight : Bool := false
  hasNeither : Bool := false

def Contest.enter (c : Contest) (position : Nat) (item : Item) : Contest :=
  { c with
    reductions := c.reductions.push position
    strength := item.strength
    constructs := if c.constructs.contains item.construct then c.constructs else c.constructs ++ [item.construct]
    hasLeft := c.hasLeft || item.side = some .left
    hasRight := c.hasRight || item.side = some .right
    hasNeither := c.hasNeither || item.side = none }

namespace Machine

variable (m : Machine)

/-- Whether a construct binds tighter than another: numbers among themselves and against a plain
rule, everything else by the first ordering that lists both. -/
def comparePrecedence (p : Precedence) (ps : List Nat) (q : Precedence) (qs : List Nat) : Ordering :=
  let named := fun () => compareNamed p (ps.map m.nameOfConstruct) q (qs.map m.nameOfConstruct)
    m.language.grammar.orderings
  match p, q with
  | .level a, .level b => if a = 0 && b = 0 then named () else compare a b
  | .level a, .plain => if a = 0 then named () else compare a 0
  | .plain, .level b => if b = 0 then named () else compare 0 b
  | _, _ => named ()

def consider (c : Contest) (position : Nat) (item : Item) : Contest :=
  if c.reductions.isEmpty then c.enter position item
  else
    match m.comparePrecedence item.strength [item.construct] c.strength c.constructs with
    | .gt => Contest.enter {} position item
    | .eq => c.enter position item
    | .lt => c

/-- Shorter constructs come first, then those whose rules come first. -/
def reductionBefore (a b : Nat × Item) : Bool :=
  if a.2.length ≠ b.2.length then a.2.length < b.2.length
  else if a.2.construct ≠ b.2.construct then a.2.construct < b.2.construct
  else a.2.weight < b.2.weight

/-- The positions that would read on with a token. -/
def shiftingFor (kernel : Kernel) (token : Nat) : Array Item :=
  kernel.filterMap fun (n, _) => do
    let item ← m.itemAt n
    let next ← item.next
    if item.consumed > 0 && (m.firstOf next).testBit token then some item else none

/-- Decides between reading on and the reductions that are left. -/
def settle (complete shifting : Array Item) (contest : Contest) : Decision :=
  let involved := shifting ++ complete
  let sameRepetition := (involved[0]?).elim false fun first =>
    m.isRepetition first.construct && involved.all fun i => i.construct = first.construct
  let reduce : Decision := ⟨contest.reductions, false, false⟩
  let read : Decision := ⟨#[], true, false⟩
  let both : Decision := ⟨contest.reductions, true, false⟩
  if sameRepetition then { both with repeated := true }
  else
    let orders := shifting.map fun i =>
      m.comparePrecedence i.strength [i.construct] contest.strength contest.constructs
    match orders.contains .gt, orders.contains .lt with
    | true, false => read
    | false, true => reduce
    | true, true => both
    | false, false =>
      match contest.hasLeft, contest.hasNeither, contest.hasRight with
      | true, false, false => reduce
      | false, false, true => read
      | _, _, _ => both

/-- What is done with a token that complete positions of a state allow and the state may read. -/
def decide (kernel : Kernel) (token : Nat) (complete : Array Nat) (reads : Bool) : Decision :=
  let candidates := (complete.filterMap fun n => (m.itemAt n).map fun i => (n, i)).insertionSort reductionBefore
  let contest := candidates.foldl (fun c (n, i) => m.consider c n i) {}
  if !reads then ⟨contest.reductions, false, false⟩
  else if contest.reductions.isEmpty then ⟨#[], true, false⟩
  else m.settle (candidates.map Prod.snd) (m.shiftingFor kernel token) contest

end Machine

/-- The complete positions of a state that allow a token. -/
def Canonical.completeFor (c : Canonical) (state token : Nat) : Array Nat :=
  (c.completeIn state).filterMap fun (n, set) => if (c.setAt set).testBit token then some n else none

/-- What a state does with a token. -/
def Canonical.decisionFor (c : Canonical) (m : Machine) (state token : Nat) : Decision :=
  m.decide (c.kernelAt state) token (c.completeFor state token) (c.move? state token).isSome

end LessonService.Grammar
