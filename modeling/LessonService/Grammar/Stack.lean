import LessonService.Grammar.Subtree

namespace LessonService.Grammar

/-- A step of the stack: the place below and what was read from there. No tree marks an error. -/
structure Link where
  place : Nat
  subtree : Option Subtree

structure Place where
  state : Nat
  position : Nat
  links : Array Link
  cost : Nat
  nodeCount : Nat
  weight : Int

/-- A state below the top to which a reading could return. -/
structure Refuge where
  position : Nat
  depth : Nat
  state : Nat

inductive Status where
  | active
  | paused (lookahead : Subtree)
  | halted

structure Head where
  place : Nat
  nodeCountAtError : Nat
  status : Status
  refuges : Option (Array Refuge)

/-- The stacks of all readings that are followed at a time. Readings share what they have in common: a place links to
every place it can have been reached from, and a reading is a head that points at its top place. -/
structure Stack where
  places : Array Place
  heads : Array Head

namespace Stack

def empty (start : Nat) : Stack where
  places := #[⟨start, 0, #[], 0, 0, 0⟩]
  heads := #[⟨0, 0, .active, none⟩]

variable (s : Stack)

def count : Nat := s.heads.size

def head? (version : Nat) : Option Head := s.heads[version]?

def placeAt (n : Nat) : Place := (s.places[n]?).getD ⟨0, 0, #[], 0, 0, 0⟩

def top (version : Nat) : Place := s.placeAt ((s.head? version).elim 0 Head.place)

def state (version : Nat) : Nat := (s.top version).state

def position (version : Nat) : Nat := (s.top version).position

def weight (version : Nat) : Int := (s.top version).weight

def isActive (version : Nat) : Bool :=
  match s.head? version with
  | some ⟨_, _, .active, _⟩ => true
  | _ => false

def isPaused (version : Nat) : Bool :=
  match s.head? version with
  | some ⟨_, _, .paused _, _⟩ => true
  | _ => false

def isHalted (version : Nat) : Bool :=
  match s.head? version with
  | some ⟨_, _, .halted, _⟩ => true
  | _ => false

def haltedCount : Nat :=
  s.heads.foldl (fun n h => match h.status with | .halted => n + 1 | _ => n) 0

def nodeCountSinceError (version : Nat) : Nat :=
  (s.top version).nodeCount - (s.head? version).elim 0 Head.nodeCountAtError

/-- How much a reading costs; one that has just erred also pays for the error to come. -/
def cost (version : Nat) : Nat :=
  let p := s.top version
  let inError := p.state = 0 && ((p.links[0]?).bind Link.subtree).isNone
  p.cost + (if s.isPaused version || inError then costOfRecovery else 0)

def modifyHead (version : Nat) (f : Head → Head) : Stack := { s with heads := s.heads.modify version f }

/-- A reading that has gone back behind where it erred counts its nodes from where it stands. -/
def settle (version : Nat) : Stack :=
  let nodes := (s.top version).nodeCount
  s.modifyHead version fun h => { h with nodeCountAtError := min h.nodeCountAtError nodes }

def halt (version : Nat) : Stack := s.modifyHead version fun h => { h with status := .halted }

def pause (version : Nat) (lookahead : Subtree) : Stack :=
  let nodes := (s.top version).nodeCount
  s.modifyHead version fun h => { h with status := .paused lookahead, nodeCountAtError := nodes }

def remove (version : Nat) : Stack := { s with heads := s.heads.eraseIdxIfInBounds version }

def swap (a b : Nat) : Stack := { s with heads := s.heads.swapIfInBounds a b }

/-- Moves a reading to another's number; that other one ends. -/
def renumber (source target : Nat) : Stack :=
  if source = target then s
  else
    match s.head? source, s.head? target with
    | some a, some b =>
      let a := { a with refuges := a.refuges.or b.refuges }
      { s with heads := (s.heads.setIfInBounds target a).eraseIdxIfInBounds source }
    | _, _ => s

/-- Adds a copy of a reading. -/
def copy (version : Nat) : Stack × Nat :=
  match s.head? version with
  | some h => ({ s with heads := s.heads.push { h with refuges := none } }, s.heads.size)
  | none => (s, s.heads.size)

/-- Adds a reading that stands at a place, and has erred where another one did. -/
def addAt (reading place : Nat) : Stack × Nat :=
  let erred := (s.head? reading).elim 0 Head.nodeCountAtError
  ({ s with heads := s.heads.push ⟨place, erred, .active, none⟩ }, s.heads.size)

/-- Puts what was read on top. -/
def push (m : Machine) (version : Nat) (tree : Option Subtree) (state : Nat) : Stack :=
  match s.head? version with
  | none => s
  | some h =>
    let below := s.placeAt h.place
    let place : Place :=
      match tree with
      | none => { below with state, links := #[⟨h.place, none⟩] }
      | some t =>
        { state, links := #[⟨h.place, some t⟩]
          position := t.summary.stop
          cost := below.cost + t.summary.cost
          nodeCount := below.nodeCount + m.shownNodes t
          weight := below.weight + t.summary.weight }
    let h := { h with
      place := s.places.size
      nodeCountAtError := if tree.isNone then place.nodeCount else h.nodeCountAtError }
    { places := s.places.push place, heads := s.heads.setIfInBounds version h }

/-- At most so many ways lead down from a place. -/
def maxLinks : Nat := 8

/-- Lets a place be reached in one more way. Of two readings between the same places only the one
with more weight is kept; where two readings of the same text start at places that could be one,
the places become one. -/
def addLink (m : Machine) : Nat → Stack → Nat → Link → Stack
  | 0, s, _, _ => s
  | fuel + 1, s, n, link => Id.run do
    if link.place = n then return s
    let p := s.placeAt n
    let below := s.placeAt link.place
    let linkWeight := (link.subtree.map fun t => t.summary.weight).getD 0
    for h : i in [0:p.links.size] do
      let old := p.links[i]
      let same := match old.subtree, link.subtree with
        | some a, some b => a.isEquivalent b
        | none, none => true
        | _, _ => false
      if same then
        if old.place = link.place then
          let oldWeight := (old.subtree.map fun t => t.summary.weight).getD 0
          if linkWeight > oldWeight then
            return { s with places := s.places.modify n fun p =>
              { p with links := p.links.setIfInBounds i link, weight := below.weight + linkWeight } }
          return s
        let oldBelow := s.placeAt old.place
        if oldBelow.state = below.state && oldBelow.position = below.position && oldBelow.cost = below.cost then
          let mut s := s
          for l in below.links do
            s := addLink m fuel s old.place l
          let weight := below.weight + linkWeight
          return { s with places := s.places.modify n fun p => { p with weight := max p.weight weight } }
    if p.links.size ≥ maxLinks then return s
    let nodes := below.nodeCount + (link.subtree.map m.shownNodes).getD 0
    return { s with places := s.places.modify n fun p =>
      { p with
        links := p.links.push link
        nodeCount := max p.nodeCount nodes
        weight := max p.weight (below.weight + linkWeight) } }

def canMerge (a b : Nat) : Bool :=
  let p := s.top a
  let q := s.top b
  s.isActive a && s.isActive b && p.state = q.state && p.position = q.position && p.cost = q.cost

/-- Joins the second reading to the first if they stand in the same state at the same place. -/
def merge (m : Machine) (a b : Nat) : Stack × Bool := Id.run do
  unless s.canMerge a b do return (s, false)
  let target := (s.head? a).elim 0 Head.place
  let mut out := s
  for l in (s.top b).links do
    out := addLink m s.places.size out target l
  let p := out.placeAt target
  if p.state = 0 then
    out := out.modifyHead a fun h => { h with nodeCountAtError := p.nodeCount }
  return (out.remove b, true)

/-- A way down from a top: where it has come to and what lies above. -/
structure Descent where
  place : Nat
  subtrees : List Subtree
  count : Nat

/-- What was popped, and the reading that stands below it. -/
structure Slice where
  version : Nat
  subtrees : List Subtree

/-- What to do at a place on the way down. -/
structure Verdict where
  pop : Bool
  stop : Bool

def maxDescents : Nat := 64

/-- Files what a way down has popped, next to what else was popped down to the same place. -/
def addSlice (reading : Nat) (slices : Array Slice) (d : Descent) : Stack × Array Slice :=
  let found := slices.findIdx? fun x =>
    (s.head? x.version).elim false fun h => h.place = d.place
  match found with
  | some _ =>
    let i := slices.size - 1 - ((slices.reverse.findIdx? fun x =>
      (s.head? x.version).elim false fun h => h.place = d.place).getD 0)
    let version := ((slices[i]?).map Slice.version).getD 0
    (s, slices.insertIdxIfInBounds (i + 1) ⟨version, d.subtrees⟩)
  | none =>
    let (s, version) := s.addAt reading d.place
    (s, slices.push ⟨version, d.subtrees⟩)

/-- The ways on from a place, the first link last. -/
def stepDown (d : Descent) : Option Descent × Array Descent :=
  let p := s.placeAt d.place
  let follow (l : Link) : Descent :=
    match l.subtree with
    | some t => ⟨l.place, t :: d.subtrees, if t.summary.extra then d.count else d.count + 1⟩
    | none => ⟨l.place, d.subtrees, d.count + 1⟩
  ((p.links[0]?).map follow, (p.links.extract 1 p.links.size).map follow)

/-- Goes down all ways at once and pops where the decision says so. -/
def descend {σ : Type} (reading : Nat) (decide : σ → Stack → Descent → σ × Verdict) :
    Nat → σ → Stack → Array Descent → Array Slice → Stack × Array Slice × σ
  | 0, memo, s, _, slices => (s, slices, memo)
  | fuel + 1, memo, s, ways, slices => Id.run do
    if ways.isEmpty then return (s, slices, memo)
    let mut s := s
    let mut memo := memo
    let mut slices := slices
    let mut kept : Array Descent := #[]
    let mut fresh : Array Descent := #[]
    let mut live := ways.size
    for d in ways do
      let (memo', verdict) := decide memo s d
      memo := memo'
      if verdict.pop then
        let (s', slices') := s.addSlice reading slices d
        s := s'
        slices := slices'
      let (first, others) := s.stepDown d
      match first with
      | some d' =>
        if verdict.stop then live := live - 1
        else
          for o in others do
            if live < maxDescents then
              fresh := fresh.push o
              live := live + 1
          kept := kept.push d'
      | none => live := live - 1
    return descend reading decide fuel memo s (kept ++ fresh) slices

def startOf (version : Nat) : Array Descent := #[⟨(s.head? version).elim 0 Head.place, [], 0⟩]

/-- Pops so many symbols, in every way that leads down. -/
def popCount (version count : Nat) : Stack × Array Slice :=
  let (s, slices, _) := descend version
    (fun (_ : Unit) _ d => ((), ⟨d.count = count, d.count = count⟩))
    (s.places.size + 2) () s (s.startOf version) #[]
  (s, slices)

/-- Pops everything. -/
def popAll (version : Nat) : Stack × Array Slice :=
  let (s, slices, _) := descend version
    (fun (_ : Unit) s d => ((), ⟨(s.placeAt d.place).links.isEmpty, false⟩))
    (s.places.size + 2) () s (s.startOf version) #[]
  (s, slices)

/-- Pops an error from the top, if there is one. -/
def popError (version : Nat) : Stack × List Subtree :=
  let hasError := (s.top version).links.any fun l => l.subtree.elim false Subtree.isError
  if hasError then
    let (s, slices, _) := descend version
      (fun (found : Bool) _ d =>
        match d.subtrees.getLast? with
        | some t => if !found && t.isError then (true, ⟨true, true⟩) else (found, ⟨false, true⟩)
        | none => (found, ⟨false, false⟩))
      (s.places.size + 2) false s (s.startOf version) #[]
    match slices[0]? with
    | some slice => (s.renumber slice.version version, slice.subtrees)
    | none => (s, [])
  else (s, [])

/-- Notes a refuge unless one in the same state was noted since the way down was last less deep. -/
def addRefuge (known : Array Refuge) (r : Refuge) : Array Refuge :=
  let recent := known.toList.reverse.takeWhile fun k => r.depth ≤ k.depth
  if recent.any fun k => k.depth = r.depth && k.state = r.state then known else known.push r

/-- Notes the states below the top, down to a depth, from the top down. -/
def noteRefuges (version maxDepth : Nat) : Stack :=
  let (s, _, refuges) := descend version
    (fun (known : Array Refuge) s d =>
      if d.count > maxDepth then (known, ⟨false, true⟩)
      else
        let p := s.placeAt d.place
        (addRefuge known ⟨p.position, d.count, p.state⟩, ⟨false, false⟩))
    (s.places.size + 2) #[] s (s.startOf version) #[]
  s.modifyHead version fun h => { h with refuges := some refuges }

/-- Whether anything has been read since the last error. -/
def hasAdvanced (nodeCountAtError : Nat) : Nat → Nat → Bool
  | 0, _ => false
  | fuel + 1, n =>
    let p := s.placeAt n
    let link := (p.links[0]?).getD ⟨0, none⟩
    match link.subtree with
    | some t =>
      if t.summary.stop > t.summary.outset then true
      else if p.nodeCount > nodeCountAtError && t.summary.cost = 0 then
        hasAdvanced nodeCountAtError fuel link.place
      else false
    | none => false

def hasAdvancedSinceError (version : Nat) : Bool :=
  match s.head? version with
  | some h => (s.placeAt h.place).cost = 0 || s.hasAdvanced h.nodeCountAtError s.places.size h.place
  | none => true

end Stack

end LessonService.Grammar
