import LessonService.Grammar.Automaton
import LessonService.Grammar.Stack

namespace LessonService.Grammar

/-- A token in the text. -/
structure Lexed where
  token : Nat
  start : Nat
  stop : Nat

/-- How tokens are found in a text, given the set of tokens that are expected. -/
structure Lexer where
  /-- Asks the scanner of the language itself first. -/
  scan : (expected position : Nat) → Option Lexed
  read : (expected position : Nat) → Option Lexed
  /-- The keyword that is spelled between two positions. -/
  keyword : (start stop : Nat) → Option Nat
  /-- Where the space that starts at a position ends. -/
  skipSpace : Nat → Nat
  /-- Where the start of a spelling breaks off that no token has. -/
  breakOff : Nat → Nat
  word : Nat
  /-- The tokens that are looked for after an error. -/
  afterError : Nat

structure Task where
  automaton : Automaton
  layout : Layout
  lexer : Lexer

structure Parsing where
  stack : Stack
  finished : Option Subtree
  accepted : Nat

abbrev ParseM := StateM Parsing

/-- At most so many readings are followed, a few more for a moment. -/
def maxVersions : Nat := 6

def maxVersionOverflow : Nat := 4

def maxRefugeDepth : Nat := 16

/-- A reading that costs this much more, for what it has read since, is given up. -/
def maxCostDifference : Nat := 18 * costOfSkippedTree

/-- How a reading stands. -/
structure Standing where
  cost : Nat
  nodeCount : Nat
  weight : Int
  inError : Bool

inductive Comparison where
  | takeLeft
  | preferLeft
  | equal
  | preferRight
  | takeRight

def Standing.compare (a b : Standing) : Comparison :=
  if !a.inError && b.inError then
    if a.cost < b.cost then .takeLeft else .preferLeft
  else if a.inError && !b.inError then
    if b.cost < a.cost then .takeRight else .preferRight
  else if a.cost < b.cost then
    if (b.cost - a.cost) * (1 + a.nodeCount) > maxCostDifference then .takeLeft else .preferLeft
  else if b.cost < a.cost then
    if (a.cost - b.cost) * (1 + b.nodeCount) > maxCostDifference then .takeRight else .preferRight
  else if a.weight > b.weight then .preferLeft
  else if b.weight > a.weight then .preferRight
  else .equal

def Stack.standing (s : Stack) (version : Nat) : Standing where
  cost := s.cost version + (if s.isPaused version then costOfSkippedTree else 0)
  nodeCount := s.nodeCountSinceError version
  weight := s.weight version
  inError := s.isPaused version || s.state version = errorState

def onStack {α : Type} (f : Stack → Stack × α) : ParseM α :=
  modifyGet fun ⟨stack, finished, accepted⟩ =>
    let (stack, out) := f stack
    (out, ⟨stack, finished, accepted⟩)

def modifyStack (f : Stack → Stack) : ParseM Unit :=
  modify fun ⟨stack, finished, accepted⟩ => ⟨f stack, finished, accepted⟩

namespace Task

variable (t : Task)

def machine : Machine := t.automaton.machine

def leaf (symbol outset start stop : Nat) (keyword : Bool) : Subtree :=
  .mk { symbol, outset, start, stop, keyword, extra := symbol = 0 } #[] []

def node (position symbol : Nat) (names : Array Naming) (children : List Subtree) : Subtree :=
  t.machine.node t.layout position symbol names children

/-- Looks for a token after text that fits nowhere, and takes that text as an error. -/
def skipUnknown (outset : Nat) : Nat → (start stop position : Nat) → Subtree
  | 0, start, stop, _ => leaf errorSymbol outset start stop false
  | fuel + 1, start, stop, position =>
    match (t.lexer.scan t.lexer.afterError position).orElse fun _ => t.lexer.read t.lexer.afterError position with
    | some _ => leaf errorSymbol outset start stop false
    | none =>
      let position := t.lexer.breakOff (t.lexer.skipSpace position)
      let position := if position = stop then min (position + 1) t.layout.size else position
      skipUnknown outset fuel start position position

/-- The next token for a state. Empty tokens of the scanner do not count right after an error. -/
def lex (version state position : Nat) : ParseM Subtree := do
  let s := (← get).stack
  let expected := t.automaton.expectedIn state
  let inError := state = errorState
  let expected := if inError then t.lexer.afterError else expected
  let accept (inError : Bool) (l : Lexed) : ParseM Bool := do
    if l.stop > position then return true
    let next := t.automaton.afterToken state l.token
    return !(inError || !s.hasAdvancedSinceError version || next = some state)
  let attempt (inError : Bool) (expected : Nat) : ParseM (Option Subtree) := do
    if let some l := t.lexer.scan expected position then
      if ← accept inError l then return some (leaf l.token position l.start l.stop false)
    match t.lexer.read expected position with
    | none => return none
    | some l =>
      if l.token = t.lexer.word then
        if let some k := t.lexer.keyword l.start l.stop then
          if state = errorState || (t.automaton.expectedIn state).testBit k then return some (leaf k position l.start l.stop true)
      return some (leaf l.token position l.start l.stop false)
  if let some tree ← attempt inError expected then return tree
  unless inError do
    if let some tree ← attempt true t.lexer.afterError then return tree
  let start := t.lexer.skipSpace position
  let stop := max (t.lexer.breakOff start) (min (start + 1) t.layout.size)
  return t.skipUnknown position (t.layout.size + 2) start stop stop

def actionsFor (state symbol : Nat) : Array Action :=
  if isErrorLike symbol then #[] else t.automaton.actionsFor state symbol

def push (version : Nat) (tree : Option Subtree) (state : Nat) : ParseM Unit :=
  modifyStack fun s => s.push t.machine version tree state

def merge (a b : Nat) : ParseM Bool := onStack fun s => s.merge t.machine a b

/-- Of the ways to the same place, the children of the one that is preferred. -/
def chooseChildren (position : Nat) (r : Reduction) (best : List Subtree) : List Stack.Slice → List Subtree
  | [] => best
  | slice :: rest =>
    let mine := t.node position r.construct r.names (splitTrailingExtras best).1
    let other := t.node position r.construct #[] (splitTrailingExtras slice.subtrees).1
    chooseChildren position r (if mine.yieldsTo other then slice.subtrees else best) rest

/-- Makes a construct of the top of a reading, in each way the readings below have come together. -/
def reduce (version : Nat) (r : Reduction) : ParseM (Option Nat) := do
  let before := (← get).stack.count
  let position := (← get).stack.position version
  let slices ← onStack fun s => s.popCount version r.count
  let halted := (← get).stack.haltedCount
  let mut removed := 0
  let mut rest := slices.toList
  for _ in [0:slices.size] do
    match rest with
    | [] => break
    | slice :: more =>
      let same := more.takeWhile fun x => x.version = slice.version
      rest := more.dropWhile fun x => x.version = slice.version
      let target := slice.version - removed
      if target > maxVersions + maxVersionOverflow + halted then
        modifyStack (·.remove target)
        removed := removed + 1
      else
        let chosen := t.chooseChildren position r slice.subtrees same
        let (children, extras) := splitTrailingExtras chosen
        let parent := t.node position r.construct r.names children
        let parent := parent.withSummary fun s => { s with weight := s.weight + r.weight }
        let state := (← get).stack.state target
        let next := t.automaton.afterConstruct state r.construct
        t.push target (some parent) next
        for e in extras do
          t.push target (some e) next
        for j in [0:target] do
          if j ≠ version then
            if ← t.merge j target then
              removed := removed + 1
              break
  return if (← get).stack.count > before then some before else none

/-- Makes the tree of a reading that has come to the end. -/
def accept (version : Nat) (lookahead : Subtree) : ParseM Unit := do
  t.push version (some lookahead) startState
  let slices ← onStack fun s => s.popAll version
  for slice in slices do
    let after := (slice.subtrees.reverse.takeWhile fun c => c.summary.extra).reverse
    let upTo := slice.subtrees.take (slice.subtrees.length - after.length)
    if let some top := upTo.getLast? then
      let children := upTo.dropLast ++ top.children ++ after
      let root := t.node 0 top.summary.symbol top.names children
      modify fun p =>
        { p with
          accepted := p.accepted + 1
          finished := match p.finished with
            | none => some root
            | some old => if old.yieldsTo root then some root else some old }
  if let some slice := slices[0]? then
    modifyStack (·.remove slice.version)
  modifyStack (·.halt version)

/-- Whether some reading is clearly better than one that would cost so much. -/
def betterExists (version : Nat) (cost : Nat) : ParseM Bool := do
  let p ← get
  if let some tree := p.finished then
    if tree.summary.cost ≤ cost then return true
  modifyStack fun s => (List.range s.count).foldl Stack.settle s
  let s := (← get).stack
  let mine : Standing := ⟨cost, s.nodeCountSinceError version, s.weight version, false⟩
  for i in [0:s.count] do
    if i ≠ version && s.isActive i && s.position i ≥ s.position version then
      match mine.compare (s.standing i) with
      | .takeRight => return true
      | .preferRight => if s.canMerge i version then return true
      | _ => pure ()
  return false

/-- Goes back to a state below; what lies above becomes an error. -/
def returnTo (version depth goal : Nat) : ParseM Bool := do
  let position := (← get).stack.position version
  let slices ← onStack fun s => s.popCount version depth
  let mut previous : Option Nat := none
  for slice in slices do
    if previous ≠ some slice.version then
      if (← get).stack.state slice.version ≠ goal then
        modifyStack (·.halt slice.version)
      else
        let errors ← onStack fun s => s.popError slice.version
        let inner := (errors.head?.map Subtree.children).getD []
        let (children, extras) := splitTrailingExtras (inner ++ slice.subtrees)
        unless children.isEmpty do
          let error := (t.node position errorSymbol #[] children).withSummary fun s => { s with extra := true }
          t.push slice.version (some error) goal
        for e in extras do
          t.push slice.version (some e) goal
        previous := some slice.version
  return previous.isSome

/-- Drops the readings from a number on that are no longer active. -/
def dropInactive (first : Nat) : ParseM Unit :=
  modifyStack fun s =>
    { s with heads := s.heads.extract 0 first ++
        (s.heads.extract first s.heads.size).filter fun h => match h.status with | .active => true | _ => false }

/-- Reads on after an error: back to a state that has a use for the token, and also over it. -/
def recover (version : Nat) (lookahead : Subtree) : ParseM Unit := do
  modifyStack (·.settle version)
  let s := (← get).stack
  let before := s.count
  let position := s.position version
  let sinceError := s.nodeCountSinceError version
  let cost := s.cost version
  let symbol := lookahead.summary.symbol
  let mut recovered := false
  if let some refuges := (s.head? version).bind Head.refuges then
    unless lookahead.isError do
      for r in refuges do
        if r.state ≠ errorState && r.position ≠ position then
          let s := (← get).stack
          let redundant := (List.range before).any fun j => s.state j = r.state && s.position j = position
          unless redundant do
            let newCost := cost + r.depth * costOfSkippedTree
              + t.layout.bytesBetween r.position position * costOfSkippedCharacter
              + t.layout.rowsBetween r.position position * costOfSkippedLine
            if ← betterExists version newCost then break
            unless (t.actionsFor r.state symbol).isEmpty do
              if ← t.returnTo version (if sinceError > 0 then r.depth + 1 else r.depth) r.state then
                recovered := true
                break
  dropInactive before
  if recovered && (← get).stack.count > maxVersions then
    modifyStack (·.halt version)
    return
  if symbol = 0 then
    let parent := t.node position errorSymbol #[] []
    t.push version (some parent) startState
    t.accept version lookahead
    return
  let newCost := cost + costOfSkippedTree
    + t.layout.bytesBetween lookahead.summary.outset lookahead.summary.stop * costOfSkippedCharacter
    + t.layout.rowsBetween lookahead.summary.outset lookahead.summary.stop * costOfSkippedLine
  if ← betterExists version newCost then
    modifyStack (·.halt version)
    return
  let lookahead :=
    if !isErrorLike symbol && t.machine.extras.testBit symbol then
      lookahead.withSummary fun s => { s with extra := true }
    else lookahead
  let mut run := t.node position errorRunSymbol #[] [lookahead]
  if sinceError > 0 then
    let slices ← onStack fun s => s.popCount version 1
    if let some slice := slices[0]? then
      if slices.size > 1 then
        modifyStack fun s => { s with heads := s.heads.extract 0 (slice.version + 1) }
      modifyStack (·.renumber slice.version version)
      run := t.node position errorRunSymbol #[] (slice.subtrees ++ [run])
  t.push version (some run) errorState

/-- Makes every construct that could be complete, whatever comes next or for a given token; says
whether some reading can then read that token. -/
def reduceAll (starting : Nat) (lookahead : Option Nat) : ParseM Bool := do
  let before := (← get).stack.count
  let mut canShift := false
  let mut version := starting
  let mut rounds := 0
  for _ in [0:1000] do
    let count := (← get).stack.count
    if version ≥ count then break
    let mut merged := false
    for j in [before:version] do
      if ← t.merge j version then
        merged := true
        break
    unless merged do
      let state := (← get).stack.state version
      let mut shifts := false
      let mut reductions : Array Reduction := #[]
      let symbols ← match lookahead with
        | some s => pure [s]
        | none =>
          let expected := t.automaton.expectedIn state
          pure ((List.range t.machine.tokenCount).filter fun s => s > 0 && (state = errorState || expected.testBit s))
      for symbol in symbols do
        for action in t.actionsFor state symbol do
          match action with
          | .shift _ repeated => unless repeated do shifts := true
          | .recover => shifts := true
          | .reduce r =>
            if r.count > 0 && !(reductions.any fun x => x.construct = r.construct && x.count = r.count) then
              reductions := reductions.push r
          | _ => pure ()
      let mut last : Option Nat := none
      for r in reductions do
        last ← t.reduce version r
      let mut again := false
      if shifts then canShift := true
      else
        match last with
        | some n =>
          if rounds < maxVersions then
            modifyStack (·.renumber n version)
            again := true
          else if lookahead.isSome then modifyStack (·.remove version)
        | none => if lookahead.isSome then modifyStack (·.remove version)
      unless again do
        version := if version = starting then count else version + 1
    rounds := rounds + 1
  return canShift

/-- Puts in a token that is missing, if the next token fits after it. -/
def insertMissing (version : Nat) (lookahead : Subtree) : ParseM Bool := do
  let state := (← get).stack.state version
  let position := (← get).stack.position version
  for missing in [1:t.machine.tokenCount] do
    match t.automaton.afterToken state missing with
    | none => pure ()
    | some next =>
      if next ≠ errorState && next ≠ state then
        let actions := t.actionsFor next lookahead.summary.symbol
        if let some (Action.reduce _) := actions[0]? then
          let fresh ← onStack fun s => s.copy version
          let tree := (leaf missing position position position false).withSummary fun s =>
            { s with missing := true, cost := costOfMissing + costOfRecovery }
          t.push fresh (some tree) next
          let wanted := if lookahead.summary.symbol = 0 then none else some lookahead.summary.symbol
          if ← t.reduceAll fresh wanted then return true
  return false

/-- Starts to recover a reading that cannot go on. -/
def handleError (version : Nat) (lookahead : Subtree) : ParseM Unit := do
  let before := (← get).stack.count
  let _ ← t.reduceAll version none
  let count := (← get).stack.count
  let mut inserted := false
  let mut v := version
  for _ in [0:count + 1] do
    if v ≥ count then break
    unless inserted do
      inserted ← t.insertMissing v lookahead
    t.push v none errorState
    v := if v = version then before else v + 1
  for _ in [before:count] do
    let _ ← t.merge version before
  modifyStack (·.noteRefuges version maxRefugeDepth)
  t.recover version lookahead

/-- Reads one token with one reading. -/
def advance (version : Nat) : ParseM Unit := do
  let mut state := (← get).stack.state version
  let mut lookahead ← t.lex version state ((← get).stack.position version)
  let mut actions := t.actionsFor state lookahead.summary.symbol
  for _ in [0:t.layout.size + 100000] do
    let mut reduced := false
    let mut last : Option Nat := none
    let mut done := false
    for action in actions do
      match action with
      | .shift next repeated =>
        unless repeated do
          t.push version (some (lookahead.withSummary fun s => { s with extra := false })) next
          done := true
          break
      | .shiftExtra =>
        t.push version (some (lookahead.withSummary fun s => { s with extra := true })) state
        done := true
        break
      | .reduce r =>
        reduced := true
        if let some n ← t.reduce version r then last := some n
      | .accept =>
        t.accept version lookahead
        done := true
        break
      | .recover =>
        t.recover version lookahead
        done := true
        break
    if done then return
    match last with
    | some n =>
      modifyStack (·.renumber n version)
      state := (← get).stack.state version
      actions := t.actionsFor state lookahead.summary.symbol
    | none =>
      if reduced then
        modifyStack (·.halt version)
        return
      let asWord := if lookahead.summary.keyword && lookahead.summary.symbol ≠ t.lexer.word
        then t.actionsFor state t.lexer.word else #[]
      if asWord.isEmpty then
        if state = errorState then t.recover version lookahead
        else modifyStack (·.pause version lookahead)
        return
      lookahead := lookahead.withSummary fun s => { s with symbol := t.lexer.word }
      actions := asWord

/-- Orders the readings from the best on, joins those that have met, drops what is clearly worse,
and starts to recover one if all have erred. Gives the least cost of a reading that has not. -/
def condense : ParseM (Option Nat) := do
  let mut least : Option Nat := none
  let mut i := 0
  for _ in [0:10000] do
    if i ≥ (← get).stack.count then break
    if (← get).stack.isHalted i then
      modifyStack (·.remove i)
    else
      modifyStack (·.settle i)
      let mine := (← get).stack.standing i
      if !mine.inError && least.elim true (mine.cost < ·) then least := some mine.cost
      let mut j := 0
      let mut current := i
      for _ in [0:i] do
        if j ≥ current then break
        match ((← get).stack.standing j).compare mine with
        | .takeLeft =>
          modifyStack (·.remove current)
          current := current - 1
          break
        | .preferLeft | .equal =>
          if ← t.merge j current then
            current := current - 1
            break
          j := j + 1
        | .preferRight =>
          if ← t.merge j current then
            current := current - 1
            break
          modifyStack (·.swap current j)
          j := j + 1
        | .takeRight =>
          modifyStack (·.remove j)
          current := current - 1
      i := current + 1
  if (← get).stack.count > maxVersions then
    modifyStack fun s => { s with heads := s.heads.extract 0 maxVersions }
  let mut running := false
  let mut k := 0
  for _ in [0:(← get).stack.count] do
    match (← get).stack.head? k with
    | some ⟨_, _, .paused lookahead, _⟩ =>
      if !running && (← get).accepted < maxVersions then
        least := some ((← get).stack.cost k)
        modifyStack (·.modifyHead k fun h => { h with status := .active })
        t.handleError k lookahead
        running := true
        k := k + 1
      else modifyStack (·.remove k)
    | some _ =>
      running := true
      k := k + 1
    | none => pure ()
  return least

/-- Advances every reading up to the furthest one. -/
def round (furthest : Nat) : ParseM Nat := do
  let mut furthest := furthest
  let mut version := 0
  for _ in [0:1000] do
    if version ≥ (← get).stack.count then break
    for _ in [0:t.layout.size + 1000] do
      unless (← get).stack.isActive version do break
      t.advance version
      let position := (← get).stack.position version
      if position > furthest || (version > 0 && position = furthest) then
        furthest := position
        break
    version := version + 1
  return furthest

def run : ParseM Unit := do
  let mut furthest := 0
  for _ in [0:4 * t.layout.size + 1000] do
    furthest ← t.round furthest
    if (← get).stack.count = 0 then break
    let least ← t.condense
    if let some tree := (← get).finished then
      if least.elim true (tree.summary.cost < ·) then break

/-- The tree of the whole text. -/
def parse : Option Subtree :=
  (t.run.run ⟨Stack.empty startState, none, 0⟩).2.finished

end Task

end LessonService.Grammar
