import LessonService.Proofs.Script.Fragments
import LessonService.Proofs.Script.Outcomes

namespace LessonService.Script

open Tsx

/-- The code of a node. -/
def script (cs : Characters) (n : Node) : Text := (emitTree cs n).fragment.code

/-- The named children of a node that are not comments. -/
def partsOf (n : Node) : List Node := n.namedChildren.filter fun c => c.kind ≠ "comment"

section IsWriting

variable {cs : Characters} {n : Node} {e : Emitted}

theorem IsWriting.child? (w : IsWriting cs n e) (field : String) :
    e.child? field = (n.child? field).map (emitTree cs) := by
  rw [Emitted.child?, w.children, List.find?_map, Node.child?]
  congr 2
  funext c
  rw [Function.comp_apply, emitTree_node]

theorem IsWriting.head?_parts (w : IsWriting cs n e) : e.parts.head? = (partsOf n).head?.map (emitTree cs) := by
  rw [w.parts, List.head?_map]
  rfl

end IsWriting

namespace Content

def start : Content → Nat
  | text start _ => start
  | child e => e.node.start

def stop : Content → Nat
  | text _ stop => stop
  | child e => e.node.stop

/-- Text between two nodes that stand side by side is passed over. -/
def isVisited : Content → Bool
  | text start stop => start < stop
  | child _ => true

def node? : Content → Option Node
  | text _ _ => none
  | child e => some e.node

/-- What a stretch of content shows: what is left of text, an expression that is not empty, or a nested element. -/
def argument? (cs : Characters) : Content → Option Text
  | text start stop =>
    let shown := MarkupText.clean (slice cs start stop)
    if shown.isEmpty then none else some (Quoted.encode false shown)
  | child e =>
    if e.node.kind = "jsx_expression" then (partsOf e.node).head?.map (script cs) else some (script cs e.node)

/-- Why a stretch of content cannot be written. -/
def failure? (cs : Characters) : Content → Option EmissionError
  | text start stop => referenceFailure (slice cs start stop)
  | child e =>
    if e.node.kind = "jsx_expression" then (partsOf e.node).head?.bind fun c => (emitTree cs c).fragment.failure
    else (emitTree cs e.node).fragment.failure

end Content

/-- Stretches that lead from one position to another, each starting where the one before it stops. -/
inductive Tiles : Nat → Nat → List Content → Prop
  | nil (position : Nat) : Tiles position position []
  | cons {c : Content} {rest : List Content} {stop : Nat} (spans : c.start ≤ c.stop) (tail : Tiles c.stop stop rest) :
    Tiles c.start stop (c :: rest)

section Tiles

variable {cs : Characters} {start middle stop : Nat} {content : List Content}

theorem slice_append (first : start ≤ middle) (second : middle ≤ stop) :
    slice cs start middle ++ slice cs middle stop = slice cs start stop := by
  rw [slice, slice, ← Array.toList_append, Array.extract_append_extract, Nat.min_eq_left first, Nat.max_eq_right second]
  rfl

theorem slice_self (cs : Characters) (position : Nat) : slice cs position position = [] := by
  simp [slice]

theorem slice_of_le (backward : stop ≤ start) : slice cs start stop = [] := by
  simp [slice, Nat.sub_eq_zero_of_le backward]

theorem Tiles.le (tiles : Tiles start stop content) : start ≤ stop := by
  induction tiles with
  | nil => exact Nat.le_refl _
  | cons spans _ ih => exact Nat.le_trans spans ih

/-- Together the stretches are all that stands between the positions. -/
theorem Tiles.flatMap_slice (tiles : Tiles start stop content) :
    (content.flatMap fun c => slice cs c.start c.stop) = slice cs start stop := by
  induction tiles with
  | nil => exact (slice_self cs _).symm
  | cons spans tail ih => rw [List.flatMap_cons, ih, slice_append spans tail.le]

/-- Text before stretches that start where it stops. -/
theorem Tiles.text_cons (bound : start ≤ middle) (tiles : Tiles middle stop (content.filter Content.isVisited)) :
    Tiles start stop ((Content.text start middle :: content).filter Content.isVisited) := by
  rcases Nat.lt_or_eq_of_le bound with inside | rfl
  · rw [List.filter_cons_of_pos (by simpa [Content.isVisited] using inside)]
    exact .cons (c := .text start middle) bound tiles
  · rw [List.filter_cons_of_neg (by simp [Content.isVisited])]
    exact tiles

/-- Nodes in the order of their spans and the text around them lead from the start of the content to its end. -/
theorem tiles_contentFrom {nodes : List Emitted} {position : Nat} (bound : position ≤ stop)
    (spans : ∀ e ∈ nodes, e.node.start ≤ e.node.stop)
    (ordered : nodes.Pairwise fun a b => a.node.stop ≤ b.node.start)
    (nested : ∀ e ∈ nodes, position ≤ e.node.start ∧ e.node.stop ≤ stop) :
    Tiles position stop ((contentFrom stop position nodes).filter Content.isVisited) := by
  induction nodes generalizing position with
  | nil => exact .text_cons bound (.nil stop)
  | cons e nodes ih =>
    rw [List.forall_mem_cons] at spans nested
    rw [List.pairwise_cons] at ordered
    have later : Tiles e.node.stop stop ((contentFrom stop e.node.stop nodes).filter Content.isVisited) :=
      ih nested.1.2 spans.2 ordered.2 fun f member => ⟨ordered.1 f member, (nested.2 f member).2⟩
    refine .text_cons nested.1.1 ?_
    rw [List.filter_cons_of_pos rfl]
    exact .cons (c := .child e) spans.1 later

theorem filterMap_node?_contentFrom (stop position : Nat) (nodes : List Emitted) :
    ((contentFrom stop position nodes).filter Content.isVisited).filterMap Content.node? = nodes.map Emitted.node := by
  induction nodes generalizing position with
  | nil =>
    rw [contentFrom, List.filter_cons]
    split <;> rfl
  | cons e nodes ih =>
    rw [contentFrom, List.filter_cons, List.filter_cons_of_pos rfl, List.map_cons, ← ih e.node.stop]
    split <;> rfl

end Tiles

/-- The named children of a node have spans, one after the other. -/
structure HasOrderedParts (n : Node) : Prop where
  spans : ∀ c ∈ n.namedChildren, c.start ≤ c.stop
  ordered : n.namedChildren.Pairwise fun a b => a.stop ≤ b.start

def openingTag? (n : Node) : Option Node := (n.child? "open_tag").or n.namedChildren.head?

/-- Where the content of an element stops: at its closing tag, if it has one. -/
def contentStop (n : Node) : Nat := (n.child? "close_tag").elim n.stop Node.start

/-- A child of a kind that is written on its own, and that stands between two positions. -/
def isContentNode (start stop : Nat) (c : Node) : Bool :=
  contentKinds.contains c.kind && c.start ≥ start && c.stop ≤ stop

/-- The stretches of an element's content in the order in which they are visited. -/
def visited (cs : Characters) (n opening : Node) : List Content :=
  (contentFrom (contentStop n) opening.stop
    (contentNodes opening.stop (contentStop n) (emitTree cs n))).filter Content.isVisited

section Element

variable {cs : Characters} {n opening : Node} {start stop : Nat} {e : Emitted} {c : Content}

theorem IsWriting.contentNodes (w : IsWriting cs n e) (start stop : Nat) :
    contentNodes start stop e = (n.namedChildren.filter (isContentNode start stop)).map (emitTree cs) := by
  rw [Script.contentNodes, w.namedChildren, List.filter_map]
  congr 1
  apply List.filter_congr
  intro c _
  rw [Function.comp_apply, (isWriting_emitTree cs c).kind, emitTree_node]
  rfl

/-- The nodes among the content are the children of the element. -/
theorem eq_emitTree_of_visited (member : Content.child e ∈ visited cs n opening) : e = emitTree cs e.node := by
  have among := mem_of_contentFrom (List.mem_filter.mp member).1
  rw [(isWriting_emitTree cs n).contentNodes] at among
  obtain ⟨c, -, rfl⟩ := List.mem_map.mp among
  rw [emitTree_node]

/-- The nodes of the content are the children that stand in it, in source order. -/
theorem filterMap_node?_visited (cs : Characters) (n opening : Node) : (visited cs n opening).filterMap Content.node?
    = n.namedChildren.filter (isContentNode opening.stop (contentStop n)) := by
  rw [visited, filterMap_node?_contentFrom, (isWriting_emitTree cs n).contentNodes, List.map_map]
  simp only [Function.comp_def, emitTree_node, List.map_id']

/-- The stretches lead from the opening tag to where the content stops. -/
theorem tiles_visited (cs : Characters) (opening : Node) (parts : HasOrderedParts n) :
    Tiles opening.stop (max opening.stop (contentStop n)) (visited cs n opening) := by
  have nodes (e : Emitted) (member : e ∈ contentNodes opening.stop (contentStop n) (emitTree cs n)) :
      ∃ c ∈ n.namedChildren, isContentNode opening.stop (contentStop n) c ∧ emitTree cs c = e := by
    rw [(isWriting_emitTree cs n).contentNodes] at member
    obtain ⟨c, filtered, same⟩ := List.mem_map.mp member
    exact ⟨c, (List.mem_filter.mp filtered).1, (List.mem_filter.mp filtered).2, same⟩
  have within (e : Emitted) (member : e ∈ contentNodes opening.stop (contentStop n) (emitTree cs n)) :
      e.node.start ≤ e.node.stop ∧ opening.stop ≤ e.node.start ∧ e.node.stop ≤ contentStop n := by
    obtain ⟨c, child, inside, rfl⟩ := nodes e member
    simp only [isContentNode, Bool.and_eq_true, decide_eq_true_eq] at inside
    rw [emitTree_node]
    exact ⟨parts.spans c child, inside.1.2, inside.2⟩
  by_cases forward : opening.stop ≤ contentStop n
  · rw [Nat.max_eq_right forward]
    refine tiles_contentFrom forward (fun e member => (within e member).1) ?_ fun e member => (within e member).2
    rw [(isWriting_emitTree cs n).contentNodes, List.pairwise_map]
    simp only [emitTree_node]
    exact parts.ordered.sublist List.filter_sublist
  · have none : contentNodes opening.stop (contentStop n) (emitTree cs n) = [] := by
      rw [List.eq_nil_iff_forall_not_mem]
      intro e member
      have := within e member
      omega
    have empty : (Content.text opening.stop (contentStop n)).isVisited = false := by
      simp only [Content.isVisited, decide_eq_false_iff_not]
      omega
    rw [Nat.max_eq_left (by omega), visited, none, contentFrom, List.filter_cons_of_neg (by simp [empty])]
    exact .nil _

theorem contentArgument?_of_not_isVisited (passed : c.isVisited = false) : contentArgument? cs c = none := by
  cases c with
  | text start stop =>
    simp only [Content.isVisited, decide_eq_false_iff_not, Nat.not_lt] at passed
    rw [contentArgument?, if_pos passed]
  | child e => cases passed

theorem contentArgument?_text (start stop : Nat) (filled : start < stop) :
    contentArgument? cs (.text start stop)
      = if (MarkupText.clean (slice cs start stop)).isEmpty && (referenceFailure (slice cs start stop)).isNone then none
        else some { code := Quoted.encode false (MarkupText.clean (slice cs start stop)),
                    failure := referenceFailure (slice cs start stop) } := by
  rw [contentArgument?, if_neg (Nat.not_le.mpr filled)]

theorem contentArgument?_child (n : Node) : contentArgument? cs (.child (emitTree cs n))
    = if n.kind = "jsx_expression" then (partsOf n).head?.map fun c => (emitTree cs c).fragment
      else some (emitTree cs n).fragment := by
  rw [contentArgument?, (isWriting_emitTree cs n).kind, (isWriting_emitTree cs n).head?_parts, Option.map_map]
  rfl

/-- A stretch of content fails if what is written for it does. -/
theorem failure_contentArgument? (member : c ∈ visited cs n opening) :
    (∀ f, contentArgument? cs c = some f → f.failure = none) ↔ c.failure? cs = none := by
  cases c with
  | text start stop =>
    have filled : start < stop := of_decide_eq_true (List.mem_filter.mp member).2
    rw [contentArgument?_text start stop filled, Content.failure?]
    cases fault : referenceFailure (slice cs start stop) with
    | none => simp
    | some cause => simp
  | child e =>
    rw [eq_emitTree_of_visited member, contentArgument?_child, Content.failure?, emitTree_node]
    split
    · cases (partsOf e.node).head? <;> simp
    · simp

/-- What is written for a stretch of content is what it shows. -/
theorem code_contentArgument? (member : c ∈ visited cs n opening) (written : c.failure? cs = none) :
    (contentArgument? cs c).map Fragment.code = c.argument? cs := by
  cases c with
  | text start stop =>
    have filled : start < stop := of_decide_eq_true (List.mem_filter.mp member).2
    rw [Content.failure?] at written
    rw [contentArgument?_text start stop filled, written, Content.argument?]
    split <;> simp_all
  | child e =>
    rw [eq_emitTree_of_visited member, contentArgument?_child, Content.argument?, emitTree_node]
    split
    · rw [Option.map_map]
      rfl
    · rfl

theorem IsWriting.contentArguments (w : IsWriting cs n e) (opening : Node) :
    contentArguments cs e (emitTree cs opening) (e.child? "close_tag")
      = (visited cs n opening).filterMap (contentArgument? cs) := by
  have stops : (e.child? "close_tag").elim e.node.stop (fun c => c.node.start) = contentStop n := by
    rw [w.child?, w.node, contentStop]
    cases n.child? "close_tag" with
    | none => rfl
    | some c => exact congrArg Node.start (emitTree_node cs c)
  rw [Script.contentArguments, stops, emitTree_node, w.contentNodes, ← (isWriting_emitTree cs n).contentNodes, visited,
    List.filterMap_filter]
  refine List.filterMap_congr fun c _ => ?_
  cases passed : c.isVisited with
  | true => rw [if_pos rfl]
  | false => rw [contentArgument?_of_not_isVisited passed, if_neg Bool.false_ne_true]

/-- The fragment of an element that has an opening tag. -/
theorem fragment_element (isElement : n.kind = "jsx_element") (opens : openingTag? n = some opening) :
    (emitTree cs n).fragment = call (Fragment.ofText (elementType cs (emitTree cs opening))
      :: properties cs (emitTree cs opening) :: (visited cs n opening).filterMap (contentArgument? cs)) := by
  obtain ⟨i, below⟩ := n
  have w := isWriting_mk cs i below (Fragment.ofText [])
  have kind : i.kind = "jsx_element" := isElement
  have tag : ((Emitted.mk (.mk i below) (Fragment.ofText []) (emitTrees cs below)).child? "open_tag").or
      (Emitted.mk (.mk i below) (Fragment.ofText []) (emitTrees cs below)).namedChildren.head?
        = some (emitTree cs opening) := by
    rw [w.child?, w.namedChildren, List.head?_map, ← Option.map_or]
    exact congrArg (Option.map (emitTree cs)) opens
  have written : fragmentOf cs i below (emitTrees cs below)
      = element cs (.mk (.mk i below) (Fragment.ofText []) (emitTrees cs below)) := by
    simp [fragmentOf, kind, erasedKinds, unwrappedKinds]
  rw [emitTree, Emitted.fragment, written, element, if_neg (by rw [w.kind, isElement]; decide), tag]
  exact congrArg (fun arguments => call (_ :: _ :: arguments)) (w.contentArguments opening)

/-- The content of an element is visited without gaps and overlaps, from its opening tag to its closing tag: every
child that is written on its own, and the text between any two of them. The call that creates the element is written
from its type, its properties and what the stretches of its content show, one piece each, in source order; it is
written unless one of these cannot be. -/
theorem element_tiled (cs : Characters) (isElement : n.kind = "jsx_element") (parts : HasOrderedParts n)
    (opens : openingTag? n = some opening) :
    Tiles opening.stop (max opening.stop (contentStop n)) (visited cs n opening) ∧
      ((visited cs n opening).flatMap fun c => slice cs c.start c.stop) = slice cs opening.stop (contentStop n) ∧
      (visited cs n opening).filterMap Content.node?
        = n.namedChildren.filter (isContentNode opening.stop (contentStop n)) ∧
      ((emitTree cs n).fragment.failure = none ↔
        (properties cs (emitTree cs opening)).failure = none ∧ ∀ c ∈ visited cs n opening, c.failure? cs = none) ∧
      ((emitTree cs n).fragment.failure = none →
        script cs n = elementFactory ++ "(" ++ Text.join ", " (elementType cs (emitTree cs opening)
          :: (properties cs (emitTree cs opening)).code
          :: (visited cs n opening).filterMap (Content.argument? cs)) ++ ")") := by
  have tiles := tiles_visited cs opening parts
  have fails : (emitTree cs n).fragment.failure = none ↔
      (properties cs (emitTree cs opening)).failure = none ∧ ∀ c ∈ visited cs n opening, c.failure? cs = none := by
    rw [fragment_element isElement opens, failure_call_eq_none_iff, List.forall_mem_cons, List.forall_mem_cons,
      Fragment.failure_ofText, List.forall_mem_filterMap, and_iff_right rfl]
    exact and_congr_right fun _ => forall₂_congr fun c member => failure_contentArgument? member
  refine ⟨tiles, ?_, filterMap_node?_visited cs n opening, fails, fun written => ?_⟩
  · rw [tiles.flatMap_slice]
    rcases Nat.le_total opening.stop (contentStop n) with forward | backward
    · rw [Nat.max_eq_right forward]
    · rw [Nat.max_eq_left backward, slice_self, slice_of_le backward]
  · rw [script, fragment_element isElement opens, code_call, List.map_cons, List.map_cons, List.map_filterMap]
    have shown : (visited cs n opening).filterMap (fun c => (contentArgument? cs c).map Fragment.code)
        = (visited cs n opening).filterMap (Content.argument? cs) :=
      List.filterMap_congr fun c member => code_contentArgument? member ((fails.mp written).2 c member)
    rw [shown]
    rfl

end Element

instance (n : Node) : Decidable (HasOrderedParts n) :=
  decidable_of_iff ((∀ c ∈ n.namedChildren, c.start ≤ c.stop) ∧ n.namedChildren.Pairwise fun a b => a.stop ≤ b.start)
    ⟨fun ⟨spans, ordered⟩ => ⟨spans, ordered⟩, fun ⟨spans, ordered⟩ => ⟨spans, ordered⟩⟩

/-- The tree of `<p>` at the start of a source. -/
def paragraphTag : Node := partNode "open_tag" "jsx_opening_element" 0 3 [
  plainNode "<" false 0 1 [], partNode "name" "identifier" 1 2 [], plainNode ">" false 2 3 []]

/-- The tree of `<p>`, some content up to a position, and `</p>`. -/
def paragraph (stop : Nat) (content : List Node) : Node :=
  plainNode "jsx_element" true 0 (stop + 4) (
    paragraphTag :: content ++ [partNode "close_tag" "jsx_closing_element" stop (stop + 4) [
      plainNode "</" false stop (stop + 2) [], partNode "name" "identifier" (stop + 2) (stop + 3) [],
      plainNode ">" false (stop + 3) (stop + 4) []]])

/-- The tree of an expression between braces. -/
def braced (start stop : Nat) (below : List Node) : Node :=
  plainNode "jsx_expression" true start stop (
    plainNode "\x7b" false start (start + 1) [] :: below ++ [plainNode "\x7d" false (stop - 1) stop []])

def greetingSource : Characters := (Text.ofString "<p>Hi \x7bname\x7d!<br/>\x7b/* end */\x7d</p>").toArray

/-- The tree of a greeting with text, an expression, an element and an expression that is empty. -/
def greeting : Node := paragraph 29 [
  plainNode "jsx_text" true 3 6 [],
  braced 6 12 [plainNode "identifier" true 7 11 []],
  plainNode "jsx_text" true 12 13 [],
  plainNode "jsx_self_closing_element" true 13 18 [
    plainNode "<" false 13 14 [], partNode "name" "identifier" 14 16 [], plainNode "/>" false 16 18 []],
  braced 18 29 [plainNode "comment" true 19 28 []]]

theorem element_tiled_greeting :
    openingTag? greeting = some paragraphTag ∧ HasOrderedParts greeting ∧
      Tiles 3 29 (visited greetingSource greeting paragraphTag) ∧
      script greetingSource greeting
        = "React.createElement(\"p\", null, \"Hi \", name, \"!\", React.createElement(\"br\", null))" := by
  have parts : HasOrderedParts greeting := by decide +kernel
  obtain ⟨tiles, -, -, -, code⟩ := element_tiled greetingSource (n := greeting) rfl parts rfl
  have written : (emitTree greetingSource greeting).fragment.failure = none := by
    simp only [greetingSource, Text.ofString_eq rfl]
    decide +kernel
  refine ⟨rfl, parts, tiles, (code written).trans ?_⟩
  simp only [greetingSource, Text.ofString_eq rfl]
  decide +kernel

def sequenceSource : Characters := (Text.ofString "<p>\x7ba, b\x7d</p>").toArray

/-- The tree of an element with one expression, which is a sequence. -/
def sequenceElement : Node := paragraph 9 [braced 3 9 [plainNode "sequence_expression" true 4 8 [
  plainNode "identifier" true 4 5 [], plainNode "," false 5 6 [], plainNode "identifier" true 7 8 []]]]

def pairSource : Characters := (Text.ofString "<p>\x7ba\x7d\x7bb\x7d</p>").toArray

/-- The tree of an element with two expressions. -/
def pairElement : Node := paragraph 9 [
  braced 3 6 [plainNode "identifier" true 4 5 []], braced 6 9 [plainNode "identifier" true 7 8 []]]

theorem script_sequence : script sequenceSource sequenceElement = script pairSource pairElement := by
  simp only [sequenceSource, pairSource, Text.ofString_eq rfl]
  decide +kernel

theorem arguments_sequence : (visited sequenceSource sequenceElement paragraphTag).filterMap
    (Content.argument? sequenceSource) = ["a, b"] := by
  simp only [sequenceSource, Text.ofString_eq rfl]
  decide +kernel

theorem arguments_pair : (visited pairSource pairElement paragraphTag).filterMap
    (Content.argument? pairSource) = ["a", "b"] := by
  simp only [pairSource, Text.ofString_eq rfl]
  decide +kernel

/-- However the arguments of a call are counted, there is not one for every stretch of content that shows something:
an expression that is a sequence is written like several expressions. -/
theorem not_exists_argumentCount : ¬∃ count : Text → Nat, ∀ (cs : Characters) (n opening : Node),
    n.kind = "jsx_element" → HasOrderedParts n → openingTag? n = some opening →
      (emitTree cs n).fragment.failure = none →
        count (script cs n) = 2 + ((visited cs n opening).filterMap (Content.argument? cs)).length := by
  rintro ⟨count, counts⟩
  have one : count (script sequenceSource sequenceElement) = 3 := by
    rw [counts sequenceSource sequenceElement paragraphTag rfl (by decide +kernel) rfl (by decide +kernel),
      arguments_sequence]
    rfl
  have two : count (script pairSource pairElement) = 4 := by
    rw [counts pairSource pairElement paragraphTag rfl (by decide +kernel) rfl (by decide +kernel), arguments_pair]
    rfl
  rw [script_sequence, two] at one
  cases one

end LessonService.Script
