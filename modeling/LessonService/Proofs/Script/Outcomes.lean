import LessonService.Proofs.Script.Erasure
import LessonService.Proofs.Script.PlainSources
import LessonService.Proofs.Text.Trim
import LessonService.Script.Compile
import Mathlib.Data.List.TakeWhile

namespace LessonService.Script

open Tsx

/-- A row of so many digits stands in a text. -/
def HasDigits (t : Text) (n : Nat) : Prop :=
  ∃ run, run <:+: t ∧ run.length = n ∧ ∀ c ∈ run, c.isDigit = true

theorem HasDigits.mono {a b : Text} {n : Nat} (stands : HasDigits a n) (inside : a <:+: b) : HasDigits b n := by
  obtain ⟨run, isInfix, long, digits⟩ := stands
  exact ⟨run, isInfix.trans inside, long, digits⟩

/-- The first whole number that has too many digits to be written. -/
def firstUnwritten : Nat := Nat.pow 10 Decimal.maxDigits

theorem natOfDigits_concat (t : Text) (c : CodePoint) : natOfDigits (t ++ [c]) = natOfDigits t * 10 + (c.value - 0x30) := by
  rw [natOfDigits, List.foldl_append]
  rfl

theorem natOfDigits_lt {t : Text} (digits : ∀ c ∈ t, c.isDigit = true) : natOfDigits t < Nat.pow 10 t.length := by
  induction t using List.reverseRecOn with
  | nil => decide
  | append_singleton t c ih =>
    rw [List.forall_mem_append, List.forall_mem_singleton] at digits
    have here : c.value - 0x30 < 10 := by
      have digit := digits.2
      simp only [CodePoint.isDigit, CodePoint.isBetween, Bool.and_eq_true, decide_eq_true_eq] at digit
      omega
    have before := ih digits.1
    rw [natOfDigits_concat, List.length_append, List.length_singleton, Nat.pow_eq, Nat.pow_succ, ← Nat.pow_eq]
    omega

theorem ten_mul_natOfDigits_lt {t : Text} {most : Nat} (digits : ∀ c ∈ t, c.isDigit = true) (short : t.length < most) :
    10 * natOfDigits t < Nat.pow 10 most := by
  have small := natOfDigits_lt digits
  calc 10 * natOfDigits t < 10 * Nat.pow 10 t.length := by omega
    _ = Nat.pow 10 (t.length + 1) := by rw [Nat.mul_comm]; rfl
    _ ≤ Nat.pow 10 most := Nat.pow_le_pow_right (by decide) short

/-- What is read as a number in a character reference are digits of the text. -/
theorem hasDigits_of_overlong? {t : Text} {n : Nat} (found : CharacterReference.overlong? t = some n) :
    Decimal.maxDigits < n ∧ HasDigits t n := by
  obtain ⟨m, member, long⟩ := List.exists_of_findSome?_eq_some found
  obtain ⟨before, after, rfl, -⟩ := Pattern.matches_of_found (Pattern.mem_findAll.mp member)
  split at long
  · rename_i first h body
    split at long
    · simp only [Option.ite_none_right_eq_some, Option.some.injEq] at long
      obtain ⟨long, rfl⟩ := long
      refine ⟨long, (body.takeWhile CodePoint.isDigit), ?_, rfl, fun c member => List.mem_takeWhile_imp member⟩
      exact (List.takeWhile_prefix _).isInfix.trans ⟨before ++ [first, h], after, by simp⟩
    · cases long
  · cases long

/-- The parts of a node that its script is made of. -/
structure HasParts (n : Node) : Prop where
  assignment : n.kind = "enum_assignment" → n.namedChildren ≠ []
  property : n.kind = "jsx_attribute" → (n.namedChildren.filter fun c => c.kind ≠ "comment") ≠ []
  element : n.kind = "jsx_element" → n.namedChildren ≠ []

/-- What keeps the script of a tree from being written, given the text of its source: a number that has too
many digits to be read; a row of so many digits, or so many nodes, that an enumeration counts to a number that
has too many digits to be written; a number that is put together from other nodes; a node that lacks a part. -/
inductive Excess (source : Text) (root : Node) : EmissionError → Prop
  | digits {n : Nat} (long : Decimal.maxDigits < n) (stands : HasDigits source n) : Excess source root (.longNumber n)
  | count {n : Nat} (long : Decimal.maxDigits ≤ n) (stands : HasDigits source n) : Excess source root .longValue
  | nodes (many : firstUnwritten ≤ 10 * root.preorder.length) : Excess source root .longValue
  | inner {e : EmissionError} {n : Node} (member : n ∈ root.preorder) (kind : n.kind = "number")
    (filled : n.children ≠ []) (among : (∃ k, e = .longNumber k) ∨ e = .longValue) : Excess source root e
  | part {n : Node} (member : n ∈ root.preorder) (lacking : ¬HasParts n) : Excess source root .missingPart

/-- A piece of a script fails, if it fails, for a reason of some kind. -/
def Fragment.FailsBy (holds : EmissionError → Prop) (f : Fragment) : Prop := ∀ e, f.failure = some e → holds e

section FailsBy

variable {holds : EmissionError → Prop} {f g : Fragment}

theorem failsBy_ofText (t : Text) : (Fragment.ofText t).FailsBy holds := nofun

theorem failsBy_failed {e : EmissionError} (reason : holds e) : (Fragment.failed e).FailsBy holds := by
  intro e' failed
  cases failed
  exact reason

theorem Fragment.FailsBy.append (first : f.FailsBy holds) (second : g.FailsBy holds) : (f ++ g).FailsBy holds := by
  intro e failed
  rcases Option.or_eq_some_iff.mp failed with failed | ⟨-, failed⟩
  · exact first e failed
  · exact second e failed

theorem failsBy_join (separator : Text) {fs : List Fragment} (all : ∀ f ∈ fs, f.FailsBy holds) :
    (Fragment.join separator fs).FailsBy holds := by
  induction fs with
  | nil => exact failsBy_ofText []
  | cons f fs ih =>
    rw [List.forall_mem_cons] at all
    cases fs with
    | nil => exact all.1
    | cons g gs => exact (all.1.append (failsBy_ofText _)).append (ih all.2)

theorem failsBy_call {arguments : List Fragment} (all : ∀ f ∈ arguments, f.FailsBy holds) :
    (call arguments).FailsBy holds :=
  ((failsBy_ofText _).append (failsBy_join _ all)).append (failsBy_ofText _)

theorem failsBy_noted (cs : Characters) (i : NodeInfo) (written : f.FailsBy holds) : (noted cs i f).FailsBy holds := by
  unfold noted
  split
  · exact written
  · exact written

theorem failsBy_weave {cs : Characters} {owner : String} {stop : Nat} {es : List Emitted}
    (written : ∀ e ∈ es, e.fragment.FailsBy holds) (position : Nat) :
    (weave cs owner stop position es).FailsBy holds := by
  induction es generalizing position with
  | nil => exact failsBy_ofText _
  | cons e es ih =>
    rw [List.forall_mem_cons] at written
    refine ((failsBy_ofText _).append ?_).append (ih written.2 _)
    split
    · exact failsBy_ofText []
    · exact written.1

end FailsBy

/-- A node with the scripts of what is below it. -/
structure IsWriting (cs : Characters) (n : Node) (e : Emitted) : Prop where
  node : e.node = n
  children : e.children = n.children.map (emitTree cs)

section IsWriting

variable {cs : Characters} {n : Node} {e c : Emitted}

theorem isWriting_mk (cs : Characters) (i : NodeInfo) (below : List Node) (f : Fragment) :
    IsWriting cs (.mk i below) (.mk (.mk i below) f (emitTrees cs below)) :=
  ⟨rfl, emitTrees_eq_map cs below⟩

theorem isWriting_emitTree (cs : Characters) (n : Node) : IsWriting cs n (emitTree cs n) := by
  cases n
  exact isWriting_mk _ _ _ _

theorem IsWriting.kind (w : IsWriting cs n e) : e.kind = n.kind := congrArg Node.kind w.node

theorem IsWriting.namedChildren (w : IsWriting cs n e) : e.namedChildren = n.namedChildren.map (emitTree cs) := by
  obtain ⟨_, f, children⟩ := e
  obtain ⟨i, below⟩ := n
  obtain ⟨rfl, same⟩ := w
  cases same.trans (emitTrees_eq_map cs below).symm
  exact namedChildren_emitTrees cs i below f

theorem IsWriting.parts (w : IsWriting cs n e) :
    e.parts = (n.namedChildren.filter fun c => c.kind ≠ "comment").map (emitTree cs) := by
  rw [Emitted.parts, w.namedChildren, List.filter_map]
  congr 1
  apply List.filter_congr
  intro c _
  rw [Function.comp_apply, (isWriting_emitTree cs c).kind]

theorem IsWriting.exists_of_child (w : IsWriting cs n e) (child : c ∈ e.children) :
    ∃ m ∈ n.children, emitTree cs m = c := by
  rwa [w.children, List.mem_map] at child

theorem child_of_child? {field : String} (found : e.child? field = some c) : c ∈ e.children :=
  List.mem_of_find?_eq_some found

theorem child_of_namedChildren (named : c ∈ e.namedChildren) : c ∈ e.children := (List.mem_filter.mp named).1

theorem child_of_parts (part : c ∈ e.parts) : c ∈ e.children := child_of_namedChildren (List.mem_filter.mp part).1

end IsWriting

/-- A node of a tree below which every script fails only for the reasons of the tree. -/
structure IsSettled (cs : Characters) (root n : Node) : Prop where
  inside : n.preorder <:+: root.preorder
  below : ∀ c ∈ n.children, ∀ m ∈ c.preorder, (emitTree cs m).fragment.FailsBy (Excess cs.toList root)

section Reasons

variable {cs : Characters} {root n : Node} {e c : Emitted}

theorem isInfix_preorder_of_child {i : NodeInfo} {below : List Node} {c : Node} (child : c ∈ below) :
    c.preorder <:+: Node.preorder (.mk i below) := by
  have all : c.preorder <:+: Node.preorderAll below := by
    induction below with
    | nil => cases child
    | cons d below ih =>
      rw [Node.preorderAll]
      rcases List.mem_cons.mp child with rfl | later
      · exact (List.prefix_append _ _).isInfix
      · exact (ih later).trans (List.suffix_append _ _).isInfix
  exact all.trans (List.suffix_cons _ _).isInfix

theorem length_children_le (n : Node) : n.children.length ≤ n.preorder.length := by
  obtain ⟨i, below⟩ := n
  have all (ns : List Node) : ns.length ≤ (Node.preorderAll ns).length := by
    induction ns with
    | nil => exact Nat.le_refl _
    | cons d ns ih =>
      have := List.length_pos_of_mem (Node.mem_preorder_self d)
      rw [Node.preorderAll, List.length_append, List.length_cons]
      omega
  exact Nat.le_succ_of_le (all below)

theorem IsSettled.child {c : Node} (settled : IsSettled cs root n) (child : c ∈ n.children) : IsSettled cs root c where
  inside := by
    obtain ⟨i, below⟩ := n
    exact (isInfix_preorder_of_child child).trans settled.inside
  below d lower m member := by
    refine settled.below c child m ?_
    obtain ⟨i, below⟩ := c
    exact Node.mem_preorder_of_child lower member

theorem IsSettled.mem (settled : IsSettled cs root n) : n ∈ root.preorder :=
  settled.inside.subset (Node.mem_preorder_self n)

theorem IsSettled.written {c : Node} (settled : IsSettled cs root n) (child : c ∈ n.children) :
    (emitTree cs c).fragment.FailsBy (Excess cs.toList root) :=
  settled.below c child c (Node.mem_preorder_self c)

/-- A child of a node with the scripts of what is below it is such a node itself, and its script is settled. -/
theorem IsSettled.exists_of_child (settled : IsSettled cs root n) (w : IsWriting cs n e) (child : c ∈ e.children) :
    ∃ m, IsSettled cs root m ∧ IsWriting cs m c ∧ c = emitTree cs m ∧ c.fragment.FailsBy (Excess cs.toList root) := by
  obtain ⟨m, member, rfl⟩ := w.exists_of_child child
  exact ⟨m, settled.child member, isWriting_emitTree cs m, rfl, settled.written member⟩

theorem IsSettled.failsBy_of_child (settled : IsSettled cs root n) (w : IsWriting cs n e) (child : c ∈ e.children) :
    c.fragment.FailsBy (Excess cs.toList root) := by
  obtain ⟨_, -, -, -, written⟩ := settled.exists_of_child w child
  exact written

theorem isInfix_slice (cs : Characters) (start stop : Nat) : slice cs start stop <:+: cs.toList := by
  rw [slice, Array.toList_extract, List.extract_eq_take_drop]
  exact (List.take_prefix _ _).isInfix.trans (List.drop_suffix _ _).isInfix

/-- A node that lacks a part. -/
theorem IsSettled.excess_of_lacking (settled : IsSettled cs root n) (lacking : ¬HasParts n) :
    Excess cs.toList root .missingPart := by
  exact .part settled.mem lacking

theorem failsBy_reference {code t : Text} (inside : t <:+: cs.toList) :
    Fragment.FailsBy (Excess cs.toList root) { code, failure := referenceFailure t } := by
  intro e failed
  obtain ⟨n, found, rfl⟩ := Option.map_eq_some_iff.mp (show (CharacterReference.overlong? t).map _ = some e from failed)
  obtain ⟨long, stands⟩ := hasDigits_of_overlong? found
  exact .digits long (stands.mono inside)

theorem failsBy_property (settled : IsSettled cs root n) (w : IsWriting cs n e) (kind : n.kind = "jsx_attribute") :
    (property cs e).FailsBy (Excess cs.toList root) := by
  unfold property
  split
  · rename_i none
    refine failsBy_failed (settled.excess_of_lacking fun parts => parts.property kind ?_)
    rwa [w.parts, List.map_eq_nil_iff] at none
  · rename_i key rest given
    have child {value : Emitted} (later : value ∈ rest) : value ∈ e.children :=
      child_of_parts (given ▸ List.mem_cons_of_mem _ later)
    dsimp only
    split
    · exact failsBy_ofText _
    · rename_i value rest
      obtain ⟨m, below, wv, -, written⟩ := settled.exists_of_child w (child List.mem_cons_self)
      split
      · refine failsBy_reference ?_
        exact ((List.dropLast_prefix _).isInfix.trans (List.drop_suffix _ _).isInfix).trans (isInfix_slice _ _ _)
      · refine (failsBy_ofText _).append ?_
        split
        · cases inner : value.parts.head? with
          | none => exact failsBy_ofText _
          | some c => exact below.failsBy_of_child wv (child_of_parts (List.mem_of_head? inner))
        · exact written

theorem failsBy_properties (settled : IsSettled cs root n) (w : IsWriting cs n e) :
    (properties cs e).FailsBy (Excess cs.toList root) := by
  unfold properties
  dsimp only
  split
  · exact failsBy_ofText _
  · refine ((failsBy_ofText _).append (failsBy_join _ fun f member => ?_)).append (failsBy_ofText _)
    obtain ⟨a, named, entry⟩ := List.mem_filterMap.mp member
    obtain ⟨m, below, wa, -, -⟩ := settled.exists_of_child w (child_of_namedChildren named)
    split at entry
    · rename_i isProperty
      cases entry
      exact failsBy_property below wa (wa.kind.symm.trans isProperty)
    · split at entry
      · split at entry
        · rename_i inner _ given
          split at entry
          · cases entry
            exact below.failsBy_of_child wa (child_of_parts (given ▸ List.mem_cons_self))
          · cases entry
        · cases entry
      · cases entry

theorem failsBy_contentArgument {content : Content} {f : Fragment} (settled : IsSettled cs root n)
    (w : IsWriting cs n e) (among : ∀ c, content = .child c → c ∈ e.children)
    (argument : contentArgument? cs content = some f) : f.FailsBy (Excess cs.toList root) := by
  cases content with
  | text start stop =>
    simp only [contentArgument?] at argument
    split at argument
    · cases argument
    · split at argument
      · cases argument
      · cases argument
        exact failsBy_reference (isInfix_slice _ _ _)
  | child c =>
    obtain ⟨m, below, wc, -, written⟩ := settled.exists_of_child w (among c rfl)
    simp only [contentArgument?] at argument
    split at argument
    · obtain ⟨inner, first, rfl⟩ := Option.map_eq_some_iff.mp argument
      exact below.failsBy_of_child wc (child_of_parts (List.mem_of_head? first))
    · cases argument
      exact written

theorem mem_of_contentFrom {stop position : Nat} {es : List Emitted}
    (member : Content.child c ∈ contentFrom stop position es) : c ∈ es := by
  induction es generalizing position with
  | nil => simp [contentFrom] at member
  | cons e es ih =>
    simp only [contentFrom, List.mem_cons, reduceCtorEq, false_or, Content.child.injEq] at member
    rcases member with rfl | later
    · exact List.mem_cons_self
    · exact List.mem_cons_of_mem _ (ih later)

theorem failsBy_contentArguments {opening : Emitted} {closing : Option Emitted} (settled : IsSettled cs root n)
    (w : IsWriting cs n e) : ∀ f ∈ contentArguments cs e opening closing, f.FailsBy (Excess cs.toList root) := by
  intro f member
  obtain ⟨content, among, argument⟩ := List.mem_filterMap.mp member
  refine failsBy_contentArgument settled w (fun c child => ?_) argument
  subst child
  exact child_of_namedChildren (List.mem_filter.mp (mem_of_contentFrom among)).1

theorem failsBy_element (settled : IsSettled cs root n) (w : IsWriting cs n e)
    (kind : n.kind = "jsx_element" ∨ n.kind = "jsx_self_closing_element") :
    (element cs e).FailsBy (Excess cs.toList root) := by
  unfold element
  split
  · refine failsBy_call ?_
    simp only [List.forall_mem_cons]
    exact ⟨failsBy_ofText _, failsBy_properties settled w, List.forall_mem_nil _⟩
  · rename_i whole
    have isElement : n.kind = "jsx_element" := kind.resolve_right fun alone => whole (w.kind.trans alone)
    split
    · rename_i opening found
      have child : opening ∈ e.children := by
        rcases Option.or_eq_some_iff.mp found with named | ⟨-, first⟩
        · exact child_of_child? named
        · exact child_of_namedChildren (List.mem_of_head? first)
      obtain ⟨m, below, wo, -, -⟩ := settled.exists_of_child w child
      refine failsBy_call ?_
      simp only [List.forall_mem_cons]
      exact ⟨failsBy_ofText _, failsBy_properties below wo, failsBy_contentArguments settled w⟩
    · rename_i none
      refine failsBy_failed (settled.excess_of_lacking fun parts => parts.element isElement ?_)
      have first := (Option.or_eq_none_iff.mp none).2
      rwa [w.namedChildren, List.head?_eq_none_iff, List.map_eq_nil_iff] at first

theorem eq_of_writeFailure {k : Nat} {e : EmissionError} (failed : writeFailure k = some e) :
    e = .longValue ∧ firstUnwritten ≤ k := by
  unfold writeFailure at failed
  unfold firstUnwritten
  split at failed
  · rename_i long
    cases failed
    exact ⟨rfl, long⟩
  · cases failed

theorem writeFailure_of_le {k : Nat} (long : firstUnwritten ≤ k) : writeFailure k = some .longValue := by
  unfold writeFailure
  unfold firstUnwritten at long
  rw [if_pos long]

theorem eq_of_readFailure {t : Text} {e : EmissionError} (failed : readFailure t = some e) :
    e = .longNumber t.length ∧ Decimal.maxDigits < t.length := by
  unfold readFailure at failed
  split at failed
  · rename_i long
    cases failed
    exact ⟨rfl, long⟩
  · cases failed

theorem code_of_number (kind : n.kind = "number") (leaf : n.children = []) :
    (emitTree cs n).fragment.code = textOf cs n := by
  obtain ⟨i, below⟩ := n
  cases (show below = [] from leaf)
  have here : i.kind = "number" := kind
  have whole : fragmentOf cs i [] [] = noted cs i (copy cs i []) :=
    fragmentOf_copied (by rw [here]; decide) (by rw [here]; decide) (by rw [here]; decide)
  have quiet : unsupportedNote? i.kind = none := by rw [here]; rfl
  rw [emitTree, emitTrees, Emitted.fragment, whole, noted, quiet]
  rfl

/-- A numeral that an enumeration reads stands in the source. -/
theorem hasDigits_of_numeral (kind : n.kind = "number") (leaf : n.children = [])
    (numeral : isNumeral (emitTree cs n).fragment.code = true) :
    HasDigits cs.toList (emitTree cs n).fragment.code.length := by
  simp only [isNumeral, Bool.and_eq_true, List.all_eq_true] at numeral
  refine ⟨_, ?_, rfl, numeral.2⟩
  rw [code_of_number kind leaf]
  exact isInfix_slice _ _ _

/-- What an enumeration counts on from after a value. -/
theorem IsSettled.natOfDigits_small (settled : IsSettled cs root n) (kind : n.kind = "number")
    (numeral : isNumeral (emitTree cs n).fragment.code = true) (fits : ¬Excess cs.toList root .longValue) :
    10 * natOfDigits (emitTree cs n).fragment.code < firstUnwritten := by
  have leaf : n.children = [] := by
    by_contra filled
    exact fits (.inner settled.mem kind filled (.inr rfl))
  have stands := hasDigits_of_numeral kind leaf numeral
  have short : (emitTree cs n).fragment.code.length < Decimal.maxDigits := by
    by_contra long
    exact fits (.count (Nat.le_of_not_lt long) stands)
  simp only [isNumeral, Bool.and_eq_true, List.all_eq_true] at numeral
  unfold firstUnwritten
  exact ten_mul_natOfDigits_lt numeral.2 short

/-- The node that gives an assignment its value. -/
def valueOf (e : Emitted) : Option Emitted := (e.child? "value").or e.namedChildren.getLast?

def writtenValue (e : Emitted) : Fragment := (valueOf e).elim (Fragment.ofText []) Emitted.fragment

/-- Whether an enumeration counts on from the value of an assignment. -/
def isNumbered (e : Emitted) : Bool :=
  (valueOf e).elim false (fun v => v.kind = "number") && isNumeral (writtenValue e).code

/-- What an enumeration writes for a member that is given a value. -/
def assigned (cs : Characters) (e : Emitted) : Fragment :=
  Fragment.ofText (((e.child? "name").or e.namedChildren.head?).elim [] (fun k => textOf cs k.node) ++ ": ")
    ++ { writtenValue e with
        failure := (if ((e.child? "name").or e.namedChildren.head?).isNone || (valueOf e).isNone then some .missingPart
          else none).or ((writtenValue e).failure.or (if isNumbered e then readFailure (writtenValue e).code else none)) }

theorem enumMembers_assignment (cs : Characters) (next : Option Nat) (es : List Emitted)
    (kind : e.kind = "enum_assignment") :
    enumMembers cs next (e :: es) = assigned cs e
      :: enumMembers cs (if isNumbered e then some (natOfDigits (writtenValue e).code + 1) else none) es := by
  rw [enumMembers, if_pos kind]
  rfl

theorem child_of_valueOf (found : valueOf e = some c) : c ∈ e.children := by
  rcases Option.or_eq_some_iff.mp found with named | ⟨-, last⟩
  · exact child_of_child? named
  · exact child_of_namedChildren (List.mem_of_getLast? last)

theorem IsSettled.failsBy_writtenValue (settled : IsSettled cs root n) (w : IsWriting cs n e) :
    (writtenValue e).FailsBy (Excess cs.toList root) := by
  unfold writtenValue
  cases found : valueOf e with
  | none => exact failsBy_ofText _
  | some c => exact settled.failsBy_of_child w (child_of_valueOf found)

theorem IsSettled.exists_number (settled : IsSettled cs root n) (w : IsWriting cs n e) (number : isNumbered e = true) :
    ∃ v, IsSettled cs root v ∧ v.kind = "number" ∧ (emitTree cs v).fragment = writtenValue e ∧
      isNumeral (emitTree cs v).fragment.code = true := by
  cases found : valueOf e with
  | none => simp [isNumbered, found] at number
  | some c =>
    obtain ⟨v, below, wv, rfl, -⟩ := settled.exists_of_child w (child_of_valueOf found)
    have written : (emitTree cs v).fragment = writtenValue e := by simp [writtenValue, found]
    simp only [isNumbered, found, Option.elim_some, ← written, Bool.and_eq_true, decide_eq_true_eq] at number
    exact ⟨v, below, wv.kind.symm.trans number.1, written, number.2⟩

theorem IsSettled.excess_of_readFailure {cause : EmissionError} (settled : IsSettled cs root n) (w : IsWriting cs n e)
    (number : isNumbered e = true) (failed : readFailure (writtenValue e).code = some cause) :
    Excess cs.toList root cause := by
  obtain ⟨v, below, kind, written, numeral⟩ := settled.exists_number w number
  rw [← written] at failed
  obtain ⟨rfl, long⟩ := eq_of_readFailure failed
  by_cases leaf : v.children = []
  · exact .digits long (hasDigits_of_numeral kind leaf numeral)
  · exact .inner below.mem kind leaf (.inl ⟨_, rfl⟩)

theorem IsSettled.excess_of_absent (settled : IsSettled cs root n) (w : IsWriting cs n e)
    (kind : n.kind = "enum_assignment")
    (absent : (((e.child? "name").or e.namedChildren.head?).isNone || (valueOf e).isNone) = true) :
    Excess cs.toList root .missingPart := by
  refine settled.excess_of_lacking fun parts => ?_
  have filled : e.namedChildren ≠ [] := by
    rw [w.namedChildren, Ne, List.map_eq_nil_iff]
    exact parts.assignment kind
  simp [valueOf, Option.isNone_or, filled] at absent

/-- A member of an enumeration fails only for the reasons of the tree, as long as what the enumeration counts to
leaves room for the members to come. -/
theorem failsBy_enumMembers {next : Option Nat} {es : List Emitted}
    (members : ∀ e ∈ es, ∃ m, IsSettled cs root m ∧ IsWriting cs m e) (few : es.length ≤ root.preorder.length)
    (small : ¬Excess cs.toList root .longValue → ∀ k, next = some k → k + es.length < firstUnwritten) :
    ∀ f ∈ enumMembers cs next es, f.FailsBy (Excess cs.toList root) := by
  induction es generalizing next with
  | nil => exact List.forall_mem_nil _
  | cons e es ih =>
    rw [List.forall_mem_cons] at members
    rw [List.length_cons] at few small
    obtain ⟨⟨m, settled, w⟩, members⟩ := members
    have later (next : Option Nat) (small' : ¬Excess cs.toList root .longValue →
        ∀ k, next = some k → k + es.length < firstUnwritten) :
        ∀ f ∈ enumMembers cs next es, f.FailsBy (Excess cs.toList root) := ih members (Nat.le_of_succ_le few) small'
    by_cases kind : e.kind = "enum_assignment"
    · rw [enumMembers_assignment cs next es kind, List.forall_mem_cons]
      refine ⟨(failsBy_ofText _).append fun cause failed => ?_, later _ fun fits k counted => ?_⟩
      · rcases Option.or_eq_some_iff.mp failed with absent | ⟨-, failed⟩
        · rw [Option.ite_none_right_eq_some] at absent
          cases absent.2
          exact settled.excess_of_absent w (w.kind.symm.trans kind) absent.1
        rcases Option.or_eq_some_iff.mp failed with failed | ⟨-, failed⟩
        · exact settled.failsBy_writtenValue w cause failed
        · rw [Option.ite_none_right_eq_some] at failed
          exact settled.excess_of_readFailure w failed.1 failed.2
      · rw [Option.ite_none_right_eq_some] at counted
        obtain ⟨v, below, isNumber, written, numeral⟩ := settled.exists_number w counted.1
        have value := below.natOfDigits_small isNumber numeral fits
        rw [written] at value
        cases counted.2
        have nodes : 10 * root.preorder.length < firstUnwritten := Nat.lt_of_not_le fun many => fits (.nodes many)
        generalize firstUnwritten = bound at *
        omega
    · rw [enumMembers, if_neg kind, List.forall_mem_cons]
      refine ⟨fun cause failed => ?_, later _ fun fits k counted => ?_⟩
      · obtain ⟨k, rfl, long⟩ := Option.bind_eq_some_iff.mp failed
        obtain ⟨rfl, long⟩ := eq_of_writeFailure long
        by_contra fits
        have := small fits k rfl
        omega
      · obtain ⟨k', rfl, rfl⟩ := Option.map_eq_some_iff.mp counted
        have := small fits k' rfl
        omega

theorem failsBy_enumeration (settled : IsSettled cs root n) (w : IsWriting cs n e) (name : Option Emitted) :
    (enumeration cs name (e.child? "body")).FailsBy (Excess cs.toList root) := by
  refine ((failsBy_ofText _).append (failsBy_join _ ?_)).append (failsBy_ofText _)
  cases found : e.child? "body" with
  | none => exact List.forall_mem_nil _
  | some body =>
    obtain ⟨m, below, wb, -, -⟩ := settled.exists_of_child w (child_of_child? found)
    have few : body.parts.length ≤ root.preorder.length := by
      have short := length_children_le m
      rw [← List.length_map (emitTree cs), ← wb.children] at short
      have named := List.length_filter_le (fun c => c.node.isNamed) body.children
      have given := List.length_filter_le (fun c => c.kind ≠ "comment") body.namedChildren
      exact given.trans (named.trans (short.trans below.inside.length_le))
    refine failsBy_enumMembers (fun c part => ?_) few fun fits k start => ?_
    · obtain ⟨v, member, wv, -, -⟩ := below.exists_of_child wb (child_of_parts part)
      exact ⟨v, member, wv⟩
    · cases start
      have nodes : 10 * root.preorder.length < firstUnwritten := Nat.lt_of_not_le fun many => fits (.nodes many)
      have some_ := List.length_pos_of_mem below.mem
      simp only [Option.elim_some]
      generalize firstUnwritten = bound at *
      omega

theorem failsBy_fragmentOf {i : NodeInfo} {below : List Node} (settled : IsSettled cs root (.mk i below)) :
    (fragmentOf cs i below (emitTrees cs below)).FailsBy (Excess cs.toList root) := by
  have w := isWriting_mk cs i below (Fragment.ofText [])
  unfold fragmentOf
  dsimp only
  split
  · exact failsBy_ofText _
  split
  · cases inner : (Emitted.mk (.mk i below) (Fragment.ofText []) (emitTrees cs below)).namedChildren.head? with
    | none => exact failsBy_ofText _
    | some c => exact settled.failsBy_of_child w (child_of_namedChildren (List.mem_of_head? inner))
  split
  · exact failsBy_enumeration settled w _
  split
  · rename_i markup
    simp only [Bool.or_eq_true, decide_eq_true_eq] at markup
    exact failsBy_element settled w markup
  · refine failsBy_noted cs i ?_
    rw [copy_eq_weave]
    exact failsBy_weave (fun e member => settled.failsBy_of_child w member) _

/-- The script of a tree fails only for its reasons. -/
theorem failsBy_emitTree (cs : Characters) (root : Node) :
    (emitTree cs root).fragment.FailsBy (Excess cs.toList root) := by
  have all (n : Node) (inside : n.preorder <:+: root.preorder) :
      ∀ m ∈ n.preorder, (emitTree cs m).fragment.FailsBy (Excess cs.toList root) := by
    induction n using Node.induction with
    | step i below ih =>
      have later : ∀ c ∈ below, ∀ m ∈ c.preorder, (emitTree cs m).fragment.FailsBy (Excess cs.toList root) :=
        fun c child => ih c child ((isInfix_preorder_of_child child).trans inside)
      intro m member
      rcases Node.mem_preorder.mp member with rfl | ⟨c, child, member⟩
      · exact failsBy_fragmentOf ⟨inside, later⟩
      · exact later c child m member
  exact all root (List.infix_refl _) root (Node.mem_preorder_self root)

end Reasons

section Compile

variable {source : Text} {limits : Limits}

/-- The reader takes unpaired surrogates for question marks. What it sees of anything else stands in the source. -/
theorem infix_of_parse {t : Text} (unmarked : ('?' : CodePoint) ∉ t) (inside : t <:+: (parse source).characters.toList) :
    t <:+: source := by
  obtain ⟨part, within, rfl⟩ := List.infix_map_iff.mp
    (show _ <:+: source.map fun c => if c.isUnpaired then ('?' : CodePoint) else c from inside)
  have same : ∀ c ∈ part, (if c.isUnpaired then ('?' : CodePoint) else c) = c := by
    intro c member
    split
    · rename_i unpaired
      exact (unmarked (List.mem_map.mpr ⟨c, member, if_pos unpaired⟩)).elim
    · rfl
  rwa [List.map_congr_left same, List.map_id']

theorem hasDigits_of_parse {n : Nat} (stands : HasDigits (parse source).characters.toList n) : HasDigits source n := by
  obtain ⟨run, inside, long, digits⟩ := stands
  exact ⟨run, infix_of_parse (fun member => Bool.false_ne_true (digits _ member)) inside, long, digits⟩

/-- What nobody has provided for when a source is compiled. -/
inductive Unforeseen (limits : Limits) (source : Text) : EmissionError → Prop
  /-- A limit that a refusal names has too many digits. -/
  | limit (long : firstUnwritten ≤ (limits.most.fdiv 1000).natAbs) : Unforeseen limits source .longValue
  | script {e : EmissionError} (excess : Excess (toScript source) (parse (toScript source)).root e) :
    Unforeseen limits source e

/-- How compiling a source ends: with a script, with a status, or otherwise. -/
inductive Outcome (limits : Limits) (source : Text) : Except CompileError Compiled → Prop
  | compiled (c : Compiled) : Outcome limits source (.ok c)
  | answered {e : CompileError} {status : Nat} (has : e.status? = some status) (among : status ∈ [400, 413, 500]) :
    Outcome limits source (.error e)
  | unforeseen {e : EmissionError} (reason : Unforeseen limits source e) : Outcome limits source (.error (.unforeseen e))

theorem Excess.of_parse {e : EmissionError} (excess : Excess (parse source).characters.toList (parse source).root e) :
    Excess source (parse source).root e := by
  cases excess with
  | digits long stands => exact .digits long (hasDigits_of_parse stands)
  | count long stands => exact .count long (hasDigits_of_parse stands)
  | nodes many => exact .nodes many
  | inner member kind filled among => exact .inner member kind filled among
  | part member lacking => exact .part member lacking

theorem outcome_of_oversize (length : Nat) : Outcome limits source (.error (oversize length limits.most)) := by
  unfold oversize
  split
  · rename_i cause failed
    obtain ⟨rfl, long⟩ := eq_of_writeFailure failed
    exact .unforeseen (.limit long)
  · exact .answered rfl (by decide)

theorem outcome_of_refusal {e : CompileError} (refused : refusal? limits source = some e) :
    Outcome limits source (.error e) := by
  unfold refusal? at refused
  split at refused
  · cases refused
    exact .answered rfl (by decide)
  split at refused
  · exact Option.some.inj refused ▸ outcome_of_oversize _
  split at refused
  · cases refused
    exact .answered rfl (by decide)
  split at refused
  · cases refused
    exact .answered rfl (by decide)
  split at refused
  · cases refused
  · cases refused
    exact .answered rfl (by decide)

theorem excess_of_transpile {e : EmissionError} (failed : transpile source = .error e) :
    e = .tooDeep ∨ Excess source (parse source).root e := by
  unfold transpile at failed
  dsimp only at failed
  split at failed
  · cases failed
    exact .inl rfl
  · split at failed
    · rename_i cause reason
      cases failed
      exact .inr (failsBy_emitTree _ _ _ reason).of_parse
    · cases failed

theorem outcome_of_compileAccepted : Outcome limits source (compileAccepted source) := by
  unfold compileAccepted
  split
  · exact .answered rfl (by decide)
  · rename_i cause notDeep failed
    exact .unforeseen (.script ((excess_of_transpile failed).resolve_left notDeep))
  · split
    · exact .answered rfl (by decide)
    · split
      · exact .answered rfl (by decide)
      · exact .compiled _

/-- Whatever the limits and the source, compiling ends with a script or with one of three statuses, unless a
number has too many digits or the tree of the source lacks a part. A source that is nested too deeply is answered
with a status like any other. -/
theorem compile_outcome (limits : Limits) (source : Text) : Outcome limits source (compile limits source) := by
  unfold compile
  split
  · rename_i refused
    exact outcome_of_refusal refused
  · exact outcome_of_compileAccepted

/-- A source that is larger than a limit with too many digits is not answered. -/
theorem compile_of_exceeded (filled : source ≠ []) (exceeded : (source.length : Int) > limits.most)
    (long : firstUnwritten ≤ (limits.most.fdiv 1000).natAbs) :
    compile limits source = .error (.unforeseen .longValue) := by
  have named : oversize source.length limits.most = .unforeseen .longValue := by
    unfold oversize
    rw [writeFailure_of_le long]
  have refused : refusal? limits source = some (oversize source.length limits.most) := by
    rw [refusal?, if_neg (by simpa using filled), if_pos exceeded]
  rw [compile, refused, named]

/-- Limits of which the upper one has 4305 digits and stands below zero. -/
def boundlessLimits : Limits := { most := -(Nat.pow 10 4304 : Nat) }

theorem slice_middle (before mid after : Text) :
    slice (before ++ mid ++ after).toArray before.length (before.length + mid.length) = mid := by
  simp [slice, List.extract_eq_take_drop]

def ones (digits : Nat) : Text := List.replicate digits ('1' : CodePoint)

theorem isNumeral_ones {digits : Nat} (positive : 0 < digits) : isNumeral (ones digits) = true := by
  have some_ : ones digits ≠ [] := fun none_ => positive.ne' (List.replicate_eq_nil_iff _ |>.mp none_)
  have all : (ones digits).all CodePoint.isDigit = true :=
    List.all_eq_true.mpr fun c member => List.eq_of_mem_replicate member ▸ rfl
  simp [isNumeral, all, some_]

/-- What stands before the number of `numeralScript`. The comment makes the source long enough to be compiled. -/
def numeralStart : Text := "// " ++ (List.replicate 100 ('x' : CodePoint) ++ "\nenum A \x7b B = ")

theorem length_numeralStart : numeralStart.length = 117 := by
  rw [numeralStart, List.length_append, List.length_append, List.length_replicate]
  decide

/-- An enumeration of one member, whose value has so many digits. -/
def numeralScript (digits : Nat) : Text := numeralStart ++ ones digits ++ " \x7d"

/-- The tree of such a script. -/
def numeralTree (digits : Nat) : Node :=
  let stop := 117 + digits
  plainNode "program" true 0 (stop + 2) [
    plainNode "comment" true 0 103 [],
    plainNode "enum_declaration" true 104 (stop + 2) [
      plainNode "enum" false 104 108 [], partNode "name" "identifier" 109 110 [],
      partNode "body" "enum_body" 111 (stop + 2) [
        plainNode "\x7b" false 111 112 [],
        plainNode "enum_assignment" true 113 stop [
          partNode "name" "property_identifier" 113 114 [], plainNode "=" false 115 116 [],
          partNode "value" "number" 117 stop []],
        plainNode "\x7d" false (stop + 1) (stop + 2) []]]]

set_option maxRecDepth 2000 in
theorem failure_numeralTree {digits : Nat} (long : Decimal.maxDigits < digits) :
    (emitTree (numeralScript digits).toArray (numeralTree digits)).fragment.failure = some (.longNumber digits) := by
  have written : slice (numeralScript digits).toArray 117 (117 + digits) = ones digits := by
    have middle := slice_middle numeralStart (ones digits) " \x7d"
    rwa [ones, List.length_replicate, length_numeralStart] at middle
  generalize (numeralScript digits).toArray = cs at written ⊢
  have failure : (emitTree cs (numeralTree digits)).fragment.failure =
      ((if isNumeral (slice cs 117 (117 + digits)) = true then readFailure (slice cs 117 (117 + digits))
        else none).or none).or none := rfl
  have length : (ones digits).length = digits := List.length_replicate
  rw [failure, written, if_pos (isNumeral_ones (by omega)), readFailure, length, if_pos long]
  rfl

/-- A source of which the script is such a script. -/
def numeralSource (digits : Nat) : Text := numeralScript digits ++ "\n"

/-- All characters of such a source. -/
def numeralCharacters : Text := "/ x\nenumA\x7bB=1\x7d"

theorem mem_numeralCharacters {digits : Nat} : ∀ c ∈ numeralSource digits, c ∈ numeralCharacters := by
  have repeated {n : Nat} {d : CodePoint} (among : d ∈ numeralCharacters) :
      ∀ c ∈ List.replicate n d, c ∈ numeralCharacters := fun c member => List.eq_of_mem_replicate member ▸ among
  simp only [numeralSource, numeralScript, numeralStart, ones, List.forall_mem_append]
  exact ⟨⟨⟨⟨by decide, repeated (by decide), by decide⟩, repeated (by decide)⟩, by decide⟩, by decide⟩

theorem isTrimmed_numeralScript (digits : Nat) : (numeralScript digits).IsTrimmed := by
  constructor
  · intro c head
    rw [numeralScript, List.append_assoc, List.head?_append_of_ne_nil _ (by decide)] at head
    cases head
    decide
  · intro c last
    rw [numeralScript, List.getLast?_append_of_ne_nil _ (by decide)] at last
    cases last
    decide

theorem trim_numeralSource (digits : Nat) : Text.trim (numeralSource digits) = numeralScript digits :=
  (isTrimmed_numeralScript digits).trim_append (by decide)

theorem plain_numeralSource (digits : Nat) : ∀ c ∈ numeralSource digits, ¬IsModuleLetter c := by
  have plain : ∀ c ∈ numeralCharacters, ¬IsModuleLetter c := by decide
  exact fun c member => plain c (mem_numeralCharacters c member)

theorem toScript_numeralSource (digits : Nat) : toScript (numeralSource digits) = numeralScript digits := by
  have absent : ¬("\n\n\n" : Text) <:+: numeralScript digits := by
    intro occurs
    have three : List.count ('\n' : CodePoint) (Text.ofString "\n\n\n") = 3 := by decide
    have start : List.count ('\n' : CodePoint) numeralStart = 1 := by
      rw [numeralStart, List.count_append, List.count_append, List.count_replicate]
      decide
    have stop : List.count ('\n' : CodePoint) (Text.ofString " \x7d") = 0 := by decide
    have none_ : List.count ('\n' : CodePoint) (ones digits) = 0 :=
      List.count_eq_zero.mpr fun member => absurd (List.eq_of_mem_replicate member) (by decide)
    have le := occurs.sublist.count_le ('\n' : CodePoint)
    rw [numeralScript, List.count_append, List.count_append] at le
    omega
  rw [← trim_numeralSource] at absent
  rw [toScript_eq_trim (plain_numeralSource digits) absent, trim_numeralSource]

theorem length_numeralScript (digits : Nat) : (numeralScript digits).length = 119 + digits := by
  have start := length_numeralStart
  have stop : (Text.ofString " \x7d").length = 2 := by decide
  have middle : (ones digits).length = digits := List.length_replicate
  rw [numeralScript, List.length_append, List.length_append]
  omega

theorem refusal?_numeralSource {digits : Nat} (short : digits ≤ 400000) :
    refusal? {} (numeralSource digits) = none := by
  have length : (numeralSource digits).length = 120 + digits := by
    rw [numeralSource, List.length_append, length_numeralScript, show (Text.ofString "\n").length = 1 by decide]
    omega
  have filled : (numeralSource digits).isEmpty = false :=
    List.isEmpty_eq_false_iff.mpr (List.ne_nil_of_length_pos (by omega))
  have paired : unpairedLine? (numeralSource digits) = none := by
    have all : ∀ c ∈ numeralCharacters, c.isUnpaired = false := by decide
    have none_ : (numeralSource digits).any CodePoint.isUnpaired = false :=
      List.any_eq_false.mpr fun c member => ne_true_of_eq_false (all c (mem_numeralCharacters c member))
    rw [unpairedLine?, none_, if_neg Bool.false_ne_true]
  rw [refusal?, filled, if_neg Bool.false_ne_true, length, trim_numeralSource, length_numeralScript, paired,
    foreignTargets_eq_nil (plain_numeralSource digits)]
  rw [if_neg (by simp only; omega), if_neg (by simp only; omega)]
  rfl

/-- An enumeration with too long a number is read and then given up, and nobody has provided for that. -/
theorem compile_numeralSource {digits : Nat} (long : Decimal.maxDigits < digits) (short : digits ≤ 400000)
    (shallow : ¬depth (numeralTree digits) > maxDepth)
    (parsed : parse (numeralScript digits) = ⟨(numeralScript digits).toArray, numeralTree digits⟩) :
    compile {} (numeralSource digits) = .error (.unforeseen (.longNumber digits)) := by
  have failed : transpile (numeralScript digits) = .error (.longNumber digits) := by
    rw [transpile, parsed]
    dsimp only
    rw [if_neg shallow, failure_numeralTree long]
  rw [compile, refusal?_numeralSource short]
  dsimp only
  rw [compileAccepted, toScript_numeralSource, failed]

/-- The number of an enumeration has too many digits, or a limit has too many of them to be named. -/
theorem compile_unforeseen :
    (parse (numeralScript 4301) = ⟨(numeralScript 4301).toArray, numeralTree 4301⟩ →
      ∃ e, compile {} (numeralSource 4301) = .error e ∧ e.status? = none) ∧
      ∃ e, compile boundlessLimits "x" = .error e ∧ e.status? = none := by
  constructor
  · intro parsed
    exact ⟨_, compile_numeralSource (by decide) (by decide) (by decide +kernel) parsed, rfl⟩
  · have exceeded : ((Text.ofString "x").length : Int) > boundlessLimits.most := by decide +kernel
    have long : firstUnwritten ≤ (boundlessLimits.most.fdiv 1000).natAbs := by decide +kernel
    exact ⟨_, compile_of_exceeded (by decide) exceeded long, rfl⟩

end Compile

end LessonService.Script
