import LessonService.Proofs.Text.Occurrence
import LessonService.Proofs.Tsx.Spans
import LessonService.Script.Emission

namespace LessonService.Script

open Tsx

/-- The nodes that are written anew instead of being copied. -/
def rewrittenKinds : List String := ["enum_declaration", "jsx_element", "jsx_self_closing_element"]

/-- Whether a node of itself loses a position of its span. -/
def loses (n : Node) (p : Nat) : Bool :=
  n.covers p && (erasedKinds.contains n.kind
    || (unwrappedKinds.contains n.kind && !n.namedChildren.head?.any fun c => c.covers p)
    || n.children.any fun c => isErasedToken n.kind c && c.covers p)

/-- Whether some node of a tree loses a position. -/
def isLost (root : Node) (p : Nat) : Bool := root.preorder.any fun n => loses n p

/-- Whether a node keeps all of its span. -/
def isWhole (n : Node) : Bool :=
  !erasedKinds.contains n.kind && !unwrappedKinds.contains n.kind && !n.children.any (isErasedToken n.kind)

/-- The characters between two positions, without those that are lost. -/
def remaining (cs : Characters) (lost : Nat → Bool) (start stop : Nat) : Text :=
  ((List.range' start (stop - start)).filter fun p => !lost p).filterMap fun p => cs[p]?

section Remaining

variable {cs : Characters} {lost lost' : Nat → Bool} {start middle stop : Nat}

theorem remaining_append (first : start ≤ middle) (second : middle ≤ stop) :
    remaining cs lost start stop = remaining cs lost start middle ++ remaining cs lost middle stop := by
  have split : List.range' start (stop - start)
      = List.range' start (middle - start) ++ List.range' middle (stop - middle) := by
    have whole := List.range'_append_1 (s := start) (m := middle - start) (n := stop - middle)
    rw [show start + (middle - start) = middle by omega,
      show middle - start + (stop - middle) = stop - start by omega] at whole
    exact whole.symm
  rw [remaining, split, List.filter_append, List.filterMap_append]
  rfl

theorem remaining_congr (same : ∀ p, start ≤ p → p < stop → lost p = lost' p) :
    remaining cs lost start stop = remaining cs lost' start stop := by
  unfold remaining
  congr 1
  apply List.filter_congr
  intro p member
  rw [List.mem_range'_1] at member
  rw [same p member.1 (by omega)]

theorem remaining_eq_nil (all : ∀ p, start ≤ p → p < stop → lost p = true) :
    remaining cs lost start stop = [] := by
  have same : remaining cs lost start stop = remaining cs (fun _ => true) start stop := remaining_congr all
  rw [same]
  simp [remaining]

theorem filterMap_range' (l : List CodePoint) (start n : Nat) :
    ((List.range' start n).filterMap fun p => l[p]?) = (l.drop start).take n := by
  induction n generalizing start with
  | zero => simp
  | succ n ih =>
    rw [List.range'_succ]
    by_cases within : start < l.length
    · rw [List.drop_eq_getElem_cons within, List.filterMap_cons, List.getElem?_eq_getElem within, ih,
        List.take_succ_cons]
    · rw [List.filterMap_cons, List.getElem?_eq_none (by omega), ih, List.drop_of_length_le (by omega),
        List.drop_of_length_le (by omega)]
      simp

theorem remaining_eq_slice (none : ∀ p, start ≤ p → p < stop → lost p = false) :
    remaining cs lost start stop = slice cs start stop := by
  have same : remaining cs lost start stop = remaining cs (fun _ => false) start stop := remaining_congr none
  rw [same, slice, Array.toList_extract, List.extract_eq_take_drop,
    ← filterMap_range', remaining, List.filter_eq_self.mpr (by simp)]
  simp

end Remaining

section Lost

variable {i : NodeInfo} {below : List Node} {n c : Node} {p : Nat}

theorem isLost_mk : isLost (.mk i below) p = (loses (.mk i below) p || below.any fun c => isLost c p) := by
  rw [Bool.eq_iff_iff]
  simp only [isLost, Bool.or_eq_true, List.any_eq_true, Node.mem_preorder]
  constructor
  · rintro ⟨m, rfl | ⟨c, child, member⟩, lost⟩
    · exact .inl lost
    · exact .inr ⟨c, child, m, member, lost⟩
  · rintro (lost | ⟨c, child, m, member, lost⟩)
    · exact ⟨_, .inl rfl, lost⟩
    · exact ⟨m, .inr ⟨c, child, member⟩, lost⟩

/-- A tree loses nothing outside its span. -/
theorem covers_of_isLost (laid : n.IsLaidOut) (lost : isLost n p = true) : n.covers p := by
  obtain ⟨m, member, here⟩ := List.any_eq_true.mp lost
  exact laid.covers_of_mem member (by simp only [loses, Bool.and_eq_true] at here; exact here.1)

theorem isLost_eq_false (laid : n.IsLaidOut) (outside : n.covers p = false) : isLost n p = false := by
  rw [Bool.eq_false_iff]
  intro lost
  simp [covers_of_isLost laid lost] at outside

/-- What the children of a node lose of it, themselves or because they are tokens that are left out. -/
def lostAmong (owner : String) (children : List Node) (p : Nat) : Bool :=
  children.any fun c => (isErasedToken owner c && c.covers p) || isLost c p

theorem lostAmong_cons {owner : String} {ns : List Node} :
    lostAmong owner (n :: ns) p = ((isErasedToken owner n && n.covers p) || isLost n p || lostAmong owner ns p) := by
  rw [lostAmong, List.any_cons, ← lostAmong]

/-- Children lose nothing before the first of them. -/
theorem lostAmong_eq_false {owner : String} {ns : List Node} (laid : ∀ c ∈ ns, c.IsLaidOut)
    (later : ∀ c ∈ ns, p < c.start) : lostAmong owner ns p = false := by
  rw [lostAmong, List.any_eq_false]
  intro c member
  have outside : c.covers p = false := Node.covers_eq_false_iff.mpr (.inl (later c member))
  simp [outside, isLost_eq_false (laid c member) outside]

theorem erasedTokens_of_unwrapped {owner : String} (unwrapped : unwrappedKinds.contains owner = true) :
    erasedTokens owner = [] := by
  simp only [unwrappedKinds, List.contains_cons, Bool.or_eq_true, beq_iff_eq] at unwrapped
  rcases unwrapped with rfl | rfl | rfl | none
  · rfl
  · rfl
  · rfl
  · simp at none

theorem isLost_of_erased (erased : erasedKinds.contains i.kind = true) (covered : Node.covers (.mk i below) p) :
    isLost (.mk i below) p = true := by
  have here : erasedKinds.contains (Node.mk i below).kind = true := erased
  simp only [isLost_mk, loses, covered, here, Bool.true_or, Bool.and_true]

theorem isLost_of_copied (spans : Node.HasOrderedSpans (.mk i below))
    (kept : erasedKinds.contains i.kind = false) (whole : unwrappedKinds.contains i.kind = false) :
    isLost (.mk i below) p = lostAmong i.kind below p := by
  have tokens : loses (.mk i below) p = below.any fun c => isErasedToken i.kind c && c.covers p := by
    cases covered : Node.covers (.mk i below) p with
    | false =>
      rw [loses, covered, Bool.false_and, eq_comm, List.any_eq_false]
      intro c child token
      rw [Bool.and_eq_true] at token
      simp [spans.covers_of_child child token.2] at covered
    | true =>
      have notErased : erasedKinds.contains (Node.mk i below).kind = false := kept
      have notUnwrapped : unwrappedKinds.contains (Node.mk i below).kind = false := whole
      rw [loses, covered, notErased, notUnwrapped, Bool.true_and, Bool.false_and, Bool.false_or, Bool.false_or]
      rfl
  rw [isLost_mk, tokens, lostAmong, Bool.eq_iff_iff]
  simp only [Bool.or_eq_true, List.any_eq_true, ← exists_or, ← and_or_left]

/-- A node of which only the expression inside is kept loses what stands outside of it. -/
theorem isLost_of_outside (unwrapped : unwrappedKinds.contains i.kind = true)
    (covered : Node.covers (.mk i below) p)
    (outside : ∀ c, (Node.mk i below).namedChildren.head? = some c → c.covers p = false) :
    isLost (.mk i below) p = true := by
  have here : unwrappedKinds.contains (Node.mk i below).kind = true := unwrapped
  have none : ((Node.mk i below).namedChildren.head?.any fun c => c.covers p) = false := by
    rw [Option.any_eq_false]
    intro c inner
    simp [outside c inner]
  simp only [isLost_mk, loses, covered, here, none, Bool.not_false, Bool.and_true, Bool.or_true, Bool.true_or]

/-- Where a child covers a position, no other child loses it. -/
theorem any_isLost_of_covers (laid : Node.IsLaidOut (.mk i below)) (child : c ∈ below) (covered : c.covers p) :
    (below.any fun d => isLost d p) = isLost c p := by
  obtain ⟨before, after, rfl⟩ := List.append_of_mem child
  have others : ∀ d, d ∈ before ∨ d ∈ after → ¬isLost d p = true := by
    intro d other
    have among : d ∈ before ++ c :: after := by
      rcases other with earlier | later
      · exact List.mem_append_left _ earlier
      · exact List.mem_append_right _ (List.mem_cons_of_mem _ later)
    have outside := Node.covers_eq_false_of_pairwise laid.hasOrderedSpans.ordered covered other
    exact Bool.eq_false_iff.mp (isLost_eq_false (laid.child among) outside)
  have earlier : (before.any fun d => isLost d p) = false := List.any_eq_false.mpr fun d member => others d (.inl member)
  have later : (after.any fun d => isLost d p) = false := List.any_eq_false.mpr fun d member => others d (.inr member)
  rw [List.any_append, List.any_cons, earlier, later, Bool.false_or, Bool.or_false]

/-- Inside of it, it loses what the expression loses. -/
theorem isLost_of_inside (laid : Node.IsLaidOut (.mk i below)) (kept : erasedKinds.contains i.kind = false)
    (unwrapped : unwrappedKinds.contains i.kind = true)
    (inner : (Node.mk i below).namedChildren.head? = some c) (covered : c.covers p) :
    isLost (.mk i below) p = isLost c p := by
  have child : c ∈ below := (List.mem_filter.mp (List.mem_of_head? inner)).1
  have own : loses (.mk i below) p = false := by
    have notErased : erasedKinds.contains (Node.mk i below).kind = false := kept
    have noTokens : erasedTokens (Node.mk i below).kind = [] := erasedTokens_of_unwrapped unwrapped
    simp only [loses, notErased, inner, Option.any_some, covered, isErasedToken, noTokens]
    simp
  rw [isLost_mk, own, Bool.false_or, any_isLost_of_covers laid child covered]

end Lost

/-- A piece of the script is the source between two positions without what is lost, and nothing failed. -/
structure IsRemaining (cs : Characters) (lost : Nat → Bool) (start stop : Nat) (f : Fragment) : Prop where
  code : f.code = remaining cs lost start stop
  failure : f.failure = none

section Written

variable {cs : Characters} {lost lost' : Nat → Bool} {start middle stop : Nat} {f g : Fragment}

theorem IsRemaining.append (first : IsRemaining cs lost start middle f) (second : IsRemaining cs lost middle stop g)
    (before : start ≤ middle) (after : middle ≤ stop) : IsRemaining cs lost start stop (f ++ g) where
  code := by
    rw [remaining_append before after, ← first.code, ← second.code]
    rfl
  failure := by
    have either : (f ++ g).failure = f.failure.or g.failure := rfl
    rw [either, first.failure, second.failure]
    rfl

theorem IsRemaining.congr (written : IsRemaining cs lost start stop f)
    (same : ∀ p, start ≤ p → p < stop → lost' p = lost p) : IsRemaining cs lost' start stop f where
  code := by rw [written.code, remaining_congr same]
  failure := written.failure

/-- Nothing is written for what is lost around a piece. -/
theorem IsRemaining.widen {inner outer : Nat} (written : IsRemaining cs lost' inner outer f)
    (first : start ≤ inner) (second : inner ≤ outer) (third : outer ≤ stop)
    (within : ∀ p, inner ≤ p → p < outer → lost p = lost' p)
    (outside : ∀ p, start ≤ p → p < stop → p < inner ∨ outer ≤ p → lost p = true) :
    IsRemaining cs lost start stop f where
  code := by
    rw [remaining_append first (Nat.le_trans second third), remaining_append second third,
      remaining_eq_nil fun p lower upper => outside p lower (by omega) (.inl upper),
      remaining_eq_nil fun p lower upper => outside p (by omega) upper (.inr lower),
      remaining_congr within, written.code, List.nil_append, List.append_nil]
  failure := written.failure

theorem isRemaining_nil (all : ∀ p, start ≤ p → p < stop → lost p = true) :
    IsRemaining cs lost start stop (Fragment.ofText []) :=
  ⟨(remaining_eq_nil all).symm, rfl⟩

theorem isRemaining_slice (none : ∀ p, start ≤ p → p < stop → lost p = false) :
    IsRemaining cs lost start stop (Fragment.ofText (slice cs start stop)) :=
  ⟨(remaining_eq_slice none).symm, rfl⟩

theorem isRemaining_noted {i : NodeInfo} (written : IsRemaining cs lost start stop f) :
    IsRemaining cs lost start stop (noted cs i f) := by
  unfold noted
  split
  · exact ⟨written.code, written.failure⟩
  · exact written

theorem emitTree_node (cs : Characters) (n : Node) : (emitTree cs n).node = n := by
  cases n
  rfl

theorem emitTrees_eq_map (cs : Characters) (ns : List Node) : emitTrees cs ns = ns.map (emitTree cs) := by
  induction ns with
  | nil => rfl
  | cons n ns ih => rw [emitTrees, ih, List.map_cons]

theorem namedChildren_emitTrees (cs : Characters) (i : NodeInfo) (below : List Node) (f : Fragment) :
    (Emitted.mk (.mk i below) f (emitTrees cs below)).namedChildren
      = (Node.mk i below).namedChildren.map (emitTree cs) := by
  rw [Emitted.namedChildren, Emitted.children, emitTrees_eq_map, List.filter_map]
  congr 1
  apply List.filter_congr
  intro c _
  rw [Function.comp_apply, emitTree_node]

/-- Weaving the scripts of children leaves out what they lose among them. -/
theorem isRemaining_weave {owner : String} {ns : List Node}
    (ordered : ns.Pairwise fun a b => a.stop ≤ b.start) (laid : ∀ c ∈ ns, c.IsLaidOut)
    (nested : ∀ c ∈ ns, start ≤ c.start ∧ c.stop ≤ stop) (bound : start ≤ stop)
    (written : ∀ c ∈ ns, IsRemaining cs (isLost c) c.start c.stop (emitTree cs c).fragment) :
    IsRemaining cs (lostAmong owner ns) start stop (weave cs owner stop start (emitTrees cs ns)) := by
  induction ns generalizing start with
  | nil => exact isRemaining_slice fun _ _ _ => rfl
  | cons n ns ih =>
    rw [List.pairwise_cons] at ordered
    have here := nested n List.mem_cons_self
    have spans := (laid n List.mem_cons_self).hasOrderedSpans.start_le_stop
    have laidRest : ∀ c ∈ ns, c.IsLaidOut := fun c member => laid c (List.mem_cons_of_mem _ member)
    have rest := ih ordered.2 laidRest
      (fun c member => ⟨ordered.1 c member, (nested c (List.mem_cons_of_mem _ member)).2⟩) here.2
      fun c member => written c (List.mem_cons_of_mem _ member)
    rw [emitTrees, weave, emitTree_node]
    have gap : IsRemaining cs (lostAmong owner (n :: ns)) start n.start
        (Fragment.ofText (slice cs start n.start)) := by
      refine isRemaining_slice fun p _ before => lostAmong_eq_false laid fun c member => ?_
      rcases List.mem_cons.mp member with rfl | later
      · exact before
      · have := ordered.1 c later
        omega
    have inside : ∀ p, n.start ≤ p → p < n.stop →
        lostAmong owner (n :: ns) p = (isErasedToken owner n || isLost n p) := by
      intro p lower upper
      have none : lostAmong owner ns p = false :=
        lostAmong_eq_false laidRest fun c member => Nat.lt_of_lt_of_le upper (ordered.1 c member)
      rw [lostAmong_cons, none, Node.covers_iff.mpr ⟨lower, upper⟩, Bool.and_true, Bool.or_false]
    have child : IsRemaining cs (lostAmong owner (n :: ns)) n.start n.stop
        (if isErasedToken owner n then Fragment.ofText [] else (emitTree cs n).fragment) := by
      split
      · rename_i token
        exact isRemaining_nil fun p lower upper => by rw [inside p lower upper, token, Bool.true_or]
      · rename_i token
        refine (written n List.mem_cons_self).congr fun p lower upper => ?_
        rw [inside p lower upper, Bool.eq_false_iff.mpr token, Bool.false_or]
    have after : ∀ p, n.stop ≤ p → p < stop → lostAmong owner (n :: ns) p = lostAmong owner ns p := by
      intro p lower _
      have outside : n.covers p = false := Node.covers_eq_false_iff.mpr (.inr lower)
      rw [lostAmong_cons, outside, isLost_eq_false (laid n List.mem_cons_self) outside, Bool.and_false,
        Bool.false_or, Bool.false_or]
    exact (gap.append child here.1 spans).append (rest.congr after) (Nat.le_trans here.1 spans) here.2

theorem fragmentOf_erased {i : NodeInfo} {below : List Node} {children : List Emitted}
    (erased : erasedKinds.contains i.kind = true) : fragmentOf cs i below children = Fragment.ofText [] := by
  rw [fragmentOf, if_pos erased]

theorem fragmentOf_unwrapped {i : NodeInfo} {below : List Node} (kept : erasedKinds.contains i.kind = false)
    (unwrapped : unwrappedKinds.contains i.kind = true) :
    fragmentOf cs i below (emitTrees cs below)
      = (Node.mk i below).namedChildren.head?.elim (Fragment.ofText []) fun c => (emitTree cs c).fragment := by
  rw [fragmentOf, if_neg (by rw [kept]; exact Bool.false_ne_true), if_pos unwrapped, namedChildren_emitTrees,
    List.head?_map]
  cases (Node.mk i below).namedChildren.head? with
  | none => rfl
  | some c => rfl

theorem fragmentOf_copied {i : NodeInfo} {below : List Node} {children : List Emitted}
    (kept : erasedKinds.contains i.kind = false) (whole : unwrappedKinds.contains i.kind = false)
    (copied : i.kind ∉ rewrittenKinds) : fragmentOf cs i below children = noted cs i (copy cs i children) := by
  simp only [rewrittenKinds, List.mem_cons, List.not_mem_nil, or_false, not_or] at copied
  simp only [fragmentOf, kept, whole, copied, Bool.false_eq_true, if_false, decide_false, Bool.or_self]

/-- Copying a node is weaving its children, also where it has none. -/
theorem copy_eq_weave (i : NodeInfo) (children : List Emitted) :
    copy cs i children = weave cs i.kind i.stop i.start children := by
  cases children with
  | nil => rfl
  | cons e rest => rfl

section Cases

variable {i : NodeInfo} {below : List Node}

theorem isRemaining_erased (erased : erasedKinds.contains i.kind = true) :
    IsRemaining cs (isLost (.mk i below)) i.start i.stop (fragmentOf cs i below (emitTrees cs below)) := by
  rw [fragmentOf_erased erased]
  exact isRemaining_nil fun p lower upper => isLost_of_erased erased (Node.covers_iff.mpr ⟨lower, upper⟩)

theorem isRemaining_unwrapped (laid : Node.IsLaidOut (.mk i below)) (kept : erasedKinds.contains i.kind = false)
    (unwrapped : unwrappedKinds.contains i.kind = true)
    (written : ∀ c ∈ below, IsRemaining cs (isLost c) c.start c.stop (emitTree cs c).fragment) :
    IsRemaining cs (isLost (.mk i below)) i.start i.stop (fragmentOf cs i below (emitTrees cs below)) := by
  have outer {p : Nat} (lower : i.start ≤ p) (upper : p < i.stop) : Node.covers (.mk i below) p :=
    Node.covers_iff.mpr ⟨lower, upper⟩
  rw [fragmentOf_unwrapped kept unwrapped]
  cases inner : (Node.mk i below).namedChildren.head? with
  | none => exact isRemaining_nil fun p lower upper => isLost_of_outside unwrapped (outer lower upper) (by simp [inner])
  | some c =>
    have child : c ∈ below := (List.mem_filter.mp (List.mem_of_head? inner)).1
    have nested := laid.hasOrderedSpans.nested c child
    refine (written c child).widen nested.1 (laid.child child).hasOrderedSpans.start_le_stop nested.2 ?_ ?_
    · exact fun p lower upper => isLost_of_inside laid kept unwrapped inner (Node.covers_iff.mpr ⟨lower, upper⟩)
    · intro p lower upper outside
      refine isLost_of_outside unwrapped (outer lower upper) fun d first => ?_
      obtain rfl : c = d := Option.some.inj (inner.symm.trans first)
      exact Node.covers_eq_false_iff.mpr outside

theorem isRemaining_copied (laid : Node.IsLaidOut (.mk i below)) (kept : erasedKinds.contains i.kind = false)
    (whole : unwrappedKinds.contains i.kind = false) (copied : i.kind ∉ rewrittenKinds)
    (written : ∀ c ∈ below, IsRemaining cs (isLost c) c.start c.stop (emitTree cs c).fragment) :
    IsRemaining cs (isLost (.mk i below)) i.start i.stop (fragmentOf cs i below (emitTrees cs below)) := by
  have spans := laid.hasOrderedSpans
  have woven : IsRemaining cs (lostAmong i.kind below) i.start i.stop
      (weave cs i.kind i.stop i.start (emitTrees cs below)) :=
    isRemaining_weave spans.ordered (fun c child => laid.child child) spans.nested spans.start_le_stop written
  rw [fragmentOf_copied kept whole copied, copy_eq_weave]
  exact isRemaining_noted (woven.congr fun p _ _ => isLost_of_copied spans kept whole)

end Cases

/-- The script of a tree is its source without what its nodes lose. -/
theorem isRemaining_emitTree {root : Node} (laid : root.IsLaidOut)
    (copied : ∀ n ∈ root.preorder, n.kind ∉ rewrittenKinds) :
    IsRemaining cs (isLost root) root.start root.stop (emitTree cs root).fragment := by
  induction root using Node.induction with
  | step i below ih =>
    have written : ∀ c ∈ below, IsRemaining cs (isLost c) c.start c.stop (emitTree cs c).fragment :=
      fun c child => ih c child (laid.child child) fun n member =>
        copied n (Node.mem_preorder_of_child child member)
    cases erased : erasedKinds.contains i.kind with
    | true => exact isRemaining_erased erased
    | false =>
      cases unwrapped : unwrappedKinds.contains i.kind with
      | true => exact isRemaining_unwrapped laid erased unwrapped written
      | false => exact isRemaining_copied laid erased unwrapped (copied _ (Node.mem_preorder_self _)) written

end Written

theorem isLost_of_isWhole {root : Node} {p : Nat} (whole : ∀ n ∈ root.preorder, isWhole n) : isLost root p = false := by
  rw [isLost, List.any_eq_false]
  intro n member
  have kept := whole n member
  simp only [isWhole, Bool.and_eq_true, Bool.not_eq_true', List.any_eq_false] at kept
  obtain ⟨⟨notErased, notUnwrapped⟩, noTokens⟩ := kept
  have none : (n.children.any fun c => isErasedToken n.kind c && c.covers p) = false := by
    rw [List.any_eq_false]
    intro c child token
    rw [Bool.and_eq_true] at token
    exact noTokens c child token.1
  simp only [loses, notErased, notUnwrapped, none, Bool.false_and, Bool.or_self, Bool.and_false]
  exact Bool.false_ne_true

/-- A node without a part to play and without problems. -/
def plainNode (kind : String) (named : Bool) (start stop : Nat) (below : List Node) : Node :=
  .mk ⟨kind, named, none, start, stop, false, false, false⟩ below

/-- A node that plays a part, without problems. -/
def partNode (field kind : String) (start stop : Nat) (below : List Node) : Node :=
  .mk ⟨kind, true, some field, start, stop, false, false, false⟩ below

end LessonService.Script
