import LessonService.Tsx.Node
import Mathlib.Data.List.Pairwise

namespace LessonService.Tsx.Node

/-- What holds of a node as soon as it holds of its children holds of every node. -/
theorem induction {motive : Node → Prop} (step : ∀ i below, (∀ c ∈ below, motive c) → motive (.mk i below)) :
    ∀ n, motive n
  | .mk i below => step i below fun c _ => induction step c

theorem mem_preorderAll {m : Node} {ns : List Node} : m ∈ preorderAll ns ↔ ∃ c ∈ ns, m ∈ c.preorder := by
  induction ns with
  | nil => simp [preorderAll]
  | cons n ns ih => simp [preorderAll, ih]

theorem mem_preorder {m : Node} {i : NodeInfo} {below : List Node} :
    m ∈ preorder (.mk i below) ↔ m = .mk i below ∨ ∃ c ∈ below, m ∈ c.preorder := by
  rw [preorder, List.mem_cons, mem_preorderAll]

theorem mem_preorder_self (n : Node) : n ∈ n.preorder := by
  cases n
  exact mem_preorder.mpr (.inl rfl)

theorem mem_preorder_of_child {m c : Node} {i : NodeInfo} {below : List Node} (child : c ∈ below)
    (member : m ∈ c.preorder) : m ∈ preorder (.mk i below) :=
  mem_preorder.mpr (.inr ⟨c, child, member⟩)

/-- Whether a position is in the span of a node. -/
def covers (n : Node) (p : Nat) : Bool := n.start ≤ p && p < n.stop

theorem covers_iff {n : Node} {p : Nat} : n.covers p = true ↔ n.start ≤ p ∧ p < n.stop := by
  simp [covers]

theorem covers_eq_false_iff {n : Node} {p : Nat} : n.covers p = false ↔ p < n.start ∨ n.stop ≤ p := by
  rw [Bool.eq_false_iff, Ne, covers_iff]
  omega

/-- The children of a node stand within its span, one after the other. -/
structure HasOrderedSpans (n : Node) : Prop where
  start_le_stop : n.start ≤ n.stop
  nested : ∀ c ∈ n.children, n.start ≤ c.start ∧ c.stop ≤ n.stop
  ordered : n.children.Pairwise fun a b => a.stop ≤ b.start

/-- The children of every node of a tree stand within its span, one after the other. -/
def IsLaidOut (root : Node) : Prop := ∀ n ∈ root.preorder, n.HasOrderedSpans

instance (n : Node) : Decidable n.HasOrderedSpans :=
  decidable_of_iff (n.start ≤ n.stop ∧ (∀ c ∈ n.children, n.start ≤ c.start ∧ c.stop ≤ n.stop)
      ∧ n.children.Pairwise fun a b => a.stop ≤ b.start)
    ⟨fun ⟨bound, nested, ordered⟩ => ⟨bound, nested, ordered⟩,
      fun ⟨bound, nested, ordered⟩ => ⟨bound, nested, ordered⟩⟩

instance (root : Node) : Decidable root.IsLaidOut := inferInstanceAs (Decidable (∀ n ∈ root.preorder, _))

theorem IsLaidOut.hasOrderedSpans {root : Node} (laid : root.IsLaidOut) : root.HasOrderedSpans :=
  laid root (mem_preorder_self root)

theorem IsLaidOut.child {i : NodeInfo} {below : List Node} {c : Node} (laid : IsLaidOut (.mk i below))
    (child : c ∈ below) : c.IsLaidOut :=
  fun m member => laid m (mem_preorder_of_child child member)

theorem HasOrderedSpans.covers_of_child {i : NodeInfo} {below : List Node} {c : Node} {p : Nat}
    (spans : HasOrderedSpans (.mk i below)) (child : c ∈ below) (covered : c.covers p) :
    covers (.mk i below) p := by
  have nested := spans.nested c child
  rw [covers_iff] at covered ⊢
  omega

/-- A node covers whatever a node below it covers. -/
theorem IsLaidOut.covers_of_mem {root m : Node} {p : Nat} (laid : root.IsLaidOut) (member : m ∈ root.preorder)
    (covered : m.covers p) : root.covers p := by
  induction root using induction with
  | step i below ih =>
    rcases mem_preorder.mp member with rfl | ⟨c, child, member⟩
    · exact covered
    · exact laid.hasOrderedSpans.covers_of_child child (ih c child (laid.child child) member)

/-- No position is covered by two children. -/
theorem covers_eq_false_of_pairwise {before after : List Node} {c d : Node} {p : Nat}
    (ordered : (before ++ c :: after).Pairwise fun a b => a.stop ≤ b.start) (covered : c.covers p)
    (other : d ∈ before ∨ d ∈ after) : d.covers p = false := by
  rw [List.pairwise_append, List.pairwise_cons] at ordered
  rw [covers_iff] at covered
  rw [covers_eq_false_iff]
  rcases other with earlier | later
  · have := ordered.2.2 d earlier c List.mem_cons_self
    omega
  · have := ordered.2.1.1 d later
    omega

theorem IsLaidOut.of_mem {root m : Node} (laid : root.IsLaidOut) (member : m ∈ root.preorder) : m.IsLaidOut := by
  induction root using induction with
  | step i below ih =>
    rcases mem_preorder.mp member with rfl | ⟨c, child, member⟩
    · exact laid
    · exact ih c child (laid.child child) member

/-- What is below a node stands within its span. -/
theorem IsLaidOut.within_of_mem {root m : Node} (laid : root.IsLaidOut) (member : m ∈ root.preorder) :
    root.start ≤ m.start ∧ m.stop ≤ root.stop := by
  induction root using induction with
  | step i below ih =>
    rcases mem_preorder.mp member with rfl | ⟨c, child, member⟩
    · exact ⟨Nat.le_refl _, Nat.le_refl _⟩
    · have inner := ih c child (laid.child child) member
      have outer := laid.hasOrderedSpans.nested c child
      omega

/-- A position is covered by one child. -/
theorem IsLaidOut.eq_of_covers {i : NodeInfo} {below : List Node} {c d : Node} {p : Nat}
    (laid : IsLaidOut (.mk i below)) (child : c ∈ below) (covered : c.covers p) (other : d ∈ below)
    (also : d.covers p) : d = c := by
  obtain ⟨before, after, rfl⟩ := List.append_of_mem child
  have apart (place : d ∈ before ∨ d ∈ after) : d = c := by
    rw [covers_eq_false_of_pairwise laid.hasOrderedSpans.ordered covered place] at also
    cases also
  rw [List.mem_append, List.mem_cons] at other
  rcases other with earlier | same | later
  · exact apart (.inl earlier)
  · exact same
  · exact apart (.inr later)

end LessonService.Tsx.Node
