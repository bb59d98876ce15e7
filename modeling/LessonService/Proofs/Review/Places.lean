import LessonService.Proofs.Tsx.Spans
import LessonService.Review.DeclarationOrder

namespace LessonService.Review

open Tsx

namespace Located

/-- A node and the nodes around it, from the inside out. -/
def path (l : Located) : List Node := l.node :: l.around

/-- One place is another or lies below it. -/
def IsWithin (inner outer : Located) : Prop := outer.path <:+ inner.path

variable {l m k : Located}

theorem eq_of_path (same : l.path = m.path) : l = m := by
  obtain ⟨n, a⟩ := l
  obtain ⟨n', a'⟩ := m
  obtain ⟨rfl, rfl⟩ := List.cons.inj same
  rfl

theorem IsWithin.rfl : l.IsWithin l := List.suffix_rfl

theorem IsWithin.trans (first : l.IsWithin m) (second : m.IsWithin k) : l.IsWithin k := List.IsSuffix.trans second first

theorem IsWithin.antisymm (first : l.IsWithin m) (second : m.IsWithin l) : l = m :=
  eq_of_path (second.eq_of_length_le first.length_le)

/-- The places that one place lies within lie within one another. -/
theorem IsWithin.total (first : l.IsWithin m) (second : l.IsWithin k) : m.IsWithin k ∨ k.IsWithin m :=
  List.suffix_or_suffix_of_suffix second first

theorem isWithin_iff : l.IsWithin m ↔ l = m ∨ m.path <:+ l.around := by
  have parted : l.IsWithin m ↔ m.path = l.path ∨ m.path <:+ l.around := List.suffix_cons_iff
  rw [parted]
  exact or_congr_left ⟨fun same => eq_of_path same.symm, fun same => congrArg path same.symm⟩

theorem isWithin_of_around (below : m.path <:+ l.around) : l.IsWithin m := isWithin_iff.mpr (.inr below)

end Located

section Locate

variable {a : List Node} {n root : Node} {l m : Located}

theorem mem_locateAll {ns : List Node} : l ∈ locateAll a ns ↔ ∃ c ∈ ns, l ∈ locate a c := by
  induction ns with
  | nil => simp [locateAll]
  | cons n ns ih => simp [locateAll, ih]

theorem mem_locate {i : NodeInfo} {below : List Node} :
    l ∈ locate a (.mk i below) ↔ l = ⟨.mk i below, a⟩ ∨ ∃ c ∈ below, l ∈ locate (.mk i below :: a) c := by
  rw [locate, List.mem_cons, mem_locateAll]

theorem mem_locate_self (a : List Node) (n : Node) : ⟨n, a⟩ ∈ locate a n := by
  cases n
  exact mem_locate.mpr (.inl rfl)

theorem map_node_locate (a : List Node) (n : Node) : (locate a n).map Located.node = n.preorder := by
  induction n using Node.induction generalizing a with
  | step i below ih =>
    have all (ns : List Node) (among : ns ⊆ below) : (locateAll (.mk i below :: a) ns).map Located.node
        = Node.preorderAll ns := by
      induction ns with
      | nil => rfl
      | cons c ns ihs =>
        rw [List.cons_subset] at among
        rw [locateAll, List.map_append, ih c among.1, ihs among.2, Node.preorderAll]
    rw [locate, List.map_cons, all below (List.Subset.refl _), Node.preorder]

theorem node_mem_preorder (member : l ∈ locate a n) : l.node ∈ n.preorder := by
  rw [← map_node_locate a n]
  exact List.mem_map_of_mem member

/-- The places of a tree lie within its root. -/
theorem isWithin_of_mem (member : l ∈ locate a n) : l.IsWithin ⟨n, a⟩ := by
  induction n using Node.induction generalizing a with
  | step i below ih =>
    rcases mem_locate.mp member with rfl | ⟨c, child, member⟩
    · exact .rfl
    · exact (ih c child member).trans (List.suffix_cons c _)

/-- A place that another lies within is a place of the tree, and the other is a place of its tree. -/
theorem mem_locate_of_isWithin (member : l ∈ locate a n) (within : l.IsWithin m) (inside : m.IsWithin ⟨n, a⟩) :
    m ∈ locate a n ∧ l ∈ locate m.around m.node := by
  induction n using Node.induction generalizing a with
  | step i below ih =>
    rcases mem_locate.mp member with rfl | ⟨c, child, deeper⟩
    · obtain rfl := within.antisymm inside
      exact ⟨member, member⟩
    · rcases (isWithin_of_mem deeper).total within with above | under
      · -- The place is above the child, so that it is the root itself.
        rcases Located.isWithin_iff.mp above with rfl | outer
        · exact ⟨mem_locate.mpr (.inr ⟨c, child, mem_locate_self _ c⟩), deeper⟩
        · obtain rfl := Located.IsWithin.antisymm inside outer
          exact ⟨mem_locate_self a _, member⟩
      · obtain ⟨here, below⟩ := ih c child deeper under
        exact ⟨mem_locate.mpr (.inr ⟨c, child, here⟩), below⟩

theorem mem_of_isWithin (member : l ∈ locate [] root) (within : l.IsWithin m) :
    m ∈ locate [] root ∧ l ∈ locate m.around m.node := by
  refine mem_locate_of_isWithin member within ?_
  rcases (isWithin_of_mem member).total within with above | under
  · -- Nothing is above the root.
    rcases Located.isWithin_iff.mp above with rfl | outer
    · exact .rfl
    · exact absurd (List.suffix_nil.mp outer) (List.cons_ne_nil _ _)
  · exact under

/-- A child of the node at a place is a place itself. -/
theorem child_mem_locate (member : l ∈ locate a n) {c : Node} (child : c ∈ l.node.children) :
    ⟨c, l.path⟩ ∈ locate a n := by
  induction n using Node.induction generalizing a with
  | step i below ih =>
    rcases mem_locate.mp member with rfl | ⟨d, other, deeper⟩
    · exact mem_locate.mpr (.inr ⟨c, child, mem_locate_self _ c⟩)
    · exact mem_locate.mpr (.inr ⟨d, other, ih d other deeper⟩)

/-- What lies within a place stands within its span. -/
theorem span_of_isWithin (laid : root.IsLaidOut) (member : l ∈ locate [] root) (within : l.IsWithin m) :
    m.node.start ≤ l.node.start ∧ l.node.stop ≤ m.node.stop := by
  obtain ⟨outer, inner⟩ := mem_of_isWithin member within
  exact (laid.of_mem (node_mem_preorder outer)).within_of_mem (node_mem_preorder inner)

/-- Of two places that cover a position, one lies within the other. -/
theorem isWithin_or_isWithin (laid : n.IsLaidOut) (first : l ∈ locate a n) (second : m ∈ locate a n) {p : Nat}
    (covered : l.node.covers p) (also : m.node.covers p) : l.IsWithin m ∨ m.IsWithin l := by
  induction n using Node.induction generalizing a with
  | step i below ih =>
    rcases mem_locate.mp first with rfl | ⟨c, child, inner⟩
    · exact .inr (isWithin_of_mem second)
    · rcases mem_locate.mp second with rfl | ⟨d, other, innerToo⟩
      · exact .inl (isWithin_of_mem first)
      · have byChild := (laid.child child).covers_of_mem (node_mem_preorder inner) covered
        have byOther := (laid.child other).covers_of_mem (node_mem_preorder innerToo) also
        obtain rfl := laid.eq_of_covers child byChild other byOther
        exact ih d child (laid.child child) inner innerToo

end Locate

end LessonService.Review
