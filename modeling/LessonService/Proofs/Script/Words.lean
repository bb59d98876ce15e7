import LessonService.Proofs.Script.Erasure
import LessonService.Proofs.Text.Runs

namespace LessonService.Script

open Tsx Text

mutual

/-- The leaves of a tree that are written, in source order. -/
def keptLeaves : Node → List Node
  | .mk i below =>
    if erasedKinds.contains i.kind then []
    else if unwrappedKinds.contains i.kind then keptOfFirst below
    else if below.isEmpty then [.mk i below]
    else keptAmong i.kind below

/-- Those of the first named node. -/
def keptOfFirst : List Node → List Node
  | [] => []
  | n :: ns => if n.isNamed then keptLeaves n else keptOfFirst ns

def keptAmong (owner : String) : List Node → List Node
  | [] => []
  | n :: ns => (if isErasedToken owner n then [] else keptLeaves n) ++ keptAmong owner ns

end

section Kept

variable {i : NodeInfo} {below : List Node} {n m c : Node} {p : Nat}

theorem keptOfFirst_eq (i : NodeInfo) (below : List Node) :
    keptOfFirst below = (Node.mk i below).namedChildren.head?.elim [] keptLeaves := by
  induction below with
  | nil => rfl
  | cons n ns ih =>
    rw [keptOfFirst, ih]
    cases named : n.isNamed <;> simp [Node.namedChildren, Node.children, named]

theorem mem_keptAmong {owner : String} {ns : List Node} :
    m ∈ keptAmong owner ns ↔ ∃ c ∈ ns, isErasedToken owner c = false ∧ m ∈ keptLeaves c := by
  induction ns with
  | nil => simp [keptAmong]
  | cons n ns ih =>
    rw [keptAmong, List.mem_append, ih, List.exists_mem_cons_iff]
    cases isErasedToken owner n <;> simp

theorem keptLeaves_erased (erased : erasedKinds.contains i.kind = true) : keptLeaves (.mk i below) = [] := by
  rw [keptLeaves, if_pos erased]

theorem keptLeaves_unwrapped (kept : erasedKinds.contains i.kind = false)
    (unwrapped : unwrappedKinds.contains i.kind = true) :
    keptLeaves (.mk i below) = (Node.mk i below).namedChildren.head?.elim [] keptLeaves := by
  rw [keptLeaves, if_neg (Bool.eq_false_iff.mp kept), if_pos unwrapped, keptOfFirst_eq]

theorem keptLeaves_leaf (kept : erasedKinds.contains i.kind = false) (whole : unwrappedKinds.contains i.kind = false) :
    keptLeaves (.mk i []) = [.mk i []] := by
  rw [keptLeaves, if_neg (Bool.eq_false_iff.mp kept), if_neg (Bool.eq_false_iff.mp whole)]
  rfl

theorem keptLeaves_copied (kept : erasedKinds.contains i.kind = false) (whole : unwrappedKinds.contains i.kind = false)
    (inner : below ≠ []) : keptLeaves (.mk i below) = keptAmong i.kind below := by
  rw [keptLeaves, if_neg (Bool.eq_false_iff.mp kept), if_neg (Bool.eq_false_iff.mp whole), if_neg (by simpa using inner)]

/-- A node of a tree whose leaf is kept is a leaf itself, or one of its children keeps it: the first named one of a
node that is unwrapped, or one that is no token to be left out. -/
theorem cases_of_keptLeaves (member : m ∈ keptLeaves (.mk i below)) :
    erasedKinds.contains i.kind = false ∧
      ((unwrappedKinds.contains i.kind = true ∧ ∃ c, (Node.mk i below).namedChildren.head? = some c ∧ m ∈ keptLeaves c) ∨
        unwrappedKinds.contains i.kind = false ∧
          (below = [] ∧ m = .mk i [] ∨ ∃ c ∈ below, isErasedToken i.kind c = false ∧ m ∈ keptLeaves c)) := by
  cases erased : erasedKinds.contains i.kind with
  | true =>
    rw [keptLeaves_erased erased] at member
    cases member
  | false =>
    refine ⟨rfl, ?_⟩
    cases unwrapped : unwrappedKinds.contains i.kind with
    | true =>
      rw [keptLeaves_unwrapped erased unwrapped] at member
      cases first : (Node.mk i below).namedChildren.head? with
      | none =>
        rw [first] at member
        cases member
      | some c =>
        rw [first] at member
        exact .inl ⟨rfl, c, rfl, member⟩
    | false =>
      refine .inr ⟨rfl, ?_⟩
      by_cases inner : below = []
      · subst inner
        rw [keptLeaves_leaf erased unwrapped] at member
        exact .inl ⟨rfl, List.mem_singleton.mp member⟩
      · rw [keptLeaves_copied erased unwrapped inner] at member
        exact .inr (mem_keptAmong.mp member)

theorem child_of_first (first : (Node.mk i below).namedChildren.head? = some c) : c ∈ below :=
  (List.mem_filter.mp (List.mem_of_head? first)).1

theorem mem_preorder_of_keptLeaves (member : m ∈ keptLeaves n) : m ∈ n.preorder := by
  induction n using Node.induction with
  | step i below ih =>
    obtain ⟨-, ⟨-, c, first, member⟩ | ⟨-, ⟨rfl, rfl⟩ | ⟨c, child, -, member⟩⟩⟩ := cases_of_keptLeaves member
    · have child := child_of_first first
      exact Node.mem_preorder_of_child child (ih c child member)
    · exact Node.mem_preorder_self _
    · exact Node.mem_preorder_of_child child (ih c child member)

/-- Nothing of a leaf that is kept is lost. -/
theorem isLost_of_keptLeaves (laid : n.IsLaidOut) (member : m ∈ keptLeaves n) (covered : m.covers p) :
    isLost n p = false := by
  induction n using Node.induction with
  | step i below ih =>
    obtain ⟨kept, ⟨unwrapped, c, first, member⟩ | ⟨whole, inner⟩⟩ := cases_of_keptLeaves member
    · have child := child_of_first first
      have within := (laid.child child).covers_of_mem (mem_preorder_of_keptLeaves member) covered
      rw [isLost_of_inside laid kept unwrapped first within]
      exact ih c child (laid.child child) member
    · rw [isLost_of_copied laid.hasOrderedSpans kept whole]
      rcases inner with ⟨rfl, rfl⟩ | ⟨c, child, token, member⟩
      · rfl
      · have within := (laid.child child).covers_of_mem (mem_preorder_of_keptLeaves member) covered
        rw [lostAmong, List.any_eq_false]
        intro d other lost
        have covers : d.covers p = true := by
          rw [Bool.or_eq_true, Bool.and_eq_true] at lost
          exact lost.elim And.right (covers_of_isLost (laid.child other))
        obtain rfl := laid.eq_of_covers child within other covers
        rw [token, ih d child (laid.child child) member] at lost
        cases lost

theorem exists_child_of_leaf (member : m ∈ Node.preorder (.mk i below)) (leaf : m.children = []) (child : c ∈ below) :
    ∃ d ∈ below, m ∈ d.preorder := by
  rcases Node.mem_preorder.mp member with rfl | inside
  · cases (show below = [] from leaf)
    cases child
  · exact inside

/-- A position of a leaf that is not lost is one of a leaf that is kept. -/
theorem exists_keptLeaf (laid : n.IsLaidOut) (member : m ∈ n.preorder) (leaf : m.children = []) (covered : m.covers p)
    (kept : isLost n p = false) : ∃ k ∈ keptLeaves n, k.covers p := by
  induction n using Node.induction with
  | step i below ih =>
    have within : Node.covers (.mk i below) p := laid.covers_of_mem member covered
    cases erased : erasedKinds.contains i.kind with
    | true =>
      rw [isLost_of_erased erased within] at kept
      cases kept
    | false =>
    cases unwrapped : unwrappedKinds.contains i.kind with
    | true =>
      by_cases outside : ∀ c, (Node.mk i below).namedChildren.head? = some c → c.covers p = false
      · rw [isLost_of_outside unwrapped within outside] at kept
        cases kept
      · push Not at outside
        obtain ⟨c, first, inside⟩ := outside
        have child := child_of_first first
        rw [Ne, Bool.not_eq_false] at inside
        obtain ⟨d, other, member⟩ := exists_child_of_leaf member leaf child
        obtain rfl := laid.eq_of_covers child inside other ((laid.child other).covers_of_mem member covered)
        rw [isLost_of_inside laid erased unwrapped first inside] at kept
        obtain ⟨k, keeps, covers⟩ := ih d other (laid.child other) member kept
        refine ⟨k, ?_, covers⟩
        rw [keptLeaves_unwrapped erased unwrapped, first]
        exact keeps
    | false =>
      rw [isLost_of_copied laid.hasOrderedSpans erased unwrapped, lostAmong, List.any_eq_false] at kept
      cases below with
      | nil =>
        rw [keptLeaves_leaf erased unwrapped]
        exact ⟨_, List.mem_singleton_self _, within⟩
      | cons c below =>
        obtain ⟨d, child, member⟩ := exists_child_of_leaf member leaf List.mem_cons_self
        have covers := (laid.child child).covers_of_mem member covered
        have both := kept d child
        simp only [covers, Bool.and_true, Bool.not_eq_true, Bool.or_eq_false_iff] at both
        obtain ⟨k, keeps, covers⟩ := ih d child (laid.child child) member both.2
        rw [keptLeaves_copied erased unwrapped (List.cons_ne_nil _ _)]
        exact ⟨k, mem_keptAmong.mpr ⟨d, child, both.1, keeps⟩, covers⟩

theorem pairwise_keptAmong {owner : String} {ns : List Node} (ordered : ns.Pairwise fun a b => a.stop ≤ b.start)
    (laid : ∀ c ∈ ns, c.IsLaidOut) (each : ∀ c ∈ ns, (keptLeaves c).Pairwise fun a b => a.stop ≤ b.start) :
    (keptAmong owner ns).Pairwise fun a b => a.stop ≤ b.start := by
  induction ns with
  | nil => exact List.Pairwise.nil
  | cons n ns ih =>
    rw [List.pairwise_cons] at ordered
    rw [List.forall_mem_cons] at laid each
    rw [keptAmong, List.pairwise_append]
    refine ⟨?_, ih ordered.2 laid.2 each.2, fun a first b later => ?_⟩
    · split
      · exact List.Pairwise.nil
      · exact each.1
    · split at first
      · cases first
      · obtain ⟨c, child, -, member⟩ := mem_keptAmong.mp later
        have before := laid.1.within_of_mem (mem_preorder_of_keptLeaves first)
        have after := (laid.2 c child).within_of_mem (mem_preorder_of_keptLeaves member)
        have apart := ordered.1 c child
        omega

/-- The leaves that are kept stand one after the other. -/
theorem pairwise_keptLeaves (laid : n.IsLaidOut) : (keptLeaves n).Pairwise fun a b => a.stop ≤ b.start := by
  induction n using Node.induction with
  | step i below ih =>
    have each : ∀ c ∈ below, (keptLeaves c).Pairwise fun a b => a.stop ≤ b.start :=
      fun c child => ih c child (laid.child child)
    cases erased : erasedKinds.contains i.kind with
    | true =>
      rw [keptLeaves_erased erased]
      exact List.Pairwise.nil
    | false =>
    cases unwrapped : unwrappedKinds.contains i.kind with
    | true =>
      rw [keptLeaves_unwrapped erased unwrapped]
      cases first : (Node.mk i below).namedChildren.head? with
      | none => exact List.Pairwise.nil
      | some c => exact each c (child_of_first first)
    | false =>
      cases below with
      | nil =>
        rw [keptLeaves_leaf erased unwrapped]
        exact List.pairwise_singleton _ _
      | cons c below =>
        rw [keptLeaves_copied erased unwrapped (List.cons_ne_nil _ _)]
        exact pairwise_keptAmong laid.hasOrderedSpans.ordered (fun d child => laid.child child) each

end Kept

section Runs

variable {cs : Characters} {lost : Nat → Bool} {holds : CodePoint → Bool} {start stop : Nat} {a b n : Node} {ns : List Node}

theorem mem_remaining {c : CodePoint} :
    c ∈ remaining cs lost start stop ↔ ∃ p, start ≤ p ∧ p < stop ∧ lost p = false ∧ cs[p]? = some c := by
  simp only [remaining, List.mem_filterMap, List.mem_filter, List.mem_range'_1, Bool.not_eq_true']
  constructor
  · rintro ⟨p, ⟨⟨lower, upper⟩, kept⟩, here⟩
    exact ⟨p, lower, by omega, kept, here⟩
  · rintro ⟨p, lower, upper, kept, here⟩
    exact ⟨p, ⟨⟨lower, by omega⟩, kept⟩, here⟩

/-- Something that is kept parts two tokens, unless no run could go on from one to the other. -/
def StandApart (cs : Characters) (lost : Nat → Bool) (holds : CodePoint → Bool) (a b : Node) : Prop :=
  isSeamless holds (textOf cs a) (textOf cs b) = true → remaining cs lost a.stop b.start ≠ []

instance (cs : Characters) (lost : Nat → Bool) (holds : CodePoint → Bool) (a b : Node) :
    Decidable (StandApart cs lost holds a b) := inferInstanceAs (Decidable (_ → _))

/-- Tokens in order between two positions, of which nothing is lost, while everything else of a class is lost. -/
structure AreTokens (cs : Characters) (lost : Nat → Bool) (holds : CodePoint → Bool) (start stop : Nat)
    (ns : List Node) : Prop where
  bound : start ≤ stop
  within : ∀ n ∈ ns, start ≤ n.start ∧ n.start ≤ n.stop ∧ n.stop ≤ stop
  ordered : ns.Pairwise fun a b => a.stop ≤ b.start
  filled : ∀ n ∈ ns, textOf cs n ≠ []
  kept : ∀ n ∈ ns, ∀ p, n.covers p → lost p = false
  only : ∀ p, start ≤ p → p < stop → lost p = false → (cs[p]?).any holds = true → ∃ n ∈ ns, n.covers p

theorem AreTokens.tail (tokens : AreTokens cs lost holds start stop (n :: ns)) :
    AreTokens cs lost holds n.stop stop ns where
  bound := (tokens.within n List.mem_cons_self).2.2
  within m later := by
    have here := tokens.within m (List.mem_cons_of_mem _ later)
    exact ⟨(List.pairwise_cons.mp tokens.ordered).1 m later, here.2⟩
  ordered := (List.pairwise_cons.mp tokens.ordered).2
  filled m later := tokens.filled m (List.mem_cons_of_mem _ later)
  kept m later := tokens.kept m (List.mem_cons_of_mem _ later)
  only p lower upper kept member := by
    have here := tokens.within n List.mem_cons_self
    obtain ⟨m, among, covered⟩ := tokens.only p (by omega) upper kept member
    rcases List.mem_cons.mp among with rfl | later
    · have := Node.covers_iff.mp covered
      omega
    · exact ⟨m, later, covered⟩

theorem AreTokens.gap (tokens : AreTokens cs lost holds start stop (n :: ns)) :
    ∀ c ∈ remaining cs lost start n.start, holds c = false := by
  intro c member
  obtain ⟨p, lower, upper, kept, here⟩ := mem_remaining.mp member
  by_contra inClass
  rw [Bool.not_eq_false] at inClass
  have inner := tokens.within n List.mem_cons_self
  obtain ⟨m, among, covered⟩ := tokens.only p lower (by omega) kept (by simp [here, inClass])
  rw [Node.covers_iff] at covered
  rcases List.mem_cons.mp among with rfl | later
  · omega
  · have := (List.pairwise_cons.mp tokens.ordered).1 m later
    omega

theorem AreTokens.none (tokens : AreTokens cs lost holds start stop []) :
    ∀ c ∈ remaining cs lost start stop, holds c = false := by
  intro c member
  obtain ⟨p, lower, upper, kept, here⟩ := mem_remaining.mp member
  by_contra inClass
  rw [Bool.not_eq_false] at inClass
  obtain ⟨m, among, -⟩ := tokens.only p lower upper kept (by simp [here, inClass])
  cases among

theorem AreTokens.remaining_eq (tokens : AreTokens cs lost holds start stop (n :: ns)) :
    remaining cs lost start stop
      = remaining cs lost start n.start ++ (textOf cs n ++ remaining cs lost n.stop stop) := by
  obtain ⟨first, second, third⟩ := tokens.within n List.mem_cons_self
  rw [remaining_append first (Nat.le_trans second third), remaining_append second third,
    remaining_eq_slice fun p lower upper => tokens.kept n List.mem_cons_self p (Node.covers_iff.mpr ⟨lower, upper⟩)]
  rfl

/-- A run goes on from a token exactly if the next one does not stand apart from it. -/
theorem AreTokens.isSeamless_iff (tokens : AreTokens cs lost holds start stop (n :: ns)) :
    isSeamless holds (textOf cs n) (remaining cs lost n.stop stop) = true ↔
      ∃ m rest, ns = m :: rest ∧ ¬StandApart cs lost holds n m := by
  cases ns with
  | nil =>
    rw [isSeamless_eq_false_right tokens.tail.none]
    simp
  | cons m rest =>
    have filled := tokens.filled m (List.mem_cons_of_mem _ List.mem_cons_self)
    have glued : (∃ m' rest', m :: rest = m' :: rest' ∧ ¬StandApart cs lost holds n m') ↔
        isSeamless holds (textOf cs n) (textOf cs m) = true ∧ remaining cs lost n.stop m.start = [] := by
      simp [StandApart]
    rw [tokens.tail.remaining_eq, glued]
    by_cases between : remaining cs lost n.stop m.start = []
    · rw [between, List.nil_append, isSeamless_append filled, and_iff_left rfl]
    · rw [isSeamless_append between, isSeamless_eq_false_right tokens.tail.gap]
      simp [between]

/-- What remains has no more runs than its tokens, and it has the same ones exactly if those that follow one another
stand apart. -/
theorem runs_remaining (tokens : AreTokens cs lost holds start stop ns) :
    (runs holds (remaining cs lost start stop)).length ≤ (ns.flatMap fun n => runs holds (textOf cs n)).length ∧
      (runs holds (remaining cs lost start stop) = ns.flatMap (fun n => runs holds (textOf cs n)) ↔
        ns.IsChain (StandApart cs lost holds)) := by
  induction ns generalizing start with
  | nil =>
    rw [runs_eq_nil tokens.none]
    exact ⟨Nat.le_refl _, iff_of_true rfl .nil⟩
  | cons n ns ih =>
    have ⟨fewer, same⟩ := ih tokens.tail
    have parted : runs holds (remaining cs lost start stop)
        = runs holds (textOf cs n ++ remaining cs lost n.stop stop) := by
      rw [tokens.remaining_eq, runs_append (isSeamless_eq_false_left tokens.gap), runs_eq_nil tokens.gap, List.nil_append]
    have counted := length_runs_append holds (textOf cs n) (remaining cs lost n.stop stop)
    rw [parted, List.flatMap_cons, List.length_append]
    cases seam : isSeamless holds (textOf cs n) (remaining cs lost n.stop stop) with
    | false =>
      have chain : (n :: ns).IsChain (StandApart cs lost holds) ↔ ns.IsChain (StandApart cs lost holds) := by
        cases ns with
        | nil => exact iff_of_true (.singleton n) .nil
        | cons m rest =>
          have apart : StandApart cs lost holds n m := by
            by_contra glued
            rw [tokens.isSeamless_iff.mpr ⟨m, rest, rfl, glued⟩] at seam
            cases seam
          rw [List.isChain_cons_cons, and_iff_right apart]
      rw [runs_append seam, List.length_append, List.append_right_inj, chain]
      exact ⟨Nat.add_le_add_left fewer _, same⟩
    | true =>
      rw [seam, if_pos rfl] at counted
      refine ⟨by omega, iff_of_false (fun equal => ?_) fun chain => ?_⟩
      · rw [equal, List.length_append] at counted
        omega
      · obtain ⟨m, rest, rfl, glued⟩ := tokens.isSeamless_iff.mp seam
        exact glued (List.isChain_cons_cons.mp chain).1

end Runs

/-- The leaves that are kept and hold something. -/
def keptTokens (cs : Characters) (root : Node) : List Node := (keptLeaves root).filter fun n => textOf cs n ≠ []

/-- Whether every character of a class in the source of a tree stands in one of its leaves. -/
def IsSpelled (cs : Characters) (holds : CodePoint → Bool) (root : Node) : Prop :=
  ∀ p < root.stop, root.start ≤ p → (cs[p]?).any holds = true → ∃ n ∈ root.preorder, n.children = [] ∧ n.covers p

instance (cs : Characters) (holds : CodePoint → Bool) (root : Node) : Decidable (IsSpelled cs holds root) :=
  inferInstanceAs (Decidable (∀ p < root.stop, _))

section Emitted

variable {cs : Characters} {holds : CodePoint → Bool} {root n : Node} {p : Nat}

theorem textOf_ne_nil (covered : n.covers p) (here : (cs[p]?).any holds = true) : textOf cs n ≠ [] := by
  rw [Node.covers_iff] at covered
  have whole : remaining cs (fun _ => false) n.start n.stop = textOf cs n := remaining_eq_slice fun _ _ _ => rfl
  cases found : cs[p]? with
  | none =>
    rw [found] at here
    cases here
  | some c =>
    rw [← whole]
    exact List.ne_nil_of_mem (mem_remaining.mpr ⟨p, covered.1, covered.2, rfl, found⟩)

theorem areTokens_keptTokens (laid : root.IsLaidOut) (spelled : IsSpelled cs holds root) :
    AreTokens cs (isLost root) holds root.start root.stop (keptTokens cs root) where
  bound := laid.hasOrderedSpans.start_le_stop
  within n token := by
    have member := mem_preorder_of_keptLeaves (List.mem_filter.mp token).1
    have inner := laid.within_of_mem member
    exact ⟨inner.1, (laid n member).start_le_stop, inner.2⟩
  ordered := (pairwise_keptLeaves laid).filter _
  filled n token := by simpa using (List.mem_filter.mp token).2
  kept n token p covered := isLost_of_keptLeaves laid (List.mem_filter.mp token).1 covered
  only p lower upper kept here := by
    obtain ⟨m, member, leaf, covered⟩ := spelled p upper lower here
    obtain ⟨n, keeps, covers⟩ := exists_keptLeaf laid member leaf covered kept
    exact ⟨n, List.mem_filter.mpr ⟨keeps, decide_eq_true (textOf_ne_nil covers here)⟩, covers⟩

theorem flatMap_runs_keptTokens (cs : Characters) (holds : CodePoint → Bool) (ns : List Node) :
    (ns.filter fun n => textOf cs n ≠ []).flatMap (fun n => runs holds (textOf cs n))
      = ns.flatMap fun n => runs holds (textOf cs n) := by
  induction ns with
  | nil => rfl
  | cons n ns ih =>
    by_cases empty : textOf cs n = []
    · rw [List.filter_cons_of_neg (by simp [empty]), ih, List.flatMap_cons, empty, runs_nil, List.nil_append]
    · rw [List.filter_cons_of_pos (by simp [empty]), List.flatMap_cons, ih, List.flatMap_cons]

end Emitted

/-- The script of a tree that is laid out, without enumerations and markup, has no more words than the leaves that
are kept, where words are runs of any class of characters that stand in leaves only. It has the same words in the
same order exactly if any two kept tokens that follow one another stand apart: something between them is kept, or
no word ends the first and another begins the second. -/
theorem runs_emitTree (holds : CodePoint → Bool) (cs : Characters) {root : Node} (laid : root.IsLaidOut)
    (copied : ∀ n ∈ root.preorder, n.kind ∉ rewrittenKinds) (spelled : IsSpelled cs holds root) :
    (runs holds (emitTree cs root).fragment.code).length
        ≤ ((keptLeaves root).flatMap fun n => runs holds (textOf cs n)).length ∧
      (runs holds (emitTree cs root).fragment.code = (keptLeaves root).flatMap (fun n => runs holds (textOf cs n)) ↔
        (keptTokens cs root).IsChain (StandApart cs (isLost root) holds)) := by
  have written : IsRemaining cs (isLost root) root.start root.stop (emitTree cs root).fragment :=
    isRemaining_emitTree laid copied
  have tokens := runs_remaining (areTokens_keptTokens laid spelled)
  rw [keptTokens, flatMap_runs_keptTokens, ← keptTokens] at tokens
  rw [written.code]
  exact tokens

/-- The tree of a class with type parameters that extends another one, given where what comes after them stands. -/
def genericClass (next : Nat) : Node :=
  plainNode "program" true 0 (next + 12) [plainNode "class_declaration" true 0 (next + 12) [
    plainNode "class" false 0 5 [],
    plainNode "type_identifier" true 6 7 [],
    plainNode "type_parameters" true 7 10 [
      plainNode "<" false 7 8 [],
      plainNode "type_parameter" true 8 9 [plainNode "type_identifier" true 8 9 []],
      plainNode ">" false 9 10 []],
    plainNode "class_heritage" true next (next + 9) [plainNode "extends_clause" true next (next + 9) [
      plainNode "extends" false next (next + 7) [], plainNode "identifier" true (next + 8) (next + 9) []]],
    plainNode "class_body" true (next + 10) (next + 12) [
      plainNode "\x7b" false (next + 10) (next + 11) [], plainNode "\x7d" false (next + 11) (next + 12) []]]]

def isNamePoint (c : CodePoint) : Bool := isNameCharacter c.value

def spacedClass : Characters := (Text.ofString "class A<T> extends B \x7b\x7d").toArray

def tightClass : Characters := (Text.ofString "class A<T>extends B \x7b\x7d").toArray

theorem runs_emitTree_spaced :
    (genericClass 11).IsLaidOut ∧ (∀ n ∈ (genericClass 11).preorder, n.kind ∉ rewrittenKinds) ∧
      IsSpelled spacedClass isNamePoint (genericClass 11) ∧
      runs isNamePoint (emitTree spacedClass (genericClass 11)).fragment.code
        = ["class", "A", "extends", "B"].map Text.ofString := by
  have laid : (genericClass 11).IsLaidOut := by decide +kernel
  have copied : ∀ n ∈ (genericClass 11).preorder, n.kind ∉ rewrittenKinds := by decide +kernel
  have spelled : IsSpelled spacedClass isNamePoint (genericClass 11) := by
    simp only [spacedClass, Text.ofString_eq rfl]
    decide +kernel
  refine ⟨laid, copied, spelled, ((runs_emitTree isNamePoint spacedClass laid copied spelled).2.mpr ?_).trans ?_⟩
  · simp only [spacedClass, Text.ofString_eq rfl]
    decide +kernel
  · simp only [spacedClass, Text.ofString_eq rfl]
    decide +kernel

/-- Type parameters can be all that parts two words. -/
theorem runs_emitTree_tight :
    (∀ n ∈ (genericClass 10).preorder, n.hasError = false) ∧ (genericClass 10).IsLaidOut ∧
      (∀ n ∈ (genericClass 10).preorder, n.kind ∉ rewrittenKinds) ∧
      IsSpelled tightClass isNamePoint (genericClass 10) ∧
      (keptLeaves (genericClass 10)).flatMap (fun n => runs isNamePoint (textOf tightClass n))
        = ["class", "A", "extends", "B"].map Text.ofString ∧
      runs isNamePoint (emitTree tightClass (genericClass 10)).fragment.code
        = ["class", "Aextends", "B"].map Text.ofString := by
  simp only [tightClass, List.map_cons, List.map_nil, Text.ofString_eq rfl]
  decide +kernel

end LessonService.Script
