import LessonService.Proofs.Review.Places
import LessonService.Proofs.Script.Erasure
import LessonService.Proofs.Text.Occurrence
import LessonService.Review.Rule
import Mathlib.Data.List.Basic

namespace LessonService.Review

open Tsx Script

/-- Every node is marked exactly if it or a node below it is a problem. -/
def IsMarked (root : Node) : Prop :=
  ∀ n ∈ root.preorder, n.hasError = true ↔ ∃ m ∈ n.preorder, isProblem m = true

/-- No node is a problem. -/
def IsClean (root : Node) : Prop := ∀ n ∈ root.preorder, isProblem n = false

instance (root : Node) : Decidable (IsMarked root) :=
  inferInstanceAs (Decidable (∀ n ∈ root.preorder, _))

instance (root : Node) : Decidable (IsClean root) := inferInstanceAs (Decidable (∀ n ∈ root.preorder, _))

/-- A problem that lies in no other one. -/
def Located.isOutermost (l : Located) : Bool := isProblem l.node && !l.around.any isProblem

/-- The outermost problems of a tree that lies in some nodes, in source order. -/
def outermostIn (around : List Node) (n : Node) : List Node :=
  ((locate around n).filter Located.isOutermost).map Located.node

/-- The outermost problems of a tree, in source order. -/
def outermost (root : Node) : List Node := outermostIn [] root

variable {a stack : List Node} {n root c : Node} {i : NodeInfo} {below : List Node} {p : ParsedSource}

theorem locateAll_eq_flatMap (a ns : List Node) : locateAll a ns = ns.flatMap (locate a) := by
  induction ns with
  | nil => rfl
  | cons n ns ih => rw [locateAll, ih, List.flatMap_cons]

/-- Nothing in a problem is an outermost one. -/
theorem outermostIn_eq_nil (inside : a.any isProblem = true) : outermostIn a n = [] := by
  rw [outermostIn, List.map_eq_nil_iff, List.filter_eq_nil_iff]
  intro l member
  have around : a <:+ l.around := by
    rcases List.suffix_cons_iff.mp (isWithin_of_mem member) with same | deeper
    · obtain ⟨-, rfl⟩ := List.cons.inj same
      exact List.suffix_rfl
    · exact (List.suffix_cons n a).trans deeper
  obtain ⟨m, among, problem⟩ := List.any_eq_true.mp inside
  have covered : l.around.any isProblem = true := List.any_eq_true.mpr ⟨m, around.subset among, problem⟩
  simp [Located.isOutermost, covered]

theorem outermostIn_mk (free : a.any isProblem = false) : outermostIn a (.mk i below)
    = if isProblem (.mk i below) then [.mk i below] else below.flatMap (outermostIn (.mk i below :: a)) := by
  have here : outermostIn a (.mk i below) = (if isProblem (.mk i below) then [.mk i below] else [])
      ++ below.flatMap (outermostIn (.mk i below :: a)) := by
    rw [outermostIn, locate, locateAll_eq_flatMap, List.filter_cons, List.filter_flatMap]
    simp only [Located.isOutermost, free, Bool.not_false, Bool.and_true]
    split <;> simp only [List.map_cons, List.map_flatMap, List.nil_append, List.singleton_append] <;> rfl
  rw [here]
  split
  · rename_i problem
    have none : below.flatMap (outermostIn (.mk i below :: a)) = [] :=
      List.flatMap_eq_nil_iff.mpr fun c _ => outermostIn_eq_nil (by simp [problem])
    rw [none, List.append_nil]
  · rw [List.nil_append]

/-- What lies around a tree does not matter unless it is a problem. -/
theorem outermostIn_eq (free : a.any isProblem = false) : outermostIn a n = outermost n := by
  induction n using Node.induction generalizing a with
  | step i below ih =>
    rw [outermost, outermostIn_mk free, outermostIn_mk (by rfl)]
    split
    · rfl
    · rename_i other
      refine List.flatMap_congr fun c child => ?_
      rw [ih c child (by simp [other, free]), ih c child (by simp [other])]

theorem outermost_mk : outermost (.mk i below)
    = if isProblem (.mk i below) then [.mk i below] else below.flatMap outermost := by
  rw [outermost, outermostIn_mk (by rfl)]
  split
  · rfl
  · rename_i other
    exact List.flatMap_congr fun c _ => outermostIn_eq (by simp [other])

/-- A tree has outermost problems unless it is clean. -/
theorem outermost_eq_nil_iff : outermost n = [] ↔ IsClean n := by
  constructor
  · intro none
    induction n using Node.induction with
    | step i below ih =>
      rw [outermost_mk] at none
      split at none
      · cases none
      · rename_i other
        rw [List.flatMap_eq_nil_iff] at none
        intro m member
        rcases Node.mem_preorder.mp member with rfl | ⟨c, child, deeper⟩
        · exact Bool.eq_false_iff.mpr other
        · exact ih c child (none c child) m deeper
  · intro clean
    rw [outermost, outermostIn, List.map_eq_nil_iff, List.filter_eq_nil_iff]
    intro l member
    simp [Located.isOutermost, clean l.node (node_mem_preorder member)]

/-- A node is marked if it is a problem itself or a child is marked. -/
theorem isMarked_mk_iff : IsMarked (.mk i below) ↔
    i.hasError = (isProblem (.mk i below) || below.any Node.hasError) ∧ ∀ c ∈ below, IsMarked c := by
  have split : IsMarked (.mk i below) ↔
      (i.hasError = true ↔ ∃ m ∈ Node.preorder (.mk i below), isProblem m = true) ∧ ∀ c ∈ below, IsMarked c := by
    constructor
    · intro marked
      exact ⟨marked _ (Node.mem_preorder_self _), fun c child n member =>
        marked n (Node.mem_preorder_of_child child member)⟩
    · rintro ⟨here, deeper⟩ n member
      rcases Node.mem_preorder.mp member with rfl | ⟨c, child, inside⟩
      · exact here
      · exact deeper c child n inside
  rw [split]
  refine and_congr_left fun deeper => ?_
  have children : below.any Node.hasError = true ↔ ∃ c ∈ below, ∃ m ∈ c.preorder, isProblem m = true := by
    rw [List.any_eq_true]
    exact exists_congr fun c => and_congr_right fun child => deeper c child c (Node.mem_preorder_self c)
  have problems : (∃ m ∈ Node.preorder (.mk i below), isProblem m = true) ↔
      (isProblem (.mk i below) || below.any Node.hasError) = true := by
    rw [Bool.or_eq_true, children]
    constructor
    · rintro ⟨m, member, problem⟩
      rcases Node.mem_preorder.mp member with rfl | ⟨c, child, inside⟩
      · exact .inl problem
      · exact .inr ⟨c, child, m, inside, problem⟩
    · rintro (problem | ⟨c, child, m, inside, problem⟩)
      · exact ⟨_, Node.mem_preorder_self _, problem⟩
      · exact ⟨m, Node.mem_preorder_of_child child inside, problem⟩
  rw [problems]
  exact Bool.eq_iff_iff.symm

theorem IsMarked.hasError_eq_false_iff (marked : IsMarked n) : n.hasError = false ↔ IsClean n := by
  rw [Bool.eq_false_iff, Ne, marked n (Node.mem_preorder_self n)]
  simp [IsClean]

mutual

/-- The nodes that a parser shows are marked. -/
theorem isMarked_shown (m : Grammar.Machine) (newName : Option Grammar.Alias) (field : Option String) :
    ∀ t : Grammar.Subtree, ∀ n ∈ Tsx.shown m newName field t, IsMarked n
  | .mk s names children => by
    have deeper := isMarked_shownAll m names children
    intro n member
    unfold Tsx.shown at member
    dsimp only at member
    split at member
    · rw [List.mem_singleton] at member
      rw [member, isMarked_mk_iff]
      refine ⟨?_, deeper⟩
      simp [isProblem, Node.isMissing, Node.isError, Node.info, Bool.or_comm]
    · split at member
      · exact deeper n member
      · obtain ⟨⟨i, below⟩, among, rfl⟩ := List.mem_map.mp member
        have marked := isMarked_mk_iff.mp (deeper _ among)
        exact isMarked_mk_iff.mpr marked

theorem isMarked_shownAll (m : Grammar.Machine) (names : Array Grammar.Naming) :
    ∀ ts : List Grammar.Subtree, ∀ n ∈ shownAll m names ts, IsMarked n
  | [] => by simp [shownAll]
  | t :: ts => by
    intro n member
    rw [shownAll] at member
    split at member
    · rcases List.mem_append.mp member with here | later
      · exact isMarked_shown m none none t n here
      · exact isMarked_shownAll m names ts n later
    · rcases List.mem_append.mp member with here | later
      · exact isMarked_shown m _ _ t n here
      · exact isMarked_shownAll m _ ts n later

end

/-- The tree that a source is parsed to is marked. -/
theorem isMarked_parse (source : Text) : IsMarked (parse source).root := by
  unfold parse
  dsimp only
  generalize Grammar.Task.parse _ = parsed
  have unparsed (size : Nat) : IsMarked (.mk ⟨"ERROR", true, none, 0, size, true, false, true⟩ []) :=
    isMarked_mk_iff.mpr ⟨rfl, List.forall_mem_nil _⟩
  cases found : parsed.bind fun t => (Tsx.shown machine none none t).head? with
  | none => exact unparsed _
  | some n =>
    obtain ⟨t, -, first⟩ := Option.bind_eq_some_iff.mp found
    exact isMarked_shown machine none none t n (List.mem_of_head? first)

/-- A child that is left out has no problem in it. -/
theorem flatMap_suspects (marked : IsMarked (.mk i below)) :
    (suspects (.mk i below)).flatMap outermost = below.flatMap outermost := by
  have children := (isMarked_mk_iff.mp marked).2
  rw [suspects, Node.children]
  clear marked
  induction below with
  | nil => rfl
  | cons c below ih =>
    rw [List.forall_mem_cons] at children
    rw [List.filter_cons]
    split
    · rw [List.flatMap_cons, List.flatMap_cons, ih children.2]
    · rename_i unmarked
      simp only [Bool.or_eq_true, not_or, Bool.not_eq_true] at unmarked
      have clean := children.1.hasError_eq_false_iff.mp unmarked.1
      rw [List.flatMap_cons, outermost_eq_nil_iff.mpr clean, List.nil_append, ih children.2]

/-- The search finds the first of the outermost problems in the trees on the stack. -/
theorem search_eq_take {limit : Nat} (marked : ∀ n ∈ stack, IsMarked n) :
    search limit stack = (stack.flatMap outermost).take limit := by
  fun_induction search limit stack with
  | case1 => rw [List.take_zero]
  | case2 => rw [List.flatMap_nil, List.take_nil]
  | case3 limit n stack problem ih =>
    rw [List.forall_mem_cons] at marked
    obtain ⟨i, below⟩ := n
    rw [List.flatMap_cons, outermost_mk, if_pos problem, List.singleton_append, List.take_succ_cons, ih marked.2]
  | case4 limit n stack other ih =>
    rw [List.forall_mem_cons] at marked
    obtain ⟨i, below⟩ := n
    have children := (isMarked_mk_iff.mp marked.1).2
    rw [ih, List.flatMap_append, flatMap_suspects marked.1, List.flatMap_cons, outermost_mk, if_neg other]
    intro m member
    rcases List.mem_append.mp member with child | later
    · exact children m (List.mem_of_mem_filter child)
    · exact marked.2 m later

theorem syntaxDiagnostics_eq (marked : IsMarked p.root) :
    syntaxDiagnostics p = ((outermost p.root).take 10).map (diagnose p.characters) := by
  rw [syntaxDiagnostics, search_eq_take (List.forall_mem_singleton.mpr marked), List.flatMap_singleton]
  split
  · rfl
  · rename_i unmarked
    have clean := marked.hasError_eq_false_iff.mp (Bool.eq_false_iff.mpr unmarked)
    rw [outermost_eq_nil_iff.mpr clean]
    rfl

theorem syntaxDiagnostics_eq_nil_iff (marked : IsMarked p.root) : syntaxDiagnostics p = [] ↔ IsClean p.root := by
  rw [syntaxDiagnostics_eq marked, List.map_eq_nil_iff, List.take_eq_nil_iff, ← outermost_eq_nil_iff]
  exact or_iff_right (by decide)

/-- Whatever the source is, a tree that is marked has the first ten of its outermost problems reported, in source order,
and none exactly if it is clean. A source passes the rule exactly if it is blank or its tree is clean. Every tree that
a source is parsed to is marked. -/
theorem syntaxErrors_exact :
    (∀ (source : Text) (p : ParsedSource), IsMarked p.root →
      syntaxDiagnostics p = ((outermost p.root).take 10).map (diagnose p.characters) ∧
        (syntaxDiagnostics p = [] ↔ IsClean p.root) ∧
        (Rule.syntaxErrors.violations source p = [] ↔ Text.isBlank source = true ∨ IsClean p.root)) ∧
      ∀ source, IsMarked (parse source).root := by
  refine ⟨fun source p marked => ⟨syntaxDiagnostics_eq marked, syntaxDiagnostics_eq_nil_iff marked, ?_⟩, isMarked_parse⟩
  rw [← syntaxDiagnostics_eq_nil_iff marked, Rule.violations]
  split
  · rename_i blank
    simp [blank]
  · rename_i filled
    rw [List.map_eq_nil_iff]
    exact (or_iff_right filled).symm

/-- A node without a part to play that is marked; it may be an error or missing. -/
def markedNode (kind : String) (start stop : Nat) (isError isMissing : Bool) (below : List Node) : Node :=
  .mk ⟨kind, true, none, start, stop, isError, isMissing, true⟩ below

def tornSource : Text := "a[1;\n@@ b("

/-- The tree of a list that is not closed, and of a line that is an error, with another one in it. -/
def torn : ParsedSource := ⟨tornSource.toArray, markedNode "program" 0 10 false false [
  markedNode "expression_statement" 0 4 false false [
    markedNode "subscript_expression" 0 3 false false [
      plainNode "identifier" true 0 1 [], plainNode "[" false 1 2 [], plainNode "number" true 2 3 [],
      markedNode "]" 3 3 false true []],
    plainNode ";" false 3 4 []],
  markedNode "ERROR" 5 10 true false [
    plainNode "@" false 5 6 [], plainNode "@" false 6 7 [],
    markedNode "ERROR" 8 10 true false [plainNode "identifier" true 8 9 [], plainNode "(" false 9 10 []]]]⟩

theorem syntaxErrors_exact_torn :
    IsMarked torn.root ∧ (syntaxDiagnostics torn).map Diagnostic.render
      = ["Line 1: Missing ']'", "Line 2: Unexpected syntax near '@@ b('"] ∧
      Rule.syntaxErrors.violations tornSource torn ≠ [] := by
  have marked : IsMarked torn.root := by decide +kernel
  obtain ⟨first, -, passes⟩ := syntaxErrors_exact.1 tornSource torn marked
  have unclean : ¬(Text.isBlank tornSource = true ∨ IsClean torn.root) := by
    simp only [tornSource, Text.ofString_eq rfl]
    decide +kernel
  refine ⟨marked, ?_, fun passed => unclean (passes.mp passed)⟩
  rw [first]
  simp only [torn, tornSource, Text.ofString_eq rfl]
  decide +kernel

/-- A character that parts files. It is blank, and no token begins with it. -/
def separatorSource : Text := [⟨0x1C⟩]

/-- The tree of a source that is nothing but such a character. -/
def separator : ParsedSource := ⟨separatorSource.toArray, markedNode "program" 0 1 false false [
  markedNode "ERROR" 0 1 true false [markedNode "ERROR" 0 1 true false []]]⟩

theorem violations_syntaxErrors_of_blank {source : Text} (blank : Text.isBlank source = true) (p : ParsedSource) :
    Rule.syntaxErrors.violations source p = [] := by
  rw [Rule.violations, if_pos blank]

/-- A blank source passes, also where there is a problem in its tree that would be reported, as in the one that such a
character is parsed to. -/
theorem syntaxErrors_passed_blank :
    Rule.syntaxErrors.violations separatorSource (parse separatorSource) = [] ∧
      (parse separatorSource = separator → ¬IsClean (parse separatorSource).root) ∧
      IsMarked separator.root ∧ ¬IsClean separator.root ∧
      Rule.syntaxErrors.violations separatorSource separator = [] := by
  have blank : Text.isBlank separatorSource = true := by decide
  have unclean : ¬IsClean separator.root := by decide +kernel
  exact ⟨violations_syntaxErrors_of_blank blank _, fun parsed => parsed ▸ unclean, by decide +kernel, unclean,
    violations_syntaxErrors_of_blank blank _⟩

end LessonService.Review
