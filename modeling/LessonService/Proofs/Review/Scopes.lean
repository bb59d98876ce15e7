import LessonService.Proofs.Review.Places
import LessonService.Proofs.Text.Trim
import Mathlib.Data.List.Nodup

namespace LessonService.Review

open Tsx Script

/-- The name by which a call calls: what it calls is a name, or a part of something that has a name. -/
def calledName? (cs : Characters) (call : Node) : Option Text :=
  match call.child? "function" with
  | some callee =>
    if callee.kind = "identifier" then some (textOf cs callee)
    else if callee.kind = "member_expression" then callee.children.getLast?.map (textOf cs)
    else none
  | none => none

def callsHook (cs : Characters) (call : Node) : Bool := (calledName? cs call).any fun name => eagerHooks.contains name

/-- Whether a function, given what is around it, is an argument of a call of an eager hook. -/
def isHookCallback (cs : Characters) : List Node → Bool
  | holder :: call :: _ => holder.kind = "arguments" && call.kind = "call_expression" && callsHook cs call
  | _ => false

/-- Whether a place is a function that no eager hook is given. -/
def Located.isDeferred (cs : Characters) (l : Located) : Bool :=
  functionKinds.contains l.node.kind && !isHookCallback cs l.around

/-- The innermost function around that no eager hook is given; the program, where there is none. -/
def owner? (cs : Characters) : List Node → Option Located
  | [] => none
  | n :: around => if Located.isDeferred cs ⟨n, around⟩ then some ⟨n, around⟩ else owner? cs around

variable {cs : Characters} {around : List Node} {f g l m : Located} {root : Node}

theorem owner?_cons_of_kind {n : Node} (kind : functionKinds.contains n.kind = false) :
    owner? cs (n :: around) = owner? cs around := by
  rw [owner?, Located.isDeferred, kind, Bool.false_and, if_neg Bool.false_ne_true]

theorem scope_cons_of_kind {n : Node} (kind : functionKinds.contains n.kind = false) :
    scope cs (n :: around) = scope cs around := by
  rw [scope, kind, Bool.false_and, if_neg Bool.false_ne_true]

/-- The owner is a function around that no eager hook is given, and the innermost of these. -/
theorem owner?_eq_some_iff : owner? cs around = some f ↔
    f.path <:+ around ∧ f.isDeferred cs = true ∧
      ∀ g : Located, g.path <:+ around → g.isDeferred cs = true → f.IsWithin g := by
  induction around with
  | nil =>
    refine ⟨nofun, fun ⟨below, _⟩ => ?_⟩
    cases List.suffix_nil.mp below
  | cons n around ih =>
    cases deferred : Located.isDeferred cs ⟨n, around⟩ with
    | true =>
      rw [owner?, if_pos deferred]
      constructor
      · rintro ⟨⟩
        exact ⟨List.suffix_rfl, deferred, fun g below _ => below⟩
      · rintro ⟨below, _, innermost⟩
        have same : f = ⟨n, around⟩ := Located.IsWithin.antisymm (innermost ⟨n, around⟩ List.suffix_rfl deferred) below
        rw [same]
    | false =>
      -- A deferred function around is not the nearest node.
      have further (g : Located) (here : g.isDeferred cs = true) : g.path <:+ n :: around ↔ g.path <:+ around := by
        refine List.suffix_cons_iff.trans (or_iff_right fun same => ?_)
        rw [Located.eq_of_path (m := ⟨n, around⟩) same, deferred] at here
        cases here
      rw [owner?, deferred, if_neg Bool.false_ne_true, ih]
      constructor
      · rintro ⟨below, here, innermost⟩
        exact ⟨(further f here).mpr below, here, fun g under also => innermost g ((further g also).mp under) also⟩
      · rintro ⟨below, here, innermost⟩
        exact ⟨(further f here).mp below, here, fun g under also => innermost g ((further g also).mpr under) also⟩

theorem isDeferred_of_owner? (owned : owner? cs around = some f) : f.isDeferred cs = true :=
  (owner?_eq_some_iff.mp owned).2.1

theorem isWithin_of_owner? (owned : owner? cs l.around = some f) : l.IsWithin f :=
  Located.isWithin_of_around (owner?_eq_some_iff.mp owned).1

theorem owner?_ne_none (below : f.path <:+ around) (deferred : f.isDeferred cs = true) : owner? cs around ≠ none := by
  induction around with
  | nil => cases List.suffix_nil.mp below
  | cons n around ih =>
    rw [owner?]
    split
    · nofun
    · rename_i other
      refine ih ((List.suffix_cons_iff.mp below).resolve_left fun same => other ?_)
      rwa [← Located.eq_of_path (m := ⟨n, around⟩) same]

/-- What lies in a deferred function has no owner that something outside of the function has. -/
theorem owner?_ne_of_isDeferred (deferred : f.isDeferred cs = true) (inside : f.path <:+ l.around)
    (outside : ¬m.IsWithin f) : owner? cs l.around ≠ owner? cs m.around := by
  intro same
  cases owned : owner? cs l.around with
  | none => exact owner?_ne_none inside deferred owned
  | some g =>
    obtain ⟨-, -, innermost⟩ := owner?_eq_some_iff.mp owned
    exact outside ((isWithin_of_owner? (same.symm.trans owned)).trans (innermost f inside deferred))

/-- The name that is read off the text before the arguments of a call tells whether it calls an eager hook. -/
def HasPlainCalls (cs : Characters) (root : Node) : Prop :=
  ∀ call ∈ root.preorder, call.kind = "call_expression" → eagerHooks.contains (calleeName cs call) = callsHook cs call

instance (cs : Characters) (root : Node) : Decidable (HasPlainCalls cs root) :=
  inferInstanceAs (Decidable (∀ call ∈ root.preorder, _))

/-- Distinct functions have distinct spans. -/
def HasDistinctFunctions (root : Node) : Prop :=
  ((root.preorder.filter fun n => functionKinds.contains n.kind).map fun n => (n.start, n.stop)).Nodup

instance (root : Node) : Decidable (HasDistinctFunctions root) := inferInstanceAs (Decidable (List.Nodup _))

section CalleeName

variable {call callee : Node} {before blanks name : Text} (called : call.child? "function" = some callee)
  (text : textOf cs callee = before ++ (blanks ++ name)) (ends : ∀ c ∈ before.getLast?, c = '.')
  (blank : ∀ c ∈ blanks, c.isBlank = true) (noDot : ∀ c ∈ name, c ≠ '.') (trimmed : name.IsTrimmed)
include called text ends blank noDot trimmed

/-- A name is read off the text where at most blanks stand between the last dot and the name. -/
theorem calleeName_eq : calleeName cs call = name := by
  -- From the right, the reading passes the name and the blanks, and stops at the dot.
  have passed : ∀ c ∈ (blanks ++ name).reverse, decide (c ≠ '.') = true := by
    intro c member
    refine decide_eq_true ?_
    rcases List.mem_append.mp (List.mem_reverse.mp member) with white | part
    · rintro rfl
      exact absurd (blank _ white) (by decide)
    · exact noDot c part
  have stops : before.reverse.takeWhile (fun (c : CodePoint) => decide (c ≠ '.')) = [] := by
    rcases List.eq_nil_or_concat before with rfl | ⟨object, c, rfl⟩
    · rfl
    · simp [ends c (by simp)]
  rw [calleeName, called]
  simp only
  rw [text, List.reverse_append, List.takeWhile_append_of_pos passed, stops, List.append_nil, List.reverse_reverse,
    Text.trim, Text.trimBy, Text.trimLeft_append_of_all blank]
  exact trimmed.trim_eq

/-- A call by a name that is written so is plain. -/
theorem contains_calleeName (named : calledName? cs call = some name) :
    eagerHooks.contains (calleeName cs call) = callsHook cs call := by
  rw [calleeName_eq called text ends blank noDot trimmed, callsHook, named, Option.any_some]

end CalleeName

theorem isEager_eq_isHookCallback (plain : HasPlainCalls cs root) (among : around ⊆ root.preorder) :
    isEager cs around = isHookCallback cs around := by
  rcases around with _ | ⟨holder, _ | ⟨call, around⟩⟩
  · rfl
  · rfl
  · rw [isEager, isHookCallback]
    by_cases kind : call.kind = "call_expression"
    · rw [plain call (among (by simp)) kind]
    · simp [kind]

/-- The scope is the span of the owner. -/
theorem scope_eq (plain : HasPlainCalls cs root) (among : around ⊆ root.preorder) :
    scope cs around = (owner? cs around).elim (0, cs.size) fun f => (f.node.start, f.node.stop) := by
  induction around with
  | nil => rfl
  | cons n around ih =>
    have rest := List.subset_of_cons_subset among
    rw [scope, owner?, Located.isDeferred, isEager_eq_isHookCallback plain rest]
    split
    · rfl
    · exact ih rest

theorem around_subset (member : l ∈ locate [] root) : l.around ⊆ root.preorder := by
  intro n node
  obtain ⟨inner, outer, parted⟩ := List.append_of_mem node
  have within : l.IsWithin ⟨n, outer⟩ := Located.isWithin_of_around ⟨inner, parted.symm⟩
  exact node_mem_preorder (mem_of_isWithin member within).1

theorem mem_of_owner? (member : l ∈ locate [] root) (owned : owner? cs l.around = some f) : f ∈ locate [] root :=
  (mem_of_isWithin member (isWithin_of_owner? owned)).1

/-- Functions with one span are one function. -/
theorem eq_of_span (distinct : HasDistinctFunctions root) (first : f ∈ locate [] root) (second : g ∈ locate [] root)
    (deferred : f.isDeferred cs = true) (also : g.isDeferred cs = true)
    (span : (f.node.start, f.node.stop) = (g.node.start, g.node.stop)) : f = g := by
  rw [HasDistinctFunctions, ← map_node_locate [] root, List.filter_map, List.map_map] at distinct
  refine List.inj_on_of_nodup_map distinct ?_ ?_ span
  · exact List.mem_filter.mpr ⟨first, (Bool.and_eq_true_iff.mp deferred).1⟩
  · exact List.mem_filter.mpr ⟨second, (Bool.and_eq_true_iff.mp also).1⟩

theorem length_textOf (cs : Characters) (n : Node) : (textOf cs n).length = min n.stop cs.size - n.start := by
  rw [textOf, slice, Array.length_toList, Array.size_extract]

theorem covers_start (named : textOf cs l.node ≠ []) : l.node.covers l.node.start = true := by
  have length := List.length_pos_iff.mpr named
  rw [length_textOf] at length
  rw [Node.covers_iff]
  omega

/-- Of two places at which one text stands, neither lies within the other exactly if they start apart. -/
theorem start_ne_iff (laid : root.IsLaidOut) (first : l ∈ locate [] root) (second : m ∈ locate [] root)
    (named : textOf cs l.node ≠ []) (same : textOf cs l.node = textOf cs m.node) :
    l.node.start ≠ m.node.start ↔ ¬l.IsWithin m ∧ ¬m.IsWithin l := by
  have length := congrArg List.length same
  have filled := List.length_pos_iff.mpr named
  rw [length_textOf, length_textOf] at length
  rw [length_textOf] at filled
  constructor
  · intro apart
    refine ⟨fun within => apart ?_, fun within => apart ?_⟩
    · have := span_of_isWithin laid first within
      omega
    · have := span_of_isWithin laid second within
      omega
  · rintro ⟨notIn, notAround⟩ start
    have covered : m.node.covers l.node.start = true := by
      rw [start]
      exact covers_start (same ▸ named)
    exact (isWithin_or_isWithin laid first second (covers_start named) covered).elim notIn notAround

/-- Where a name stands outside of every deferred function, and again in one that reaches from one end of the source to
the other, it stands around that function, so that it is the whole source at both places. -/
theorem start_eq_of_whole (laid : root.IsLaidOut) (first : l ∈ locate [] root) (second : m ∈ locate [] root)
    (named : textOf cs l.node ≠ []) (same : textOf cs l.node = textOf cs m.node) (free : owner? cs l.around = none)
    (owned : owner? cs m.around = some f) (whole : (0, cs.size) = (f.node.start, f.node.stop)) :
    l.node.start = m.node.start := by
  have length := congrArg List.length same
  have filled := List.length_pos_iff.mpr named
  rw [length_textOf] at filled
  rw [length_textOf, length_textOf] at length
  obtain ⟨start, stop⟩ := Prod.mk.inj whole
  have function := mem_of_owner? second owned
  have inner := span_of_isWithin laid second (isWithin_of_owner? owned)
  have covered : f.node.covers l.node.start = true := by
    rw [Node.covers_iff]
    omega
  -- The function covers where the name starts, and the name is in no such function: it is the function or around it.
  rcases isWithin_or_isWithin laid function first covered (covers_start named) with around | within
  · have := span_of_isWithin laid function around
    omega
  · rcases Located.isWithin_iff.mp within with rfl | deeper
    · omega
    · exact absurd free (owner?_ne_none deeper (isDeferred_of_owner? owned))

/-- Two places at which one name stands, and that start apart, have one scope exactly if they have one owner. -/
theorem scope_eq_scope_iff (laid : root.IsLaidOut) (distinct : HasDistinctFunctions root)
    (plain : HasPlainCalls cs root) (first : l ∈ locate [] root) (second : m ∈ locate [] root)
    (named : textOf cs l.node ≠ []) (same : textOf cs l.node = textOf cs m.node)
    (apart : l.node.start ≠ m.node.start) :
    scope cs l.around = scope cs m.around ↔ owner? cs l.around = owner? cs m.around := by
  rw [scope_eq plain (around_subset first), scope_eq plain (around_subset second)]
  refine ⟨fun span => ?_, fun owners => by rw [owners]⟩
  cases owned : owner? cs l.around with
  | none =>
    cases also : owner? cs m.around with
    | none => rfl
    | some g =>
      rw [owned, also] at span
      exact absurd (start_eq_of_whole laid first second named same owned also span) apart
  | some f =>
    cases also : owner? cs m.around with
    | none =>
      rw [owned, also] at span
      exact absurd (start_eq_of_whole laid second first (same ▸ named) same.symm also owned span.symm) (Ne.symm apart)
    | some g =>
      rw [owned, also] at span
      exact congrArg some (eq_of_span distinct (mem_of_owner? first owned) (mem_of_owner? second also)
        (isDeferred_of_owner? owned) (isDeferred_of_owner? also) span)

end LessonService.Review
