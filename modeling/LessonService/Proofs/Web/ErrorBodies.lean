import LessonService.Proofs.Content.Plain
import LessonService.Proofs.Text.Occurrence
import LessonService.Web.Problem
import Mathlib.Data.List.Forall2

namespace LessonService.Web

open Content

variable {given told context : List (Text × Content)} {errors : List (List (Text × Content))} {v : Content}

/-- The name under which an error, or its context, holds what was sent. -/
def sentName : Text := "input"

/-- A context as a field of an error. -/
def contextField (context : List (Text × Content)) : Text × Content := ("ctx", .record context)

/-- The values that an error is told with, and how many steps down they lie: those of its fields and of its context, but
not what was sent. -/
inductive IsKept (given : List (Text × Content)) : Nat → Content → Prop
  | field {f : Text × Content} (member : f ∈ given) (kept : f.1 ≠ sentName)
    (other : ∀ context, f ≠ contextField context) : IsKept given 2 f.2
  | inContext {context : List (Text × Content)} {f : Text × Content} (member : contextField context ∈ given)
    (inside : f ∈ context) (kept : f.1 ≠ sentName) : IsKept given 4 f.2

/-- Nothing that an error is told with goes too far down. -/
def IsShallow (given : List (Text × Content)) : Prop := ∀ steps v, IsKept given steps v → steps + v.depth ≤ maxDepth

/-- There is a text for every number that an error is told with. -/
def IsNumbered (given : List (Text × Content)) : Prop := ∀ steps v, IsKept given steps v → v.IsWritable

/-- An error, and what is told of it. -/
structure IsScrubbed (given told : List (Text × Content)) : Prop where
  /-- Every name is kept but that of what was sent. -/
  names : told.map Prod.fst = (given.map Prod.fst).filter (· ≠ sentName)
  /-- So it is in a context that is told, -/
  context : ∀ inner, contextField inner ∈ told →
    ∃ outer, contextField outer ∈ given ∧ inner.map Prod.fst = (outer.map Prod.fst).filter (· ≠ sentName)
  /-- and in one that is given. -/
  contextKept : ∀ outer, contextField outer ∈ given →
    ∃ inner, contextField inner ∈ told ∧ inner.map Prod.fst = (outer.map Prod.fst).filter (· ≠ sentName)
  /-- Everything else is told in full, with all names in it. -/
  others : ∀ f ∈ given, f.1 ≠ sentName → (∀ context, f ≠ contextField context) →
    (f.1, f.2.plain) ∈ told ∧ f.2.plain.names = f.2.names

/-- What is left of the value of a field. -/
def keptValue : Text × Content → Content
  | (name, .record context) => .record (if name = ("ctx" : Text) then without ["input"] context else context)
  | (_, v) => v

theorem mem_without {f : Text × Content} : f ∈ without ["input"] given ↔ f ∈ given ∧ f.1 ≠ sentName := by
  simp [without, sentName]

theorem names_without (given : List (Text × Content)) :
    (without ["input"] given).map Prod.fst = (given.map Prod.fst).filter (· ≠ sentName) := by
  rw [without, List.filter_map]
  refine congrArg _ (List.filter_congr fun f _ => ?_)
  rw [Function.comp_apply, List.contains_cons, List.contains_nil, Bool.or_false, decide_not, beq_eq_decide]
  rfl

theorem keptValue_other {f : Text × Content} (other : ∀ context, f ≠ contextField context) : keptValue f = f.2 := by
  obtain ⟨name, v⟩ := f
  cases v with
  | record context =>
    have named : name ≠ ("ctx" : Text) := fun same => other context (by rw [same, contextField])
    rw [keptValue, if_neg named]
  | _ => rfl

theorem contextField_ne_sent (context : List (Text × Content)) : (contextField context).1 ≠ sentName :=
  show ("ctx" : Text) ≠ "input" by decide

/-- A field is a context, or its value is kept as it is. -/
theorem exists_context_or (f : Text × Content) : (∃ context, f = contextField context) ∨ ∀ context, f ≠ contextField context := by
  by_cases isContext : ∃ context, f = contextField context
  · exact .inl isContext
  · exact .inr (not_exists.mp isContext)

theorem scrubbed_eq (given : List (Text × Content)) :
    scrubbed given = (without ["input"] given).map fun f => (f.1, keptValue f) := by
  refine List.map_congr_left fun f _ => ?_
  obtain ⟨name, v⟩ := f
  cases v with
  | record context =>
    dsimp only [keptValue]
    split <;> rfl
  | _ => rfl

theorem plainFields_scrubbed (given : List (Text × Content)) :
    plainFields (scrubbed given) = (without ["input"] given).map fun f => (f.1, (keptValue f).plain) := by
  rw [plainFields_eq, scrubbed_eq, List.map_map]
  rfl

theorem plain_keptValue_contextField (outer : List (Text × Content)) :
    (keptValue (contextField outer)).plain = .record (plainFields (without ["input"] outer)) := by
  simp only [contextField, keptValue, if_true, plain]

theorem names_plainFields_without (outer : List (Text × Content)) :
    (plainFields (without ["input"] outer)).map Prod.fst = (outer.map Prod.fst).filter (· ≠ sentName) := by
  rw [plainFields_eq, List.map_map, ← names_without]
  rfl

theorem isScrubbed_scrubbed (given : List (Text × Content)) : IsScrubbed given (plainFields (scrubbed given)) := by
  have told_of_mem {f : Text × Content} (member : f ∈ given) (kept : f.1 ≠ sentName) :
      (f.1, (keptValue f).plain) ∈ plainFields (scrubbed given) := by
    rw [plainFields_scrubbed]
    exact List.mem_map_of_mem (mem_without.mpr ⟨member, kept⟩)
  refine ⟨?_, fun inner member => ?_, fun outer member => ?_, fun f member kept other => ?_⟩
  · rw [plainFields_scrubbed, List.map_map, ← names_without]
    rfl
  · rw [plainFields_scrubbed] at member
    obtain ⟨f, among, same⟩ := List.mem_map.mp member
    obtain ⟨name, value⟩ := Prod.mk.inj same
    rcases exists_context_or f with ⟨outer, rfl⟩ | other
    · rw [plain_keptValue_contextField] at value
      cases value
      exact ⟨outer, (mem_without.mp among).1, names_plainFields_without outer⟩
    · -- No other value becomes a record under that name.
      rw [keptValue_other other] at value
      obtain ⟨n, v⟩ := f
      cases v with
      | record fields => exact absurd (congrArg (·, Content.record fields) name) (other fields)
      | _ => simp [plain] at value
  · refine ⟨plainFields (without ["input"] outer), ?_, names_plainFields_without outer⟩
    have here := told_of_mem member (contextField_ne_sent outer)
    rwa [plain_keptValue_contextField] at here
  · refine ⟨?_, names_plain f.2⟩
    rw [← keptValue_other other]
    exact told_of_mem member kept

theorem record_isWritable_iff {fields : List (Text × Content)} :
    (Content.record fields).IsWritable ↔ ∀ f ∈ fields, f.2.IsWritable := by
  rw [isWritable_iff]
  simp only [children, List.forall_mem_map]
  exact and_iff_right rfl

theorem record_depth_le_iff {fields : List (Text × Content)} {k : Nat} :
    (Content.record fields).depth ≤ k + 2 ↔ ∀ f ∈ fields, f.2.depth ≤ k := by
  rw [depth_le_add_two_iff, children, List.forall_mem_map]

theorem record_isEncodable_iff {fields : List (Text × Content)} :
    (Content.record fields).IsEncodable ↔ ∀ f ∈ fields, f.1.IsEncodable ∧ f.2.IsEncodable := by
  rw [isEncodable_iff]
  simp only [ownTexts, ownNames, children, List.forall_mem_map]
  constructor
  · rintro ⟨names, values⟩ f member
    exact ⟨names f member, values f member⟩
  · exact fun all => ⟨fun f member => (all f member).1, fun f member => (all f member).2⟩

/-- What is left of an error is what it is told with: a condition on values that holds of a context as soon as it holds
of its fields, two steps farther down, holds of the one exactly if it holds of the other. -/
theorem forall_scrubbed_iff (holds : Nat → Content → Prop)
    (inside : ∀ fields, holds 2 (.record fields) ↔ ∀ f ∈ fields, holds 4 f.2) :
    (∀ f ∈ scrubbed given, holds 2 f.2) ↔ ∀ steps v, IsKept given steps v → holds steps v := by
  rw [scrubbed_eq, List.forall_mem_map]
  constructor
  · rintro all _ _ (⟨member, kept, other⟩ | ⟨member, within, kept⟩)
    · have here := all _ (mem_without.mpr ⟨member, kept⟩)
      rwa [keptValue_other other] at here
    · have here := all _ (mem_without.mpr ⟨member, contextField_ne_sent _⟩)
      rw [contextField, keptValue, if_pos rfl, inside] at here
      exact here _ (mem_without.mpr ⟨within, kept⟩)
  · intro all f member
    obtain ⟨among, kept⟩ := mem_without.mp member
    rcases exists_context_or f with ⟨context, rfl⟩ | other
    · rw [contextField, keptValue, if_pos rfl, inside]
      intro inner member
      obtain ⟨within, told⟩ := mem_without.mp member
      exact all _ _ (.inContext among within told)
    · rw [keptValue_other other]
      exact all _ _ (.field among kept other)

theorem isWritable_scrubbed_iff : (Content.record (scrubbed given)).IsWritable ↔ IsNumbered given := by
  rw [record_isWritable_iff]
  exact forall_scrubbed_iff (fun _ v => v.IsWritable) fun _ => record_isWritable_iff

theorem depth_scrubbed_le_iff : (Content.record (scrubbed given)).depth ≤ maxDepth ↔ IsShallow given := by
  have lower (fields : List (Text × Content)) {k : Nat} (room : k + 2 ≤ maxDepth) :
      k + (Content.record fields).depth ≤ maxDepth ↔ ∀ f ∈ fields, k + 2 + f.2.depth ≤ maxDepth := by
    obtain ⟨rest, all⟩ := Nat.exists_eq_add_of_le room
    rw [all, Nat.add_assoc, Nat.add_comm 2, Nat.add_le_add_iff_left, record_depth_le_iff]
    exact forall₂_congr fun f _ => by omega
  have outer := lower (scrubbed given) (by decide : 0 + 2 ≤ maxDepth)
  rw [Nat.zero_add] at outer
  rw [outer]
  exact forall_scrubbed_iff (fun steps v => steps + v.depth ≤ maxDepth) fun fields => lower fields (by decide)

theorem isEncodable_scrubbed (encodable : (Content.record given).IsEncodable) :
    (Content.record (scrubbed given)).IsEncodable := by
  rw [record_isEncodable_iff] at encodable ⊢
  rw [scrubbed_eq, List.forall_mem_map]
  intro f member
  obtain ⟨name, value⟩ := encodable f (mem_without.mp member).1
  refine ⟨name, ?_⟩
  rcases exists_context_or f with ⟨context, rfl⟩ | other
  · rw [contextField, record_isEncodable_iff] at value
    rw [contextField, keptValue, if_pos rfl, record_isEncodable_iff]
    exact fun inner inside => value inner (mem_without.mp inside).1
  · rwa [keptValue_other other]

/-- Errors are told unless one of them goes too far down. -/
theorem sanitized_eq_some_iff {out : List Content} :
    sanitized (errors.map .record) = some out ↔
      (∀ given ∈ errors, IsShallow given) ∧ errors.map (fun given => (Content.record (scrubbed given)).plain) = out := by
  unfold sanitized
  induction errors generalizing out with
  | nil => simp
  | cons given errors ih =>
    rw [List.map_cons, List.mapM_cons, Option.bind_eq_bind, Option.bind_eq_some_iff, List.forall_mem_cons, List.map_cons]
    simp only [plain?_eq_some_iff, depth_scrubbed_le_iff]
    constructor
    · rintro ⟨_, ⟨shallow, rfl⟩, rest⟩
      obtain ⟨told, others, same⟩ := Option.bind_eq_some_iff.mp rest
      obtain ⟨all, rfl⟩ := ih.mp others
      exact ⟨⟨shallow, all⟩, Option.some.inj same⟩
    · rintro ⟨⟨shallow, all⟩, rfl⟩
      refine ⟨_, ⟨shallow, rfl⟩, ?_⟩
      rw [ih.mpr ⟨all, rfl⟩]
      rfl

/-- There is a text for every number in what can be sent. -/
theorem isWritable_of_response {requestId : Option Text} {detail : Content} {status : Int} {error : Option Text}
    {a : Response} (answer : Response.ofContent status [] (.record (payload detail error requestId)) = .ok a) :
    detail.IsWritable := by
  obtain ⟨body, rendered, -⟩ := Except.map_eq_ok answer
  obtain ⟨t, wrote, -⟩ := Except.bind_eq_ok rendered
  refine record_isWritable_iff.mp (isWritable_of_written wrote) ("detail", detail) ?_
  unfold payload
  dsimp only
  split <;> simp

theorem exists_response {requestId : Option Text} {detail : Content} {message : Text} (status : Int)
    (sendable : detail.IsSendable 984) (encodable : message.IsEncodable) (identified : ∀ id ∈ requestId, id.IsEncodable) :
    ∃ a, Response.ofContent status [] (.record (payload detail (some message) requestId)) = .ok a := by
  have all : (Content.record (payload detail (some message) requestId)).IsSendable maxDepth := by
    refine record_isSendable ?_
    have always : ∀ f ∈ [(Text.ofString "detail", detail), (Text.ofString "error", Content.text message)],
        f.1.IsEncodable ∧ f.2.IsSendable 984 := by
      simp [sendable, text_isSendable encodable]
    unfold payload
    dsimp only
    split
    · rename_i c id
      rw [List.forall_mem_append]
      exact ⟨always, by simp [text_isSendable (identified (c :: id) rfl)]⟩
    · exact always
  obtain ⟨body, rendered⟩ := all.render
  exact ⟨_, by rw [Response.ofContent, rendered]; rfl⟩

/-- Whatever errors are told, if their texts can be sent: they are told unless one of them goes too far down, and there is
an answer exactly if, besides, there is a text for every number that is told. What is told of an error holds nothing that
was sent, neither itself nor in its context, and under every other name what the error holds. -/
theorem errors_told_iff (errors : List (List (Text × Content))) (requestId : Option Text)
    (encodable : ∀ given ∈ errors, (Content.record given).IsEncodable) (identified : ∀ id ∈ requestId, id.IsEncodable) :
    ((∃ a, (Problem.invalid (errors.map .record)).response requestId = .ok a) ↔
      ∀ given ∈ errors, IsShallow given ∧ IsNumbered given) ∧
      ((sanitized (errors.map .record)).isSome = true ↔ ∀ given ∈ errors, IsShallow given) ∧
      ∀ out, sanitized (errors.map .record) = some out →
        ∃ told, out = told.map .record ∧ List.Forall₂ IsScrubbed errors told := by
  refine ⟨?_, ?_, fun out told => ⟨errors.map fun given => plainFields (scrubbed given), ?_, ?_⟩⟩
  · rw [forall₂_and, Problem.response]
    constructor
    · rintro ⟨a, answer⟩
      cases told : sanitized (errors.map .record) with
      | none =>
        rw [told] at answer
        cases answer
      | some out =>
        rw [told] at answer
        obtain ⟨shallow, rfl⟩ := sanitized_eq_some_iff.mp told
        refine ⟨shallow, fun given member => isWritable_scrubbed_iff.mp ?_⟩
        rw [← isWritable_plain_iff]
        exact (isWritable_iff.mp (isWritable_of_response answer)).2 _ (List.mem_map_of_mem member)
    · rintro ⟨shallow, numbered⟩
      rw [sanitized_eq_some_iff.mpr ⟨shallow, rfl⟩]
      refine exists_response 422 (list_isSendable ?_) (Text.ofString_isEncodable _) identified
      rw [List.forall_mem_map]
      intro given member
      have low := depth_scrubbed_le_iff.mpr (shallow given member)
      exact plain_isSendable (isEncodable_scrubbed (encodable given member))
        (isWritable_scrubbed_iff.mpr (numbered given member)) (low.trans (by decide))
  · rw [Option.isSome_iff_exists]
    simp only [sanitized_eq_some_iff, exists_and_left, exists_eq', and_true]
  · rw [← (sanitized_eq_some_iff.mp told).2, List.map_map]
    exact List.map_congr_left fun given _ => by rw [Function.comp_apply, plain]
  · rw [List.forall₂_map_right_iff, List.forall₂_same]
    exact fun given _ => isScrubbed_scrubbed given

/-- An error of a request whose outline is no number, and of no text either. -/
def outlineError : List (Text × Content) := [
  ("type", .text "value_error"), ("loc", .tuple [.text "body", .text "outline"]),
  ("input", .number (.real .undefined)),
  ("ctx", .record [
    ("error", .failure (.other "ValueError" "Outline must be text.")), ("input", .list [.number (.real (.infinite true))]),
    ("since", .date ⟨2024, 2, 29⟩), ("limits", .set [ofInt 1, .number (.real (.finite (3 / 2)))])])]

theorem errors_told_iff_outline :
    (Content.record outlineError).IsEncodable ∧ Text.IsEncodable "req-1" ∧
      (∃ a, (Problem.invalid [.record outlineError]).response (some (Text.ofString "req-1")) = .ok a) ∧
      ∃ told, sanitized [.record outlineError] = some [.record told] ∧
        told.map Prod.fst = (["type", "loc", "ctx"] : List Text) := by
  have encodable : (Content.record outlineError).IsEncodable ∧ Text.IsEncodable "req-1" := by
    simp only [outlineError, Text.ofString_eq rfl]
    decide +kernel
  have fits : (Content.record (scrubbed outlineError)).depth ≤ maxDepth ∧
      (Content.record (scrubbed outlineError)).IsWritable := by
    simp only [outlineError, Text.ofString_eq rfl]
    decide +kernel
  have shallow : ∀ given ∈ [outlineError], IsShallow given :=
    List.forall_mem_singleton.mpr (depth_scrubbed_le_iff.mp fits.1)
  obtain ⟨answered, told, kept⟩ := errors_told_iff [outlineError] (some (Text.ofString "req-1"))
    (List.forall_mem_singleton.mpr encodable.1) (by rintro _ ⟨⟩; exact encodable.2)
  obtain ⟨out, here⟩ := Option.isSome_iff_exists.mp (told.mpr shallow)
  obtain ⟨_, rfl, scrubbed⟩ := kept out here
  obtain ⟨first, rest, isScrubbed, none, rfl⟩ := List.forall₂_cons_left_iff.mp scrubbed
  cases none
  refine ⟨encodable.1, encodable.2, answered.mpr (List.forall_mem_singleton.mpr ⟨depth_scrubbed_le_iff.mp fits.1,
    isWritable_scrubbed_iff.mp fits.2⟩), first, here, ?_⟩
  rw [isScrubbed.names]
  simp only [outlineError, Text.ofString_eq rfl]
  decide +kernel

/-- An error with a number in its context that is not finite. -/
def ratioError : List (Text × Content) := [
  ("type", .text "value_error"), ("ctx", .record [("ratio", .number (.real .undefined))])]

/-- A number that is not finite is left as it is, and there is no answer. -/
theorem ratioError_unanswered :
    (Content.record ratioError).IsEncodable ∧
      (Problem.invalid [.record ratioError]).response none = .error .notFinite := by
  constructor
  · simp only [ratioError, Text.ofString_eq rfl]
    decide +kernel
  · rfl

end LessonService.Web
