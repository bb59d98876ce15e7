import LessonService.Proofs.Store.RecordStep
import Mathlib.Tactic.Tauto

namespace LessonService.Store

variable {s : Store} {outline : Text} {since now : Instant} {r r' : Record}

/-- The lessons that have not failed. -/
def live (s : Store) : List Record := s.records.filter fun r => r.status ≠ .failed

theorem mem_live : r ∈ s.live ↔ r ∈ s.records ∧ r.status ≠ .failed := by simp [live]

theorem mem_live_add {lessonId outline title : Text} :
    r ∈ live ⟨s.records ++ [Record.start now lessonId outline title]⟩ ↔
      r ∈ s.live ∨ r = Record.start now lessonId outline title := by
  simp [live, List.filter_append, Record.start]

theorem foldl_ne_none {α β : Type} {step : Option α → β → Option α} (kept : ∀ a b, step (some a) b ≠ none) (a : α)
    (bs : List β) : bs.foldl step (some a) ≠ none := by
  induction bs generalizing a with
  | nil => exact Option.some_ne_none a
  | cons b bs ih =>
    obtain ⟨next, eq⟩ := Option.ne_none_iff_exists'.mp (kept a b)
    rw [List.foldl_cons, eq]
    exact ih next

theorem findDuplicate?_eq_none_iff :
    s.findDuplicate? outline since = none ↔
      ∀ r ∈ s.live, r.outline = outline → r.createdAt.micros < since.micros := by
  have candidate (r : Record) : r ∈ (s.records.filter fun r =>
      r.outline = outline && r.status ≠ .failed && since.micros ≤ r.createdAt.micros) ↔
        r ∈ s.live ∧ r.outline = outline ∧ since.micros ≤ r.createdAt.micros := by
    simp [mem_live]
    tauto
  unfold findDuplicate?
  dsimp only
  generalize s.records.filter _ = candidates at candidate
  constructor
  · intro none_ r member same
    cases candidates with
    | nil => exact Int.not_le.mp fun late => List.not_mem_nil ((candidate r).mpr ⟨member, same, late⟩)
    | cons first rest =>
      refine absurd none_ (foldl_ne_none (fun last r => ?_) first rest)
      dsimp only
      split <;> exact Option.some_ne_none _
  · intro early
    cases candidates with
    | nil => rfl
    | cons first rest =>
      obtain ⟨member, same, late⟩ := (candidate first).mp List.mem_cons_self
      exact absurd late (Int.not_le.mpr (early first member same))

/-- A lesson that has not failed after an operation that adds none had not failed before, and was the same. -/
theorem Operation.exists_live_before {o : Operation} (adds : o.added? now s = none)
    (member : r' ∈ (o.after now s).live) :
    ∃ r ∈ s.live, r.lessonId = r'.lessonId ∧ r.outline = r'.outline ∧ r.createdAt = r'.createdAt := by
  obtain ⟨member, unfailed⟩ := mem_live.mp member
  rw [o.after_records, adds, Option.toList_none, List.append_nil, List.mem_filterMap] at member
  obtain ⟨r, before, revised⟩ := member
  have step := o.revise_step now r
  rw [revised] at step
  refine ⟨r, mem_live.mpr ⟨before, ?_⟩, ?_⟩
  · intro failed
    cases step with
    | keep => exact unfailed failed
    | succeed unfinished | fail unfinished | abandon unfinished => rw [failed] at unfinished; cases unfinished
  · cases step <;> exact ⟨rfl, rfl, rfl⟩

end LessonService.Store
