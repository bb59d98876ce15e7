import LessonService.Proofs.Store.RecordStep

namespace LessonService.Store

variable {now : Instant} {s : Store} {r : Record} {lessonId : Text}

def HasUniqueIds (s : Store) : Prop := (s.records.map Record.lessonId).Nodup

theorem mem_of_find? (found : s.find? lessonId = some r) : r ∈ s.records := List.mem_of_find?_eq_some found

theorem lessonId_of_find? (found : s.find? lessonId = some r) : r.lessonId = lessonId := by
  simpa using List.find?_some found

theorem find?_eq_none_iff : s.find? lessonId = none ↔ lessonId ∉ s.records.map Record.lessonId := by
  simp [find?]

theorem HasUniqueIds.find?_eq_some_iff (unique : s.HasUniqueIds) :
    s.find? lessonId = some r ↔ r ∈ s.records ∧ r.lessonId = lessonId := by
  constructor
  · exact fun found => ⟨mem_of_find? found, lessonId_of_find? found⟩
  · rintro ⟨member, same⟩
    cases found : s.find? lessonId with
    | none => exact absurd (List.mem_map.mpr ⟨r, member, same⟩) (find?_eq_none_iff.mp found)
    | some other =>
      have equal := List.inj_on_of_nodup_map unique (mem_of_find? found) member
        ((lessonId_of_find? found).trans same.symm)
      rw [equal]

theorem find?_updateWhere (holds : Record → Bool) (change : Record → Record)
    (kept : ∀ r, (change r).lessonId = r.lessonId) (s : Store) (lessonId : Text) :
    (updateWhere holds change s).2.find? lessonId =
      (s.find? lessonId).map fun r => if holds r then change r else r := by
  have same (r : Record) : (if holds r then change r else r).lessonId = r.lessonId := by
    split
    · exact kept r
    · rfl
  simp only [find?, updateWhere, List.find?_map, Function.comp_def, same]

theorem lessonIds_revised_sublist (now : Instant) (o : Operation) (records : List Record) :
    ((records.filterMap (o.revise now)).map Record.lessonId).Sublist (records.map Record.lessonId) := by
  induction records with
  | nil => exact .slnil
  | cons r records ih =>
    have step := o.revise_step now r
    cases revised : o.revise now r with
    | none =>
      rw [List.filterMap_cons_none revised]
      exact ih.cons _
    | some r' =>
      rw [revised] at step
      rw [List.filterMap_cons_some revised, List.map_cons, List.map_cons, step.lessonId_eq]
      exact ih.cons_cons _

theorem HasUniqueIds.after (unique : s.HasUniqueIds) (now : Instant) (o : Operation) :
    (o.after now s).HasUniqueIds := by
  have kept := unique.sublist (lessonIds_revised_sublist now o s.records)
  unfold HasUniqueIds
  rw [o.after_records]
  cases added : o.added? now s with
  | none => simpa using kept
  | some r =>
    have absent := find?_eq_none_iff.mp (Operation.added?_eq_some added).1
    rw [Option.toList_some, List.map_append, List.map_singleton, List.nodup_append]
    refine ⟨kept, List.nodup_singleton _, ?_⟩
    intro old oldMember new newMember same
    rw [List.mem_singleton.mp newMember] at same
    exact absent (same ▸ (lessonIds_revised_sublist now o s.records).subset oldMember)

theorem HasUniqueIds.afterAll (unique : s.HasUniqueIds) (steps : List (Instant × Operation)) :
    (s.afterAll steps).HasUniqueIds := by
  induction steps generalizing s with
  | nil => exact unique
  | cons step steps ih => exact ih (unique.after step.1 step.2)

/-- The primary key of the table, for every store that operations lead to. -/
theorem hasUniqueIds_afterAll (steps : List (Instant × Operation)) : (({} : Store).afterAll steps).HasUniqueIds :=
  HasUniqueIds.afterAll (show HasUniqueIds {} from List.nodup_nil) steps

/-- What is found under an identity afterwards is what the operation makes of the record that was found
there, or else the record that it adds. -/
theorem HasUniqueIds.find?_after (unique : s.HasUniqueIds) (now : Instant) (o : Operation) (lessonId : Text) :
    (o.after now s).find? lessonId =
      match s.find? lessonId with
      | some r => o.revise now r
      | none => (o.added? now s).filter fun r => r.lessonId = lessonId := by
  apply Option.ext
  intro r'
  rw [(unique.after now o).find?_eq_some_iff, o.after_records, List.mem_append, List.mem_filterMap, Option.mem_toList]
  cases found : s.find? lessonId with
  | none =>
    have absent := find?_eq_none_iff.mp found
    rw [Option.filter_eq_some_iff, decide_eq_true_eq]
    constructor
    · rintro ⟨⟨old, member, revised⟩ | added, same⟩
      · have kept := (revised ▸ o.revise_step now old : old.Step now (some r')).lessonId_eq
        exact absurd (List.mem_map.mpr ⟨old, member, kept.symm.trans same⟩) absent
      · exact ⟨added, same⟩
    · exact fun ⟨added, same⟩ => ⟨.inr added, same⟩
  | some r =>
    constructor
    · rintro ⟨⟨old, member, revised⟩ | added, same⟩
      · have kept := (revised ▸ o.revise_step now old : old.Step now (some r')).lessonId_eq
        have here := unique.find?_eq_some_iff.mpr ⟨member, kept.symm.trans same⟩
        rw [Option.some.inj (found.symm.trans here)]
        exact revised
      · have absent := (Operation.added?_eq_some added).1
        rw [same, found] at absent
        cases absent
    · intro revised
      have kept := (revised ▸ o.revise_step now r : r.Step now (some r')).lessonId_eq
      exact ⟨.inl ⟨r, mem_of_find? found, revised⟩, kept.trans (lessonId_of_find? found)⟩

end LessonService.Store
