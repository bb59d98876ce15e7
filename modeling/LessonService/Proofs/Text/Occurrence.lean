import LessonService.Text.Basic
import Mathlib.Data.List.Infix

namespace LessonService.Text

variable {part a b t : Text} {c : CodePoint}

/-- A literal as its characters. With `rfl` for the hypothesis, it is never decoded from bytes. -/
theorem ofString_eq {s : String} {l : List Char} (same : s = String.ofList l) :
    ofString s = l.map fun c => CodePoint.mk c.toNat := by
  rw [same, ofString, String.toList_ofList]

theorem contains_iff (part t : Text) : contains part t = true ↔ part <:+: t := by
  induction t with
  | nil => simp [contains]
  | cons c t ih =>
    rw [contains, Bool.or_eq_true, ih, List.isPrefixOf_iff_prefix, List.infix_cons_iff]

theorem contains_eq_false_iff (part t : Text) : contains part t = false ↔ ¬part <:+: t := by
  rw [← contains_iff, Bool.not_eq_true]

/-- A text is parted after a character that the rest does not have. -/
theorem exists_rest_of_notMem {x : Text} (same : a ++ c :: x = t ++ b) (absent : c ∉ b) :
    ∃ rest, t = a ++ c :: rest ∧ x = rest ++ b := by
  rcases List.append_eq_append_iff.mp same with ⟨later, rfl, tail⟩ | ⟨later, rfl, rfl⟩
  · cases later with
    | nil =>
      cases tail
      exact absurd List.mem_cons_self absent
    | cons d rest =>
      cases tail
      exact ⟨rest, rfl, rfl⟩
  · exact absurd (List.mem_append_right _ List.mem_cons_self) absent

/-- A text without a character ends before it. -/
theorem exists_rest_of_notMem_left {x : Text} (same : a ++ x = t ++ c :: b) (absent : c ∉ a) :
    ∃ rest, t = a ++ rest ∧ x = rest ++ c :: b := by
  rcases List.append_eq_append_iff.mp same with ⟨later, rfl, tail⟩ | ⟨later, rfl, tail⟩
  · exact ⟨later, rfl, tail⟩
  · cases later with
    | nil => exact ⟨[], by simp, tail.symm⟩
    | cons d later =>
      cases tail
      exact absurd (List.mem_append_right _ List.mem_cons_self) absent

/-- The first of a character parts a text in one way. -/
theorem eq_of_notMem {x : Text} (same : a ++ c :: x = t ++ c :: b) (first : c ∉ a) (second : c ∉ t) : a = t := by
  obtain ⟨rest, rfl, tail⟩ := exists_rest_of_notMem_left same first
  cases rest with
  | nil => rw [List.append_nil]
  | cons d rest =>
    cases tail
    exact absurd (List.mem_append_right _ List.mem_cons_self) second

/-- A text without a certain character occurs on one side of that character or on the other. -/
theorem infix_append_cons_iff (absent : c ∉ part) : part <:+: a ++ c :: b ↔ part <:+: a ∨ part <:+: b := by
  constructor
  · rintro ⟨before, after, split⟩
    rw [List.append_assoc] at split
    rcases List.append_eq_append_iff.mp split with ⟨later, rfl, tail⟩ | ⟨later, rfl, tail⟩
    · rcases List.append_eq_append_iff.mp tail with ⟨last, rfl, _⟩ | ⟨last, same, crossing⟩
      · exact .inl (List.infix_append' before part last)
      · cases last with
        | nil => exact .inl (by simpa [same] using List.infix_append' before later [])
        | cons d last =>
          cases crossing
          exact absurd (by simp [same]) absent
    · cases later with
      | nil =>
        cases part with
        | nil => exact .inl List.nil_infix
        | cons d part =>
          cases tail
          exact absurd List.mem_cons_self absent
      | cons d later =>
        cases tail
        exact .inr (by simp)
  · rintro (inFirst | inSecond)
    · exact inFirst.trans (List.prefix_append a _).isInfix
    · exact inSecond.trans ((List.suffix_cons c b).trans (List.suffix_append a _)).isInfix

theorem prefix_of_prefix_append_cons (absent : c ∉ part) (here : part <+: a ++ c :: b) : part <+: a := by
  rcases List.prefix_or_prefix_of_prefix here (List.prefix_append a (c :: b)) with inFirst | ⟨crossing, rfl⟩
  · exact inFirst
  · rw [List.prefix_append_right_inj] at here
    cases crossing with
    | nil => rw [List.append_nil]
    | cons d crossing =>
      obtain ⟨rfl, -⟩ := List.cons_prefix_cons.mp here
      exact absurd (List.mem_append_right a List.mem_cons_self) absent

/-- The places at which a text occurs in another. -/
def occurrences (part t : Text) : List Nat := (List.range t.length).filter fun i => part.isPrefixOf (t.drop i)

theorem occurrences_eq_nil_iff (filled : part ≠ []) : occurrences part t = [] ↔ contains part t = false := by
  rw [contains_eq_false_iff, occurrences, List.filter_eq_nil_iff]
  constructor
  · rintro absent ⟨before, after, rfl⟩
    have length := List.length_pos_iff.mpr filled
    refine absent before.length (List.mem_range.mpr (by simp; omega)) ?_
    rw [List.append_assoc, List.drop_left, List.isPrefixOf_iff_prefix]
    exact List.prefix_append part after
  · intro absent i _ here
    rw [List.isPrefixOf_iff_prefix] at here
    exact absent (here.isInfix.trans (List.drop_suffix i t).isInfix)

/-- Texts that are put together hold what each of them holds, if nothing starts in one and ends in the other. -/
theorem occurrences_append
    (seam : ∀ i < a.length, part <+: a.drop i ++ b → part <+: a.drop i) :
    occurrences part (a ++ b) = occurrences part a ++ (occurrences part b).map (a.length + ·) := by
  unfold occurrences
  rw [List.length_append, List.range_add, List.filter_append, List.filter_map]
  congr 1
  · apply List.filter_congr
    intro i member
    have within : i < a.length := List.mem_range.mp member
    rw [List.drop_append_of_le_length within.le, Bool.eq_iff_iff, List.isPrefixOf_iff_prefix,
      List.isPrefixOf_iff_prefix]
    exact ⟨seam i within, fun here => here.trans (List.prefix_append _ b)⟩
  · congr 1
    apply List.filter_congr
    intro i _
    rw [Function.comp_apply, ← List.drop_drop, List.drop_left]

end LessonService.Text
