import LessonService.Proofs.Text.Matching

namespace LessonService.Pattern

variable {p : Pattern} {place e : Place} {previous : Option CodePoint} {before found rest t : Text}

/-- Of two ways to part a text, the one that parts it later goes on from the other. -/
theorem exists_append_of_length_le {a b c d : Text} (same : a ++ b = c ++ d) (le : a.length ≤ c.length) :
    ∃ middle, c = a ++ middle ∧ b = middle ++ d := by
  obtain ⟨middle, rfl⟩ := List.prefix_of_prefix_length_le (List.prefix_append a b)
    (same ▸ List.prefix_append c d) le
  rw [List.append_assoc] at same
  exact ⟨middle, rfl, List.append_cancel_left same⟩

theorem mem_findAll : found ∈ p.findAll t ↔ .found found ∈ p.segmentsFrom none t := by
  rw [findAll, List.mem_filterMap, segments]
  constructor
  · rintro ⟨s, member, same⟩
    cases s with
    | found m => exact Option.some.inj same ▸ member
    | kept c => cases same
  · exact fun member => ⟨_, member, rfl⟩

theorem Leads.spanned_eq (leads : Leads place found e) : spanned place e = found := by
  rw [spanned, leads.1, List.length_append, Nat.add_sub_cancel, List.take_left]

/-- A pattern that can end somewhere matches what lies between. -/
theorem end?_eq_some (ends : p.end? place = some e) :
    Leads place (spanned place e) e ∧ p.Matches place.previous (spanned place e) e.rest := by
  obtain ⟨found, leads, match_⟩ := mem_ends.mp (List.mem_of_head? ends)
  rw [leads.spanned_eq]
  exact ⟨leads, match_⟩

/-- What stands before a place goes on over what leads there. -/
theorem Leads.previous_append (leads : Leads place found e) (more : Text) :
    (found ++ more).getLast?.or place.previous = more.getLast?.or e.previous := by
  rw [leads.2, List.getLast?_append, Option.or_assoc]

/-- Whatever is found stands in the text, and the pattern matches it there. -/
theorem matches_of_found (member : .found found ∈ p.segmentsFrom previous t) :
    ∃ before after, t = before ++ found ++ after ∧ p.Matches (before.getLast?.or previous) found after := by
  fun_induction segmentsFrom p previous t with
  | case1 => cases member
  | case2 previous c rest e ends _ ih =>
    obtain ⟨leads, match_⟩ := end?_eq_some ends
    rcases List.mem_cons.mp member with here | later
    · cases here
      exact ⟨[], e.rest, leads.1, match_⟩
    · obtain ⟨before, after, text, match_⟩ := ih later
      refine ⟨spanned ⟨previous, c :: rest⟩ e ++ before, after, ?_, ?_⟩
      · rw [List.append_assoc, List.append_assoc, ← List.append_assoc before, ← text]
        exact leads.1
      · rwa [leads.previous_append]
  | case3 previous c rest e _ _ ih | case4 previous c rest _ ih =>
    have later := (List.mem_cons.mp member).resolve_left (by rintro ⟨⟩)
    obtain ⟨before, after, rfl, match_⟩ := ih later
    exact ⟨c :: before, after, rfl, by rwa [getLast?_cons_or]⟩

/-- Something is found around a position of a text: it starts there or before, and ends after it. -/
def FindsAround (p : Pattern) (previous : Option CodePoint) (t : Text) (position : Nat) : Prop :=
  ∃ earlier found after, t = earlier ++ found ++ after ∧ .found found ∈ p.segmentsFrom previous t ∧
    p.Matches (earlier.getLast?.or previous) found after ∧
    earlier.length ≤ position ∧ position < earlier.length + found.length

/-- What is found after a match counts from its end. -/
theorem FindsAround.after_match {position : Nat} {c : CodePoint} (ends : p.end? ⟨previous, c :: t⟩ = some e)
    (shorter : e.rest.length < (c :: t).length) (around : FindsAround p e.previous e.rest position) :
    FindsAround p previous (c :: t) ((spanned ⟨previous, c :: t⟩ e).length + position) := by
  obtain ⟨earlier, found, after, text, member, match_, lower, upper⟩ := around
  have leads := (end?_eq_some ends).1
  refine ⟨spanned ⟨previous, c :: t⟩ e ++ earlier, found, after, ?_, ?_, ?_, ?_, ?_⟩
  · rw [List.append_assoc, List.append_assoc, ← List.append_assoc earlier, ← text]
    exact leads.1
  · rw [segmentsFrom, ends]
    simp only [dif_pos shorter]
    exact List.mem_cons_of_mem _ member
  · rwa [leads.previous_append]
  · rw [List.length_append]
    omega
  · rw [List.length_append]
    omega

/-- What is found after a character that is kept counts from the next one. -/
theorem FindsAround.after_kept {position : Nat} {c : CodePoint}
    (kept : p.segmentsFrom previous (c :: t) = .kept c :: p.segmentsFrom (some c) t)
    (around : FindsAround p (some c) t position) : FindsAround p previous (c :: t) (position + 1) := by
  obtain ⟨earlier, found, after, text, member, match_, lower, upper⟩ := around
  refine ⟨c :: earlier, found, after, ?_, ?_, ?_, ?_, ?_⟩
  · rw [text, List.cons_append, List.cons_append]
  · rw [kept]
    exact List.mem_cons_of_mem _ member
  · rwa [getLast?_cons_or]
  · rw [List.length_cons]
    omega
  · rw [List.length_cons]
    omega

/-- A place from which the pattern goes on lies in something that is found. -/
theorem findsAround_of_end? (ends : p.end? ⟨before.getLast?.or previous, rest⟩ = some e)
    (shorter : e.rest.length < rest.length) : FindsAround p previous (before ++ rest) before.length := by
  generalize whole : before ++ rest = t
  fun_induction segmentsFrom p previous t generalizing before with
  | case1 =>
    rw [(List.append_eq_nil_iff.mp whole).2] at shorter
    exact absurd shorter (Nat.not_lt_zero _)
  | case2 previous c tail first firstEnds advances ih =>
    obtain ⟨leads, match_⟩ := end?_eq_some firstEnds
    generalize inside : spanned ⟨previous, c :: tail⟩ first = m at *
    by_cases covered : before.length < m.length
    · refine ⟨[], m, first.rest, leads.1, ?_, match_, Nat.zero_le _, by simpa using covered⟩
      rw [segmentsFrom, firstEnds]
      simp only [dif_pos advances, inside]
      exact List.mem_cons_self
    · obtain ⟨later, rfl, tail⟩ := exists_append_of_length_le (leads.1.symm.trans whole.symm) (Nat.le_of_not_lt covered)
      rw [List.length_append, ← inside]
      exact (ih (by rwa [← leads.previous_append]) tail.symm).after_match firstEnds advances
  | case3 previous c tail first firstEnds stays ih =>
    cases before with
    | nil =>
      cases whole
      cases firstEnds.symm.trans ends
      exact absurd shorter stays
    | cons d before =>
      cases whole
      refine (ih (by rwa [← getLast?_cons_or]) rfl).after_kept ?_
      rw [segmentsFrom, firstEnds]
      simp only [dif_neg stays]
  | case4 previous c tail none ih =>
    cases before with
    | nil =>
      cases whole
      cases none.symm.trans ends
    | cons d before =>
      cases whole
      refine (ih (by rwa [← getLast?_cons_or]) rfl).after_kept ?_
      rw [segmentsFrom, none]

end LessonService.Pattern
