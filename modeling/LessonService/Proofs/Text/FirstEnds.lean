import LessonService.Proofs.Text.Stretches

namespace LessonService.Pattern

variable {p q : Pattern} {place e : Place} {previous : Option CodePoint} {a b t run : Text} {holds : CodePoint → Bool}
  {c : CodePoint} {least : Nat}

theorem end?_both (p q : Pattern) (place : Place) : (both p q).end? place = (p.ends place).findSome? q.end? := by
  rw [end?, ends, List.head?_flatMap]
  rfl

/-- A part that ends in one place only hands it on. -/
theorem end?_both_of_ends (only : p.ends place = [e]) : (both p q).end? place = q.end? e := by
  rw [end?_both, only, List.findSome?_singleton]

/-- The first end of a part decides if the rest goes on from it. -/
theorem end?_both_of_end? {last : Place} (first : p.end? place = some e) (goes : q.end? e = some last) :
    (both p q).end? place = some last := by
  obtain ⟨others, all⟩ := List.head?_eq_some_iff.mp first
  rw [end?_both, all, List.findSome?_cons, goes]

theorem end?_either (p q : Pattern) (place : Place) : (either p q).end? place = (p.end? place).or (q.end? place) :=
  List.head?_append

theorem end?_optional (p : Pattern) (place : Place) : (Pattern.optional p).end? place = (p.end? place).or (some place) := by
  rw [Pattern.optional, end?_either]
  rfl

/-- At the end of a text nothing is left after an end. -/
theorem map_rest_end?_nil (ends : (p.end? ⟨previous, []⟩).isSome = true) :
    (p.end? ⟨previous, []⟩).map Place.rest = some [] := by
  obtain ⟨e, ends⟩ := Option.isSome_iff_exists.mp ends
  obtain ⟨leads, -⟩ := end?_eq_some ends
  rw [ends, Option.map_some, (List.append_eq_nil_iff.mp leads.1.symm).2]

theorem ends_one (member : holds c = true) : (one holds).ends ⟨previous, c :: t⟩ = [⟨some c, t⟩] := by
  rw [ends]
  exact if_pos member

theorem ends_between {holds : Option CodePoint → Option CodePoint → Bool} (held : holds previous t.head? = true) :
    (between holds).ends ⟨previous, t⟩ = [⟨previous, t⟩] := by
  rw [ends]
  exact if_pos held

/-- A word ends after its last character. -/
theorem ends_exactly (word : Text) :
    (exactly word).ends ⟨previous, word ++ t⟩ = [⟨word.getLast?.or previous, t⟩] := by
  induction word generalizing previous with
  | nil => rfl
  | cons c word ih =>
    have here : (one (· = c)).ends ⟨previous, c :: (word ++ t)⟩ = [⟨some c, word ++ t⟩] := ends_one (decide_eq_true rfl)
    cases word with
    | nil => exact here
    | cons d word =>
      have row : (exactly (c :: d :: word)).ends ⟨previous, c :: (d :: word ++ t)⟩
          = ((one (· = c)).ends ⟨previous, c :: (d :: word ++ t)⟩).flatMap (exactly (d :: word)).ends := rfl
      rw [getLast?_cons_or, List.cons_append, row, here, List.flatMap_singleton]
      exact ih

theorem getLast?_along (all : ∀ c ∈ run, holds c = true) (stops : ∀ c ∈ t.head?, holds c = false) :
    (along holds previous (run ++ t)).getLast? = some ⟨run.getLast?.or previous, t⟩ ∧
      (along holds previous (run ++ t)).length = run.length + 1 := by
  induction run generalizing previous with
  | nil =>
    cases t with
    | nil => exact ⟨rfl, rfl⟩
    | cons c t =>
      have first : holds c = false := stops c rfl
      simp [along, first]
  | cons c run ih =>
    rw [List.forall_mem_cons] at all
    obtain ⟨last, length⟩ := @ih (some c) all.2
    rw [List.cons_append, along, if_pos all.1, getLast?_cons_or]
    refine ⟨?_, by rw [List.length_cons, length, List.length_cons]⟩
    rw [List.getLast?_cons, last]
    rfl

/-- As many characters as possible: the whole run of them. -/
theorem end?_most (all : ∀ c ∈ run, holds c = true) (long : least ≤ run.length)
    (stops : ∀ c ∈ t.head?, holds c = false) :
    (most holds least).end? ⟨previous, run ++ t⟩ = some ⟨run.getLast?.or previous, t⟩ := by
  obtain ⟨last, length⟩ := @getLast?_along previous t run holds all stops
  have short : ¬(along holds previous (run ++ t)).length ≤ least := by omega
  rw [end?, ends, List.head?_reverse, List.getLast?_drop, if_neg short, last]

/-- No characters, where none can be read. -/
theorem end?_most_nil (stops : ∀ c ∈ t.head?, holds c = false) :
    (most holds 0).end? ⟨previous, t⟩ = some ⟨previous, t⟩ := by
  simpa using @end?_most previous t [] holds 0 (by simp) (Nat.zero_le _) stops

theorem findFrom?_nil : (p.findFrom? previous []).map Prod.snd = p.end? ⟨previous, []⟩ := by
  rw [findFrom?, Option.map_map]
  exact Option.map_id'

theorem findFrom?_cons : (p.findFrom? previous (c :: t)).map Prod.snd
    = (p.end? ⟨previous, c :: t⟩).or ((p.findFrom? (some c) t).map Prod.snd) := by
  rw [findFrom?]
  cases p.end? ⟨previous, c :: t⟩ <;> rfl

/-- As few characters as possible, whatever they are: the rest is searched for. -/
theorem end?_fewest (p : Pattern) (previous : Option CodePoint) (t : Text) :
    (both (fewest (fun _ => true) 0) p).end? ⟨previous, t⟩ = (p.findFrom? previous t).map Prod.snd := by
  rw [end?_both, ends, List.drop_zero]
  induction t generalizing previous with
  | nil =>
    rw [along, List.findSome?_singleton, findFrom?_nil]
  | cons c t ih =>
    rw [along, if_pos rfl, List.findSome?_cons, ih, findFrom?_cons]
    cases p.end? ⟨previous, c :: t⟩ <;> rfl

theorem end?_eq_none (reads : p.alwaysReads = true) (unmet : ¬p.Starts previous t) : p.end? ⟨previous, t⟩ = none := by
  by_contra some
  obtain ⟨found, after, text, match_⟩ := end?_isSome_iff.mp (Option.isSome_iff_ne_none.mpr some)
  refine unmet ⟨found, after, text, ?_, match_⟩
  rintro rfl
  exact not_matches_nil reads _ _ match_

/-- A search goes over a text in which nothing starts. -/
theorem findFrom?_append (reads : p.alwaysReads = true) (passes : p.Passes previous a b) :
    (p.findFrom? previous (a ++ b)).map Prod.snd = (p.findFrom? (a.getLast?.or previous) b).map Prod.snd := by
  induction a generalizing previous with
  | nil => rfl
  | cons c a ih =>
    rw [passes_cons] at passes
    have none : p.end? ⟨previous, c :: (a ++ b)⟩ = none := end?_eq_none reads passes.1
    rw [List.cons_append, findFrom?_cons, none, Option.none_or, ih passes.2, getLast?_cons_or]

/-- What a search finds stands in the text, and the pattern matches it there. -/
theorem exists_of_findFrom? (found : (p.findFrom? previous t).map Prod.snd = some e) :
    ∃ before m, t = before ++ m ++ e.rest ∧ p.Matches (before.getLast?.or previous) m e.rest := by
  induction t generalizing previous with
  | nil =>
    rw [findFrom?_nil] at found
    obtain ⟨leads, match_⟩ := end?_eq_some found
    exact ⟨[], _, leads.1, match_⟩
  | cons c t ih =>
    rw [findFrom?_cons] at found
    cases here : p.end? ⟨previous, c :: t⟩ with
    | some first =>
      rw [here, Option.some_or, Option.some.injEq] at found
      obtain ⟨leads, match_⟩ := end?_eq_some here
      rw [found] at leads match_
      exact ⟨[], _, leads.1, match_⟩
    | none =>
      rw [here, Option.none_or] at found
      obtain ⟨before, m, rfl, match_⟩ := ih found
      exact ⟨c :: before, m, rfl, by rwa [getLast?_cons_or]⟩

/-- What is left when matches are removed is the text with characters missing. -/
theorem removed_sublist (p : Pattern) (previous : Option CodePoint) (t : Text) :
    ((p.segmentsFrom previous t).flatMap (Segment.changed fun _ => [])).Sublist t := by
  have smaller (s : List Segment) :
      (s.flatMap (Segment.changed fun _ => [])).Sublist (s.flatMap Segment.text) := by
    induction s with
    | nil => exact List.Sublist.refl _
    | cons segment s ih =>
      rw [List.flatMap_cons, List.flatMap_cons]
      cases segment with
      | kept c => exact (List.Sublist.refl _).append ih
      | found m => exact (List.nil_sublist m).append ih
  have whole := smaller (p.segmentsFrom previous t)
  rwa [flatMap_text_segmentsFrom] at whole

/-- From where a match starts on, only what comes after it can be left. -/
theorem removed_sublist_of_end? (ends : p.end? ⟨previous, t⟩ = some e) (shorter : e.rest.length < t.length) :
    ((p.segmentsFrom previous t).flatMap (Segment.changed fun _ => [])).Sublist e.rest := by
  cases t with
  | nil => exact absurd shorter (Nat.not_lt_zero _)
  | cons c t =>
    rw [segmentsFrom_of_end? ends shorter, List.flatMap_cons]
    exact removed_sublist p e.previous e.rest

theorem remove_sublist (p : Pattern) (t : Text) : (p.remove t).Sublist t := by
  rw [remove, replaceAll_eq]
  exact removed_sublist p none t

end LessonService.Pattern
