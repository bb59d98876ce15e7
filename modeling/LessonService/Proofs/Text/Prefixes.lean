import LessonService.Proofs.Text.FirstEnds

namespace LessonService.Pattern

variable {p q : Pattern} {previous previous' : Option CodePoint} {place e : Place} {a x t : Text} {holds : CodePoint → Bool}
  {c : CodePoint}

/-- Whether a pattern looks at nothing but the characters that it reads. -/
def isPlain : Pattern → Bool
  | one _ | most _ _ | fewest _ _ | nothing => true
  | between _ | ahead _ => false
  | both first second | either first second => first.isPlain && second.isPlain

/-- What is left of a text at the places where a pattern can end. -/
def rests (p : Pattern) (previous : Option CodePoint) (t : Text) : List Text := (p.ends ⟨previous, t⟩).map Place.rest

/-- What is left of a text after each number of characters of a class. -/
def tails (holds : CodePoint → Bool) (t : Text) : List Text := (along holds none t).map Place.rest

theorem map_rest_along (previous : Option CodePoint) (t : Text) : (along holds previous t).map Place.rest = tails holds t := by
  cases t <;> rfl

theorem tails_cons (c : CodePoint) (t : Text) : tails holds (c :: t) = (c :: t) :: if holds c then tails holds t else [] := by
  rw [tails, along, List.map_cons, apply_ite (List.map Place.rest), map_rest_along, List.map_nil]

theorem length_le_of_mem_tails {r : Text} (member : r ∈ tails holds t) : r.length ≤ t.length := by
  induction t with
  | nil => exact List.mem_singleton.mp member ▸ Nat.le_refl _
  | cons c t ih =>
    rw [tails_cons, List.mem_cons] at member
    rcases member with rfl | later
    · exact Nat.le_refl _
    · split at later
      · exact Nat.le_succ_of_le (ih later)
      · cases later

/-- Characters of a class are taken from a text as from a prefix of it, and then from what follows. -/
theorem exists_tails_append (holds : CodePoint → Bool) (a x : Text) :
    ∃ more, tails holds (a ++ x) = (tails holds a).map (· ++ x) ++ more ∧ ∀ r ∈ more, r.length < x.length := by
  induction a with
  | nil =>
    cases x with
    | nil => exact ⟨[], rfl, List.forall_mem_nil _⟩
    | cons c x =>
      refine ⟨if holds c then tails holds x else [], tails_cons c x, fun r member => ?_⟩
      split at member
      · exact Nat.lt_succ_of_le (length_le_of_mem_tails member)
      · cases member
  | cons c a ih =>
    obtain ⟨more, whole, short⟩ := ih
    cases here : holds c with
    | true => exact ⟨more, by rw [List.cons_append, tails_cons, tails_cons, here, if_pos rfl, if_pos rfl, whole]; rfl, short⟩
    | false => exact ⟨[], by rw [List.cons_append, tails_cons, tails_cons, here]; rfl, List.forall_mem_nil _⟩

theorem filter_tails_append (least : Nat) (a x : Text) :
    ((tails holds (a ++ x)).drop least).filter (fun r => x.length ≤ r.length)
      = ((tails holds a).drop least).map (· ++ x) := by
  obtain ⟨more, whole, short⟩ := exists_tails_append holds a x
  have none : (more.drop (least - ((tails holds a).map (· ++ x)).length)).filter (fun r => x.length ≤ r.length) = [] := by
    rw [List.filter_eq_nil_iff]
    exact fun r member => by simpa using short r (List.mem_of_mem_drop member)
  rw [whole, List.drop_append, List.filter_append, none, List.append_nil, ← List.map_drop, List.filter_eq_self]
  intro r member
  obtain ⟨s, -, rfl⟩ := List.mem_map.mp member
  simp

theorem rests_most (least : Nat) : (most holds least).rests previous t = ((tails holds t).drop least).reverse := by
  rw [rests, ends, List.map_reverse, List.map_drop, map_rest_along]

theorem rests_fewest (least : Nat) : (fewest holds least).rests previous t = (tails holds t).drop least := by
  rw [rests, ends, List.map_drop, map_rest_along]

theorem rests_either : (either p q).rests previous t = p.rests previous t ++ q.rests previous t := List.map_append

theorem length_le_of_mem_rests {r : Text} (member : r ∈ p.rests previous t) : r.length ≤ t.length := by
  obtain ⟨e, among, rfl⟩ := List.mem_map.mp member
  obtain ⟨found, leads, -⟩ := mem_ends.mp among
  rw [show t = found ++ e.rest from leads.1, List.length_append]
  exact Nat.le_add_left _ _

theorem rests_one_cons (c : CodePoint) (t : Text) : (one holds).rests previous (c :: t) = if holds c then [t] else [] := by
  rw [rests, ends, apply_ite (List.map Place.rest)]
  rfl

theorem rests_both (same : ∀ previous t, q.rests previous t = q.rests none t) (previous : Option CodePoint) (t : Text) :
    (both p q).rests previous t = (p.rests previous t).flatMap (q.rests none) := by
  have parts : (both p q).rests previous t = (p.ends ⟨previous, t⟩).flatMap fun e => q.rests e.previous e.rest := by
    rw [rests, ends, List.map_flatMap]
    rfl
  rw [parts, rests, List.flatMap_map]
  simp only [same]

/-- What stands before a place does not matter. -/
theorem rests_eq (plain : p.isPlain = true) (previous : Option CodePoint) (t : Text) :
    p.rests previous t = p.rests none t := by
  induction p generalizing previous t with
  | one holds => cases t <;> rfl
  | most holds least => rw [rests_most, rests_most]
  | fewest holds least => rw [rests_fewest, rests_fewest]
  | between | ahead => cases plain
  | nothing => rfl
  | both first second ihFirst ihSecond =>
    obtain ⟨plainFirst, plainSecond⟩ := (Bool.and_eq_true _ _).mp plain
    have same := ihSecond plainSecond
    rw [rests_both same, rests_both same, ihFirst plainFirst]
  | either first second ihFirst ihSecond =>
    obtain ⟨plainFirst, plainSecond⟩ := (Bool.and_eq_true _ _).mp plain
    rw [rests_either, rests_either, ihFirst plainFirst, ihSecond plainSecond]

theorem filter_rests_one_append (a x : Text) :
    ((one holds).rests none (a ++ x)).filter (fun r => x.length ≤ r.length)
      = ((one holds).rests none a).map (· ++ x) := by
  cases a with
  | nil =>
    cases x with
    | nil => rfl
    | cons c x =>
      rw [List.nil_append, rests_one_cons]
      cases holds c with
      | false => rfl
      | true => exact List.filter_eq_nil_iff.mpr (by simp)
  | cons c a =>
    rw [List.cons_append, rests_one_cons, rests_one_cons]
    cases holds c with
    | false => rfl
    | true => simp

/-- A pattern that goes on after another one leaves enough only where that one did. -/
theorem filter_flatMap_rests (p : Pattern) (rs : List Text) (n : Nat) :
    (rs.flatMap (p.rests none)).filter (fun r => n ≤ r.length)
      = ((rs.filter fun r => n ≤ r.length).flatMap (p.rests none)).filter fun r => n ≤ r.length := by
  induction rs with
  | nil => rfl
  | cons r rs ih =>
    rw [List.flatMap_cons, List.filter_append, ih, List.filter_cons]
    split
    · rw [List.flatMap_cons, List.filter_append]
    · have none : (p.rests none r).filter (fun r => n ≤ r.length) = [] := by
        rw [List.filter_eq_nil_iff]
        intro s member
        have le := length_le_of_mem_rests member
        simp_all
        omega
      rw [none, List.nil_append]

/-- Neither does what stands after a prefix, as long as the pattern ends in the prefix. -/
theorem filter_rests_append (plain : p.isPlain = true) (a x : Text) :
    (p.rests none (a ++ x)).filter (fun r => x.length ≤ r.length) = (p.rests none a).map (· ++ x) := by
  induction p generalizing a with
  | one holds => exact filter_rests_one_append a x
  | most holds least => rw [rests_most, rests_most, List.filter_reverse, filter_tails_append, List.map_reverse]
  | fewest holds least => rw [rests_fewest, rests_fewest, filter_tails_append]
  | between | ahead => cases plain
  | nothing => simp [rests, ends]
  | both first second ihFirst ihSecond =>
    obtain ⟨plainFirst, plainSecond⟩ := (Bool.and_eq_true _ _).mp plain
    have same := rests_eq plainSecond
    rw [rests_both same, rests_both same, filter_flatMap_rests, ihFirst plainFirst, List.filter_flatMap,
      List.flatMap_map, List.map_flatMap]
    congr 1
    funext r
    exact ihSecond plainSecond r
  | either first second ihFirst ihSecond =>
    obtain ⟨plainFirst, plainSecond⟩ := (Bool.and_eq_true _ _).mp plain
    rw [rests_either, rests_either, List.filter_append, ihFirst plainFirst, ihSecond plainSecond, List.map_append]

theorem map_rest_end? : (p.end? ⟨previous, t⟩).map Place.rest = (p.rests previous t).head? := by
  rw [end?, rests, List.head?_map]

/-- A pattern that ends in a prefix first ends there in the prefix as well, and one that does not end at all does not. -/
theorem map_rest_end?_append (plain : p.isPlain = true) (previous' : Option CodePoint)
    (within : ∀ e ∈ p.end? ⟨previous, a ++ x⟩, x.length ≤ e.rest.length) :
    (p.end? ⟨previous, a ++ x⟩).map Place.rest = (p.end? ⟨previous', a⟩).map fun e => e.rest ++ x := by
  have ends : (p.end? ⟨previous', a⟩).map (fun e => e.rest ++ x) = ((p.rests none a).map (· ++ x)).head? := by
    rw [← rests_eq plain previous', List.head?_map, ← map_rest_end?, Option.map_map]
    rfl
  have among : ∀ r ∈ (p.rests none (a ++ x)).head?, x.length ≤ r.length := by
    intro r first
    rw [← rests_eq plain previous, ← map_rest_end?] at first
    obtain ⟨e, here, rfl⟩ := Option.map_eq_some_iff.mp first
    exact within e here
  rw [ends, ← filter_rests_append plain, map_rest_end?, rests_eq plain]
  generalize p.rests none (a ++ x) = rs at among ⊢
  cases rs with
  | nil => rfl
  | cons r rs =>
    rw [List.filter_cons_of_pos (by simpa using among r rfl)]
    rfl

theorem end?_eq_none_of_append (plain : p.isPlain = true) (ends : p.end? ⟨none, a ++ x⟩ = none) :
    p.end? ⟨none, a⟩ = none := by
  have rests := map_rest_end?_append plain none (by rw [ends]; exact nofun)
  rw [ends, Option.map_none] at rests
  exact Option.map_eq_none_iff.mp rests.symm

theorem exists_end?_of_append (plain : p.isPlain = true) (ends : p.end? ⟨none, a ++ x⟩ = some e)
    (rest : e.rest = t ++ x) : ∃ e', p.end? ⟨none, a⟩ = some e' ∧ e'.rest = t := by
  have rests := map_rest_end?_append plain none (by rw [ends]; rintro _ ⟨⟩; simp [rest])
  rw [ends, Option.map_some] at rests
  obtain ⟨e', ends', same⟩ := Option.map_eq_some_iff.mp rests.symm
  exact ⟨e', ends', List.append_cancel_right (same.trans rest)⟩

/-- A scan does not depend on what stands before the text. -/
theorem segmentsFrom_eq (plain : p.isPlain = true) (previous : Option CodePoint) (t : Text) :
    p.segmentsFrom previous t = p.segments t := by
  match t with
  | [] => rw [segments, segmentsFrom, segmentsFrom]
  | c :: t =>
    have same : (p.end? ⟨previous, c :: t⟩).map Place.rest = (p.end? ⟨none, c :: t⟩).map Place.rest := by
      rw [map_rest_end?, map_rest_end?, rests_eq plain]
    cases ends : p.end? ⟨previous, c :: t⟩ with
    | none =>
      rw [ends, Option.map_none] at same
      rw [segments, segmentsFrom, segmentsFrom, ends, Option.map_eq_none_iff.mp same.symm]
    | some e =>
      rw [ends, Option.map_some] at same
      obtain ⟨e', ends', rest⟩ := Option.map_eq_some_iff.mp same.symm
      by_cases shorter : e.rest.length < (c :: t).length
      · rw [segments, segmentsFrom_of_end? ends shorter, segmentsFrom_of_end? ends' (rest ▸ shorter), spanned, spanned,
          rest, segmentsFrom_eq plain e.previous, segmentsFrom_eq plain e'.previous]
      · have shorter' : ¬e'.rest.length < (c :: t).length := rest ▸ shorter
        rw [segments, segmentsFrom, segmentsFrom, ends, ends']
        simp only [dif_neg shorter, dif_neg shorter']
termination_by t.length
decreasing_by
  · exact shorter
  · exact shorter

section Scans

variable (plain : p.isPlain = true)
include plain

theorem segments_of_end? (filled : a ≠ []) (ends : p.end? ⟨none, a ++ t⟩ = some e) (rest : e.rest = t) :
    p.segments (a ++ t) = .found a :: p.segments t := by
  obtain ⟨c, a, rfl⟩ := List.exists_cons_of_ne_nil filled
  have shorter : e.rest.length < (c :: (a ++ t)).length := by
    rw [rest, List.length_cons, List.length_append]
    omega
  have inside : spanned ⟨none, c :: a ++ t⟩ e = c :: a := by
    rw [spanned, rest, List.length_append, Nat.add_sub_cancel, List.take_left]
  have found : p.segments (c :: a ++ t) = .found (spanned ⟨none, c :: a ++ t⟩ e) :: p.segmentsFrom e.previous e.rest :=
    segmentsFrom_of_end? ends shorter
  rwa [inside, segmentsFrom_eq plain, rest] at found

theorem segments_of_end?_eq_none (ends : p.end? ⟨none, c :: t⟩ = none) : p.segments (c :: t) = .kept c :: p.segments t := by
  rw [segments, segmentsFrom, ends, segmentsFrom_eq plain]

/-- A scan of two texts goes on from the first one to the second, if it does so where a match reaches across. -/
theorem flatMap_segments_append {β : Type} {f : Segment → List β} (reads : p.alwaysReads = true)
    (seam : ∀ first second after, first ≠ [] → second ≠ [] → x = second ++ after →
      p.Matches none (first ++ second) after → f (.found (first ++ second)) ++ (p.segments after).flatMap f
        = (p.segments first).flatMap f ++ (p.segments x).flatMap f)
    (a : Text) : (p.segments (a ++ x)).flatMap f = (p.segments a).flatMap f ++ (p.segments x).flatMap f := by
  match a with
  | [] =>
    have none : p.segments [] = [] := by rw [segments, segmentsFrom]
    rw [none]
    rfl
  | c :: a =>
    cases ends : p.end? ⟨none, (c :: a) ++ x⟩ with
    | none =>
      have none : p.end? ⟨none, c :: a⟩ = none := end?_eq_none_of_append plain ends
      rw [List.cons_append] at ends ⊢
      rw [segments_of_end?_eq_none plain ends, segments_of_end?_eq_none plain none, List.flatMap_cons, List.flatMap_cons,
        flatMap_segments_append reads seam a, List.append_assoc]
    | some e =>
      obtain ⟨leads, match_⟩ := end?_eq_some ends
      generalize spanned ⟨none, (c :: a) ++ x⟩ e = m at leads match_
      have whole : (c :: a) ++ x = m ++ e.rest := leads.1
      have filled : m ≠ [] := by
        rintro rfl
        exact not_matches_nil reads _ _ match_
      by_cases within : m.length ≤ (c :: a).length
      · obtain ⟨more, split, rest⟩ := exists_append_of_length_le whole.symm within
        have shorter : more.length < (c :: a).length := by
          have positive := List.length_pos_iff.mpr filled
          rw [split, List.length_append]
          omega
        obtain ⟨e', ends', rest'⟩ := exists_end?_of_append plain ends rest
        rw [split] at ends' ⊢
        rw [split, List.append_assoc] at ends
        rw [List.append_assoc, segments_of_end? plain filled ends rest, segments_of_end? plain filled ends' rest',
          List.flatMap_cons, List.flatMap_cons, flatMap_segments_append reads seam more, List.append_assoc]
      · obtain ⟨second, rfl, split⟩ := exists_append_of_length_le whole (Nat.le_of_not_le within)
        have across : second ≠ [] := by
          rintro rfl
          exact within (Nat.le_of_eq (by rw [List.append_nil]))
        rw [whole] at ends ⊢
        rw [segments_of_end? plain filled ends rfl, List.flatMap_cons]
        exact seam _ second e.rest (List.cons_ne_nil c a) across split match_
termination_by a.length
decreasing_by
  · exact Nat.lt_succ_self _
  · exact shorter

/-- A scan is parted at a character that the pattern does not read. -/
theorem segments_append_cons (reads : p.alwaysReads = true) (unread : p.mayRead c = false) (a b : Text) :
    p.segments (a ++ c :: b) = p.segments a ++ .kept c :: p.segments b := by
  have unmet (found after : Text) (here : c ∈ found) : ¬p.Matches none found after := fun match_ =>
    (within_of_mayRead unread).of_matches match_ c here rfl
  have none : p.end? ⟨none, c :: b⟩ = none := by
    refine end?_eq_none reads ?_
    rintro ⟨_ | ⟨d, found⟩, after, text, filled, match_⟩
    · exact filled rfl
    · rw [(List.cons.inj text).1] at unmet
      exact unmet _ _ List.mem_cons_self match_
  have parted : (p.segments (a ++ c :: b)).flatMap (fun s => [s])
      = (p.segments a).flatMap (fun s => [s]) ++ (p.segments (c :: b)).flatMap fun s => [s] := by
    refine flatMap_segments_append plain reads (fun first second after _ filled split match_ => ?_) a
    obtain ⟨d, second, rfl⟩ := List.exists_cons_of_ne_nil filled
    rw [(List.cons.inj split).1] at unmet
    exact absurd match_ (unmet _ _ (by simp))
  simpa [segments_of_end?_eq_none plain none] using parted

end Scans

end LessonService.Pattern
