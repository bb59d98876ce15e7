import LessonService.Proofs.Text.Replacing

namespace LessonService.Pattern

variable {p : Pattern} {change : Text → Text} {previous : Option CodePoint} {a a' b b' t : Text} {c : CodePoint}

/-- Whether a pattern may match nothing before a character. -/
def mayPass : Pattern → Option CodePoint → CodePoint → Bool
  | one _, _, _ => false
  | most _ least, _, _ | fewest _ least, _, _ => least = 0
  | between holds, previous, c => holds previous (some c)
  | ahead _, _, _ | nothing, _, _ => true
  | both first second, previous, c => first.mayPass previous c && second.mayPass previous c
  | either first second, previous, c => first.mayPass previous c || second.mayPass previous c

/-- Whether a match may start with a character. -/
def mayStart : Pattern → Option CodePoint → CodePoint → Bool
  | one holds, _, c | most holds _, _, c | fewest holds _, _, c => holds c
  | between _, _, _ | ahead _, _, _ | nothing, _, _ => false
  | both first second, previous, c =>
    first.mayStart previous c || (second.mayStart previous c && first.mayPass previous c)
  | either first second, previous, c => first.mayStart previous c || second.mayStart previous c

theorem mayPass_of_matches {after : Text} (match_ : p.Matches previous [] (c :: after)) :
    p.mayPass previous c = true := by
  induction p with
  | one =>
    obtain ⟨_, filled, -⟩ := match_
    cases filled
  | most | fewest => exact decide_eq_true (Nat.le_zero.mp match_.1)
  | between => exact match_.2
  | ahead | nothing => rfl
  | both first second ihFirst ihSecond =>
    obtain ⟨x, y, empty, matchesFirst, matchesSecond⟩ := match_
    obtain ⟨rfl, rfl⟩ := List.append_eq_nil_iff.mp empty.symm
    exact (Bool.and_eq_true _ _).mpr ⟨ihFirst matchesFirst, ihSecond matchesSecond⟩
  | either first second ihFirst ihSecond =>
    exact (Bool.or_eq_true _ _).mpr (match_.imp ihFirst ihSecond)

theorem mayStart_of_matches {found after : Text} (match_ : p.Matches previous (c :: found) after) :
    p.mayStart previous c = true := by
  induction p generalizing found after with
  | one =>
    obtain ⟨_, same, holds⟩ := match_
    cases same
    exact holds
  | most | fewest => exact match_.2 c List.mem_cons_self
  | between | ahead => cases match_.1
  | nothing => cases match_
  | both first second ihFirst ihSecond =>
    obtain ⟨x, y, whole, matchesFirst, matchesSecond⟩ := match_
    rw [mayStart, Bool.or_eq_true, Bool.and_eq_true]
    cases x with
    | nil =>
      cases whole
      exact .inr ⟨ihSecond matchesSecond, mayPass_of_matches matchesFirst⟩
    | cons d x =>
      cases whole
      exact .inl (ihFirst matchesFirst)
  | either first second ihFirst ihSecond =>
    exact (Bool.or_eq_true _ _).mpr (match_.imp ihFirst ihSecond)

theorem not_starts_of_mayStart (none : p.mayStart previous c = false) : ¬p.Starts previous (c :: t) := by
  rintro ⟨_ | ⟨d, found⟩, after, text, filled, match_⟩
  · exact filled rfl
  · cases (List.cons.inj text).1
    exact Bool.false_ne_true (none.symm.trans (mayStart_of_matches match_))

/-- Whether no match starts in a text, whatever follows it. -/
def isClear (p : Pattern) : Option CodePoint → Text → Bool
  | _, [] => true
  | previous, c :: t => !p.mayStart previous c && p.isClear (some c) t

theorem passes_of_isClear (clear : p.isClear previous a = true) : p.Passes previous a b := by
  induction a generalizing previous with
  | nil =>
    intro before c x split
    cases before <;> cases split
  | cons c a ih =>
    rw [isClear, Bool.and_eq_true, Bool.not_eq_true'] at clear
    exact passes_cons.mpr ⟨not_starts_of_mayStart clear.1, ih clear.2⟩

/-- Whether every match has a character. -/
def alwaysReads : Pattern → Bool
  | one _ => true
  | most _ least | fewest _ least => 0 < least
  | between _ | ahead _ | nothing => false
  | both first second => first.alwaysReads || second.alwaysReads
  | either first second => first.alwaysReads && second.alwaysReads

theorem not_matches_nil (reads : p.alwaysReads = true) (previous : Option CodePoint) (after : Text) :
    ¬p.Matches previous [] after := by
  induction p generalizing previous after with
  | one =>
    rintro ⟨_, filled, -⟩
    cases filled
  | most | fewest => exact fun match_ => Nat.not_lt.mpr match_.1 (of_decide_eq_true reads)
  | between | ahead | nothing => cases reads
  | both first second ihFirst ihSecond =>
    rintro ⟨x, y, empty, matchesFirst, matchesSecond⟩
    obtain ⟨rfl, rfl⟩ := List.append_eq_nil_iff.mp empty.symm
    rcases (Bool.or_eq_true _ _).mp reads with inFirst | inSecond
    · exact ihFirst inFirst _ _ matchesFirst
    · exact ihSecond inSecond _ _ matchesSecond
  | either first second ihFirst ihSecond =>
    obtain ⟨inFirst, inSecond⟩ := (Bool.and_eq_true _ _).mp reads
    rintro (matchesFirst | matchesSecond)
    · exact ihFirst inFirst _ _ matchesFirst
    · exact ihSecond inSecond _ _ matchesSecond

/-- Whether a match may have a character. -/
def mayRead : Pattern → CodePoint → Bool
  | one holds, c | most holds _, c | fewest holds _, c => holds c
  | between _, _ | ahead _, _ | nothing, _ => false
  | both first second, c | either first second, c => first.mayRead c || second.mayRead c

theorem within_of_mayRead (unread : p.mayRead c = false) : p.Within (· ≠ c) := by
  induction p with
  | one | most | fewest =>
    rintro d read rfl
    exact Bool.false_ne_true (unread.symm.trans read)
  | between | ahead | nothing => trivial
  | both first second ihFirst ihSecond | either first second ihFirst ihSecond =>
    obtain ⟨inFirst, inSecond⟩ := Bool.or_eq_false_iff.mp unread
    exact ⟨ihFirst inFirst, ihSecond inSecond⟩

theorem parts_of_mayRead (unread : p.mayRead c = false) : p.Parts previous a (c :: b) :=
  parts_of_within (within_of_mayRead unread) fun differs => differs rfl

/-- A stretch becomes another text where matches are replaced, and the scan goes on after it. -/
def Becomes (p : Pattern) (change : Text → Text) (previous : Option CodePoint) (a b a' : Text) : Prop :=
  ∃ s, p.segmentsFrom previous (a ++ b) = s ++ p.segmentsFrom (a.getLast?.or previous) b ∧
    s.flatMap Segment.text = a ∧ s.flatMap (Segment.changed change) = a'

theorem becomes_of_passes (passes : p.Passes previous a b) : p.Becomes change previous a b a := by
  refine ⟨a.map .kept, segmentsFrom_kept_append passes, ?_, Segment.flatMap_changed_kept change a⟩
  rw [List.flatMap_map]
  exact List.flatMap_singleton' a

theorem exists_becomes (change : Text → Text) (parts : p.Parts previous a b) : ∃ a', p.Becomes change previous a b a' := by
  obtain ⟨s, scanned, text⟩ := segmentsFrom_append previous a parts
  exact ⟨_, s, scanned, text, rfl⟩

/-- A match becomes what is put in its place. -/
theorem becomes_of_end? (filled : a ≠ [])
    (ends : p.end? ⟨previous, a ++ b⟩ = some ⟨a.getLast?.or previous, b⟩) :
    p.Becomes change previous a b (change a) := by
  have leads : Leads ⟨previous, a ++ b⟩ a ⟨a.getLast?.or previous, b⟩ := ⟨rfl, rfl⟩
  obtain ⟨c, rest, rfl⟩ := List.exists_cons_of_ne_nil filled
  have shorter : b.length < (c :: (rest ++ b)).length := by
    rw [List.length_cons, List.length_append]
    omega
  refine ⟨[.found (c :: rest)], ?_, List.flatMap_singleton .., List.flatMap_singleton ..⟩
  refine (segmentsFrom_of_end? ends shorter).trans ?_
  exact congrArg (fun m => Segment.found m :: _) leads.spanned_eq

theorem Becomes.append (first : p.Becomes change previous a (b ++ t) a')
    (second : p.Becomes change (a.getLast?.or previous) b t b') : p.Becomes change previous (a ++ b) t (a' ++ b') := by
  obtain ⟨s, scanned, rfl, rfl⟩ := first
  obtain ⟨s', scanned', rfl, rfl⟩ := second
  refine ⟨s ++ s', ?_, List.flatMap_append .., List.flatMap_append ..⟩
  rw [List.append_assoc, scanned, scanned', List.append_assoc, List.getLast?_append, Option.or_assoc]

theorem Becomes.replaceAll_eq (becomes : p.Becomes change none a [] a') : p.replaceAll change a = a' := by
  obtain ⟨s, scanned, -, rfl⟩ := becomes
  rw [List.append_nil, segmentsFrom, List.append_nil] at scanned
  rw [Pattern.replaceAll_eq, scanned]

/-- Where the first of two stretches goes and no match starts in the second one, the second one is left. -/
theorem Becomes.remove_eq (gone : p.Becomes (fun _ => []) none a b []) (passes : p.Passes (a.getLast?.or none) b []) :
    p.remove (a ++ b) = b := by
  have first : p.Becomes (fun _ => []) none a (b ++ []) [] := by rwa [List.append_nil]
  exact (first.append (becomes_of_passes passes)).replaceAll_eq

/-- What is kept of a scan is where no match starts. -/
theorem passes_of_kept (filled : ∀ previous after, ¬p.Matches previous [] after) {rest : List Segment}
    (scanned : p.segmentsFrom previous (a ++ b) = a.map .kept ++ rest) : p.Passes previous a b := by
  induction a generalizing previous with
  | nil =>
    intro before c x split
    cases before <;> cases split
  | cons c a ih =>
    have here : ¬p.Starts previous (c :: (a ++ b)) := by
      rintro ⟨found, after, text, -, match_⟩
      obtain ⟨m, e, -, -, found⟩ := exists_found_of_matches filled match_
      rw [← text] at found
      cases found.symm.trans scanned
    rw [List.cons_append, segmentsFrom_of_not_starts here] at scanned
    exact passes_cons.mpr ⟨here, ih (List.cons.inj scanned).2⟩

/-- A measure of a text: the sum over its characters. -/
def total (f : CodePoint → Nat) : Text → Nat
  | [] => 0
  | c :: t => f c + total f t

variable {f : CodePoint → Nat} {s : List Segment}

@[simp] theorem total_nil : total f [] = 0 := rfl

@[simp] theorem total_cons : total f (c :: t) = f c + total f t := rfl

@[simp] theorem total_append : total f (a ++ b) = total f a + total f b := by
  induction a with
  | nil => simp
  | cons c a ih => rw [List.cons_append, total_cons, total_cons, ih, Nat.add_assoc]

theorem Segment.total_changed_le (le : ∀ m, .found m ∈ s → total f (change m) ≤ total f m) :
    total f (s.flatMap (changed change)) ≤ total f (s.flatMap text) := by
  induction s with
  | nil => exact Nat.le_refl _
  | cons segment s ih =>
    have later := ih fun m member => le m (List.mem_cons_of_mem _ member)
    rw [List.flatMap_cons, List.flatMap_cons, total_append, total_append]
    cases segment with
    | kept c => exact Nat.add_le_add_left later _
    | found m => exact Nat.add_le_add (le m List.mem_cons_self) later

theorem Segment.total_changed_lt (lt : ∀ m, .found m ∈ s → total f (change m) < total f m) {m : Text}
    (here : .found m ∈ s) : total f (s.flatMap (changed change)) < total f (s.flatMap text) := by
  obtain ⟨first, rest, rfl⟩ := List.append_of_mem here
  have before : total f (first.flatMap (changed change)) ≤ total f (first.flatMap text) :=
    total_changed_le fun m member => Nat.le_of_lt (lt m (List.mem_append_left _ member))
  have after : total f (rest.flatMap (changed change)) ≤ total f (rest.flatMap text) :=
    total_changed_le fun m member => Nat.le_of_lt (lt m (List.mem_append_right _ (List.mem_cons_of_mem _ member)))
  have less : total f (change m) < total f m := lt m here
  simp only [List.flatMap_append, List.flatMap_cons, total_append, changed, text]
  omega

theorem Segment.eq_map_kept (none : ∀ m, .found m ∉ s) : s = (s.flatMap text).map kept := by
  induction s with
  | nil => rfl
  | cons segment s ih =>
    have later := ih fun m member => none m (List.mem_cons_of_mem _ member)
    cases segment with
    | kept c => exact congrArg (kept c :: ·) later
    | found m => exact absurd List.mem_cons_self (none m)

theorem Becomes.total_le (becomes : p.Becomes change previous a b a')
    (le : ∀ previous m after, p.Matches previous m after → total f (change m) ≤ total f m) : total f a' ≤ total f a := by
  obtain ⟨s, scanned, rfl, rfl⟩ := becomes
  refine Segment.total_changed_le fun m member => ?_
  obtain ⟨before, after, -, match_⟩ := matches_of_found (scanned ▸ List.mem_append_left _ member)
  exact le _ m after match_

/-- A stretch in which a match starts gets smaller, if every match does. -/
theorem Becomes.total_lt (becomes : p.Becomes change previous a b a')
    (lt : ∀ previous m after, p.Matches previous m after → total f (change m) < total f m)
    (starts : ¬p.Passes previous a b) : total f a' < total f a := by
  obtain ⟨s, scanned, text, rfl⟩ := becomes
  have filled (previous : Option CodePoint) (after : Text) : ¬p.Matches previous [] after := fun match_ =>
    Nat.not_lt_zero _ (lt previous [] after match_)
  by_cases found : ∃ m, .found m ∈ s
  · obtain ⟨m, member⟩ := found
    rw [← text]
    refine Segment.total_changed_lt (fun m member => ?_) member
    obtain ⟨before, after, -, match_⟩ := matches_of_found (scanned ▸ List.mem_append_left _ member)
    exact lt _ m after match_
  · have kept : s = a.map .kept := text ▸ Segment.eq_map_kept (not_exists.mp found)
    exact absurd (passes_of_kept filled (kept ▸ scanned)) starts

end LessonService.Pattern
