import LessonService.Proofs.Text.Scanning
import Mathlib.Data.List.Induction

namespace LessonService.Pattern

deriving instance DecidableEq for Segment

variable {p : Pattern} {change : Text → Text} {previous : Option CodePoint} {place e : Place} {a b t : Text}

namespace Segment

/-- What a segment is in the text. -/
def text : Segment → Text
  | kept c => [c]
  | found m => m

/-- What stands in its place where matches are replaced. -/
def changed (change : Text → Text) : Segment → Text
  | kept c => [c]
  | found m => change m

theorem flatMap_changed_kept (change : Text → Text) (t : Text) : (t.map kept).flatMap (changed change) = t := by
  rw [List.flatMap_map]
  exact List.flatMap_singleton' t

/-- What holds of the characters of a text and of all that is put in holds of what is left. -/
theorem forall_changed {holds : CodePoint → Prop} {s : List Segment} (texts : ∀ c ∈ s.flatMap text, holds c)
    (changes : ∀ m, ∀ c ∈ change m, holds c) : ∀ c ∈ s.flatMap (changed change), holds c := by
  intro c member
  obtain ⟨segment, inside, member⟩ := List.mem_flatMap.mp member
  cases segment with
  | kept d => exact texts c (List.mem_flatMap.mpr ⟨_, inside, member⟩)
  | found m => exact changes m c member

end Segment

theorem replaceAll_eq (p : Pattern) (change : Text → Text) (t : Text) :
    p.replaceAll change t = (p.segmentsFrom none t).flatMap (Segment.changed change) := by
  unfold replaceAll segments
  congr 1
  funext s
  cases s <;> rfl

/-- Whether a match that is not empty starts at a place. -/
def Starts (p : Pattern) (previous : Option CodePoint) (t : Text) : Prop :=
  ∃ found after, t = found ++ after ∧ found ≠ [] ∧ p.Matches previous found after

theorem segmentsFrom_of_end? {c : CodePoint} (ends : p.end? ⟨previous, c :: t⟩ = some e)
    (shorter : e.rest.length < (c :: t).length) :
    p.segmentsFrom previous (c :: t)
      = .found (spanned ⟨previous, c :: t⟩ e) :: p.segmentsFrom e.previous e.rest := by
  rw [segmentsFrom, ends]
  simp only [dif_pos shorter]

/-- At a place, a scan finds a match that starts there, or it keeps a character. -/
theorem segmentsFrom_cons (p : Pattern) (previous : Option CodePoint) (c : CodePoint) (t : Text) :
    (∃ m e, m ≠ [] ∧ Leads ⟨previous, c :: t⟩ m e ∧ p.Matches previous m e.rest ∧
      p.segmentsFrom previous (c :: t) = .found m :: p.segmentsFrom e.previous e.rest) ∨
    p.segmentsFrom previous (c :: t) = .kept c :: p.segmentsFrom (some c) t := by
  cases ends : p.end? ⟨previous, c :: t⟩ with
  | none =>
    rw [segmentsFrom, ends]
    exact .inr rfl
  | some e =>
    by_cases shorter : e.rest.length < (c :: t).length
    · obtain ⟨leads, match_⟩ := end?_eq_some ends
      refine .inl ⟨_, e, fun empty => ?_, leads, match_, segmentsFrom_of_end? ends shorter⟩
      have same : c :: t = e.rest := by simpa [empty] using leads.1
      exact absurd shorter (same ▸ Nat.lt_irrefl _)
    · rw [segmentsFrom, ends]
      simp only [dif_neg shorter, or_true]

theorem segmentsFrom_of_not_starts {c : CodePoint} (none : ¬p.Starts previous (c :: t)) :
    p.segmentsFrom previous (c :: t) = .kept c :: p.segmentsFrom (some c) t :=
  (segmentsFrom_cons p previous c t).resolve_left fun ⟨m, e, filled, leads, match_, _⟩ =>
    none ⟨m, e.rest, leads.1, filled, match_⟩

/-- No match starts in a text that stands after a character, if there is one, and before another text. -/
def Passes (p : Pattern) (previous : Option CodePoint) (a b : Text) : Prop :=
  ∀ before c x, a = before ++ c :: x → ¬p.Starts (before.getLast?.or previous) (c :: (x ++ b))

theorem passes_cons {c : CodePoint} :
    p.Passes previous (c :: a) b ↔ ¬p.Starts previous (c :: (a ++ b)) ∧ p.Passes (some c) a b := by
  constructor
  · intro passes
    refine ⟨passes [] c a rfl, fun before d x split => ?_⟩
    rw [← getLast?_cons_or]
    exact passes (c :: before) d x (congrArg (c :: ·) split)
  · rintro ⟨here, later⟩ (_ | ⟨d, before⟩) e x split
    · cases split
      exact here
    · cases split
      rw [getLast?_cons_or]
      exact later before e x rfl

theorem Passes.append {first second : Text} (here : p.Passes previous first (second ++ b))
    (later : p.Passes (first.getLast?.or previous) second b) : p.Passes previous (first ++ second) b := by
  induction first generalizing previous with
  | nil => exact later
  | cons c first ih =>
    rw [getLast?_cons_or] at later
    rw [passes_cons] at here
    rw [List.cons_append, passes_cons, List.append_assoc]
    exact ⟨here.1, ih here.2 later⟩

theorem passes_of_forall (none : ∀ c ∈ a, ∀ previous t, ¬p.Starts previous (c :: t)) : p.Passes previous a b := by
  rintro before c x rfl
  exact none c (List.mem_append_right _ List.mem_cons_self) _ _

/-- A match that is not empty starts with a character that the pattern reads. -/
theorem passes_of_within {holds : CodePoint → Prop} (within : p.Within holds) (none : ∀ c ∈ a, ¬holds c) :
    p.Passes previous a b := by
  refine passes_of_forall fun c member previous t => ?_
  rintro ⟨found, after, text, filled, match_⟩
  obtain ⟨d, found, rfl⟩ := List.exists_cons_of_ne_nil filled
  cases (List.cons.inj text).1
  exact none c member (within.of_matches match_ c List.mem_cons_self)

/-- A stretch in which no match starts is kept. -/
theorem segmentsFrom_kept_append (passes : p.Passes previous a b) :
    p.segmentsFrom previous (a ++ b) = a.map .kept ++ p.segmentsFrom (a.getLast?.or previous) b := by
  induction a generalizing previous with
  | nil => rfl
  | cons c a ih =>
    rw [passes_cons] at passes
    rw [List.cons_append, segmentsFrom_of_not_starts passes.1, ih passes.2, List.map_cons, List.cons_append,
      getLast?_cons_or]

/-- No match starts in the first of two neighbouring texts and ends in the second. -/
def Parts (p : Pattern) (previous : Option CodePoint) (a b : Text) : Prop :=
  ∀ before x y after, a = before ++ x → b = y ++ after → x ≠ [] → y ≠ [] →
    ¬p.Matches (before.getLast?.or previous) (x ++ y) after

theorem parts_of_within {holds : CodePoint → Prop} {c : CodePoint} (within : p.Within holds) (stops : ¬holds c) :
    p.Parts previous a (c :: b) := by
  intro before x y after _ second _ filled match_
  obtain ⟨d, y, rfl⟩ := List.exists_cons_of_ne_nil filled
  cases (List.cons.inj second).1
  exact stops (within.of_matches match_ c (List.mem_append_right _ List.mem_cons_self))

theorem Parts.after {m : Text} (parts : p.Parts previous (m ++ a) b) :
    p.Parts (m.getLast?.or previous) a b := by
  intro before x y after first second filledX filledY
  rw [← Option.or_assoc, ← List.getLast?_append]
  exact parts (m ++ before) x y after (by rw [first, List.append_assoc]) second filledX filledY

/-- A scan goes on from a place that no match reaches across. -/
theorem segmentsFrom_append (previous : Option CodePoint) (a : Text) (parts : p.Parts previous a b) :
    ∃ s, p.segmentsFrom previous (a ++ b) = s ++ p.segmentsFrom (a.getLast?.or previous) b ∧
      s.flatMap Segment.text = a := by
  match a with
  | [] => exact ⟨[], rfl, rfl⟩
  | c :: a =>
    rcases segmentsFrom_cons p previous c (a ++ b) with ⟨m, e, filled, leads, match_, found⟩ | kept
    · have whole : (c :: a) ++ b = m ++ e.rest := leads.1
      have short : m.length ≤ (c :: a).length := by
        by_contra long
        obtain ⟨y, rfl, second⟩ := exists_append_of_length_le whole (Nat.le_of_not_le long)
        refine parts [] (c :: a) y e.rest rfl second (List.cons_ne_nil c a) (fun empty => long ?_) match_
        exact Nat.le_of_eq (by rw [empty, List.append_nil])
      obtain ⟨rest, split, tail⟩ := exists_append_of_length_le whole.symm short
      have shorter : rest.length < (c :: a).length := by
        have := List.length_pos_iff.mpr filled
        rw [split, List.length_append]
        omega
      rw [split] at parts ⊢
      obtain ⟨s, scanned, text⟩ := segmentsFrom_append _ rest parts.after
      refine ⟨.found m :: s, ?_, by rw [List.flatMap_cons, text]; rfl⟩
      rw [← split, List.cons_append, found, tail, leads.2, scanned, split, List.getLast?_append, Option.or_assoc]
      rfl
    · have later : p.Parts (some c) a b := parts.after (m := [c])
      obtain ⟨s, scanned, text⟩ := segmentsFrom_append (some c) a later
      refine ⟨.kept c :: s, ?_, by rw [List.flatMap_cons, text]; rfl⟩
      rw [List.cons_append, kept, scanned, getLast?_cons_or]
      rfl
termination_by a.length
decreasing_by
  · exact shorter
  · exact Nat.lt_succ_self _

/-- Where nothing reaches into a stretch and nothing starts in it, replacing leaves it as it stands. -/
theorem replaceAll_keeps {before mid after : Text} (parts : p.Parts none before (mid ++ after))
    (passes : p.Passes before.getLast? mid after) :
    ∃ left right, p.replaceAll change (before ++ mid ++ after) = left ++ mid ++ right := by
  obtain ⟨s, scanned, -⟩ := segmentsFrom_append _ before parts
  rw [Option.or_none] at scanned
  rw [replaceAll_eq, List.append_assoc, scanned, segmentsFrom_kept_append passes,
    List.flatMap_append, List.flatMap_append, Segment.flatMap_changed_kept, ← List.append_assoc]
  exact ⟨_, _, rfl⟩

/-- A pattern that matches no empty text is found wherever it matches and a scan has come to. -/
theorem exists_found_of_matches (filled : ∀ previous after, ¬p.Matches previous [] after) {found after : Text}
    (match_ : p.Matches previous found after) :
    ∃ m e, Leads ⟨previous, found ++ after⟩ m e ∧ p.Matches previous m e.rest ∧
      p.segmentsFrom previous (found ++ after) = .found m :: p.segmentsFrom e.previous e.rest := by
  have goes : (p.end? ⟨previous, found ++ after⟩).isSome = true := end?_isSome_iff.mpr ⟨found, after, rfl, match_⟩
  obtain ⟨e, ends⟩ := Option.isSome_iff_exists.mp goes
  obtain ⟨leads, first⟩ := end?_eq_some ends
  cases found with
  | nil => exact absurd match_ (filled _ _)
  | cons c found =>
    refine ⟨_, e, leads, first, segmentsFrom_of_end? ends ?_⟩
    have longer : spanned ⟨previous, c :: found ++ after⟩ e ≠ [] := fun empty => filled _ _ (empty ▸ first)
    have positive := List.length_pos_iff.mpr longer
    have same : c :: found ++ after = spanned ⟨previous, c :: found ++ after⟩ e ++ e.rest := leads.1
    calc e.rest.length < (spanned ⟨previous, c :: found ++ after⟩ e).length + e.rest.length :=
          Nat.lt_add_of_pos_left positive
      _ = (c :: found ++ after).length := by rw [← List.length_append, ← same]

/-- It is found first at the first place where it matches at all. -/
theorem exists_first_found (filled : ∀ previous after, ¬p.Matches previous [] after) {found after : Text}
    (before : Text) (match_ : p.Matches (before.getLast?.or previous) found after) :
    ∃ first m rest, before ++ (found ++ after) = first ++ m ++ rest ∧
      p.Matches (first.getLast?.or previous) m rest ∧
      p.segmentsFrom previous (before ++ (found ++ after))
        = first.map .kept ++ .found m :: p.segmentsFrom ((first ++ m).getLast?.or previous) rest := by
  induction before generalizing previous with
  | nil =>
    have here : p.Matches previous found after := match_
    obtain ⟨m, e, leads, first, scanned⟩ := exists_found_of_matches filled here
    exact ⟨[], m, e.rest, leads.1, first, by rw [List.nil_append, scanned, leads.2]; rfl⟩
  | cons c before ih =>
    rw [List.cons_append]
    rcases segmentsFrom_cons p previous c (before ++ (found ++ after)) with ⟨m, e, -, leads, first, scanned⟩ | scanned
    · exact ⟨[], m, e.rest, leads.1, first, by rw [scanned, leads.2]; rfl⟩
    · rw [getLast?_cons_or] at match_
      obtain ⟨first, m, rest, parted, match_, later⟩ := ih match_
      refine ⟨c :: first, m, rest, congrArg (c :: ·) parted, by rwa [getLast?_cons_or], ?_⟩
      rw [scanned, later, List.cons_append, getLast?_cons_or]
      rfl

theorem flatMap_text_segmentsFrom (p : Pattern) (previous : Option CodePoint) (t : Text) :
    (p.segmentsFrom previous t).flatMap Segment.text = t := by
  have parts : p.Parts previous t [] := by
    intro _ _ y after _ second _ filled
    exact absurd (List.nil_eq_append_iff.mp second).1 filled
  obtain ⟨s, scanned, text⟩ := segmentsFrom_append previous t parts
  rw [List.append_nil, segmentsFrom, List.append_nil] at scanned
  rw [scanned, text]

/-- A match stands in the text where the segments before it end. -/
theorem matches_of_segment {earlier later : List Segment} {m : Text}
    (scanned : p.segmentsFrom previous t = earlier ++ .found m :: later) :
    p.Matches ((earlier.flatMap Segment.text).getLast?.or previous) m (later.flatMap Segment.text) := by
  induction earlier generalizing previous t with
  | nil =>
    cases t with
    | nil => simp [segmentsFrom] at scanned
    | cons c t =>
      rcases segmentsFrom_cons p previous c t with ⟨m', e, -, -, match_, found⟩ | kept
      · rw [found, List.nil_append] at scanned
        obtain ⟨same, rfl⟩ := List.cons.inj scanned
        cases same
        rw [flatMap_text_segmentsFrom]
        exact match_
      · rw [kept, List.nil_append] at scanned
        cases (List.cons.inj scanned).1
  | cons s earlier ih =>
    cases t with
    | nil => simp [segmentsFrom] at scanned
    | cons c t =>
      rcases segmentsFrom_cons p previous c t with ⟨m', e, -, leads, -, found⟩ | kept
      · rw [found, List.cons_append] at scanned
        obtain ⟨rfl, next⟩ := List.cons.inj scanned
        have match_ := ih next
        rwa [leads.2, ← Option.or_assoc, ← List.getLast?_append] at match_
      · rw [kept, List.cons_append] at scanned
        obtain ⟨rfl, next⟩ := List.cons.inj scanned
        have match_ := ih next
        rwa [← getLast?_cons_or] at match_

/-- What follows a removed match has before it what the match had before it. -/
theorem getLast?_removed {start : Option CodePoint → Prop} {earlier later : List Segment}
    (only : ∀ previous found after, p.Matches previous found after → start previous)
    (scanned : p.segmentsFrom none t = earlier ++ later)
    (here : start (earlier.flatMap Segment.text).getLast?) :
    start (earlier.flatMap (Segment.changed fun _ => [])).getLast? := by
  induction earlier using List.reverseRecOn generalizing later with
  | nil => exact here
  | append_singleton earlier s ih =>
    rw [List.append_assoc, List.singleton_append] at scanned
    cases s with
    | kept c => simpa [Segment.text, Segment.changed] using here
    | found m =>
      have match_ := matches_of_segment scanned
      rw [Option.or_none] at match_
      simpa [Segment.changed] using ih scanned (only _ _ _ match_)

def removeAll (ps : List Pattern) (t : Text) : Text := ps.foldl (fun t p => p.remove t) t

/-- Patterns that are removed one after the other keep a stretch between two texts. -/
def Spare : List Pattern → Text → Text → Text → Prop
  | [], _, _, _ => True
  | p :: ps, before, mid, after => ∃ left right,
    p.segments (before ++ mid ++ after) = left ++ mid.map .kept ++ right ∧ left.flatMap Segment.text = before ∧
      Spare ps (left.flatMap (Segment.changed fun _ => [])) mid (right.flatMap (Segment.changed fun _ => []))

/-- The stretch stands after so many of the segments of a scan. -/
theorem Spare.cons {ps : List Pattern} {before mid after : Text} (count : Nat)
    (kept : ((p.segments (before ++ mid ++ after)).drop count).take mid.length = mid.map .kept)
    (text : ((p.segments (before ++ mid ++ after)).take count).flatMap Segment.text = before)
    (rest : Spare ps (((p.segments (before ++ mid ++ after)).take count).flatMap (Segment.changed fun _ => [])) mid
      ((((p.segments (before ++ mid ++ after)).drop count).drop mid.length).flatMap (Segment.changed fun _ => []))) :
    Spare (p :: ps) before mid after := by
  refine ⟨_, _, ?_, text, rest⟩
  rw [← kept]
  generalize p.segments (before ++ mid ++ after) = s
  rw [List.append_assoc, List.take_append_drop, List.take_append_drop]

theorem removeAll_of_spare {start : Option CodePoint → Prop} {ps : List Pattern} {before mid after : Text}
    (only : ∀ p ∈ ps, ∀ previous found after, p.Matches previous found after → start previous)
    (here : start before.getLast?) (spare : Spare ps before mid after) :
    ∃ left right, removeAll ps (before ++ mid ++ after) = left ++ mid ++ right ∧ start left.getLast? := by
  induction ps generalizing before after with
  | nil => exact ⟨before, after, rfl, here⟩
  | cons p ps ih =>
    rw [List.forall_mem_cons] at only
    obtain ⟨left, right, scanned, rfl, rest⟩ := spare
    have last := getLast?_removed only.1 (scanned.trans (List.append_assoc _ _ _)) here
    obtain ⟨before', after', removed, start'⟩ := ih only.2 last rest
    refine ⟨before', after', ?_, start'⟩
    rw [← removed, removeAll, List.foldl_cons, remove, replaceAll_eq, ← segments, scanned, List.flatMap_append,
      List.flatMap_append, Segment.flatMap_changed_kept]
    rfl

end LessonService.Pattern
