import LessonService.Proofs.Text.LineStarts

namespace LessonService.Pattern

variable {p : Pattern} {s : List Segment} {t : Text} {n : Nat}

/-- What is found in a text, and where it starts. -/
structure Find where
  start : Nat
  text : Text
  deriving DecidableEq

def Find.stop (f : Find) : Nat := f.start + f.text.length

/-- What the segments from a place on have found. -/
def findsFrom (n : Nat) : List Segment → List Find
  | [] => []
  | .kept _ :: s => findsFrom (n + 1) s
  | .found m :: s => ⟨n, m⟩ :: findsFrom (n + m.length) s

def finds (p : Pattern) (t : Text) : List Find := findsFrom 0 (p.segments t)

theorem map_text_finds (p : Pattern) (t : Text) : (p.finds t).map Find.text = p.findAll t := by
  rw [finds, findAll]
  generalize p.segments t = s
  generalize 0 = n
  induction s generalizing n with
  | nil => rfl
  | cons segment s ih =>
    cases segment with
    | kept c => exact ih (n + 1)
    | found m => exact congrArg (m :: ·) (ih (n + m.length))

theorem mem_findsFrom {f : Find} : f ∈ findsFrom n s ↔
    ∃ earlier later, s = earlier ++ .found f.text :: later ∧ f.start = n + (earlier.flatMap Segment.text).length := by
  induction s generalizing n with
  | nil => simp [findsFrom]
  | cons segment s ih =>
    constructor
    · intro member
      cases segment with
      | kept c =>
        obtain ⟨earlier, later, rfl, start⟩ := ih.mp member
        refine ⟨.kept c :: earlier, later, rfl, ?_⟩
        rw [start, List.flatMap_cons, List.length_append, ← Nat.add_assoc]
        rfl
      | found m =>
        rcases List.mem_cons.mp member with rfl | member
        · exact ⟨[], s, rfl, rfl⟩
        · obtain ⟨earlier, later, rfl, start⟩ := ih.mp member
          refine ⟨.found m :: earlier, later, rfl, ?_⟩
          rw [start, List.flatMap_cons, List.length_append, ← Nat.add_assoc]
          rfl
    · rintro ⟨earlier, later, parted, start⟩
      cases earlier with
      | nil =>
        obtain ⟨rfl, rfl⟩ := List.cons.inj parted
        have here : f = ⟨n, f.text⟩ := by rw [← show f.start = n from start]
        rw [here]
        exact List.mem_cons_self
      | cons _ earlier =>
        obtain ⟨rfl, rfl⟩ := List.cons.inj parted
        rw [List.flatMap_cons, List.length_append, ← Nat.add_assoc] at start
        cases segment with
        | kept c => exact ih.mpr ⟨earlier, later, rfl, start⟩
        | found m => exact List.mem_cons_of_mem _ (ih.mpr ⟨earlier, later, rfl, start⟩)

theorem findsFrom_apart (n : Nat) (s : List Segment) : (findsFrom n s).Pairwise fun f g => f.stop ≤ g.start := by
  induction s generalizing n with
  | nil => exact .nil
  | cons segment s ih =>
    cases segment with
    | kept c => exact ih (n + 1)
    | found m =>
      refine List.pairwise_cons.mpr ⟨fun g member => ?_, ih (n + m.length)⟩
      obtain ⟨_, _, -, start⟩ := mem_findsFrom.mp member
      exact start ▸ Nat.le_add_right _ _

/-- What a scan of a text for a pattern has to find. -/
structure IsScan (p : Pattern) (t : Text) (finds : List Find) : Prop where
  apart : finds.Pairwise fun f g => f.stop ≤ g.start
  stands : ∀ f ∈ finds, ∃ before after, t = before ++ (f.text ++ after) ∧ before.length = f.start ∧
    p.Matches before.getLast? f.text after
  complete : ∀ before m after, t = before ++ (m ++ after) → p.Matches before.getLast? m after →
    ∃ f ∈ finds, f.start ≤ before.length ∧ before.length < f.stop

theorem isScan_finds (filled : ∀ previous after, ¬p.Matches previous [] after) (t : Text) :
    p.IsScan t (p.finds t) where
  apart := findsFrom_apart 0 _
  stands f member := by
    obtain ⟨earlier, later, scanned, start⟩ := mem_findsFrom.mp member
    have match_ := matches_of_segment scanned
    rw [Option.or_none] at match_
    refine ⟨_, _, ?_, (start.trans (Nat.zero_add _)).symm, match_⟩
    rw [← flatMap_text_segmentsFrom p none t, ← segments, scanned, List.flatMap_append, List.flatMap_cons]
    rfl
  complete before m after text match_ := by
    have match_ : p.Matches (before.getLast?.or none) m after := by rwa [Option.or_none]
    obtain ⟨found, e, -, -, goes⟩ := exists_found_of_matches filled match_
    obtain ⟨c, rest, next⟩ := List.exists_cons_of_ne_nil (l := m ++ after) (by
      intro empty
      rw [(List.append_eq_nil_iff.mp empty).1] at match_
      exact filled _ _ match_)
    have whole : (p.segments t).flatMap Segment.text = before ++ c :: rest := by
      rw [segments, flatMap_text_segmentsFrom, text, next]
    -- The scan finds something wherever it stops before a match, so the character there is not kept.
    rcases exists_segment_of_text whole with ⟨earlier, later, scanned, rfl, rfl⟩ |
      ⟨earlier, first, last, later, scanned, rfl, -⟩
    · have kept := segmentsFrom_of_append scanned
      rw [List.flatMap_cons, show Segment.text (.kept c) = [c] from rfl, List.singleton_append, ← next, goes] at kept
      cases (List.cons.inj kept).1
    · refine ⟨⟨_, first ++ c :: last⟩, mem_findsFrom.mpr ⟨earlier, later, scanned, rfl⟩, ?_, ?_⟩
      · rw [List.length_append, Nat.zero_add]
        exact Nat.le_add_right _ _
      · simp only [Find.stop, List.length_append, List.length_cons]
        omega

end LessonService.Pattern
