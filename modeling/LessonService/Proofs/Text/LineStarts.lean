import LessonService.Proofs.Text.Occurrence
import LessonService.Proofs.Text.Stretches

namespace LessonService.Pattern

variable {p : Pattern} {ps : List Pattern} {previous : Option CodePoint} {a b part t before rest : Text}
  {s earlier later : List Segment} {c d : CodePoint}

/-- The start of a line, as the character before it. -/
def IsLineStart (previous : Option CodePoint) : Prop := ∀ c ∈ previous, c = ('\n' : CodePoint)

theorem isLineStart_none : IsLineStart none := nofun

theorem isLineStart_feed : IsLineStart (some '\n') := by
  rintro _ ⟨⟩
  rfl

theorem isLineStart_iff : IsLineStart previous ↔ previous.elim true (fun c => decide (c.value = 0x0A)) = true := by
  cases previous with
  | none => simp [IsLineStart]
  | some c =>
    rw [IsLineStart, Option.elim_some, decide_eq_true_eq]
    constructor
    · intro start
      exact congrArg CodePoint.value (start c rfl)
    · rintro value _ ⟨⟩
      exact congrArg CodePoint.mk value

theorem IsLineStart.of_append (start : IsLineStart (a ++ b).getLast?) : IsLineStart b.getLast? := by
  intro c last
  refine start c ?_
  rw [List.getLast?_append, Option.mem_def.mp last]
  rfl

/-- A piece of a line stands before the start of a line or after it. -/
theorem infix_append_iff_of_isLineStart (absent : ('\n' : CodePoint) ∉ part) (start : IsLineStart a.getLast?) :
    part <:+: a ++ b ↔ part <:+: a ∨ part <:+: b := by
  constructor
  · intro inside
    rcases List.eq_nil_or_concat' a with rfl | ⟨front, last, rfl⟩
    · exact .inr inside
    · have feed : last = '\n' := start last List.getLast?_concat
      rw [List.append_assoc, List.singleton_append, feed, Text.infix_append_cons_iff absent] at inside
      exact inside.imp_left fun inFront => inFront.trans (List.prefix_append front _).isInfix
  · rintro (inFirst | inSecond)
    · exact inFirst.trans (List.prefix_append a b).isInfix
    · exact inSecond.trans (List.suffix_append a b).isInfix

/-- A scan can be taken up again between any two of its segments. -/
theorem segmentsFrom_of_append (scanned : p.segmentsFrom previous t = earlier ++ later) :
    p.segmentsFrom ((earlier.flatMap Segment.text).getLast?.or previous) (later.flatMap Segment.text) = later := by
  induction earlier generalizing previous t with
  | nil =>
    rw [List.nil_append] at scanned
    rw [← scanned, flatMap_text_segmentsFrom]
    rfl
  | cons segment earlier ih =>
    cases t with
    | nil => simp [segmentsFrom] at scanned
    | cons c t =>
      rcases segmentsFrom_cons p previous c t with ⟨m, e, -, leads, -, found⟩ | kept
      · rw [found, List.cons_append] at scanned
        obtain ⟨rfl, next⟩ := List.cons.inj scanned
        have goes := ih next
        rwa [leads.2, ← Option.or_assoc, ← List.getLast?_append] at goes
      · rw [kept, List.cons_append] at scanned
        obtain ⟨rfl, next⟩ := List.cons.inj scanned
        have goes := ih next
        rwa [← getLast?_cons_or] at goes

/-- A character of the text is kept, or it lies in something that is found. -/
theorem exists_segment_of_text (text : s.flatMap Segment.text = before ++ c :: rest) :
    (∃ earlier later, s = earlier ++ .kept c :: later ∧ earlier.flatMap Segment.text = before ∧
      later.flatMap Segment.text = rest) ∨
    ∃ earlier first last later, s = earlier ++ .found (first ++ c :: last) :: later ∧
      earlier.flatMap Segment.text ++ first = before ∧ last ++ later.flatMap Segment.text = rest := by
  induction s generalizing before with
  | nil => simp at text
  | cons segment s ih =>
    rw [List.flatMap_cons] at text
    rcases List.append_eq_append_iff.mp text with ⟨more, rfl, tail⟩ | ⟨inside, whole, tail⟩
    · rcases ih tail with ⟨earlier, later, rfl, rfl, rfl⟩ | ⟨earlier, first, last, later, rfl, rfl, rfl⟩
      · exact .inl ⟨segment :: earlier, later, rfl, rfl, rfl⟩
      · exact .inr ⟨segment :: earlier, first, last, later, rfl, List.append_assoc _ _ _, rfl⟩
    · cases inside with
      | nil =>
        rw [List.append_nil] at whole
        have same : s.flatMap Segment.text = [] ++ c :: rest := tail.symm
        rcases ih same with ⟨earlier, later, rfl, none, rfl⟩ | ⟨earlier, first, last, later, rfl, none, rfl⟩
        · exact .inl ⟨segment :: earlier, later, rfl, by rw [List.flatMap_cons, none, List.append_nil, whole], rfl⟩
        · refine .inr ⟨segment :: earlier, first, last, later, rfl, ?_, rfl⟩
          rw [List.flatMap_cons, List.append_assoc, none, List.append_nil, whole]
      | cons d inside =>
        obtain ⟨rfl, rfl⟩ := List.cons.inj tail
        cases segment with
        | kept d =>
          obtain ⟨rfl, none⟩ := List.append_eq_singleton_iff.mp whole.symm |>.resolve_right (by simp)
          obtain ⟨rfl, rfl⟩ := List.cons.inj none
          exact .inl ⟨[], s, rfl, rfl, rfl⟩
        | found m => exact .inr ⟨[], before, inside, s, by rw [← whole]; rfl, rfl, rfl⟩

/-- Every match stands, in what is left of the text, at the start of a line. -/
def AtLineStarts (s : List Segment) : Prop :=
  ∀ earlier m later, s = earlier ++ .found m :: later →
    IsLineStart (earlier.flatMap (Segment.changed fun _ => [])).getLast?

theorem AtLineStarts.left (starts : AtLineStarts (earlier ++ later)) : AtLineStarts earlier := by
  rintro first m rest rfl
  exact starts first m (rest ++ later) (by simp)

theorem AtLineStarts.right (starts : AtLineStarts (earlier ++ later)) : AtLineStarts later := by
  rintro first m rest rfl
  have more := starts (earlier ++ first) m rest (by simp)
  rw [List.flatMap_append] at more
  exact more.of_append

/-- A pattern that matches nothing but at the start of a line, and there no empty text. -/
structure StartsLines (p : Pattern) : Prop where
  start : ∀ previous found after, p.Matches previous found after → IsLineStart previous
  filled : ∀ previous after, ¬p.Matches previous [] after

theorem StartsLines.isLineStart_of_starts (lines : p.StartsLines) (starts : p.Starts previous t) :
    IsLineStart previous := by
  obtain ⟨found, after, -, -, match_⟩ := starts
  exact lines.start _ _ _ match_

/-- Once a line has begun, no match starts up to the character that ends it. -/
theorem StartsLines.passes (lines : p.StartsLines) (absent : ('\n' : CodePoint) ∉ d :: t) :
    p.Passes (some d) (t ++ [c]) b := by
  intro start e x split starts
  have line := lines.isLineStart_of_starts starts
  have inside : start <+: t := by
    have shorter : t ++ [c] = start ++ e :: x := split
    rcases List.eq_nil_or_concat' (e :: x) with empty | ⟨front, last, whole⟩
    · cases empty
    · rw [whole, ← List.append_assoc] at shorter
      exact ⟨front, (List.append_inj_left' shorter rfl).symm⟩
  have last : (d :: start).getLast? = some (start.getLast?.getD d) := List.getLast?_cons
  have among : start.getLast?.getD d ∈ d :: t :=
    (List.cons_prefix_cons.mpr ⟨rfl, inside⟩).subset (List.mem_of_getLast? last)
  have before : start.getLast?.or (some d) = some (start.getLast?.getD d) := by
    cases start.getLast? <;> rfl
  rw [line _ before] at among
  exact absent among

theorem StartsLines.atLineStarts (lines : p.StartsLines) (t : Text) : AtLineStarts (p.segmentsFrom none t) := by
  intro earlier m later scanned
  have match_ := matches_of_segment scanned
  rw [Option.or_none] at match_
  exact getLast?_removed lines.start scanned (lines.start _ _ _ match_)

/-- Every piece of a line that one text has, another one has as well. -/
def HasPiecesOf (t left : Text) : Prop := ∀ part, ('\n' : CodePoint) ∉ part → part <:+: left → part <:+: t

theorem hasPiecesOf_of_inside (inside : a <:+: t) : HasPiecesOf t a := fun _ _ here => here.trans inside

theorem HasPiecesOf.trans (first : HasPiecesOf t a) (second : HasPiecesOf a b) : HasPiecesOf t b :=
  fun part absent inside => first part absent (second part absent inside)

theorem AtLineStarts.hasPiecesOf (a : Text) (starts : AtLineStarts (a.map .kept ++ s)) :
    HasPiecesOf (a ++ s.flatMap Segment.text) (a ++ s.flatMap (Segment.changed fun _ => [])) := by
  induction s generalizing a with
  | nil => exact hasPiecesOf_of_inside (List.infix_refl _)
  | cons segment s ih =>
    cases segment with
    | kept c =>
      have moved (f : Segment → Text) (one : f (.kept c) = [c]) :
          a ++ (.kept c :: s).flatMap f = (a ++ [c]) ++ s.flatMap f := by simp [one]
      rw [moved _ rfl, moved _ rfl]
      refine ih (a ++ [c]) ?_
      rwa [List.map_append, List.append_assoc]
    | found m =>
      have here := starts (a.map .kept) m s rfl
      rw [Segment.flatMap_changed_kept] at here
      have later : AtLineStarts s := by
        have next : AtLineStarts ([.found m] ++ s) := starts.right
        exact next.right
      intro part absent left
      rcases (infix_append_iff_of_isLineStart absent here).mp left with inFirst | inSecond
      · exact inFirst.trans (List.prefix_append a _).isInfix
      · have inText : part <:+: s.flatMap Segment.text := ih [] later part absent inSecond
        exact inText.trans ((List.suffix_append m _).trans (List.suffix_append a _)).isInfix

theorem StartsLines.hasPiecesOf_removed (lines : p.StartsLines) (scanned : p.segmentsFrom none t = earlier ++ later) :
    HasPiecesOf (earlier.flatMap Segment.text) (earlier.flatMap (Segment.changed fun _ => [])) ∧
      HasPiecesOf (later.flatMap Segment.text) (later.flatMap (Segment.changed fun _ => [])) := by
  have all := lines.atLineStarts t
  rw [scanned] at all
  exact ⟨all.left.hasPiecesOf [], all.right.hasPiecesOf []⟩

theorem StartsLines.hasPiecesOf_remove (lines : p.StartsLines) (t : Text) : HasPiecesOf t (p.remove t) := by
  have whole := (lines.hasPiecesOf_removed (List.nil_append (p.segmentsFrom none t)).symm).2
  rwa [flatMap_text_segmentsFrom, ← replaceAll_eq] at whole

theorem hasPiecesOf_removeAll (lines : ∀ p ∈ ps, p.StartsLines) (t : Text) : HasPiecesOf t (removeAll ps t) := by
  induction ps generalizing t with
  | nil => exact hasPiecesOf_of_inside (List.infix_refl t)
  | cons p ps ih =>
    rw [List.forall_mem_cons] at lines
    exact (lines.1.hasPiecesOf_remove t).trans (ih lines.2 (p.remove t))

/-- If a scan keeps the first character of a piece of a line, no match starts there, and none before what follows the
piece. -/
theorem StartsLines.rest_kept (lines : p.StartsLines) (absent : ('\n' : CodePoint) ∉ d :: part)
    (scanned : p.segmentsFrom none (earlier.flatMap Segment.text ++ (d :: part ++ c :: rest)) = earlier ++ .kept d :: later)
    (textAfter : later.flatMap Segment.text = part ++ c :: rest) :
    ¬p.Starts (earlier.flatMap Segment.text).getLast? (d :: part ++ c :: rest) ∧
      later = (part ++ [c]).map .kept ++ p.segmentsFrom ((part ++ [c]).getLast?.or (some d)) rest := by
  have again := segmentsFrom_of_append scanned
  rw [Option.or_none, List.flatMap_cons, textAfter] at again
  have unmet : ¬p.Starts (earlier.flatMap Segment.text).getLast? (d :: part ++ c :: rest) := by
    rintro ⟨found, after, text, -, match_⟩
    obtain ⟨m, e, -, -, found⟩ := exists_found_of_matches lines.filled match_
    rw [← text] at found
    cases found.symm.trans again
  refine ⟨unmet, ?_⟩
  have next := segmentsFrom_of_not_starts (p := p) (t := part ++ c :: rest) unmet
  rw [← segmentsFrom_kept_append (lines.passes absent), List.append_assoc]
  exact (List.cons.inj (again.symm.trans next)).2

/-- A piece of a line that is followed by something is left as a whole if no match starts with it. Otherwise its first
character is gone. -/
theorem StartsLines.exists_remove_line (lines : p.StartsLines) (absent : ('\n' : CodePoint) ∉ d :: part)
    (start : IsLineStart before.getLast?) (c : CodePoint) (rest : Text) :
    ∃ before' after', p.remove (before ++ (d :: part ++ c :: rest)) = before' ++ after' ∧
      IsLineStart before'.getLast? ∧ HasPiecesOf before before' ∧
      ((¬p.Starts before.getLast? (d :: part ++ c :: rest) ∧
        ∃ rest', after' = d :: part ++ c :: rest' ∧ HasPiecesOf rest rest') ∨
      HasPiecesOf (part ++ c :: rest) after') := by
  have removed {first second : List Segment}
      (scanned : p.segmentsFrom none (before ++ (d :: part ++ c :: rest)) = first ++ second) :
      p.remove (before ++ (d :: part ++ c :: rest)) = first.flatMap (Segment.changed fun _ => []) ++
        second.flatMap (Segment.changed fun _ => []) := by
    rw [remove, replaceAll_eq, scanned, List.flatMap_append]
  rcases exists_segment_of_text (flatMap_text_segmentsFrom p none (before ++ (d :: part ++ c :: rest))) with
    ⟨earlier, later, scanned, rfl, textAfter⟩ | ⟨earlier, first, last, later, scanned, rfl, textAfter⟩
  · obtain ⟨unmet, kept⟩ := lines.rest_kept absent scanned textAfter
    have parted : p.segmentsFrom none (earlier.flatMap Segment.text ++ (d :: part ++ c :: rest))
        = (earlier ++ (d :: (part ++ [c])).map .kept) ++ p.segmentsFrom ((part ++ [c]).getLast?.or (some d)) rest := by
      rw [scanned, kept]
      simp
    have pieces := lines.hasPiecesOf_removed parted
    rw [flatMap_text_segmentsFrom] at pieces
    refine ⟨_, _, removed scanned, getLast?_removed lines.start scanned start, (lines.hasPiecesOf_removed scanned).1,
      .inl ⟨unmet, _, ?_, pieces.2⟩⟩
    rw [kept, List.flatMap_cons, List.flatMap_append, Segment.flatMap_changed_kept]
    simp [Segment.changed]
  · have match_ := matches_of_segment scanned
    rw [Option.or_none] at match_
    have pieces := lines.hasPiecesOf_removed scanned
    have parted : p.segmentsFrom none (earlier.flatMap Segment.text ++ first ++ (d :: part ++ c :: rest))
        = (earlier ++ [.found (first ++ d :: last)]) ++ later := by
      rw [scanned]
      simp
    refine ⟨_, _, removed scanned, getLast?_removed lines.start scanned (lines.start _ _ _ match_), ?_, .inr ?_⟩
    · exact (hasPiecesOf_of_inside (List.prefix_append _ first).isInfix).trans pieces.1
    · have tail : last ++ later.flatMap Segment.text = part ++ c :: rest := textAfter
      rw [← tail]
      exact (hasPiecesOf_of_inside (List.suffix_append last _).isInfix).trans (lines.hasPiecesOf_removed parted).2

/-- Up to where nothing starts, whatever comes after it, a text is left. -/
theorem exists_removeAll_append (passes : ∀ p ∈ ps, ∀ t, p.Passes none a t) (t : Text) :
    ∃ left, removeAll ps (a ++ t) = a ++ left := by
  induction ps generalizing t with
  | nil => exact ⟨t, rfl⟩
  | cons p ps ih =>
    rw [List.forall_mem_cons] at passes
    rw [removeAll, List.foldl_cons, remove, replaceAll_eq, segmentsFrom_kept_append (passes.1 t), List.flatMap_append,
      Segment.flatMap_changed_kept]
    exact ih passes.2 _

/-- A piece of a line at whose start something is removed is gone, unless the text has it a second time. -/
theorem infix_of_removeAll (lines : ∀ p ∈ ps, p.StartsLines) (absent : ('\n' : CodePoint) ∉ d :: part)
    (other : c ∉ d :: part) (start : IsLineStart before.getLast?)
    (starts : ∃ p ∈ ps, ∀ previous rest, IsLineStart previous → p.Starts previous (d :: part ++ c :: rest))
    (left : d :: part <:+: removeAll ps (before ++ (d :: part ++ c :: rest))) :
    d :: part <:+: before ∨ d :: part <:+: rest := by
  induction ps generalizing before rest with
  | nil =>
    obtain ⟨p, none, -⟩ := starts
    cases none
  | cons p ps ih =>
    rw [List.forall_mem_cons] at lines
    obtain ⟨before', after', removed, start', pieces, ⟨unmet, rest', rfl, later⟩ | tail⟩ :=
      lines.1.exists_remove_line absent start c rest
    · rw [removeAll, List.foldl_cons, removed, ← removeAll] at left
      have others : ∃ p ∈ ps, ∀ previous rest, IsLineStart previous → p.Starts previous (d :: part ++ c :: rest) := by
        obtain ⟨q, among, met⟩ := starts
        rcases List.mem_cons.mp among with rfl | among
        · exact absurd (met _ _ start) unmet
        · exact ⟨q, among, met⟩
      exact (ih lines.2 start' others left).imp (pieces _ absent) (later _ absent)
    · have here : d :: part <:+: before' ++ after' := removed ▸ hasPiecesOf_removeAll lines.2 _ _ absent left
      rcases (infix_append_iff_of_isLineStart absent start').mp here with inFirst | inSecond
      · exact .inl (pieces _ absent inFirst)
      · refine .inr (((Text.infix_append_cons_iff other).mp (tail _ absent inSecond)).resolve_left fun inPart => ?_)
        exact absurd inPart.length_le (Nat.not_succ_le_self _)

end LessonService.Pattern
