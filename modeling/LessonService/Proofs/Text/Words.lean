import LessonService.Proofs.Text.Occurrence
import LessonService.Proofs.Text.Runs
import LessonService.Proofs.Text.Trim
import Mathlib.Data.List.Chain

namespace LessonService.Text

variable {a b t word part : Text} {c : CodePoint} {ws : List Text}

section Words

theorem words_eq_filter {start : Text} {rest : List Text} (t : Text)
    (others : (wordsAndStart t).2 = rest.filter fun run => !run.isEmpty) (first : (wordsAndStart t).1 = start) :
    words t = (start :: rest).filter fun run => !run.isEmpty := by
  simp only [words, others, first]
  cases start <;> rfl

/-- The part at the start and the words after it are what stands between blanks, the empty parts left out. -/
theorem exists_splitOnP_eq (t : Text) :
    ∃ rest, t.splitOnP (fun c => !!c.isBlank) = (wordsAndStart t).1 :: rest ∧
      (wordsAndStart t).2 = rest.filter fun run => !run.isEmpty := by
  induction t with
  | nil => exact ⟨[], rfl, rfl⟩
  | cons c t ih =>
    obtain ⟨rest, split, others⟩ := ih
    rw [List.splitOnP_cons_eq_if_modifyHead, split]
    by_cases blank : c.isBlank = true
    · have parted : wordsAndStart (c :: t) = ([], words t) := by simp only [wordsAndStart, words, blank, if_true]
      rw [if_pos (by simp [blank]), parted]
      exact ⟨_, rfl, words_eq_filter t others rfl⟩
    · have longer : wordsAndStart (c :: t) = (c :: (wordsAndStart t).1, (wordsAndStart t).2) := by
        simp only [wordsAndStart, blank]
        rfl
      rw [if_neg (by simp [blank]), longer]
      exact ⟨rest, rfl, others⟩

/-- The words of a text are its runs of characters that are not blank. -/
theorem words_eq_runs (t : Text) : words t = runs (fun c => !c.isBlank) t := by
  obtain ⟨rest, split, others⟩ := exists_splitOnP_eq t
  rw [runs, split]
  exact words_eq_filter t others rfl

/-- At least one character, and none of them blank. -/
structure IsWord (word : Text) : Prop where
  filled : word ≠ []
  solid : ∀ c ∈ word, c.isBlank = false

theorem isWord_of_mem_words (member : word ∈ words t) : IsWord word := by
  rw [words_eq_runs] at member
  refine ⟨by simpa using (List.mem_filter.mp member).2, fun c inside => ?_⟩
  simpa using holds_of_mem_runs member c inside

theorem words_append_cons (a b : Text) (blank : c.isBlank = true) : words (a ++ c :: b) = words a ++ words b := by
  rw [words_eq_runs, words_eq_runs, words_eq_runs]
  exact runs_append_cons a b (by simp [blank])

theorem IsWord.words_eq (isWord : IsWord word) : words word = [word] := by
  rw [words_eq_runs]
  exact runs_of_forall isWord.filled (by simpa using isWord.solid)

/-- Only a text of blanks has no words. -/
theorem words_eq_nil_iff : words t = [] ↔ isBlank t = true := by
  constructor
  · intro none
    induction t with
    | nil => rfl
    | cons c t ih =>
      have counted := @length_runs_cons (fun c => !c.isBlank) c t
      rw [← words_eq_runs, ← words_eq_runs, none, List.length_nil] at counted
      have blank : isBlank t = true := ih (List.eq_nil_of_length_eq_zero (by omega))
      have stops : t.head?.any (fun c => !c.isBlank) = false := by
        rw [Option.any_eq_false]
        intro d first
        have all : ∀ c ∈ t, c.isBlank = true := by simpa [isBlank] using blank
        simp [all d (List.mem_of_head? first)]
      by_cases first : c.isBlank = true
      · simpa [isBlank, first] using blank
      · rw [if_pos (by simp [first, stops])] at counted
        omega
  · intro blank
    rw [words_eq_runs]
    exact runs_eq_nil (by simpa [isBlank] using blank)

/-- What has no blank in it occurs in a text where it occurs in one of its words. -/
theorem IsWord.exists_mem_words_iff (isWord : IsWord part) : (∃ word ∈ words t, part <:+: word) ↔ part <:+: t := by
  induction length : t.length using Nat.strong_induction_on generalizing t with
  | _ n ih =>
    by_cases solid : ∀ c ∈ t, c.isBlank = false
    · by_cases filled : t = []
      · rw [filled, words_eq_nil_iff.mpr rfl, List.infix_nil]
        simp [isWord.filled]
      · rw [IsWord.words_eq ⟨filled, solid⟩]
        simp
    · -- A blank parts the words, and the part stands on one side of it.
      obtain ⟨c, member, blank⟩ : ∃ c ∈ t, c.isBlank = true := by simpa using solid
      obtain ⟨a, b, rfl⟩ := List.append_of_mem member
      have absent : c ∉ part := by
        intro inside
        rw [isWord.solid c inside] at blank
        cases blank
      rw [List.length_append, List.length_cons] at length
      rw [words_append_cons a b blank, infix_append_cons_iff absent, ← ih a.length (by omega) rfl,
        ← ih b.length (by omega) rfl]
      simp only [List.mem_append, or_and_right, exists_or]

end Words

/-- Single spaces stand between the words, and no other blank stands anywhere. -/
structure IsEvenlySpaced (t : Text) : Prop where
  spaces : ∀ c ∈ t, c.isBlank = true → c = ⟨0x20⟩
  single : t.IsChain fun c d => c.isBlank = false ∨ d.isBlank = false
  trimmed : t.IsTrimmed

theorem IsWord.isEvenlySpaced (isWord : IsWord word) : IsEvenlySpaced word where
  spaces c member blank := by
    rw [isWord.solid c member] at blank
    cases blank
  single := (List.pairwise_iff_forall_sublist.mpr fun {c d} sub => .inl (isWord.solid c (sub.subset (by simp)))).isChain
  trimmed := ⟨fun c first => isWord.solid c (List.mem_of_head? first), fun c last => isWord.solid c (List.mem_of_getLast? last)⟩

/-- One more word before a space. -/
theorem IsWord.append_space (isWord : IsWord word) (spaced : IsEvenlySpaced t) (filled : t ≠ []) :
    IsEvenlySpaced (word ++ ⟨0x20⟩ :: t) where
  spaces c member blank := by
    rcases List.mem_append.mp member with inside | after
    · exact isWord.isEvenlySpaced.spaces c inside blank
    · rcases List.mem_cons.mp after with rfl | after
      · rfl
      · exact spaced.spaces c after blank
  single := by
    refine isWord.isEvenlySpaced.single.append (List.isChain_cons.mpr ⟨fun d first => ?_, spaced.single⟩) ?_
    · exact .inr (spaced.trimmed.first d first)
    · intro c last d _
      exact .inl (isWord.solid c (List.mem_of_getLast? last))
  trimmed := by
    constructor
    · intro c first
      rw [List.head?_append_of_ne_nil word isWord.filled] at first
      exact isWord.solid c (List.mem_of_head? first)
    · intro c last
      rw [List.append_cons, List.getLast?_append_of_ne_nil _ filled] at last
      exact spaced.trimmed.last c last

/-- More of the last word. -/
theorem IsEvenlySpaced.append_word (spaced : IsEvenlySpaced t) (isWord : IsWord word) :
    IsEvenlySpaced (t ++ word) where
  spaces c member blank := by
    rcases List.mem_append.mp member with before | after
    · exact spaced.spaces c before blank
    · exact isWord.isEvenlySpaced.spaces c after blank
  single := spaced.single.append isWord.isEvenlySpaced.single fun c last _ _ => .inl (spaced.trimmed.last c last)
  trimmed := by
    constructor
    · intro c first
      by_cases empty : t = []
      · rw [empty, List.nil_append] at first
        exact isWord.isEvenlySpaced.trimmed.first c first
      · rw [List.head?_append_of_ne_nil t empty] at first
        exact spaced.trimmed.first c first
    · intro c last
      rw [List.getLast?_append_of_ne_nil t isWord.filled] at last
      exact isWord.isEvenlySpaced.trimmed.last c last

/-- A start of such a text, without the blank it may end with. -/
theorem IsEvenlySpaced.trimRight_take (spaced : IsEvenlySpaced t) (n : Nat) :
    IsEvenlySpaced (trimRight CodePoint.isBlank (t.take n)) := by
  have start : trimRight CodePoint.isBlank (t.take n) <+: t :=
    (List.rdropWhile_prefix CodePoint.isBlank (t.take n)).trans (List.take_prefix n t)
  constructor
  · exact fun c member => spaced.spaces c (start.subset member)
  · obtain ⟨rest, whole⟩ := start
    exact (whole ▸ spaced.single).left_of_append
  · constructor
    · intro c first
      obtain ⟨rest, whole⟩ := start
      apply spaced.trimmed.first c
      rw [← whole, List.head?_append, first]
      rfl
    · exact fun c last => getLast?_trimRight_not last

/-- Such a text is one word, or a word before the rest of them. -/
theorem IsEvenlySpaced.isWord_or_exists (spaced : IsEvenlySpaced t) (filled : t ≠ []) :
    IsWord t ∨ ∃ word rest, t = word ++ ⟨0x20⟩ :: rest ∧ IsWord word ∧ IsEvenlySpaced rest ∧ rest ≠ [] := by
  have split := List.takeWhile_append_dropWhile (p := fun c : CodePoint => !c.isBlank) (l := t)
  have solid : ∀ c ∈ t.takeWhile fun c => !c.isBlank, c.isBlank = false := fun c member => by
    simpa using List.mem_takeWhile_imp member
  generalize t.takeWhile (fun c => !c.isBlank) = word at split solid
  cases after : t.dropWhile fun c => !c.isBlank with
  | nil =>
    rw [after, List.append_nil] at split
    exact .inl ⟨filled, split ▸ solid⟩
  | cons c rest =>
    rw [after] at split
    have blank : c.isBlank = true := by
      have stopped := List.head?_dropWhile_not (fun c : CodePoint => !c.isBlank) t
      rw [after] at stopped
      simpa using stopped
    have space : c = ⟨0x20⟩ := spaced.spaces c (split ▸ by simp) blank
    have chain : (c :: rest).IsChain fun c d => c.isBlank = false ∨ d.isBlank = false :=
      (split ▸ spaced.single).right_of_append
    have later : rest ≠ [] := by
      rintro rfl
      have last := spaced.trimmed.last c (by rw [← split]; simp)
      rw [blank] at last
      cases last
    refine .inr ⟨word, rest, by rw [← space, split], ⟨?_, solid⟩, ⟨?_, (List.isChain_cons.mp chain).2, ?_, ?_⟩, later⟩
    · rintro rfl
      have first := spaced.trimmed.first c (by rw [← split]; rfl)
      rw [blank] at first
      cases first
    · intro d member
      exact spaced.spaces d (by rw [← split]; simp [member])
    · intro d first
      have next := (List.isChain_cons.mp chain).1 d first
      simpa [blank] using next
    · intro d last
      apply spaced.trimmed.last d
      rw [← split, List.append_cons, List.getLast?_append_of_ne_nil _ later, last]

theorem space_eq : (" " : Text) = [⟨0x20⟩] := rfl

/-- Words that are joined are evenly spaced, and nothing is left only of none. -/
theorem join_isEvenlySpaced (each : ∀ word ∈ ws, IsWord word) (some : ws ≠ []) :
    IsEvenlySpaced (join " " ws) ∧ join " " ws ≠ [] := by
  induction ws with
  | nil => exact absurd rfl some
  | cons word ws ih =>
    obtain ⟨isWord, later⟩ := List.forall_mem_cons.mp each
    cases ws with
    | nil => exact ⟨isWord.isEvenlySpaced, isWord.filled⟩
    | cons next ws =>
      obtain ⟨spaced, filled⟩ := ih later (List.cons_ne_nil _ _)
      rw [join_cons_cons, space_eq, List.append_assoc, List.singleton_append]
      exact ⟨isWord.append_space spaced filled, by simp⟩

/-- An evenly spaced text is what its words make. -/
theorem IsEvenlySpaced.join_words_eq (spaced : IsEvenlySpaced t) : join " " (words t) = t := by
  induction length : t.length using Nat.strong_induction_on generalizing t with
  | _ n ih =>
    by_cases filled : t = []
    · rw [filled]
      rfl
    rcases spaced.isWord_or_exists filled with isWord | ⟨word, rest, split, isWord, again, later⟩
    · rw [isWord.words_eq]
      rfl
    have shorter : rest.length < n := by
      rw [← length, split, List.length_append, List.length_cons]
      omega
    have whole := ih rest.length shorter again rfl
    have some : words rest ≠ [] := by
      intro none
      rw [none] at whole
      exact later whole.symm
    obtain ⟨next, others, words_eq⟩ := List.exists_cons_of_ne_nil some
    rw [words_eq] at whole
    rw [split, words_append_cons word rest rfl, isWord.words_eq, words_eq, List.singleton_append, join_cons_cons, whole,
      space_eq, List.append_assoc, List.singleton_append]

end LessonService.Text
