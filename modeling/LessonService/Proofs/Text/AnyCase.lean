import LessonService.Proofs.Text.FirstEnds
import LessonService.Proofs.Text.Letters
import LessonService.Proofs.Text.Readings

namespace LessonService.Pattern

variable {previous : Option CodePoint} {found after t rest phrase other : Text} {phrases : List Text}
  {c letter mark : CodePoint}

/-- Whether a character stands in the place of one of a phrase: for a letter in any case, and else for itself. -/
def standsFor (letter c : CodePoint) : Bool := if letter.isLowerLetter then letter.isCaseOf c else c = letter

/-- A text in the place of a phrase, its letters in any case. -/
def IsInAnyCase (phrase t : Text) : Prop := List.Forall₂ (fun letter c => standsFor letter c = true) phrase t

instance : Decidable (IsInAnyCase phrase t) := inferInstanceAs (Decidable (List.Forall₂ _ phrase t))

/-- Lowercase letters, and characters that are no part of words. -/
def isPhrase (t : Text) : Bool := t.all fun c => c.isLowerLetter || !c.isWord

theorem inAnyCase_eq (phrase : Text) : inAnyCase phrase = seq (phrase.map fun letter => one (standsFor letter)) := by
  have part (letter : CodePoint) :
      (if letter.isLowerLetter then one letter.isCaseOf else one (· = letter)) = one (standsFor letter) := by
    unfold standsFor
    cases letter.isLowerLetter <;> rfl
  unfold inAnyCase
  rw [List.map_congr_left fun letter _ => part letter]

/-- A phrase ends after the text in its place, and nowhere else. -/
theorem ends_inAnyCase (cased : IsInAnyCase phrase t) :
    (inAnyCase phrase).ends ⟨previous, t ++ rest⟩ = [⟨t.getLast?.or previous, rest⟩] := by
  rw [inAnyCase_eq]
  induction cased generalizing previous with
  | nil => rfl
  | @cons letter c phrase t stands later ih =>
    have here : (one (standsFor letter)).ends ⟨previous, c :: (t ++ rest)⟩ = [⟨some c, t ++ rest⟩] := ends_one stands
    cases later with
    | nil => exact here
    | @cons letter' d phrase t stands' later =>
      have row : (seq ((letter :: letter' :: phrase).map fun letter => one (standsFor letter))).ends
          ⟨previous, c :: (d :: t ++ rest)⟩ = ((one (standsFor letter)).ends ⟨previous, c :: (d :: t ++ rest)⟩).flatMap
            (seq ((letter' :: phrase).map fun letter => one (standsFor letter))).ends := rfl
      rw [getLast?_cons_or, List.cons_append, row, here, List.flatMap_singleton]
      exact ih

theorem matches_inAnyCase : (inAnyCase phrase).Matches previous found after ↔ IsInAnyCase phrase found := by
  rw [inAnyCase_eq]
  induction phrase generalizing previous found with
  | nil => simp [seq, Matches, IsInAnyCase, List.forall₂_nil_left_iff]
  | cons letter phrase ih =>
    cases phrase with
    | nil => simp [seq, Matches, IsInAnyCase, List.forall₂_cons_left_iff, and_comm]
    | cons letter' phrase =>
      simp only [List.map_cons] at ih ⊢
      rw [matches_seq_cons]
      simp only [ih, IsInAnyCase, List.forall₂_cons_left_iff (a := letter)]
      constructor
      · intro parts
        obtain ⟨_, b, split, ⟨c, only, stands⟩, later⟩ := parts
        exact ⟨c, b, stands, later, by rw [split, only]; rfl⟩
      · intro parts
        obtain ⟨c, b, stands, later, split⟩ := parts
        exact ⟨[c], b, split, ⟨c, rfl, stands⟩, later⟩

/-- The letter that a character is a case of. -/
def caseless (c : CodePoint) : CodePoint :=
  if c.value = 0x131 then ⟨0x69⟩ else if c.value = 0x17F then ⟨0x73⟩ else c.lower

theorem eq_caseless_of_isCaseOf (isLetter : letter.isLowerLetter = true) (cased : letter.isCaseOf c = true) :
    letter = caseless c := by
  obtain ⟨n⟩ := c
  obtain ⟨value⟩ := letter
  have apart (k : Nat) (outside : (CodePoint.mk k).lower.isLowerLetter = false) (same : n = k) :
      (CodePoint.mk n).lower ≠ ⟨value⟩ := by
    intro lowered
    rw [← same, lowered, isLetter] at outside
    cases outside
  have dotless := apart 0x131 (by decide +kernel)
  have long := apart 0x17F (by decide +kernel)
  simp only [CodePoint.isCaseOf, Bool.or_eq_true, Bool.and_eq_true, decide_eq_true_eq] at cased
  simp only [caseless]
  by_cases isDotless : n = 0x131
  · rw [if_pos isDotless, CodePoint.mk.injEq]
    rcases cased with (lowered | ⟨same, _⟩) | ⟨_, isLong⟩
    · exact absurd lowered (dotless isDotless)
    · exact same
    · omega
  by_cases isLong : n = 0x17F
  · rw [if_neg isDotless, if_pos isLong, CodePoint.mk.injEq]
    rcases cased with (lowered | ⟨_, isDotless⟩) | ⟨same, _⟩
    · exact absurd lowered (long isLong)
    · omega
    · exact same
  · rw [if_neg isDotless, if_neg isLong]
    rcases cased with (lowered | ⟨_, same⟩) | ⟨_, same⟩
    · exact lowered.symm
    · exact absurd same isDotless
    · exact absurd same isLong

/-- What a character stands for is settled. -/
theorem eq_of_standsFor (isLetter : (letter.isLowerLetter || !letter.isWord) = true)
    (isMark : (mark.isLowerLetter || !mark.isWord) = true) (first : standsFor letter c = true)
    (second : standsFor mark c = true) : letter = mark := by
  have inWord {letter : CodePoint} (lower : letter.isLowerLetter = true) (stands : standsFor letter c = true) :
      letter.isCaseOf c = true := by rwa [standsFor, if_pos lower] at stands
  have itself {letter : CodePoint} (other : letter.isLowerLetter = false) (stands : standsFor letter c = true) :
      c = letter := by
    rw [standsFor, other] at stands
    exact of_decide_eq_true stands
  -- A letter stands only for characters of words, and anything else for itself.
  have apart {letter mark : CodePoint} (lower : letter.isLowerLetter = true) (other : mark.isLowerLetter = false)
      (outside : (mark.isLowerLetter || !mark.isWord) = true) (first : standsFor letter c = true)
      (second : standsFor mark c = true) : False := by
    have word := CodePoint.isWord_of_isCaseOf lower (inWord lower first)
    rw [itself other second] at word
    simp [other, word] at outside
  cases lower : letter.isLowerLetter <;> cases also : mark.isLowerLetter
  · rw [← itself lower first, ← itself also second]
  · exact (apart also lower isLetter second first).elim
  · exact (apart lower also isMark first second).elim
  · rw [eq_caseless_of_isCaseOf lower (inWord lower first), eq_caseless_of_isCaseOf also (inWord also second)]

/-- If one text begins another, then so do the phrases in the places of which they stand. -/
theorem IsInAnyCase.phrase_begins {u : Text} (cased : IsInAnyCase phrase t) (cased' : IsInAnyCase other u)
    (plain : isPhrase phrase = true) (plain' : isPhrase other = true) (starts : t <+: u) : phrase <+: other := by
  induction cased generalizing other u with
  | nil => exact List.nil_prefix
  | @cons letter c phrase t stands _ ih =>
    cases cased' with
    | nil => exact absurd (List.prefix_nil.mp starts) (List.cons_ne_nil _ _)
    | @cons mark d other u stands' later' =>
      rw [List.cons_prefix_cons] at starts
      rw [isPhrase, List.all_cons, Bool.and_eq_true] at plain plain'
      rw [← starts.1] at stands'
      rw [List.cons_prefix_cons]
      exact ⟨eq_of_standsFor plain.1 plain'.1 stands stands', ih later' plain.2 plain'.2 starts.2⟩

theorem IsInAnyCase.length_eq (cased : IsInAnyCase phrase t) : phrase.length = t.length := List.Forall₂.length_eq cased

/-- Letters stand only where there are characters of words. -/
theorem IsInAnyCase.isWord (cased : IsInAnyCase phrase t) (lower : ∀ c ∈ phrase, c.isLowerLetter = true) :
    ∀ c ∈ t, c.isWord = true := by
  induction cased with
  | nil => exact List.forall_mem_nil _
  | @cons letter c phrase t stands _ ih =>
    rw [List.forall_mem_cons] at lower ⊢
    rw [standsFor, if_pos lower.1] at stands
    exact ⟨CodePoint.isWord_of_isCaseOf lower.1 stands, ih lower.2⟩

theorem matches_oneOf_inAnyCase :
    (oneOf (phrases.map inAnyCase)).Matches previous found after ↔ ∃ phrase ∈ phrases, IsInAnyCase phrase found := by
  simp [matches_oneOf, matches_inAnyCase]

theorem oneOf_cons_cons (p q : Pattern) (ps : List Pattern) : oneOf (p :: q :: ps) = either p (oneOf (q :: ps)) := rfl

/-- Of several phrases, the one in the place of which a text stands ends after this text, if no phrase before it in
the list begins it and none goes on after it. -/
theorem end?_oneOf_inAnyCase (all : ∀ phrase ∈ phrases, isPhrase phrase = true)
    (apart : phrases.Pairwise fun first later => ¬first <+: later) (member : phrase ∈ phrases)
    (cased : IsInAnyCase phrase t)
    (stops : ∀ other ∈ phrases, ∀ found, IsInAnyCase other found → found <+: t ++ rest → found <+: t) :
    (oneOf (phrases.map inAnyCase)).end? ⟨previous, t ++ rest⟩ = some ⟨t.getLast?.or previous, rest⟩ := by
  have here : (inAnyCase phrase).end? ⟨previous, t ++ rest⟩ = some ⟨t.getLast?.or previous, rest⟩ := by
    rw [end?, ends_inAnyCase cased]
    rfl
  induction phrases with
  | nil => exact absurd member List.not_mem_nil
  | cons first phrases ih =>
    rw [List.pairwise_cons] at apart
    rw [List.forall_mem_cons] at all stops
    by_cases same : first = phrase
    · cases phrases with
      | nil => rw [same]; exact here
      | cons second phrases =>
        rw [List.map_cons, List.map_cons, oneOf_cons_cons, end?_either, same, here, Option.some_or]
    · have later := (List.mem_cons.mp member).resolve_left fun same' => same same'.symm
      have none : (inAnyCase first).end? ⟨previous, t ++ rest⟩ = none := by
        by_contra some
        obtain ⟨found, after, split, match_⟩ := end?_isSome_iff.mp (Option.isSome_iff_ne_none.mpr some)
        have begins := stops.1 found (matches_inAnyCase.mp match_) ⟨after, split.symm⟩
        exact apart.1 phrase later
          ((matches_inAnyCase.mp match_).phrase_begins cased all.1 (all.2 phrase later) begins)
      cases phrases with
      | nil => exact absurd later List.not_mem_nil
      | cons second phrases =>
        rw [List.map_cons, List.map_cons, oneOf_cons_cons, end?_either, none, Option.none_or, ← List.map_cons]
        exact ih all.2 apart.2 later stops.2

end LessonService.Pattern
