import LessonService.Proofs.Script.ModuleLines
import LessonService.Proofs.Text.Letters
import LessonService.Proofs.Text.Readings
import LessonService.Request.Admission

namespace LessonService.Request

open Pattern Script

variable {words : String} {word t : Text} {previous : Option CodePoint} {found after : Text}

/-- Whether the words of a group are written in lowercase letters. -/
def AreLowercase (words : String) : Prop := ∀ w ∈ wordsOf [words], w ≠ [] ∧ ∀ c ∈ w, c.isLowerLetter = true

instance (words : String) : Decidable (AreLowercase words) := inferInstanceAs (Decidable (∀ w ∈ _, _))

/-- Whether a text is one of the words of a group, in any case. -/
def IsOneOf (words : String) (found : Text) : Prop := ∃ w ∈ wordsOf [words], IsWordInAnyCase w found

instance (word found : Text) : Decidable (IsWordInAnyCase word found) :=
  inferInstanceAs (Decidable (List.Forall₂ (fun letter c => CodePoint.isCaseOf letter c = true) word found))

instance (words : String) (found : Text) : Decidable (IsOneOf words found) :=
  inferInstanceAs (Decidable (∃ w ∈ wordsOf [words], IsWordInAnyCase w found))

theorem matches_anyOf (lower : AreLowercase words) :
    (anyOf words).Matches previous found after ↔ IsOneOf words found := by
  rw [anyOf, matches_oneOf]
  constructor
  · rintro ⟨p, among, match_⟩
    obtain ⟨w, member, rfl⟩ := List.mem_map.mp among
    exact ⟨w, member, (matches_wordInAnyCase (lower w member).2).mp match_⟩
  · rintro ⟨w, member, spelled⟩
    exact ⟨_, List.mem_map_of_mem member, (matches_wordInAnyCase (lower w member).2).mpr spelled⟩

/-- One of the words is not empty, and each of its characters is a partner of a lowercase letter. -/
theorem IsOneOf.exists_letter (lower : AreLowercase words) (one : IsOneOf words found) :
    found ≠ [] ∧ ∀ c ∈ found, ∃ letter : CodePoint, letter.isLowerLetter = true ∧ letter.isCaseOf c = true := by
  obtain ⟨w, member, spelled⟩ := one
  obtain ⟨filled, letters⟩ := lower w member
  refine ⟨?_, fun c inside => ?_⟩
  · rintro rfl
    exact filled (List.forall₂_nil_right_iff.mp spelled)
  · obtain ⟨letter, among, partner⟩ := exists_of_mem_exchanged spelled inside
    exact ⟨letter, letters letter among, partner⟩

theorem IsOneOf.isWord (lower : AreLowercase words) (one : IsOneOf words found) : ∀ c ∈ found, c.isWord = true := by
  intro c inside
  obtain ⟨letter, isLower, partner⟩ := (one.exists_letter lower).2 c inside
  exact CodePoint.isWord_of_isCaseOf isLower partner

/-- Whether a text stands as a whole word where it does: between no parts of words. -/
def StandsAlone (previous : Option CodePoint) (after : Text) : Prop :=
  previous.elim false CodePoint.isWord = false ∧ after.head?.elim false CodePoint.isWord = false

instance (previous : Option CodePoint) (after : Text) : Decidable (StandsAlone previous after) :=
  inferInstanceAs (Decidable (_ ∧ _))

theorem isWord_head? (filled : found ≠ []) (isWord : ∀ c ∈ found, c.isWord = true) :
    (found ++ after).head?.elim false CodePoint.isWord = true := by
  obtain ⟨c, rest, rfl⟩ := List.exists_cons_of_ne_nil filled
  exact isWord c List.mem_cons_self

theorem isWord_getLast? (filled : found ≠ []) (isWord : ∀ c ∈ found, c.isWord = true) :
    (found.getLast?.or previous).elim false CodePoint.isWord = true := by
  obtain ⟨front, c, rfl⟩ := (List.eq_nil_or_concat' found).resolve_left filled
  rw [List.getLast?_concat, Option.some_or]
  exact isWord c (List.mem_append_right front (List.mem_singleton_self c))

theorem matches_wholeWord (lower : AreLowercase words) :
    (wholeWord words).Matches previous found after ↔ IsOneOf words found ∧ StandsAlone previous after := by
  rw [wholeWord, matches_seq_edge]
  constructor
  · rintro ⟨starts, a, b, rfl, one, rfl, ends⟩
    rw [matches_anyOf lower] at one
    have filled := (one.exists_letter lower).1
    have isWord := one.isWord lower
    rw [List.append_nil, isWord_head? filled isWord] at starts
    have differ := bne_iff_ne.mp ends
    rw [isWord_getLast? filled isWord] at differ
    rw [List.append_nil]
    exact ⟨one, Bool.eq_false_iff.mpr starts, Bool.eq_false_iff.mpr differ.symm⟩
  · rintro ⟨one, starts, ends⟩
    have filled := (one.exists_letter lower).1
    have isWord := one.isWord lower
    refine ⟨?_, found, [], (List.append_nil found).symm, (matches_anyOf lower).mpr one, rfl, ?_⟩
    · rw [isWord_head? filled isWord, starts]
      exact Bool.false_ne_true
    · refine bne_iff_ne.mpr ?_
      rw [isWord_getLast? filled isWord, ends]
      exact Bool.false_ne_true.symm

section Needs

variable {holds : CodePoint → Prop}

/-- What holds of all partners of lowercase letters holds of a character in each match. -/
theorem needs_anyOf (lower : AreLowercase words)
    (partners : ∀ letter c : CodePoint, letter.isLowerLetter = true → letter.isCaseOf c = true → holds c) :
    (anyOf words).Needs holds := by
  intro previous found after match_
  obtain ⟨filled, letters⟩ := ((matches_anyOf lower).mp match_).exists_letter lower
  obtain ⟨c, rest, rfl⟩ := List.exists_cons_of_ne_nil filled
  obtain ⟨letter, isLower, partner⟩ := letters c List.mem_cons_self
  exact ⟨c, List.mem_cons_self, partners letter c isLower partner⟩

theorem needs_wholeWord (lower : AreLowercase words)
    (partners : ∀ letter c : CodePoint, letter.isLowerLetter = true → letter.isCaseOf c = true → holds c) :
    (wholeWord words).Needs holds :=
  (needs_anyOf lower partners).seq (by simp)

theorem anyOccurs_eq_false {patterns : List Pattern} (needs : ∀ p ∈ patterns, p.Needs holds)
    (none : ∀ c ∈ t, ¬holds c) : anyOccurs patterns t = false := by
  rw [anyOccurs, List.any_eq_false]
  intro p member
  rw [(needs p member).occursIn_eq_false none]
  exact Bool.false_ne_true

end Needs

end LessonService.Request
