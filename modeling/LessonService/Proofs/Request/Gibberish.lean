import LessonService.Proofs.Text.Letters
import LessonService.Proofs.Text.Matching
import LessonService.Proofs.Text.Words
import LessonService.Request.Admission

namespace LessonService.Request

open Pattern

variable {letters : String} {cased t : Text} {holds : CodePoint → Bool} {least : Nat}

/-- The consonants in both cases, the long s and the Kelvin sign. -/
def consonants : Text := "bcdfghjklmnpqrstvwxyzBCDFGHJKLMNPQRSTVWXYZ\u017F\u212A"

/-- The vowels in both cases, the dotted capital i and the dotless small one. -/
def vowels : Text := "aeiouAEIOU\u0130\u0131"

/-- The values of ASCII, and those of the partners that its letters have outside it. -/
def partnerValues : List Nat := List.range 0x80 ++ [0x130, 0x131, 0x17F, 0x212A]

theorem value_mem_of_letterIn {c : CodePoint} (lower : ∀ letter ∈ Text.ofString letters, letter.isLowerLetter = true)
    (member : letterIn letters c = true) : c.value ∈ partnerValues := by
  obtain ⟨d, inLetters, partner⟩ := List.any_eq_true.mp member
  have isLower := lower d (List.mem_map_of_mem inLetters)
  rw [partnerValues, List.mem_append]
  refine (CodePoint.cases_of_isCaseOf isLower partner).imp_left fun ascii => List.mem_range.mpr ?_
  simp only [CodePoint.isLetter, CodePoint.isLowerLetter, CodePoint.isUpperLetter, CodePoint.isBetween,
    Bool.or_eq_true, Bool.and_eq_true, decide_eq_true_eq] at ascii
  omega

/-- A class of letters in any case has the characters of a list if it has those that come into question. -/
theorem letterIn_iff (lower : ∀ letter ∈ Text.ofString letters, letter.isLowerLetter = true)
    (listed : ∀ d ∈ cased, d.value ∈ partnerValues)
    (same : ∀ n ∈ partnerValues, letterIn letters ⟨n⟩ = decide (⟨n⟩ ∈ cased)) (c : CodePoint) :
    letterIn letters c = true ↔ c ∈ cased := by
  by_cases among : c.value ∈ partnerValues
  · rw [same c.value among, decide_eq_true_iff]
  · exact iff_of_false (fun member => among (value_mem_of_letterIn lower member)) fun member => among (listed c member)

theorem letterIn_consonants (c : CodePoint) : letterIn "bcdfghjklmnpqrstvwxyz" c = true ↔ c ∈ consonants :=
  letterIn_iff (by decide) (by decide) (by decide +kernel) c

theorem letterIn_vowels (c : CodePoint) : letterIn "aeiou" c = true ↔ c ∈ vowels :=
  letterIn_iff (by decide) (by decide) (by decide +kernel) c

theorem consonants_solid : ∀ c ∈ consonants, c.isBlank = false := by decide

theorem vowels_solid : ∀ c ∈ vowels, c.isBlank = false := by decide

theorem occursIn_most_iff_subset (same : ∀ c, holds c = true ↔ c ∈ cased) :
    (most holds least).occursIn t = true ↔ ∃ row, row <:+: t ∧ row.length = least ∧ row ⊆ cased := by
  simp only [occursIn_most_iff, same, List.subset_def]

/-- Looking for a row in the words that are not too short finds what looking for it in the whole text finds, if none of
its characters is blank and it would not fit into a shorter word. -/
theorem exists_word_occursIn_iff (same : ∀ c, holds c = true ↔ c ∈ cased) (solid : ∀ c ∈ cased, c.isBlank = false)
    (long : minGibberishLength ≤ least) :
    (∃ word ∈ Text.words t, minGibberishLength ≤ word.length ∧ (most holds least).occursIn word = true) ↔
      (most holds least).occursIn t = true := by
  simp only [occursIn_most_iff_subset same]
  have isWord {row : Text} (count : row.length = least) (sub : row ⊆ cased) : Text.IsWord row := by
    refine ⟨List.length_pos_iff.mp ?_, fun c member => solid c (sub member)⟩
    exact count ▸ Nat.lt_of_lt_of_le (by decide) long
  constructor
  · rintro ⟨word, member, -, row, inWord, count, sub⟩
    exact ⟨row, (isWord count sub).exists_mem_words_iff.mp ⟨word, member, inWord⟩, count, sub⟩
  · rintro ⟨row, inText, count, sub⟩
    obtain ⟨word, member, inWord⟩ := (isWord count sub).exists_mem_words_iff.mpr inText
    have room : least ≤ word.length := count ▸ inWord.length_le
    exact ⟨word, member, long.trans room, row, inWord, count, sub⟩

theorem hasGibberish_eq_occursIn (t : Text) : hasGibberish t = (consonantRun.occursIn t || vowelRun.occursIn t) := by
  have consonant : (∃ word ∈ Text.words t, minGibberishLength ≤ word.length ∧ consonantRun.occursIn word = true) ↔
      consonantRun.occursIn t = true := exists_word_occursIn_iff letterIn_consonants consonants_solid (by decide)
  have vowel : (∃ word ∈ Text.words t, minGibberishLength ≤ word.length ∧ vowelRun.occursIn word = true) ↔
      vowelRun.occursIn t = true := exists_word_occursIn_iff letterIn_vowels vowels_solid (by decide)
  rw [Bool.eq_iff_iff, Bool.or_eq_true, ← consonant, ← vowel]
  simp only [hasGibberish, isGibberishWord, List.any_eq_true, Bool.and_eq_true, Bool.or_eq_true, decide_eq_true_eq,
    ge_iff_le, and_or_left, exists_or]

/-- A text has gibberish exactly if six consonants stand in a row in it or five vowels. So looking into its words, and
only into the longer ones, finds what looking into the text would find. -/
theorem hasGibberish_iff (t : Text) :
    (hasGibberish t = true ↔
      ∃ row, row <:+: t ∧ (row.length = 6 ∧ row ⊆ consonants ∨ row.length = 5 ∧ row ⊆ vowels)) ∧
      hasGibberish t = (consonantRun.occursIn t || vowelRun.occursIn t) := by
  have whole := hasGibberish_eq_occursIn t
  refine ⟨?_, whole⟩
  rw [whole, Bool.or_eq_true, consonantRun, occursIn_most_iff_subset letterIn_consonants, vowelRun,
    occursIn_most_iff_subset letterIn_vowels]
  simp only [and_or_left, exists_or]

-- A blank breaks off a row, and a partner outside ASCII goes on with it.
example : hasGibberish "bcdfg hjkl" = false ∧ hasGibberish "xkcd\u017F\u212A" = true := by decide +kernel

end LessonService.Request
