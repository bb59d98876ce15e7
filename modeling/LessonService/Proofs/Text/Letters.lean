import LessonService.Text.Blank
import LessonService.Text.Letters
import Mathlib.Data.List.Basic

namespace LessonService.CodePoint

open LetterTable

variable {c letter : CodePoint}

theorem exists_run_of_lower_ne (outside : 0x80 ≤ c.value) (changed : c.lower ≠ c) :
    ∃ run ∈ lowercaseRuns.toList, run.1 ≤ c.value ∧ c.value ≤ run.2.1 ∧
      c.lower.value = run.2.2.2 + (c.value - run.1) := by
  unfold lower at changed ⊢
  rw [if_neg (Nat.not_lt.mpr outside)] at changed ⊢
  dsimp only at changed ⊢
  split at changed
  · rename_i first last step image found
    split at changed
    · rename_i inside
      have member := Array.mem_of_getElem? found
      simp only [Bool.and_eq_true, decide_eq_true_eq] at inside
      refine ⟨_, member.val, inside.1.1, inside.1.2, ?_⟩
      simp only [inside, decide_true, Bool.and_self, if_true]
    · exact absurd rfl changed
  · exact absurd rfl changed

/-- A character that is in no run is its own lowercase. -/
theorem lower_eq_self (outside : 0x80 ≤ c.value)
    (none : ∀ run ∈ lowercaseRuns.toList, c.value < run.1 ∨ run.2.1 < c.value) : c.lower = c := by
  by_contra changed
  obtain ⟨run, member, first, last, -⟩ := exists_run_of_lower_ne outside changed
  have apart := none run member
  omega

/-- Only the dotted capital i and the Kelvin sign become letters of ASCII. -/
theorem value_of_lower_lt (outside : 0x80 ≤ c.value) (lowered : c.lower.value < 0x80) :
    c.value = 0x130 ∨ c.value = 0x212A := by
  have changed : c.lower ≠ c := by
    intro same
    rw [same] at lowered
    omega
  obtain ⟨run, member, first, last, image⟩ := exists_run_of_lower_ne outside changed
  have few : ∀ run ∈ lowercaseRuns.toList, 0x80 ≤ run.2.1 → run.2.2.2 < 0x80 →
      run.1 = run.2.1 ∧ (run.1 = 0x130 ∨ run.1 = 0x212A) := by decide +kernel
  have one := few run member (by omega) (by omega)
  omega

/-- The partners of a letter of ASCII: the letter, its capital, and four characters outside ASCII. -/
theorem cases_of_isCaseOf (isLower : letter.isLowerLetter = true) (partner : isCaseOf letter c = true) :
    c.isLetter = true ∨ c.value ∈ [0x130, 0x131, 0x17F, 0x212A] := by
  simp only [isLowerLetter, isBetween, Bool.and_eq_true, decide_eq_true_eq] at isLower
  simp only [isCaseOf, Bool.or_eq_true, Bool.and_eq_true, decide_eq_true_eq] at partner
  rcases partner with (lowered | ⟨-, dotless⟩) | ⟨-, long⟩
  · by_cases plain : c.value < 0x80
    · refine .inl ?_
      simp only [isLetter, isLowerLetter, isUpperLetter, isBetween, Bool.or_eq_true, Bool.and_eq_true,
        decide_eq_true_eq]
      rw [lower, if_pos plain] at lowered
      by_cases upper : c.isUpperLetter = true
      · simp only [isUpperLetter, isBetween, Bool.and_eq_true, decide_eq_true_eq] at upper
        exact .inr upper
      · rw [if_neg upper] at lowered
        rw [lowered]
        exact .inl isLower
    · have ascii : c.lower.value < 0x80 := by
        rw [lowered]
        omega
      rcases value_of_lower_lt (Nat.le_of_not_lt plain) ascii with dotted | kelvin
      · simp [dotted]
      · simp [kelvin]
  · simp [dotless]
  · simp [long]

theorem isWord_of_isCaseOf (isLower : letter.isLowerLetter = true) (partner : isCaseOf letter c = true) :
    c.isWord = true := by
  rcases cases_of_isCaseOf isLower partner with ascii | outside
  · have plain : c.value < 0x80 := by
      simp only [isLetter, isLowerLetter, isUpperLetter, isBetween, Bool.or_eq_true, Bool.and_eq_true,
        decide_eq_true_eq] at ascii
      omega
    simp [isWord, plain, ascii]
  · have words : ∀ n ∈ [0x130, 0x131, 0x17F, 0x212A], (CodePoint.mk n).isWord = true := by decide +kernel
    exact words c.value outside

theorem isWord_of_isBlank (blank : c.isBlank = true) : c.isWord = false := by
  have all : ∀ n ∈ [9, 10, 11, 12, 13, 28, 29, 30, 31, 32, 133, 160, 5760, 8192, 8193, 8194, 8195, 8196, 8197, 8198, 8199,
      8200, 8201, 8202, 8232, 8233, 8239, 8287, 12288], (CodePoint.mk n).isWord = false := by decide +kernel
  refine all c.value ?_
  simp only [CodePoint.isBlank, Bool.or_eq_true, Bool.and_eq_true, decide_eq_true_eq] at blank
  simp only [List.mem_cons, List.not_mem_nil, or_false]
  omega

end LessonService.CodePoint
