import LessonService.Text.Blank
import Mathlib.Data.List.DropRight

namespace LessonService.Text

structure IsTrimmed (t : Text) : Prop where
  first : ∀ c, t.head? = some c → c.isBlank = false
  last : ∀ c, t.getLast? = some c → c.isBlank = false

theorem head?_trimLeft_not {holds : CodePoint → Bool} {t : Text} {c : CodePoint}
    (head : (trimLeft holds t).head? = some c) : holds c = false := by
  have stopped := List.head?_dropWhile_not holds t
  rw [show t.dropWhile holds = trimLeft holds t from rfl, head] at stopped
  exact stopped

theorem getLast?_trimRight_not {holds : CodePoint → Bool} {t : Text} {c : CodePoint}
    (last : (trimRight holds t).getLast? = some c) : holds c = false := by
  rw [trimRight, List.getLast?_reverse] at last
  exact head?_trimLeft_not last

theorem exists_append_of_trimRight (holds : CodePoint → Bool) (t : Text) : ∃ rest, trimRight holds t ++ rest = t :=
  List.rdropWhile_prefix holds t

theorem trim_infix (t : Text) : trim t <:+: t :=
  (List.rdropWhile_prefix CodePoint.isBlank (trimLeft CodePoint.isBlank t)).isInfix.trans
    (List.dropWhile_suffix CodePoint.isBlank).isInfix

theorem trim_isTrimmed (t : Text) : (trim t).IsTrimmed where
  first c head := by
    obtain ⟨rest, same⟩ := exists_append_of_trimRight CodePoint.isBlank (trimLeft CodePoint.isBlank t)
    apply head?_trimLeft_not (t := t)
    rw [← same, List.head?_append_of_ne_nil]
    · exact head
    · intro empty
      rw [trim, trimBy, empty] at head
      cases head
  last c last := getLast?_trimRight_not last

theorem trimLeft_eq_self {holds : CodePoint → Bool} {t : Text} (stops : ∀ c ∈ t.head?, holds c = false) :
    trimLeft holds t = t := by
  cases t with
  | nil => rfl
  | cons c t => exact List.dropWhile_cons_of_neg (by simp [stops c rfl])

theorem trimRight_eq_self {holds : CodePoint → Bool} {t : Text} (stops : ∀ c ∈ t.getLast?, holds c = false) :
    trimRight holds t = t := by
  have reversed : trimLeft holds t.reverse = t.reverse := trimLeft_eq_self (by rwa [List.head?_reverse])
  rw [trimRight, show t.reverse.dropWhile holds = t.reverse from reversed, List.reverse_reverse]

theorem IsTrimmed.trim_eq {t : Text} (trimmed : t.IsTrimmed) : trim t = t := by
  rw [trim, trimBy, trimLeft_eq_self trimmed.first, trimRight_eq_self trimmed.last]

theorem trimLeft_append_of_all {holds : CodePoint → Bool} {blanks : Text} (all : ∀ c ∈ blanks, holds c = true)
    (t : Text) : trimLeft holds (blanks ++ t) = trimLeft holds t :=
  List.dropWhile_append_of_pos all

theorem trimRight_append_of_all {holds : CodePoint → Bool} {blanks : Text} (all : ∀ c ∈ blanks, holds c = true)
    (t : Text) : trimRight holds (t ++ blanks) = trimRight holds t := by
  rw [trimRight, List.reverse_append, List.dropWhile_append_of_pos (by simpa using all)]
  rfl

theorem trimBy_append_of_all {holds : CodePoint → Bool} {blanks : Text} (all : ∀ c ∈ blanks, holds c = true)
    (t : Text) : trimBy holds (t ++ blanks) = trimBy holds t := by
  rw [trimBy, trimBy, trimLeft, trimLeft, List.dropWhile_append]
  cases rest : t.dropWhile holds with
  | nil => rw [List.isEmpty_nil, if_pos rfl, List.dropWhile_eq_nil_iff.mpr all]
  | cons c t => exact trimRight_append_of_all all _

/-- Blanks before a text go. -/
theorem trim_append_of_blank {blanks : Text} (blank : ∀ c ∈ blanks, c.isBlank = true) (t : Text) :
    trim (blanks ++ t) = trim t := by
  rw [trim, trimBy, trimLeft_append_of_all blank]
  rfl

/-- Blanks after a trimmed text go. -/
theorem IsTrimmed.trim_append {t blanks : Text} (trimmed : t.IsTrimmed)
    (blank : ∀ c ∈ blanks, c.isBlank = true) : trim (t ++ blanks) = t := by
  rw [trim, trimBy_append_of_all blank]
  exact trimmed.trim_eq

theorem exists_dropWhile_append {holds : CodePoint → Bool} {c : CodePoint} (stops : holds c = false)
    (before rest : Text) : ∃ b, b <:+ before ∧ (before ++ c :: rest).dropWhile holds = b ++ c :: rest := by
  induction before with
  | nil => exact ⟨[], List.suffix_rfl, List.dropWhile_cons_of_neg (by simp [stops])⟩
  | cons d before ih =>
    cases goes : holds d with
    | false => exact ⟨d :: before, List.suffix_rfl, List.dropWhile_cons_of_neg (by simp [goes])⟩
    | true =>
      obtain ⟨b, kept, dropped⟩ := ih
      rw [List.cons_append, List.dropWhile_cons_of_pos goes]
      exact ⟨b, kept.trans (List.suffix_cons d before), dropped⟩

/-- Trimming leaves a stretch that neither starts nor ends with a blank, and what it leaves around the stretch is
what stood next to it. -/
theorem exists_trim_append {first last : CodePoint} {middle : Text} (starts : first.isBlank = false)
    (ends : last.isBlank = false) (before after : Text) :
    ∃ b a, b <:+ before ∧ a <+: after ∧
      trim (before ++ (first :: (middle ++ [last])) ++ after) = b ++ (first :: (middle ++ [last])) ++ a := by
  obtain ⟨b, keptBefore, left⟩ := exists_dropWhile_append starts before (middle ++ [last] ++ after)
  obtain ⟨a, keptAfter, right⟩ := exists_dropWhile_append ends after.reverse (b ++ first :: middle).reverse
  refine ⟨b, a.reverse, keptBefore, List.reverse_suffix.mp (by rwa [List.reverse_reverse]), ?_⟩
  have shape : before ++ (first :: (middle ++ [last])) ++ after = before ++ first :: (middle ++ [last] ++ after) := by
    simp
  have reversed : (b ++ first :: (middle ++ [last] ++ after)).reverse
      = after.reverse ++ last :: (b ++ first :: middle).reverse := by simp
  rw [trim, trimBy, trimLeft, shape, left, trimRight, reversed, right]
  simp

end LessonService.Text
