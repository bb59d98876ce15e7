import LessonService.Proofs.Review.DefaultExport
import LessonService.Proofs.Review.EarlyUses
import LessonService.Proofs.Review.SyntaxProblems

namespace LessonService.Review

open Tsx Script

variable {source : Text}

/-- No use is early where no collection is named. -/
theorem earlyUses_parse_eq_nil (unnamed : ∀ name ∈ collectionNames, ¬name <:+: source) :
    earlyUses (parse source) = [] := by
  have unmarked : ∀ name ∈ collectionNames, ('?' : CodePoint) ∉ name := by decide
  rw [List.eq_nil_iff_forall_not_mem]
  intro e member
  obtain ⟨d, r, declared, -⟩ := exists_of_mem_earlyUses member
  have inside : d.name <:+: (parse source).characters.toList := declared.text ▸ isInfix_slice _ _ _
  exact unnamed d.name declared.collection (infix_of_parse (unmarked d.name declared.collection) inside)

theorem violations_nonEmpty_eq_nil_iff (p : ParsedSource) :
    Rule.nonEmpty.violations source p = [] ↔ Text.isBlank source = false := by
  rw [Rule.violations, require]
  cases Text.isBlank source <;> simp

theorem violations_declarationOrder_eq_nil_iff {p : ParsedSource} (written : Text.isBlank source = false) :
    Rule.declarationOrder.violations source p = [] ↔ earlyUses p = [] := by
  rw [Rule.violations, written, if_neg Bool.false_ne_true, List.map_eq_nil_iff]

theorem violations_syntaxErrors_eq_nil_iff {p : ParsedSource} (written : Text.isBlank source = false)
    (marked : IsMarked p.root) : Rule.syntaxErrors.violations source p = [] ↔ IsClean p.root := by
  rw [Rule.violations, written, if_neg Bool.false_ne_true, List.map_eq_nil_iff, syntaxDiagnostics_eq_nil_iff marked]

/-- A source that names no collection is accepted exactly if its text keeps the rules and its tree is clean. -/
theorem review_eq_nil_iff (unnamed : ∀ name ∈ collectionNames, ¬name <:+: source) :
    review source = [] ↔ reviewBy textRules source = [] ∧ IsClean (parse source).root := by
  have parted (r : Rule) : r ∈ Rule.all ↔ r ∈ textRules ∨ r = .declarationOrder ∨ r = .syntaxErrors := by
    cases r <;> decide
  have isText : Rule.nonEmpty ∈ textRules := by decide
  simp only [review, reviewBy, List.flatMap_eq_nil_iff, parted, or_imp, forall_and, forall_eq]
  refine and_congr_right fun texts => ?_
  have written := (violations_nonEmpty_eq_nil_iff _).mp (texts _ isText)
  rw [violations_declarationOrder_eq_nil_iff written, violations_syntaxErrors_eq_nil_iff written (isMarked_parse source)]
  exact and_iff_right (earlyUses_parse_eq_nil unnamed)

end LessonService.Review
