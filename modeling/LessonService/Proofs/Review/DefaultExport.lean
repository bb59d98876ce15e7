import LessonService.Review.Rule
import LessonService.Proofs.Script.Hazards
import LessonService.Proofs.Script.Imports

namespace LessonService.Review

open Pattern Script

variable {rules : List Rule} {source : Text}

theorem violations_eq_nil {rule : Rule} (asked : rule ∈ rules) (accepted : reviewBy rules source = []) :
    rule.violations source (Tsx.parse source) = [] :=
  List.flatMap_eq_nil_iff.mp accepted rule asked

/-- The rules that look at a source without its syntax tree. -/
def textRules : List Rule := Rule.all.filter fun r => r ≠ .declarationOrder && r ≠ .syntaxErrors

/-- The words that begin a default export, with what stands between them. -/
def exportText (first second : Text) : Text := "export" ++ first ++ "default" ++ second ++ "function"

/-- A place where a source exports a function by default. -/
structure ExportSite (source : Text) where
  before : Text
  first : Text
  second : Text
  after : Text
  text_eq : source = before ++ exportText first second ++ after
  first_isGap : IsGap first
  second_isGap : IsGap second
  starts : before.getLast?.elim false CodePoint.isWord = false
  ends : after.head?.elim false CodePoint.isWord = false

section Matches

variable {previous : Option CodePoint} {found after : Text}

theorem matches_someBlanks : someBlanks.Matches previous found after ↔ IsGap found :=
  ⟨fun ⟨long, all⟩ => ⟨List.length_pos_iff.mp long, all⟩, fun ⟨filled, all⟩ => ⟨List.length_pos_iff.mpr filled, all⟩⟩

theorem matches_exportWords : exportWords.Matches previous found after ↔
    previous.elim false CodePoint.isWord = false ∧
      ∃ first second, found = exportText first second ∧ IsGap first ∧ IsGap second := by
  rw [exportWords, matches_seq_edge]
  simp only [matches_seq_cons, matches_someBlanks]
  constructor
  · rintro ⟨differ, _, _, rfl, isExport, first, _, rfl, isFirst, _, _, rfl, isDefault, second, _, rfl, isSecond, isFunction⟩
    rw [matches_exactly] at isExport isDefault
    rw [seq, matches_exactly] at isFunction
    subst isExport isDefault isFunction
    refine ⟨?_, first, second, by simp [exportText], isFirst, isSecond⟩
    cases word : previous.elim false CodePoint.isWord with
    | false => rfl
    | true => exact absurd (by rw [word]; rfl) differ
  · rintro ⟨edge, first, second, rfl, isFirst, isSecond⟩
    refine ⟨by rw [edge]; exact Bool.false_ne_true, "export", first ++ ("default" ++ (second ++ "function")),
      by simp [exportText], (matches_exactly _).mpr rfl, first, _, rfl, isFirst, "default", _, rfl,
      (matches_exactly _).mpr rfl, second, _, rfl, isSecond, (matches_exactly _).mpr rfl⟩

end Matches

theorem exportCount_of_accepted (asked : Rule.defaultExport ∈ rules) (accepted : reviewBy rules source = []) :
    exportCount source = 1 := by
  have none : exportViolations source = [] := violations_eq_nil asked accepted
  simp only [exportViolations] at none
  split at none
  · cases none
  · split at none
    · cases none
    · omega

/-- A source that is accepted exports a function by default. -/
theorem exists_exportSite (asked : Rule.defaultExport ∈ rules) (accepted : reviewBy rules source = []) :
    Nonempty (ExportSite source) := by
  have once := exportCount_of_accepted asked accepted
  obtain ⟨found, only⟩ := List.length_eq_one_iff.mp once
  have member : found ∈ (both exportWords edge).findAll source := only ▸ List.mem_singleton_self found
  obtain ⟨before, after, text, words, _, rfl, matchesWords, rfl, differ⟩ := matches_of_found (mem_findAll.mp member)
  rw [Option.or_none] at matchesWords
  obtain ⟨starts, first, second, rfl, isFirst, isSecond⟩ := matches_exportWords.mp matchesWords
  refine ⟨⟨before, first, second, after, by simpa using text, isFirst, isSecond, starts, ?_⟩⟩
  have last : (exportText first second).getLast? = some ⟨0x6E⟩ := by
    rw [exportText, List.getLast?_append]
    rfl
  have word : CodePoint.isWord ⟨0x6E⟩ = true := by decide
  simpa [last, word] using differ

end LessonService.Review
