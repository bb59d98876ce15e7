import LessonService.Generation.Run
import LessonService.Proofs.Review.DefaultExport

namespace LessonService.Generation

open Review

variable {rules : List Rule} {source : Text}

theorem contains_return (asked : Rule.markupReturn ∈ rules) (accepted : reviewBy rules source = []) :
    Text.contains "return" source = true := by
  have none : require (has "return (" source || has "return(" source || has "return <" source)
      "Missing return statement with JSX" = [] := violations_eq_nil asked accepted
  have starts {part : String} (start : Text.ofString "return" <+: Text.ofString part) (held : has part source = true) :
      Text.contains "return" source = true := by
    rw [has, Text.contains_iff] at held
    exact (Text.contains_iff _ _).mpr (start.isInfix.trans held)
  unfold require at none
  split at none
  · rename_i kept
    rw [Bool.or_eq_true, Bool.or_eq_true] at kept
    rcases kept with (held | held) | held
    · exact starts (by decide) held
    · exact starts (by decide) held
    · exact starts (by decide) held
  · cases none

/-- Of code that is long enough and returns something, the shape only asks for the words of the export. -/
theorem structureFault?_eq (long : minCodeLength ≤ source.length) (returns : Text.contains "return" source = true) :
    structureFault? source = if Text.contains "export default function" source then none
      else some "Generated code missing required React component structure" := by
  rw [structureFault?, if_neg (Nat.not_lt.mpr long), returns]
  cases Text.contains "export default function" source <;> rfl

theorem contains_export_of_spaced (s : ExportSite source) (first : s.first = " ") (second : s.second = " ") :
    Text.contains "export default function" source = true := by
  rw [Text.contains_iff]
  refine ⟨s.before, s.after, ?_⟩
  conv => rhs; rw [s.text_eq, first, second]
  rfl

/-- Code of a hundred characters that the review accepts, with its rules on the default export and on what is
returned at least, has the shape that is asked for if single spaces part the words of its default export; it
has it exactly if the words stand so anywhere in it, and otherwise that is all that is said against it. -/
theorem structureFault?_of_accepted (asked : [Rule.defaultExport, Rule.markupReturn] ⊆ rules)
    (accepted : reviewBy rules source = []) (long : minCodeLength ≤ source.length) :
    (structureFault? source = none ↔ Text.contains "export default function" source = true) ∧
      ∃ s : ExportSite source, structureFault? source = none ∨
        (s.first ≠ " " ∨ s.second ≠ " ") ∧
          structureFault? source = some "Generated code missing required React component structure" := by
  have returns := contains_return (asked (by decide)) accepted
  obtain ⟨s⟩ := exists_exportSite (asked (by decide)) accepted
  rw [structureFault?_eq long returns]
  cases spelled : Text.contains "export default function" source with
  | true => exact ⟨by simp, s, .inl rfl⟩
  | false =>
    refine ⟨by simp, s, .inr ⟨?_, rfl⟩⟩
    by_contra spaced
    push Not at spaced
    rw [contains_export_of_spaced s spaced.1 spaced.2] at spelled
    cases spelled

def spacedSource : Text :=
  "\"use client\";\nimport React from \"react\";\n\nexport default function Lesson() \x7b\n  return (<p>Plants turn light into sugar.</p>);\n\x7d\n"

theorem structureFault?_of_accepted_spaced :
    reviewBy textRules spacedSource = [] ∧ minCodeLength ≤ spacedSource.length ∧
      structureFault? spacedSource = none := by
  have accepted : reviewBy textRules spacedSource = [] := by
    simp only [spacedSource, Text.ofString_eq rfl]
    decide +kernel
  have long : minCodeLength ≤ spacedSource.length := by
    simp only [spacedSource, Text.ofString_eq rfl]
    decide +kernel
  have spelled : Text.contains "export default function" spacedSource = true := by
    simp only [spacedSource, Text.ofString_eq rfl]
    decide +kernel
  exact ⟨accepted, long, (structureFault?_of_accepted (by decide) accepted long).1.mpr spelled⟩

/-- Two spaces after a word of the export are blanks like any other to the review. -/
def unspacedSource : Text :=
  "\"use client\";\nimport React from \"react\";\n\nexport  default function Lesson() \x7b\n  return (<p>Plants turn light into sugar.</p>);\n\x7d\n"

theorem structureFault?_unspaced :
    reviewBy textRules unspacedSource = [] ∧ minCodeLength ≤ unspacedSource.length ∧
      structureFault? unspacedSource = some "Generated code missing required React component structure" := by
  simp only [unspacedSource, Text.ofString_eq rfl]
  decide +kernel

end LessonService.Generation
