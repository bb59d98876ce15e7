import LessonService.Proofs.Text.Occurrence
import LessonService.Proofs.Text.Readings
import LessonService.Script.Plain

namespace LessonService.Script

open Pattern

variable {source : Text}

theorem withoutBlankRuns_eq {t : Text} (absent : ¬("\n\n\n" : Text) <:+: t) : withoutBlankRuns t = t := by
  have passes : (most (· = '\n') 3).Passes none t [] := by
    rintro before c x rfl ⟨found, after, text, -, long, all⟩
    rw [List.append_nil] at text
    match found, long with
    | a :: b :: d :: more, _ =>
      simp only [List.forall_mem_cons, decide_eq_true_eq] at all
      obtain ⟨rfl, rfl, rfl, -⟩ := all
      refine absent ⟨before, more ++ after, ?_⟩
      rw [text, Text.ofString_eq rfl]
      simp
  have kept : (most (· = '\n') 3).Becomes (fun _ => "\n\n") none t [] t := becomes_of_passes passes
  exact kept.replaceAll_eq

/-- The letters without which neither a directive nor an import or an export can be written. -/
def IsModuleLetter (c : CodePoint) : Prop := ('c' : CodePoint).isCaseOf c = true ∨ c = 'r'

instance : DecidablePred IsModuleLetter := fun _ => inferInstanceAs (Decidable (_ ∨ _))

theorem needs_word {word : Text} (telling : ∃ c ∈ word, IsModuleLetter c) : (exactly word).Needs IsModuleLetter := by
  obtain ⟨c, member, held⟩ := telling
  exact needs_exactly member held

theorem needs_client : (inAnyCase "client").Needs IsModuleLetter := by
  refine Needs.seq (p := one ('c' : CodePoint).isCaseOf) List.mem_cons_self (needs_one fun c cased => ?_)
  exact .inl cased

/-- A source without these letters asks for no modules. -/
theorem foreignTargets_eq_nil (plain : ∀ c ∈ source, ¬IsModuleLetter c) : foreignTargets source = [] := by
  have word : (exactly "import").Needs IsModuleLetter := needs_word (by decide)
  have other : (exactly "require").Needs IsModuleLetter := needs_word (by decide)
  have imports : staticImport.Needs IsModuleLetter := word.seq (by simp)
  have loads : loaderCall.Needs IsModuleLetter := (word.either other).seq (by simp)
  rw [foreignTargets, targets, imports.findAll_eq_nil plain, loads.findAll_eq_nil plain]
  rfl

/-- A source without these letters is only trimmed, if that leaves no empty lines to take out. -/
theorem toScript_eq_trim (plain : ∀ c ∈ source, ¬IsModuleLetter c)
    (absent : ¬("\n\n\n" : Text) <:+: Text.trim source) : toScript source = Text.trim source := by
  have imported : (exactly "import").Needs IsModuleLetter := needs_word (by decide)
  have exported : (exactly "export").Needs IsModuleLetter := needs_word (by decide)
  have directives : withoutDirective source = source := by
    have line : directiveLine.Needs IsModuleLetter := needs_client.seq (by simp)
    have first : leadingDirective.Needs IsModuleLetter := needs_client.seq (by simp)
    rw [withoutDirective, remove, remove, line.replaceAll_eq plain, first.replaceAll_eq plain]
  have imports : withoutImports source = source := by
    have named : importFrom.Needs IsModuleLetter := imported.seq (by simp)
    have effect : importForEffect.Needs IsModuleLetter := imported.seq (by simp)
    rw [withoutImports, remove, remove, named.replaceAll_eq plain, effect.replaceAll_eq plain]
  have component : withEntryPoint source = source := by
    have function : exportedFunction.Needs IsModuleLetter := exported.seq (by simp)
    exact function.replaceAll_eq plain _
  have exports : withoutExports source = source := by
    have mark : exportMark.Needs IsModuleLetter := exported.seq (by simp)
    exact mark.replaceAll_eq plain _
  rw [toScript, directives, imports, component, exports, withoutBlankRuns_eq absent]

end LessonService.Script
