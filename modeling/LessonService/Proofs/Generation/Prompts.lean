import LessonService.Generation.Prompt
import LessonService.Proofs.Generation.Filling
import LessonService.Proofs.Request.Scripts

namespace LessonService.Generation

variable {t : Text} {ts : List Text} {values : List (String × Text)}

theorem mark_absent_of_notMem (absent : ('\x7b' : CodePoint) ∉ t) (n : String) : ¬mark n <:+: t := by
  have opening : ('\x7b' : CodePoint) ∈ mark n := by simp [mark, Text.ofString]
  exact fun inside => absent (inside.subset opening)

theorem brace_notMem_ofNat (n : Nat) : ('\x7b' : CodePoint) ∉ Text.ofNat n := by
  intro member
  obtain ⟨digit, among, same⟩ := List.mem_map.mp member
  rw [Nat.repr, String.toList_ofList] at among
  have isDigit := Nat.isDigit_of_mem_toDigits (by decide) (by decide) among
  rw [CodePoint.mk.injEq, Char.toNat_inj] at same
  exact absurd (same ▸ isDigit) (by decide)

theorem brace_notMem_language (outline : Text) : ('\x7b' : CodePoint) ∉ Request.language outline := by
  unfold Request.language
  cases Request.writing? outline with
  | none => decide
  | some w => cases w <;> decide

theorem brace_notMem_languageNote (outline : Text) : ('\x7b' : CodePoint) ∉ languageNote outline := by
  have language := brace_notMem_language outline
  simp only [languageNote]
  split
  · exact List.not_mem_nil
  · simp only [List.mem_append, not_or]
    refine ⟨⟨⟨⟨⟨⟨?_, language⟩, ?_⟩, language⟩, ?_⟩, language⟩, ?_⟩ <;> simp only [Text.ofString_eq rfl] <;> decide

theorem fill_join (absent : ∀ n ∈ values.map Prod.fst, ('\n' : CodePoint) ∉ mark n) (ts : List Text) :
    fill (Text.join "\n" ts) values = Text.join "\n" (ts.map fun t => fill t values) := by
  induction ts with
  | nil => exact fill_eq_self fun v _ inside => mark_ne_nil v.1 (List.infix_nil.mp inside)
  | cons t ts ih =>
    cases ts with
    | nil => rfl
    | cons u us =>
      have split (a b : Text) : a ++ ("\n" : Text) ++ b = a ++ ('\n' : CodePoint) :: b := by
        rw [List.append_assoc]
        rfl
      rw [Text.join_cons_cons, split, fill_append_cons absent, ih, ← split]
      rfl

/-- The lines of a list are filled in one by one, since no mark goes on behind their numbers. -/
theorem fill_numbered (absentLine : ∀ n ∈ values.map Prod.fst, ('\n' : CodePoint) ∉ mark n)
    (absentSpace : ∀ n ∈ values.map Prod.fst, (' ' : CodePoint) ∉ mark n) (ts : List Text) :
    fill (numbered ts) values = numbered (ts.map fun t => fill t values) := by
  have numbers (t : Text) (i : Nat) :
      fill (Text.ofNat (i + 1) ++ ". " ++ t) values = Text.ofNat (i + 1) ++ ". " ++ fill t values := by
    have split (t : Text) : Text.ofNat (i + 1) ++ (". " : Text) ++ t
        = (Text.ofNat (i + 1) ++ ("." : Text)) ++ (' ' : CodePoint) :: t := by
      rw [List.append_assoc, List.append_assoc]
      rfl
    have number : fill (Text.ofNat (i + 1) ++ ("." : Text)) values = Text.ofNat (i + 1) ++ ("." : Text) := by
      refine fill_eq_self fun v _ => mark_absent_of_notMem ?_ v.1
      rw [List.mem_append, not_or]
      exact ⟨brace_notMem_ofNat _, by decide⟩
    rw [split, fill_append_cons absentSpace, number, ← split]
  unfold numbered
  rw [fill_join absentLine, List.map_map, List.zipIdx_map, List.map_map]
  congr 1
  exact List.map_congr_left fun line _ => numbers line.1 line.2

theorem infix_numbered (member : t ∈ ts) : t <:+: numbered ts := by
  obtain ⟨i, within, rfl⟩ := List.getElem_of_mem member
  have line : (ts[i], i) ∈ ts.zipIdx := List.mem_zipIdx_iff_getElem?.mpr (List.getElem?_eq_getElem within)
  have ends : ts[i] <:+: Text.ofNat (i + 1) ++ ". " ++ ts[i] := (List.suffix_append _ _).isInfix
  exact ends.trans (Text.infix_join _ (List.mem_map.mpr ⟨_, line, rfl⟩))

/-- What is said of the attempts before. -/
def attemptNote (attempt : Int) : Text :=
  if attempt > 1 then
    "\nThis is attempt " ++ Text.ofInt attempt ++ ". Previous attempts failed. Ensure proper syntax and structure.\n"
  else []

/-- The values in the question for a first draft. -/
def generationValues (outline : Text) (attempt : Int) : List (String × Text) :=
  [("LANGUAGE_NOTE", languageNote outline), ("ATTEMPT_NOTE", attemptNote attempt), ("OUTLINE", outline)]

theorem brace_notMem_attemptNote (attempt : Int) : ('\x7b' : CodePoint) ∉ attemptNote attempt := by
  unfold attemptNote
  split
  · obtain ⟨k, rfl⟩ := Int.eq_ofNat_of_zero_le (show 0 ≤ attempt by omega)
    have number : ('\x7b' : CodePoint) ∉ Text.ofInt k := brace_notMem_ofNat k
    simp only [List.mem_append, not_or]
    exact ⟨⟨by decide, number⟩, by decide⟩
  · exact List.not_mem_nil

theorem generationTemplate_isSpaced (outline : Text) (attempt : Int) :
    IsSpaced ((generationValues outline attempt).map Prod.fst) generationTemplate := by
  change IsSpaced ["LANGUAGE_NOTE", "ATTEMPT_NOTE", "OUTLINE"] generationTemplate
  apply isSpaced_of_runs
  simp only [generationTemplate, Text.ofLines, List.map_cons, List.map_nil, Text.ofString_eq rfl, mark]
  decide +kernel

/-- The question for a first draft is its template with all three values as they are: the notes hold no marks, and
the outline comes last. -/
theorem generationPrompt_eq_fillAtOnce (outline : Text) (attempt : Int) :
    generationPrompt outline attempt = fillAtOnce (generationValues outline attempt) generationTemplate := by
  have language := mark_absent_of_notMem (brace_notMem_languageNote outline)
  have earlier := mark_absent_of_notMem (brace_notMem_attemptNote attempt)
  have plain : (generationValues outline attempt).Pairwise fun v w => ¬mark w.1 <:+: v.2 := by
    simp only [generationValues, List.pairwise_cons, List.forall_mem_cons]
    exact ⟨⟨language _, language _, nofun⟩, ⟨earlier _, nofun⟩, nofun, .nil⟩
  have filled := fill_eq_fillAtOnce (generationTemplate_isSpaced outline attempt)
  rw [settled_eq_self plain] at filled
  exact filled

/-- A lesson is asked for in another language than the default one exactly if the outline has a character of another
script that is not Oriya; the question for a draft then has a note that names the language. -/
theorem language_named_iff (outline : Text) (attempt : Int) :
    (Request.language outline ≠ Request.defaultLanguage ↔
      ∃ c ∈ outline, Request.isOtherScript c = true ∧ Request.isOriya c = false) ∧
    (languageNote outline ≠ [] ↔ Request.language outline ≠ Request.defaultLanguage) ∧
    languageNote outline <:+: generationPrompt outline attempt := by
  refine ⟨Request.language_ne_default_iff, ?_, ?_⟩
  · simp only [languageNote]
    split
    · rename_i default
      exact iff_of_false (not_not.mpr rfl) (not_not.mpr default)
    · rename_i named
      exact iff_of_true (List.append_ne_nil_of_right_ne_nil _ (by decide)) named
  · have marked : mark "LANGUAGE_NOTE" <:+: generationTemplate := by
      rw [← Text.contains_iff]
      simp only [generationTemplate, Text.ofLines, List.map_cons, List.map_nil, Text.ofString_eq rfl, mark]
      decide +kernel
    have first : starting? (generationValues outline attempt) (mark "LANGUAGE_NOTE")
        = some ("LANGUAGE_NOTE", languageNote outline) := starting?_cons_of_starts List.prefix_rfl
    rw [generationPrompt_eq_fillAtOnce]
    exact infix_fillAtOnce (generationTemplate_isSpaced outline attempt) first rfl marked

/-- Light and synthesis, in Oriya. -/
def oriyaOutline : Text := "ପ୍ରକାଶ ସଂଶ୍ଲେଷଣ"

/-- An outline in Oriya is in another script, but the lesson is asked for in English. -/
theorem language_oriyaOutline :
    oriyaOutline.any Request.isOtherScript = true ∧ Request.language oriyaOutline = Request.defaultLanguage ∧
      languageNote oriyaOutline = [] := by
  have unnamed : Request.language oriyaOutline = Request.defaultLanguage := by decide
  refine ⟨by decide, unnamed, ?_⟩
  simp only [languageNote]
  rw [if_pos unnamed]

/-- The values in the question for a repair. -/
def repairValues (outline code : Text) (violations : List Text) : List (String × Text) := [
  ("ERROR_COUNT", Text.ofNat violations.length), ("ERRORS", numbered violations), ("CODE", code),
  ("OUTLINE", outline)]

theorem repairTemplate_isSpaced (outline code : Text) (violations : List Text) :
    IsSpaced ((repairValues outline code violations).map Prod.fst) repairTemplate := by
  change IsSpaced ["ERROR_COUNT", "ERRORS", "CODE", "OUTLINE"] repairTemplate
  apply isSpaced_of_runs
  simp only [repairTemplate, Text.ofLines, List.map_cons, List.map_nil, Text.ofString_eq rfl, mark]
  decide +kernel

/-- The code as the question has it. -/
def shownCode (outline code : Text) : Text := fill code [("OUTLINE", outline)]

/-- A violation as the question has it. -/
def shownViolation (outline code violation : Text) : Text := fill violation [("CODE", code), ("OUTLINE", outline)]

/-- Of the values for a repair, the violations and the code are the ones in which later names are looked for. -/
theorem settled_repairValues (outline code : Text) (violations : List Text) :
    settled (repairValues outline code violations)
      = repairValues outline (shownCode outline code) (violations.map (shownViolation outline code)) := by
  have count : fill (Text.ofNat violations.length) [("ERRORS", numbered violations), ("CODE", code), ("OUTLINE", outline)]
      = Text.ofNat (violations.map (shownViolation outline code)).length := by
    rw [List.length_map]
    exact fill_eq_self fun v _ => mark_absent_of_notMem (brace_notMem_ofNat _) v.1
  have line : ∀ n ∈ ["CODE", "OUTLINE"], ('\n' : CodePoint) ∉ mark n := by decide
  have space : ∀ n ∈ ["CODE", "OUTLINE"], (' ' : CodePoint) ∉ mark n := by decide
  have errors : fill (numbered violations) [("CODE", code), ("OUTLINE", outline)]
      = numbered (violations.map (shownViolation outline code)) := by
    refine fill_numbered ?_ ?_ violations
    · exact line
    · exact space
  simp only [repairValues, settled, count, errors, shownCode, fill_nil]

theorem repairPrompt_eq_fillAtOnce (outline code : Text) (violations : List Text) :
    repairPrompt outline code violations
      = fillAtOnce (repairValues outline (shownCode outline code) (violations.map (shownViolation outline code)))
          repairTemplate := by
  rw [← settled_repairValues]
  exact fill_eq_fillAtOnce (repairTemplate_isSpaced outline code violations)

theorem repairTemplate_marked : ∀ n ∈ ["ERRORS", "CODE"], mark n <:+: repairTemplate := by
  simp only [← Text.contains_iff, repairTemplate, Text.ofLines, List.map_cons, List.map_nil, Text.ofString_eq rfl, mark]
  decide +kernel

theorem infix_fillAtOnce_code (outline code : Text) (violations : List Text) :
    code <:+: fillAtOnce (repairValues outline code violations) repairTemplate := by
  have count : ¬mark "ERROR_COUNT" <+: mark "CODE" := by decide
  have errors : ¬mark "ERRORS" <+: mark "CODE" := by decide
  have first : starting? (repairValues outline code violations) (mark "CODE") = some ("CODE", code) := by
    rw [repairValues, starting?_cons_of_not_starts (v := ("ERROR_COUNT", _)) count,
      starting?_cons_of_not_starts (v := ("ERRORS", _)) errors]
    exact starting?_cons_of_starts List.prefix_rfl
  exact infix_fillAtOnce (repairTemplate_isSpaced _ _ _) first rfl (repairTemplate_marked _ (by decide))

theorem infix_fillAtOnce_errors (outline code : Text) (violations : List Text) :
    numbered violations <:+: fillAtOnce (repairValues outline code violations) repairTemplate := by
  have count : ¬mark "ERROR_COUNT" <+: mark "ERRORS" := by decide
  have first : starting? (repairValues outline code violations) (mark "ERRORS")
      = some ("ERRORS", numbered violations) := by
    rw [repairValues, starting?_cons_of_not_starts (v := ("ERROR_COUNT", _)) count]
    exact starting?_cons_of_starts List.prefix_rfl
  exact infix_fillAtOnce (repairTemplate_isSpaced _ _ _) first rfl (repairTemplate_marked _ (by decide))

/-- The question for a repair is its template with all four values filled in at once, after the outline has been
filled in for its mark in the code, and the code and the outline for theirs in each violation. So the code and the
violations are in it as they are if they do not hold those marks. -/
theorem repairPrompt_filled (outline code : Text) (violations : List Text) :
    repairPrompt outline code violations
      = fillAtOnce (repairValues outline (shownCode outline code) (violations.map (shownViolation outline code)))
          repairTemplate ∧
    (¬mark "OUTLINE" <:+: code → code <:+: repairPrompt outline code violations) ∧
    (∀ v ∈ violations, ¬mark "CODE" <:+: v → ¬mark "OUTLINE" <:+: v → v <:+: repairPrompt outline code violations) ∧
    (¬mark "OUTLINE" <:+: code → (∀ v ∈ violations, ¬mark "CODE" <:+: v ∧ ¬mark "OUTLINE" <:+: v) →
      repairPrompt outline code violations = fillAtOnce (repairValues outline code violations) repairTemplate) := by
  have codePlain (plain : ¬mark "OUTLINE" <:+: code) : shownCode outline code = code :=
    fill_eq_self (List.forall_mem_singleton.mpr plain)
  have violationPlain {v : Text} (noCode : ¬mark "CODE" <:+: v) (noOutline : ¬mark "OUTLINE" <:+: v) :
      shownViolation outline code v = v :=
    fill_eq_self (List.forall_mem_cons.mpr ⟨noCode, List.forall_mem_singleton.mpr noOutline⟩)
  refine ⟨repairPrompt_eq_fillAtOnce outline code violations, fun plain => ?_, fun v member noCode noOutline => ?_,
    fun plain plainViolations => ?_⟩
  · have shown := infix_fillAtOnce_code outline (shownCode outline code) (violations.map (shownViolation outline code))
    rwa [← repairPrompt_eq_fillAtOnce, codePlain plain] at shown
  · have listed : shownViolation outline code v <:+: numbered (violations.map (shownViolation outline code)) :=
      infix_numbered (List.mem_map_of_mem member)
    have shown := listed.trans (infix_fillAtOnce_errors outline (shownCode outline code) _)
    rwa [← repairPrompt_eq_fillAtOnce, violationPlain noCode noOutline] at shown
  · have same : violations.map (shownViolation outline code) = violations.map id :=
      List.map_congr_left fun v member => violationPlain (plainViolations v member).1 (plainViolations v member).2
    rw [repairPrompt_eq_fillAtOnce, codePlain plain, same, List.map_id]

/-- An outline that shows a mark. -/
def markedOutline : Text := "Explain \x7b\x7bCODE\x7d\x7d"

def unexportedCode : Text := "function Lesson() \x7b\x7d"

/-- The violation of code without an entry point. -/
def missingExport : Text := "Missing default export function"

theorem repairPrompt_filled_missingExport :
    (¬mark "OUTLINE" <:+: unexportedCode) ∧
      (∀ v ∈ [missingExport], ¬mark "CODE" <:+: v ∧ ¬mark "OUTLINE" <:+: v) ∧
      unexportedCode <:+: repairPrompt markedOutline unexportedCode [missingExport] ∧
      missingExport <:+: repairPrompt markedOutline unexportedCode [missingExport] ∧
      repairPrompt markedOutline unexportedCode [missingExport]
        = fillAtOnce (repairValues markedOutline unexportedCode [missingExport]) repairTemplate := by
  have plain : ¬mark "OUTLINE" <:+: unexportedCode := by
    rw [← Text.contains_iff]
    decide
  have unmarked : ∀ v ∈ [missingExport], ¬mark "CODE" <:+: v ∧ ¬mark "OUTLINE" <:+: v := by
    simp only [← Text.contains_iff]
    decide
  have member : missingExport ∈ [missingExport] := List.mem_cons_self
  obtain ⟨-, carriesCode, carriesViolations, verbatim⟩ :=
    repairPrompt_filled markedOutline unexportedCode [missingExport]
  exact ⟨plain, unmarked, carriesCode plain,
    carriesViolations _ member (unmarked _ member).1 (unmarked _ member).2, verbatim plain unmarked⟩

/-- Code that shows a mark. -/
def markedCode : Text := "<p>\x7b\x7bOUTLINE\x7d\x7d</p>"

/-- Such code is not in the question for its repair, since the outline is put in the place of the mark. -/
theorem repairPrompt_markedCode :
    (¬markedCode <:+: repairPrompt "Explain fractions" markedCode [missingExport]) ∧
      repairPrompt "Explain fractions" markedCode [missingExport]
        ≠ fillAtOnce (repairValues "Explain fractions" markedCode [missingExport]) repairTemplate := by
  have outline : ¬mark "OUTLINE" <:+: ("Explain fractions" : Text) := mark_absent_of_notMem (by decide) _
  have violation : shownViolation "Explain fractions" markedCode missingExport = missingExport :=
    fill_eq_self fun v _ => mark_absent_of_notMem (by decide) v.1
  have code : ¬mark "OUTLINE" <:+: shownCode "Explain fractions" markedCode := by
    have spaced : IsSpaced ["OUTLINE"] markedCode := isSpaced_of_runs (by decide)
    have filled : fill markedCode [("OUTLINE", "Explain fractions")]
        = fillAtOnce [("OUTLINE", "Explain fractions")] markedCode := fill_eq_fillAtOnce spaced
    rw [shownCode, filled]
    exact not_infix_fillAtOnce spaced List.mem_cons_self (List.forall_mem_singleton.mpr outline)
  have absent : ¬mark "OUTLINE" <:+: repairPrompt "Explain fractions" markedCode [missingExport] := by
    rw [repairPrompt_eq_fillAtOnce]
    refine not_infix_fillAtOnce (repairTemplate_isSpaced _ _ _) (by simp [repairValues]) ?_
    rw [List.map_singleton, violation]
    simp only [repairValues, List.forall_mem_cons]
    exact ⟨mark_absent_of_notMem (by decide) _, mark_absent_of_notMem (by decide) _, code, outline, nofun⟩
  have lost : ¬markedCode <:+: repairPrompt "Explain fractions" markedCode [missingExport] := by
    have marked : mark "OUTLINE" <:+: markedCode := (Text.contains_iff _ _).mp (by decide)
    exact fun inside => absent (marked.trans inside)
  exact ⟨lost, fun same => lost (same ▸ infix_fillAtOnce_code _ _ _)⟩

end LessonService.Generation
