import LessonService.Proofs.Script.ModuleLines
import LessonService.Proofs.Script.PlainSources
import LessonService.Proofs.Text.Runs

namespace LessonService.Script

open Pattern Review

/-- A lesson that shows one line of text. -/
def lessonOf (line : Text) : Text :=
  Text.join "\n" ["\"use client\";", "export default function Lesson() \x7b", "return (", "<p>", line, "</p>", ");", "\x7d"]

/-- Its script, if the line stays. -/
def scriptOf (line : Text) : Text :=
  Text.join "\n" ["function LessonComponent() \x7b", "return (", "<p>", line, "</p>", ");", "\x7d"]

/-- What is done to a source before it is trimmed. -/
def rewrites : List (Pattern × (Text → Text)) := [
  (directiveLine, fun _ => []), (leadingDirective, fun _ => []), (importFrom, fun _ => []), (importForEffect, fun _ => []),
  (exportedFunction, fun _ => entryWords), (exportMark, fun m => m.takeWhile (charIn " \t"))]

def rewritten (rs : List (Pattern × (Text → Text))) (t : Text) : Text := rs.foldl (fun t r => r.1.replaceAll r.2 t) t

theorem toScript_eq (source : Text) : toScript source = withoutBlankRuns (Text.trim (rewritten rewrites source)) := rfl

/-- The length of a text, where the `x` of the word `export` counts three times. The words that are put in for the
export of a function can be longer than it, but they are lighter. -/
def weight : Text → Nat := total fun c => if c = 'x' then 3 else 1

def breaks : Text → Nat := total fun c => if c = lineBreak then 1 else 0

/-- One thing that is done to a source of which the end is known. -/
structure Stage (after : Text) (r : Pattern × (Text → Text)) (lead lead' : Text) : Prop where
  leads : ∀ rest, r.1.Becomes r.2 none lead rest lead'
  last : lead.getLast? = some lineBreak
  parts : ∀ mid, r.1.Parts (some lineBreak) mid after
  rest : ∀ previous, r.1.Passes previous after []
  lighter : ∀ previous m t, r.1.Matches previous m t → weight (r.2 m) < weight m
  flatter : ∀ previous m t, r.1.Matches previous m t → breaks (r.2 m) ≤ breaks m

variable {after lead lead' : Text} {r : Pattern × (Text → Text)} {rs : List (Pattern × (Text → Text))}

/-- What becomes of a text in the middle: it stays as it is if it is spared, and gets lighter otherwise. -/
inductive Fate (spared : Prop) (mid : Text) : Text → Prop
  | kept (holds : spared) : Fate spared mid mid
  | lightened {mid' : Text} (fails : ¬spared) (less : weight mid' < weight mid) : Fate spared mid mid'

theorem Fate.weight_le {spared : Prop} {mid mid' : Text} (fate : Fate spared mid mid') :
    weight mid' ≤ weight mid := by
  cases fate with
  | kept => exact Nat.le_refl _
  | lightened _ less => exact Nat.le_of_lt less

theorem Stage.exists_mid (stage : Stage after r lead lead') (mid : Text) :
    ∃ mid', r.1.replaceAll r.2 (lead ++ mid ++ after) = lead' ++ mid' ++ after ∧ breaks mid' ≤ breaks mid ∧
      Fate (r.1.Passes (some lineBreak) mid after) mid mid' := by
  obtain ⟨mid', becomes, fate⟩ : ∃ mid', r.1.Becomes r.2 (some lineBreak) mid after mid' ∧
      Fate (r.1.Passes (some lineBreak) mid after) mid mid' := by
    by_cases passes : r.1.Passes (some lineBreak) mid after
    · exact ⟨mid, becomes_of_passes passes, .kept passes⟩
    · obtain ⟨mid', becomes⟩ := exists_becomes r.2 (stage.parts mid)
      exact ⟨mid', becomes, .lightened passes (becomes.total_lt stage.lighter passes)⟩
  have toLine : r.1.Becomes r.2 none (lead ++ mid) after (lead' ++ mid') :=
    (stage.leads _).append (by rwa [stage.last])
  have whole : r.1.Becomes r.2 none (lead ++ mid ++ after) [] (lead' ++ mid' ++ after) := by
    refine Becomes.append ?_ (becomes_of_passes (stage.rest _))
    rwa [List.append_nil]
  exact ⟨mid', whole.replaceAll_eq, becomes.total_le stage.flatter, fate⟩

/-- Several things that are done one after the other, with what comes before the line at first and at last. -/
inductive Stages (after : Text) : List (Pattern × (Text → Text)) → Text → Text → Prop
  | nil (lead : Text) : Stages after [] lead lead
  | cons {lead lead' lead'' : Text} {r : Pattern × (Text → Text)} {rs : List (Pattern × (Text → Text))}
    (stage : Stage after r lead lead') (later : Stages after rs lead' lead'') : Stages after (r :: rs) lead lead''

theorem Stages.exists_mid (stages : Stages after rs lead lead') (mid : Text) :
    ∃ mid', rewritten rs (lead ++ mid ++ after) = lead' ++ mid' ++ after ∧ breaks mid' ≤ breaks mid ∧
      Fate (∀ r ∈ rs, r.1.Passes (some lineBreak) mid after) mid mid' := by
  induction stages generalizing mid with
  | nil => exact ⟨mid, rfl, Nat.le_refl _, .kept (List.forall_mem_nil _)⟩
  | cons stage later ih =>
    obtain ⟨mid', replaced, flatter, fate⟩ := stage.exists_mid mid
    obtain ⟨mid'', done, flatter', fate'⟩ := ih mid'
    refine ⟨mid'', ?_, flatter'.trans flatter, ?_⟩
    · rw [rewritten, List.foldl_cons, replaced]
      exact done
    · simp only [List.forall_mem_cons]
      -- What one stage takes away no later one gives back, so the first that matches decides.
      cases fate with
      | kept passes =>
        cases fate' with
        | kept all => exact .kept ⟨passes, all⟩
        | lightened fails less => exact .lightened (fun all => fails all.2) less
      | lightened fails less =>
        exact .lightened (fun all => fails all.1) (Nat.lt_of_le_of_lt fate'.weight_le less)

def directiveText : Text := "\"use client\";\n"

/-- What comes before the line of text without the directive. -/
def moduleLead : Text := "export default function Lesson() \x7b\nreturn (\n<p>\n"

/-- What comes before it in the end. -/
def scriptLead : Text := "function LessonComponent() \x7b\nreturn (\n<p>\n"

theorem weight_append (a b : Text) : weight (a ++ b) = weight a + weight b := total_append

theorem breaks_append (a b : Text) : breaks (a ++ b) = breaks a + breaks b := total_append

theorem weight_pos {t : Text} (filled : t ≠ []) : 0 < weight t := by
  obtain ⟨c, rest, rfl⟩ := List.exists_cons_of_ne_nil filled
  have positive : 0 < if c = 'x' then 3 else 1 := by split <;> decide
  rw [weight, total_cons]
  exact Nat.add_pos_left positive _

theorem weight_export : weight "export" = 8 := by
  simp only [Text.ofString_eq rfl]
  decide

/-- Nothing matches in what comes after the line. -/
theorem rest_passes (among : after ∈ lessonEnds) :
    ∀ r ∈ rewrites, ∀ previous, r.1.Passes previous after [] := by
  have start : ∀ r ∈ rewrites, ∀ previous, r.1.mayStart previous '<' = false := by
    simp only [rewrites, List.forall_mem_cons]
    exact ⟨fun _ => rfl, fun _ => rfl, fun _ => rfl, fun _ => rfl, fun _ => rfl, fun _ => rfl, List.forall_mem_nil _⟩
  have clear : ∀ rest ∈ lessonEnds, ∀ r ∈ rewrites, r.1.isClear (some '<') rest.tail = true := by
    simp only [lessonEnds, rewrites, Text.ofString_eq rfl]
    decide
  intro r member previous
  obtain ⟨rest, rfl⟩ := exists_of_lessonEnds among
  exact passes_cons.mpr ⟨not_starts_of_mayStart (start r member previous), passes_of_isClear (clear _ among r member)⟩

/-- Where nothing before the line matches, nothing is done to it. -/
theorem becomes_of_isClear {p : Pattern} {change : Text → Text} (clear : p.isClear none lead = true) (rest : Text) :
    p.Becomes change none lead rest lead :=
  becomes_of_passes (passes_of_isClear clear)

theorem stage_remove {p : Pattern} (among : after ∈ lessonEnds) (member : (p, fun _ => []) ∈ rewrites)
    (reads : p.alwaysReads = true) (parts : ∀ mid, p.Parts (some lineBreak) mid after)
    (leads : ∀ rest, p.Becomes (fun _ => []) none lead rest lead') (last : lead.getLast? = some lineBreak) :
    Stage after (p, fun _ => []) lead lead' where
  leads := leads
  last := last
  parts := parts
  rest := rest_passes among _ member
  lighter previous _ t match_ := weight_pos fun empty => not_matches_nil reads previous t (empty ▸ match_)
  flatter _ _ _ _ := Nat.zero_le _

theorem directiveLine_stage (among : after ∈ lessonEnds) :
    Stage after (directiveLine, fun _ => []) (directiveText ++ moduleLead) moduleLead := by
  refine stage_remove among (by simp [rewrites]) (by decide) ?_ ?_ (by decide)
  · obtain ⟨rest, rfl⟩ := exists_of_lessonEnds among
    exact fun mid => parts_of_mayRead (by decide)
  · intro rest
    have ends : directiveLine.end? ⟨none, directiveText ++ (moduleLead ++ rest)⟩ =
        some ⟨directiveText.getLast?.or none, moduleLead ++ rest⟩ := by
      simp only [directiveText, moduleLead, Text.ofString_eq rfl]
      cbv
    have clear : directiveLine.isClear (directiveText.getLast?.or none) moduleLead = true := by
      simp only [directiveText, moduleLead, Text.ofString_eq rfl]
      decide
    exact (becomes_of_end? (by decide) ends).append (becomes_of_passes (passes_of_isClear clear))

theorem moduleLead_clear : ∀ p ∈ [leadingDirective, importFrom, importForEffect], p.isClear none moduleLead = true := by
  simp only [moduleLead, Text.ofString_eq rfl]
  decide

theorem leadingDirective_stage (among : after ∈ lessonEnds) :
    Stage after (leadingDirective, fun _ => []) moduleLead moduleLead := by
  refine stage_remove among (by simp [rewrites]) (by decide) ?_ (becomes_of_isClear (moduleLead_clear _ (by simp))) (by decide)
  obtain ⟨rest, rfl⟩ := exists_of_lessonEnds among
  exact fun mid => parts_of_mayRead (by decide)

theorem importFrom_stage (among : after ∈ lessonEnds) :
    Stage after (importFrom, fun _ => []) moduleLead moduleLead :=
  stage_remove among (by simp [rewrites]) (by decide) (fun _ => importFrom_parts among)
    (becomes_of_isClear (moduleLead_clear _ (by simp))) (by decide)

theorem importForEffect_stage (among : after ∈ lessonEnds) :
    Stage after (importForEffect, fun _ => []) moduleLead moduleLead :=
  stage_remove among (by simp [rewrites]) (by decide) (fun _ => importForEffect_parts among)
    (becomes_of_isClear (moduleLead_clear _ (by simp))) (by decide)

/-- The words of the export, which go, and the blanks between them outweigh the words that are put in. -/
theorem weight_entryWords_lt {first second head : Text} (isFirst : IsGap first) (isSecond : IsGap second) :
    weight entryWords < weight (exportText first second ++ head) := by
  have words : weight entryWords = 24 ∧ weight "default" = 7 ∧ weight "function" = 8 := by
    simp only [entryWords, entryPoint, Text.ofString_eq rfl]
    decide
  have positive := weight_pos isFirst.1
  have positive' := weight_pos isSecond.1
  simp only [exportText, weight_append, words, weight_export]
  omega

/-- What follows the name of the component before the line. -/
def signatureLead : Text := "() \x7b\nreturn (\n<p>\n"

/-- The component before the line is renamed. -/
theorem moduleLead_becomes (rest : Text) :
    exportedFunction.Becomes (fun _ => entryWords) none moduleLead rest scriptLead := by
  have named : moduleLead = exportText " " " " ++ " Lesson" ++ signatureLead := by decide
  have renamed : scriptLead = entryWords ++ signatureLead := by decide
  have ends : exportedFunction.end? ⟨none, exportText " " " " ++ " Lesson" ++ (signatureLead ++ rest)⟩ =
      some ⟨(exportText " " " " ++ " Lesson" : Text).getLast?.or none, signatureLead ++ rest⟩ := by
    simp only [exportText, signatureLead, Text.ofString_eq rfl]
    cbv
  have clear : exportedFunction.isClear ((exportText " " " " ++ " Lesson" : Text).getLast?.or none) signatureLead
      = true := by
    simp only [exportText, signatureLead, Text.ofString_eq rfl]
    decide
  rw [named, renamed]
  exact (becomes_of_end? (by decide) ends).append (becomes_of_passes (passes_of_isClear clear))

theorem exportedFunction_stage (among : after ∈ lessonEnds) :
    Stage after (exportedFunction, fun _ => entryWords) moduleLead scriptLead where
  leads := moduleLead_becomes
  last := by decide
  parts := by
    obtain ⟨rest, rfl⟩ := exists_of_lessonEnds among
    exact fun mid => parts_of_mayRead (by decide)
  rest := rest_passes among _ (by simp [rewrites])
  lighter previous m t match_ := by
    obtain ⟨-, ⟨first, second, head, rfl, isFirst, isSecond, -⟩, -⟩ := matches_exportedFunction.mp match_
    exact weight_entryWords_lt isFirst isSecond
  flatter previous m t match_ := by
    have flat : breaks entryWords = 0 := by
      simp only [entryWords, entryPoint, Text.ofString_eq rfl]
      decide
    exact flat ▸ Nat.zero_le _

/-- What stays of an export mark is what stands before its word. -/
theorem exists_of_exportMark {previous : Option CodePoint} {m t : Text} (match_ : exportMark.Matches previous m t) :
    ∃ rest, m = m.takeWhile (charIn " \t") ++ ("export" ++ rest) := by
  obtain ⟨-, ⟨indent, rest, rfl, indented⟩, -⟩ := shape_of_exportMark match_
  have stops : ("export" ++ rest : Text).takeWhile (charIn " \t") = [] := by
    rw [Text.ofString_eq rfl]
    rfl
  refine ⟨rest, ?_⟩
  rw [List.append_assoc, List.takeWhile_append_of_pos indented, stops, List.append_nil]

theorem exportMark_stage (among : after ∈ lessonEnds) :
    Stage after (exportMark, fun m => m.takeWhile (charIn " \t")) scriptLead scriptLead where
  leads := becomes_of_isClear (by
    simp only [scriptLead, Text.ofString_eq rfl]
    decide)
  last := by decide
  parts := by
    obtain ⟨rest, rfl⟩ := exists_of_lessonEnds among
    exact fun mid => parts_of_mayRead (by decide)
  rest := rest_passes among _ (by simp [rewrites])
  lighter previous m t match_ := by
    obtain ⟨rest, parted⟩ := exists_of_exportMark match_
    have whole := congrArg weight parted
    rw [weight_append, weight_append, weight_export] at whole
    show weight (m.takeWhile (charIn " \t")) < weight m
    omega
  flatter previous m t match_ := by
    obtain ⟨rest, parted⟩ := exists_of_exportMark match_
    have whole := congrArg breaks parted
    rw [breaks_append] at whole
    show breaks (m.takeWhile (charIn " \t")) ≤ breaks m
    omega

theorem stages (among : after ∈ lessonEnds) : Stages after rewrites (directiveText ++ moduleLead) scriptLead :=
  .cons (directiveLine_stage among) <| .cons (leadingDirective_stage among) <| .cons (importFrom_stage among) <|
    .cons (importForEffect_stage among) <| .cons (exportedFunction_stage among) <| .cons (exportMark_stage among) <|
    .nil scriptLead

def scriptEnd : Text := "</p>\n);\n\x7d"

theorem breaks_le_of_infix {part t : Text} (occurs : part <:+: t) : breaks part ≤ breaks t := by
  obtain ⟨before, after, rfl⟩ := occurs
  rw [breaks_append, breaks_append]
  omega

/-- Between the two ends there is no run of line breaks to cut short. -/
theorem withoutBlankRuns_script {mid : Text} (once : breaks mid ≤ 1) :
    withoutBlankRuns (scriptLead ++ mid ++ scriptEnd) = scriptLead ++ mid ++ scriptEnd := by
  have three : breaks "\n\n\n" = 3 := by decide
  have tagged : scriptLead ++ mid ++ scriptEnd = ("function LessonComponent() \x7b\nreturn (\n<p" : Text) ++
      ('>' : CodePoint) :: ((lineBreak :: mid) ++ ('<' : CodePoint) :: ("/p>\n);\n\x7d" : Text)) := by
    simp [scriptLead, scriptEnd, Text.ofString_eq rfl]
  refine withoutBlankRuns_eq fun occurs => ?_
  rw [tagged, Text.infix_append_cons_iff (by decide), Text.infix_append_cons_iff (by decide)] at occurs
  rcases occurs with inLead | inMid | inEnd
  · have few : breaks "function LessonComponent() \x7b\nreturn (\n<p" = 2 := by decide
    have := breaks_le_of_infix inLead
    omega
  · have few : breaks (lineBreak :: mid) = 1 + breaks mid := total_cons
    have := breaks_le_of_infix inMid
    omega
  · have few : breaks "/p>\n);\n\x7d" = 2 := by decide
    have := breaks_le_of_infix inEnd
    omega

theorem trim_script {mid : Text} (among : after ∈ lessonEnds) :
    Text.trim (scriptLead ++ mid ++ after) = scriptLead ++ mid ++ scriptEnd := by
  obtain ⟨blanks, rfl, blank⟩ : ∃ blanks, after = scriptEnd ++ blanks ∧ ∀ c ∈ blanks, c.isBlank = true := by
    rcases List.mem_pair.mp among with rfl | rfl
    · exact ⟨[], by simp [scriptEnd], List.forall_mem_nil _⟩
    · exact ⟨"\n", by decide, by decide⟩
  have trimmed : (scriptLead ++ mid ++ scriptEnd).IsTrimmed := by
    constructor
    · intro c head
      cases head
      decide
    · intro c last
      rw [List.getLast?_append_of_ne_nil _ (by decide)] at last
      cases last
      decide
  rw [← List.append_assoc]
  exact trimmed.trim_append blank

theorem toScript_source (among : after ∈ lessonEnds) (mid : Text) (once : breaks mid ≤ 1) :
    ∃ mid', toScript (directiveText ++ moduleLead ++ mid ++ after) = scriptLead ++ mid' ++ scriptEnd ∧ breaks mid' ≤ 1 ∧
      Fate (∀ r ∈ rewrites, r.1.Passes (some lineBreak) mid after) mid mid' := by
  obtain ⟨mid', done, flatter, fate⟩ := (stages among).exists_mid mid
  refine ⟨mid', ?_, flatter.trans once, fate⟩
  rw [toScript_eq, done, trim_script among, withoutBlankRuns_script (flatter.trans once)]

theorem lessonOf_eq (line : Text) : lessonOf line = directiveText ++ moduleLead ++ (line ++ [lineBreak]) ++ scriptEnd := by
  simp only [lessonOf, Text.join, directiveText, moduleLead, scriptEnd, Text.ofString_eq rfl]
  simp

theorem scriptOf_eq (line : Text) : scriptOf line = scriptLead ++ (line ++ [lineBreak]) ++ scriptEnd := by
  simp only [scriptOf, Text.join, scriptLead, scriptEnd, Text.ofString_eq rfl]
  simp

/-- The directive at the start of a source is nowhere else. -/
theorem leadingDirective_passes (c : CodePoint) (a b : Text) : leadingDirective.Passes (some c) a b := by
  rintro before d x rfl ⟨found, rest, -, -, match_⟩
  have start : (before.getLast?.or (some c)).isNone = true := ((matches_seq_between _ _ _).mp match_).1
  cases last : before.getLast? <;> simp [last] at start

theorem spared_iff {line : Text} (among : after ∈ lessonEnds) (plain : IsTextLine line) :
    (∀ r ∈ rewrites, r.1.Passes (some lineBreak) (line ++ [lineBreak]) after) ↔ ¬IsModuleLine line := by
  simp only [rewrites, List.forall_mem_cons, directiveLine_passes_iff among plain, importFrom_passes_iff among plain,
    importForEffect_passes_iff among plain, exportedFunction_passes_iff among plain, exportMark_passes_iff among plain]
  constructor
  · rintro ⟨noDirective, -, noImport, noEffect, noFunction, noExport, -⟩ line
    cases line with
    | directive is => exact noDirective is
    | importFrom is => exact noImport is
    | importForEffect is => exact noEffect is
    | exportedFunction has => exact noFunction has
    | exportMark is => exact noExport is
  · exact fun spared => ⟨fun is => spared (.directive is), leadingDirective_passes _ _ _, fun is => spared (.importFrom is),
      fun is => spared (.importForEffect is), fun has => spared (.exportedFunction has), fun is => spared (.exportMark is),
      List.forall_mem_nil _⟩

theorem breaks_eq_zero_iff {t : Text} : breaks t = 0 ↔ lineBreak ∉ t := by
  induction t with
  | nil => simp [breaks]
  | cons c t ih =>
    rw [breaks, total_cons, List.mem_cons, not_or, ← ih, Nat.add_eq_zero_iff]
    refine and_congr ?_ Iff.rfl
    split <;> simp_all [eq_comm]

theorem splitOn_scriptEnd {t : Text} (absent : lineBreak ∉ t) :
    Text.splitOn lineBreak (t ++ scriptEnd) = [t ++ "</p>", ");", "\x7d"] := by
  have parted : t ++ scriptEnd = (t ++ "</p>") ++ lineBreak :: ((");" : Text) ++ lineBreak :: "\x7d") := by
    simp [scriptEnd, Text.ofString_eq rfl]
  have tagged : lineBreak ∉ t ++ "</p>" := by
    rw [List.mem_append, not_or]
    exact ⟨absent, by decide⟩
  rw [parted, Text.splitOn_append_cons tagged, Text.splitOn_append_cons (by decide), Text.splitOn_of_notMem (by decide)]

theorem splitOn_scriptLead (t : Text) : Text.splitOn lineBreak (scriptLead ++ t) =
    (["function LessonComponent() \x7b", "return (", "<p>"] : List Text) ++ Text.splitOn lineBreak t := by
  have parted : scriptLead ++ t = ("function LessonComponent() \x7b" : Text) ++
      lineBreak :: (("return (" : Text) ++ lineBreak :: (("<p>" : Text) ++ lineBreak :: t)) := by
    simp [scriptLead, Text.ofString_eq rfl]
  rw [parted, Text.splitOn_append_cons (by decide), Text.splitOn_append_cons (by decide),
    Text.splitOn_append_cons (by decide)]
  rfl

/-- A line of text is a line of the script as what is left between the two ends, if it is none of theirs. -/
theorem exists_of_mem_lines {line mid : Text} (plain : IsTextLine line) (once : breaks mid ≤ 1)
    (member : line ∈ Text.splitOn lineBreak (scriptLead ++ mid ++ scriptEnd)) :
    line = "return (" ∨ line = ");" ∨ ∃ rest, mid = line ++ lineBreak :: rest := by
  have unmarked {t : Text} (c : CodePoint) (inside : c ∈ t) (mark : charIn "<>\x7b\x7d&\n\r" c = true) : line ≠ t := by
    rintro rfl
    exact plain.notMem mark inside
  have ofEnd {t : Text} (absent : lineBreak ∉ t) (member : line ∈ Text.splitOn lineBreak (t ++ scriptEnd)) :
      line = ");" := by
    rw [splitOn_scriptEnd absent, List.mem_cons, List.mem_pair] at member
    rcases member with tagged | last | brace
    · exact absurd tagged (unmarked '<' (by simp [Text.ofString_eq rfl]) (by decide))
    · exact last
    · exact absurd brace (unmarked '\x7d' (by decide) (by decide))
  rw [List.append_assoc, splitOn_scriptLead] at member
  simp only [List.cons_append, List.nil_append, List.mem_cons] at member
  rcases member with first | returned | tag | later
  · exact absurd first (unmarked '\x7b' (by decide) (by decide))
  · exact .inl returned
  · exact absurd tag (unmarked '<' (by decide) (by decide))
  · by_cases broken : lineBreak ∈ mid
    · obtain ⟨before, rest, rfl, absent⟩ := List.eq_append_cons_of_mem broken
      have single : breaks (lineBreak :: rest) = 1 + breaks rest := total_cons
      rw [breaks_append, single] at once
      have none : lineBreak ∉ rest := breaks_eq_zero_iff.mp (by omega)
      rw [List.append_assoc, List.cons_append, Text.splitOn_append_cons absent] at later
      rcases List.mem_cons.mp later with rfl | later
      · exact .inr (.inr ⟨rest, rfl⟩)
      · exact .inr (.inl (ofEnd none later))
    · exact .inr (.inl (ofEnd broken later))

theorem mem_lines_script {line : Text} (plain : IsTextLine line) :
    line ∈ Text.splitOn lineBreak (scriptLead ++ (line ++ [lineBreak]) ++ scriptEnd) := by
  have parted : scriptLead ++ (line ++ [lineBreak]) ++ scriptEnd = scriptLead ++ (line ++ lineBreak :: scriptEnd) := by simp
  rw [parted, splitOn_scriptLead, Text.splitOn_append_cons (plain.notMem (by decide))]
  simp

/-- A lesson shows a line of text without mark-up. Its script has the line, and has everything else as it should be,
exactly if nothing takes the line for module syntax. -/
theorem textLine_kept_iff (line : Text) (plain : IsTextLine line) :
    ∀ source ∈ [lessonOf line, lessonOf line ++ "\n"],
      (line ∈ Text.splitOn '\n' (toScript source) ↔ ¬IsModuleLine line) ∧
      (¬IsModuleLine line → toScript source = scriptOf line) := by
  intro source given
  obtain ⟨after, among, rfl⟩ : ∃ after ∈ lessonEnds,
      source = directiveText ++ moduleLead ++ (line ++ [lineBreak]) ++ after := by
    rcases List.mem_pair.mp given with rfl | rfl
    · exact ⟨_, List.mem_cons_self, lessonOf_eq line⟩
    · refine ⟨"</p>\n);\n\x7d\n", by simp [lessonEnds], ?_⟩
      rw [lessonOf_eq]
      simp [scriptEnd, Text.ofString_eq rfl]
  have once : breaks (line ++ [lineBreak]) ≤ 1 := by
    rw [breaks_append, breaks_eq_zero_iff.mpr (plain.notMem (by decide))]
    decide
  obtain ⟨mid, done, flat, fate⟩ := toScript_source among (line ++ [lineBreak]) once
  rw [spared_iff among plain] at fate
  rw [done, scriptOf_eq]
  cases fate with
  | kept spared => exact ⟨iff_of_true (mem_lines_script plain) spared, fun _ => rfl⟩
  | lightened fails less =>
    refine ⟨iff_of_false (fun member => fails ?_) (not_not_intro (not_not.mp fails)), fun spared => absurd spared fails⟩
    -- The line is in the script as one of the other lines, which are no module syntax, or as what is left of itself.
    rcases exists_of_mem_lines plain flat member with rfl | rfl | ⟨rest, rfl⟩
    · exact not_isModuleLine (by decide)
    · exact not_isModuleLine (by decide)
    · have longer : weight (lineBreak :: rest) = weight [lineBreak] + weight rest := by
        rw [← weight_append]
        rfl
      rw [weight_append, weight_append, longer] at less
      omega

theorem textLine_kept_iff_sentence :
    IsTextLine "Plants turn light into sugar." ∧ ¬IsModuleLine "Plants turn light into sugar." ∧
      toScript (lessonOf "Plants turn light into sugar.") = scriptOf "Plants turn light into sugar." := by
  have plain : IsTextLine "Plants turn light into sugar." := by decide
  have spared : ¬IsModuleLine "Plants turn light into sugar." := not_isModuleLine (by decide)
  exact ⟨plain, spared, (textLine_kept_iff _ plain _ List.mem_cons_self).2 spared⟩

/-- A sentence that begins with the word `export` loses it. -/
theorem textLine_lost :
    let line : Text := "export crops such as coffee"
    IsTextLine line ∧ line ∉ Text.splitOn '\n' (toScript (lessonOf line)) ∧
      toScript (lessonOf line) = scriptOf "crops such as coffee" := by
  simp only [lessonOf, scriptOf, toScript, withoutBlankRuns, withoutExports, withEntryPoint, entryPoint, withoutImports,
    withoutDirective, Text.ofString_eq rfl]
  decide +kernel

end LessonService.Script
