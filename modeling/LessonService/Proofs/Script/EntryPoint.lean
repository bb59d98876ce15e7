import LessonService.Proofs.Review.DefaultExport
import LessonService.Proofs.Text.Replacing
import LessonService.Proofs.Text.Trim

namespace LessonService.Script

open Pattern Review

def entryWords : Text := "function " ++ entryPoint

/-- A function under the name of the entry point, up to the mark that begins its parameters or their types. -/
def entryDeclaration (gap : Text) (opener : CodePoint) : Text := entryWords ++ gap ++ [opener]

def isOpener (c : CodePoint) : Bool := charIn "<(" c

/-- Whether a script declares the entry point. -/
def DeclaresEntryPoint (t : Text) : Prop :=
  ∃ before gap opener after, t = before ++ entryDeclaration gap opener ++ after ∧
    (∀ c ∈ gap, c.isBlank = true) ∧ isOpener opener = true

theorem DeclaresEntryPoint.contains_entryWords {t : Text} (declares : DeclaresEntryPoint t) :
    Text.contains entryWords t = true := by
  obtain ⟨before, gap, opener, after, rfl, -⟩ := declares
  exact (Text.contains_iff _ _).mpr ⟨before, gap ++ opener :: after, by simp [entryDeclaration]⟩

/-- How a function goes on after its word: by a name after a gap, or by blanks only. -/
def IsHead (t : Text) : Prop :=
  (∃ gap first rest, t = gap ++ first :: rest ∧ IsGap gap ∧ isNameStart first = true ∧
    ∀ c ∈ rest, isNamePart c = true) ∨ ∀ c ∈ t, c.isBlank = true

/-- What follows the word of a function, where nothing but blanks stands between its name and the mark that
begins its parameters or their types. -/
structure Signature (after : Text) where
  head : Text
  gap : Text
  opener : CodePoint
  rest : Text
  text_eq : after = head ++ gap ++ opener :: rest
  isHead : IsHead head
  gap_blank : ∀ c ∈ gap, c.isBlank = true
  opens : isOpener opener = true

/-- An exported function with its signature. -/
def exportedText {source : Text} (s : ExportSite source) (signature : Signature s.after) : Text :=
  exportText s.first s.second ++ signature.head ++ signature.gap ++ [signature.opener]

/-- What is removed from a source, in this order. -/
def removals : List Pattern := [directiveLine, leadingDirective, importFrom, importForEffect]

theorem withoutImports_withoutDirective (source : Text) :
    withoutImports (withoutDirective source) = removeAll removals source := rfl

section Characters

variable {opener c : CodePoint}

theorem isOpener_iff : isOpener c = true ↔ c = '<' ∨ c = '(' := by
  have marks : "<(".toList = ['<', '('] := by decide
  rw [isOpener, charIn_iff marks]
  simp [eq_comm]

theorem isBlank_of_isOpener (opens : isOpener opener = true) : opener.isBlank = false := by
  rcases isOpener_iff.mp opens with rfl | rfl <;> decide

theorem not_letter_of_isOpener (opens : isOpener opener = true) : opener ≠ 'e' := by
  rcases isOpener_iff.mp opens with rfl | rfl <;> decide

theorem isBlank_of_charIn_gap (member : charIn " \t" c = true) : c.isBlank = true := by
  have marks : " \t".toList = [' ', '\t'] := by decide
  obtain ⟨d, among, rfl⟩ := (charIn_iff marks c).mp member
  rw [List.mem_pair] at among
  rcases among with rfl | rfl <;> decide

end Characters

section Removals

variable {previous : Option CodePoint} {found after : Text}

theorem not_isWord_of_lineStart (start : previous.elim true (fun c => decide (c.value = 0x0A)) = true) :
    previous.elim false CodePoint.isWord = false := by
  cases previous with
  | none => rfl
  | some c =>
    obtain ⟨value⟩ := c
    have newline : value = 0x0A := of_decide_eq_true start
    subst newline
    decide

/-- Everything that is removed starts where a word could start. -/
theorem not_isWord_of_removals :
    ∀ p ∈ removals, ∀ previous found after, p.Matches previous found after →
      previous.elim false CodePoint.isWord = false := by
  simp only [removals, List.forall_mem_cons]
  refine ⟨?_, ?_, ?_, ?_, List.forall_mem_nil _⟩
  · intro previous found after match_
    exact not_isWord_of_lineStart ((matches_seq_between _ _ _).mp match_).1
  · intro previous found after match_
    have start : previous.isNone = true := ((matches_seq_between _ _ _).mp match_).1
    rw [Option.isNone_iff_eq_none.mp start]
    rfl
  · intro previous found after match_
    exact not_isWord_of_lineStart ((matches_seq_between _ _ _).mp match_).1
  · intro previous found after match_
    exact not_isWord_of_lineStart ((matches_seq_between _ _ _).mp match_).1

end Removals

section Renaming

variable {previous : Option CodePoint} {found after t : Text}

theorem matches_head : (either (seq [someBlanks, one isNameStart, most isNamePart 0]) blanks).Matches previous found after ↔
    IsHead found := by
  refine or_congr ?_ ⟨And.right, fun all => ⟨Nat.zero_le _, all⟩⟩
  constructor
  · rintro ⟨gap, _, rfl, isGap, _, rest, rfl, ⟨first, rfl, starts⟩, -, all⟩
    exact ⟨gap, first, rest, rfl, matches_someBlanks.mp isGap, starts, all⟩
  · rintro ⟨gap, first, rest, rfl, isGap, starts, all⟩
    exact ⟨gap, _, rfl, matches_someBlanks.mpr isGap, [first], rest, rfl, ⟨first, rfl, starts⟩, Nat.zero_le _, all⟩

/-- What the renaming looks for after the words of the export. -/
theorem matches_opening : (both blanks (oneIn "<(")).Matches previous found after ↔
    ∃ gap opener, found = gap ++ [opener] ∧ (∀ c ∈ gap, c.isBlank = true) ∧ isOpener opener = true := by
  constructor
  · rintro ⟨gap, _, rfl, ⟨-, all⟩, opener, rfl, opens⟩
    exact ⟨gap, opener, rfl, all, opens⟩
  · rintro ⟨gap, opener, rfl, all, opens⟩
    exact ⟨gap, [opener], rfl, ⟨Nat.zero_le _, all⟩, opener, rfl, opens⟩

theorem matches_exportedFunction : exportedFunction.Matches previous found after ↔
    previous.elim false CodePoint.isWord = false ∧
      (∃ first second head, found = exportText first second ++ head ∧ IsGap first ∧ IsGap second ∧ IsHead head) ∧
      ∃ gap opener rest, after = gap ++ opener :: rest ∧ (∀ c ∈ gap, c.isBlank = true) ∧ isOpener opener = true := by
  have parted : exportedFunction.Matches previous found after ↔
      ∃ words head, found = words ++ head ∧ exportWords.Matches previous words (head ++ after) ∧
        (seq [either (seq [someBlanks, one isNameStart, most isNamePart 0]) blanks,
          ahead (both blanks (oneIn "<("))]).Matches (words.getLast?.or previous) head after :=
    matches_seq_append _ _ [exactly "export", someBlanks, exactly "default", someBlanks, exactly "function"] _
  rw [parted]
  constructor
  · rintro ⟨_, _, rfl, isExport, head, _, rfl, isHead, rfl, _, rest, rfl, opens⟩
    obtain ⟨starts, first, second, rfl, isFirst, isSecond⟩ := matches_exportWords.mp isExport
    obtain ⟨gap, opener, rfl, all, opens⟩ := matches_opening.mp opens
    exact ⟨starts, ⟨first, second, head, by simp, isFirst, isSecond, matches_head.mp isHead⟩,
      gap, opener, rest, by simp, all, opens⟩
  · rintro ⟨starts, ⟨first, second, head, rfl, isFirst, isSecond, isHead⟩, gap, opener, rest, rfl, all, opens⟩
    exact ⟨_, head, rfl, matches_exportWords.mpr ⟨starts, first, second, rfl, isFirst, isSecond⟩,
      head, [], by simp, matches_head.mpr isHead, rfl, gap ++ [opener], rest, by simp,
      matches_opening.mpr ⟨gap, opener, rfl, all, opens⟩⟩

/-- A function that is exported by default is found by its first letter. -/
theorem head_of_starts_exportedFunction {c : CodePoint} (starts : exportedFunction.Starts previous (c :: t)) :
    c = 'e' := by
  obtain ⟨found, after, text, -, match_⟩ := starts
  obtain ⟨-, ⟨first, second, head, rfl, -⟩, -⟩ := matches_exportedFunction.mp match_
  exact (List.cons.inj text).1

theorem not_empty_of_exportedFunction (previous : Option CodePoint) (after : Text) :
    ¬exportedFunction.Matches previous [] after := by
  intro match_
  obtain ⟨-, ⟨first, second, head, empty, -⟩, -⟩ := matches_exportedFunction.mp match_
  cases empty

/-- Wherever the export is plain, the first one that is renamed declares the entry point. -/
theorem declares_withEntryPoint {before : Text} (match_ : exportedFunction.Matches before.getLast? found after) :
    DeclaresEntryPoint (withEntryPoint (before ++ found ++ after)) := by
  have match_' : exportedFunction.Matches (before.getLast?.or none) found after := by rwa [Option.or_none]
  obtain ⟨first, m, rest, text, renamed, scanned⟩ := exists_first_found not_empty_of_exportedFunction before match_'
  obtain ⟨-, -, gap, opener, rest, rfl, blank, opens⟩ := matches_exportedFunction.mp renamed
  have passes : exportedFunction.Passes ((first ++ m).getLast?.or none) (gap ++ [opener]) rest := by
    refine passes_of_forall fun c member previous t starts => ?_
    have letter := head_of_starts_exportedFunction starts
    rcases List.mem_append.mp member with inGap | isLast
    · cases (letter ▸ blank c inGap : CodePoint.isBlank 'e' = true)
    · exact not_letter_of_isOpener opens ((List.mem_singleton.mp isLast) ▸ letter)
  rw [withEntryPoint, replaceAll_eq, List.append_assoc, scanned,
    show gap ++ opener :: rest = gap ++ [opener] ++ rest by simp, segmentsFrom_kept_append passes, List.flatMap_append,
    Segment.flatMap_changed_kept, List.flatMap_cons, List.flatMap_append, Segment.flatMap_changed_kept]
  exact ⟨first, gap, opener, _, by simp only [Segment.changed, entryDeclaration, entryWords, List.append_assoc]; rfl, blank, opens⟩

end Renaming

section ExportMarks

variable {previous : Option CodePoint} {found after t : Text}

/-- An export mark begins a line, and it ends with a blank and without any letter of `function` after the second. -/
theorem shape_of_exportMark (match_ : exportMark.Matches previous found after) :
    previous.elim true (fun c => decide (c.value = 0x0A)) = true ∧
      (∃ indent rest, found = indent ++ "export" ++ rest ∧ ∀ c ∈ indent, charIn " \t" c = true) ∧
      (∀ c ∈ found, c ≠ 'n') ∧ ∃ c ∈ found.getLast?, c.isBlank = true := by
  have plain : exportMark.Within (· ≠ 'n') := by
    have blank : ∀ c : CodePoint, c.isBlank = true → c ≠ 'n' := by
      rintro _ blank rfl
      cases blank
    exact ⟨trivial, fun c member => blank c (isBlank_of_charIn_gap member), within_exactly (by decide), blank,
      ⟨within_exactly (by decide), blank⟩, trivial⟩
  have letters := plain.of_matches match_
  obtain ⟨start, indent, _, rfl, ⟨-, indented⟩, _, _, rfl, isExport, first, rest, rfl, isFirst, later⟩ :=
    (matches_seq_between _ _ _).mp match_
  cases (matches_exactly _).mp isExport
  refine ⟨start, ⟨indent, _, (List.append_assoc _ _ _).symm, indented⟩, letters, ?_⟩
  have ends {t : Text} (isGap : IsGap t) (t' : Text) : ∃ c ∈ (t' ++ t).getLast?, c.isBlank = true := by
    rw [List.getLast?_append, List.getLast?_eq_some_getLast isGap.1]
    exact ⟨_, rfl, isGap.2 _ (List.getLast_mem isGap.1)⟩
  rcases later with ⟨word, second, rfl, -, isSecond⟩ | rfl
  · have := ends (matches_someBlanks.mp isSecond) (indent ++ ("export" ++ (first ++ word)))
    simpa using this
  · have := ends (matches_someBlanks.mp isFirst) (indent ++ "export")
    simpa using this

/-- An export mark starts a line, and of what follows no blanks come before its word. -/
theorem export_of_starts (starts : exportMark.Starts previous t) :
    previous.elim true (fun c => decide (c.value = 0x0A)) = true ∧
      ∃ rest, t.dropWhile CodePoint.isBlank = "export" ++ rest := by
  obtain ⟨_, after, rfl, -, match_⟩ := starts
  obtain ⟨start, ⟨indent, rest, rfl, indented⟩, -⟩ := shape_of_exportMark match_
  refine ⟨start, rest ++ after, ?_⟩
  rw [List.append_assoc, List.append_assoc,
    List.dropWhile_append_of_pos fun c member => isBlank_of_charIn_gap (indented c member)]
  rfl

theorem parts_exportMark (gap : Text) (opener : CodePoint) :
    exportMark.Parts previous t (entryDeclaration gap opener ++ after) := by
  intro before x y rest _ second _ filled match_
  obtain ⟨-, -, letters, last, isLast, blank⟩ := shape_of_exportMark match_
  rw [List.getLast?_append_of_ne_nil x filled, Option.mem_def] at isLast
  obtain ⟨more, text⟩ : ∃ more, entryDeclaration gap opener ++ after = ⟨0x66⟩ :: ⟨0x75⟩ :: ⟨0x6E⟩ :: more := ⟨_, rfl⟩
  rw [text] at second
  match y with
  | [] => exact filled rfl
  | [c] =>
    cases (List.cons.inj second).1
    cases Option.some.inj isLast
    cases blank
  | [c, d] =>
    cases (List.cons.inj (List.cons.inj second).2).1
    cases Option.some.inj isLast
    cases blank
  | c :: d :: e :: _ =>
    cases (List.cons.inj (List.cons.inj (List.cons.inj second).2).2).1
    exact letters ⟨0x6E⟩ (by simp) rfl

/-- No export mark starts in the name of the entry point. -/
theorem passes_exportMark {gap : Text} {opener : CodePoint} (blank : ∀ c ∈ gap, c.isBlank = true)
    (opens : isOpener opener = true) : exportMark.Passes previous (entryDeclaration gap opener) after := by
  rw [entryDeclaration, List.append_assoc]
  refine Passes.append ?_ ?_
  · intro before c x split starts
    obtain ⟨start, rest, text⟩ := export_of_starts starts
    rcases List.eq_nil_or_concat' before with rfl | ⟨before, d, rfl⟩
    · cases split
      cases text
    · rw [List.getLast?_concat] at start
      have inside : d ∈ entryWords := by simp [split]
      have plain : ∀ d ∈ entryWords, d.value ≠ 0x0A := by decide
      exact plain d inside (of_decide_eq_true start)
  · intro before c x split starts
    obtain ⟨-, rest, text⟩ := export_of_starts starts
    have le : before.length ≤ gap.length := by
      have := congrArg List.length split
      simp only [List.length_append, List.length_cons, List.length_nil] at this
      omega
    obtain ⟨middle, rfl, last⟩ := exists_append_of_length_le split.symm le
    rw [← List.cons_append, last, List.append_assoc,
      List.dropWhile_append_of_pos fun c member => blank c (List.mem_append_right _ member),
      List.singleton_append, List.dropWhile_cons_of_neg (by simp [isBlank_of_isOpener opens])] at text
    exact not_letter_of_isOpener opens (List.cons.inj text).1

end ExportMarks

variable {t : Text}

theorem DeclaresEntryPoint.withoutExports (declares : DeclaresEntryPoint t) :
    DeclaresEntryPoint (withoutExports t) := by
  obtain ⟨before, gap, opener, after, rfl, blank, opens⟩ := declares
  have parts : exportMark.Parts none before (entryDeclaration gap opener ++ after) := parts_exportMark gap opener
  have keeps : ∃ left right, Script.withoutExports (before ++ entryDeclaration gap opener ++ after)
      = left ++ entryDeclaration gap opener ++ right := replaceAll_keeps parts (passes_exportMark blank opens)
  obtain ⟨left, right, kept⟩ := keeps
  exact ⟨left, gap, opener, right, kept, blank, opens⟩

theorem DeclaresEntryPoint.trim (declares : DeclaresEntryPoint t) : DeclaresEntryPoint (Text.trim t) := by
  obtain ⟨before, gap, opener, after, rfl, blank, opens⟩ := declares
  obtain ⟨b, a, -, -, trimmed⟩ := @Text.exists_trim_append ⟨0x66⟩ opener ("unction " ++ entryPoint ++ gap) (by decide)
    (isBlank_of_isOpener opens) before after
  exact ⟨b, gap, opener, a, trimmed, blank, opens⟩

/-- Runs of line breaks may shrink before the parameters; what is left there is blank. -/
theorem DeclaresEntryPoint.withoutBlankRuns (declares : DeclaresEntryPoint t) :
    DeclaresEntryPoint (withoutBlankRuns t) := by
  obtain ⟨before, gap, opener, after, rfl, blank, opens⟩ := declares
  have reads : (most (· = ('\n' : CodePoint)) 3).Within (· = '\n') := fun c read => of_decide_eq_true read
  have stops : ¬opener = '\n' := by
    rintro rfl
    cases opens
  have spread : before ++ entryDeclaration gap opener ++ after = before ++ (entryWords ++ (gap ++ ([opener] ++ after))) := by
    simp [entryDeclaration]
  obtain ⟨left, toName, -⟩ := segmentsFrom_append none before (b := entryWords ++ (gap ++ ([opener] ++ after)))
    (parts_of_within reads (by decide))
  have name : (most (· = ('\n' : CodePoint)) 3).Passes (before.getLast?.or none) entryWords (gap ++ ([opener] ++ after)) :=
    passes_of_within reads (by decide)
  obtain ⟨within, toOpener, text⟩ := segmentsFrom_append (entryWords.getLast?.or (before.getLast?.or none)) gap
    (b := [opener] ++ after) (parts_of_within reads stops)
  have mark : (most (· = ('\n' : CodePoint)) 3).Passes (gap.getLast?.or (entryWords.getLast?.or (before.getLast?.or none)))
      [opener] after := passes_of_within reads (by simpa using stops)
  have still : ∀ c ∈ within.flatMap (Segment.changed fun _ => Text.ofString "\n\n"), c.isBlank = true :=
    Segment.forall_changed (text ▸ blank) fun _ => by decide
  rw [spread, Script.withoutBlankRuns, replaceAll_eq, toName, segmentsFrom_kept_append name, toOpener,
    segmentsFrom_kept_append mark]
  simp only [List.flatMap_append, Segment.flatMap_changed_kept]
  exact ⟨_, _, opener, _, by simp only [entryDeclaration, List.append_assoc]; rfl, still, opens⟩

variable {source : Text}

theorem declares_of_spare (s : ExportSite source) (signature : Signature s.after)
    (spare : Spare removals s.before (exportedText s signature) signature.rest) :
    DeclaresEntryPoint (toScript source) := by
  obtain ⟨left, right, removed, start⟩ := removeAll_of_spare not_isWord_of_removals s.starts spare
  have match_ : exportedFunction.Matches left.getLast? (exportText s.first s.second ++ signature.head)
      (signature.gap ++ signature.opener :: right) :=
    matches_exportedFunction.mpr ⟨start, ⟨s.first, s.second, signature.head, rfl, s.first_isGap, s.second_isGap,
      signature.isHead⟩, signature.gap, signature.opener, right, rfl, signature.gap_blank, signature.opens⟩
  have text : source = s.before ++ exportedText s signature ++ signature.rest := by
    conv => lhs; rw [s.text_eq, signature.text_eq]
    simp [exportedText]
  have cleared : withoutImports (withoutDirective source)
      = left ++ (exportText s.first s.second ++ signature.head) ++ (signature.gap ++ signature.opener :: right) := by
    rw [withoutImports_withoutDirective]
    conv => lhs; rw [text, removed]
    simp [exportedText]
  rw [toScript, cleared]
  exact (declares_withEntryPoint match_).withoutExports.trim.withoutBlankRuns

variable {rules : List Rule}

/-- A source that the review accepts, with its rule on the default export at least, exports a function by
default. If nothing but a name and blanks stands between the words of the export and the mark that begins the
parameters or their types, and neither a directive nor an import that is removed reaches into that, the script
declares the entry point. -/
theorem toScript_declares (asked : Rule.defaultExport ∈ rules) (accepted : reviewBy rules source = []) :
    Nonempty (ExportSite source) ∧
      ∀ (s : ExportSite source) (signature : Signature s.after),
        Spare removals s.before (exportedText s signature) signature.rest → DeclaresEntryPoint (toScript source) :=
  ⟨exists_exportSite asked accepted, declares_of_spare⟩

/-- What comes before the component of a lesson. -/
def lessonLead : Text := "\"use client\";\nimport React from \"react\";\n\n"

/-- What comes after the mark that begins its parameters. -/
def lessonBody : Text := ") \x7b\n  return (<p>Plants turn light into sugar.</p>);\n\x7d\n"

/-- What comes after the words of its export. -/
def lessonTail : Text := " Lesson" ++ ([] : Text) ++ ('(' : CodePoint) :: lessonBody

def lessonSource : Text := lessonLead ++ exportText " " " " ++ lessonTail

theorem space_isGap : IsGap " " := by decide

theorem lessonLead_starts : lessonLead.getLast?.elim false CodePoint.isWord = false := by decide

theorem lessonTail_ends : lessonTail.head?.elim false CodePoint.isWord = false := by decide

def lessonSite : ExportSite lessonSource where
  before := lessonLead
  first := " "
  second := " "
  after := lessonTail
  text_eq := rfl
  first_isGap := space_isGap
  second_isGap := space_isGap
  starts := lessonLead_starts
  ends := lessonTail_ends

theorem lesson_isHead : IsHead " Lesson" := .inl ⟨" ", 'L', "esson", by decide, by decide, by decide, by decide⟩

theorem nothing_isBlank : ∀ c ∈ ([] : Text), c.isBlank = true := by decide

theorem parenthesis_isOpener : isOpener '(' = true := by decide

def lessonSignature : Signature lessonSite.after where
  head := " Lesson"
  gap := []
  opener := '('
  rest := lessonBody
  text_eq := rfl
  isHead := lesson_isHead
  gap_blank := nothing_isBlank
  opens := parenthesis_isOpener

theorem toScript_declares_lesson :
    Rule.defaultExport ∈ textRules ∧ reviewBy textRules lessonSource = [] ∧
      Spare removals lessonSite.before (exportedText lessonSite lessonSignature) lessonSignature.rest ∧
      DeclaresEntryPoint (toScript lessonSource) := by
  have asked : Rule.defaultExport ∈ textRules := by decide
  have accepted : reviewBy textRules lessonSource = [] := by
    simp only [lessonSource, lessonLead, lessonTail, lessonBody, exportText, Text.ofString_eq rfl]
    decide +kernel
  have spare : Spare removals lessonSite.before (exportedText lessonSite lessonSignature) lessonSignature.rest := by
    refine .cons 29 ?_ ?_ (.cons 28 ?_ ?_ (.cons 2 ?_ ?_ (.cons 1 ?_ ?_ trivial)))
    all_goals
      simp only [exportedText, lessonSite, lessonSignature, lessonLead, lessonBody, exportText, Text.ofString_eq rfl]
      decide +kernel
  exact ⟨asked, accepted, spare, (toScript_declares asked accepted).2 lessonSite lessonSignature spare⟩

/-- A comment between the name and the parameters keeps the export from being renamed. -/
def commentedSource : Text :=
  "\"use client\";\nexport default function Lesson/* root */() \x7b\n  return (<p>Plants turn light into sugar.</p>);\n\x7d\n"

/-- An import without a clause is removed with all that follows up to the next module that something comes from. -/
def swallowedSource : Text :=
  "\"use client\";\nimport \"react\";\nexport default function Lesson() \x7b\n  return (<p>Mail from \"home\"</p>);\n\x7d\n"

theorem toScript_undeclared :
    (reviewBy textRules commentedSource = [] ∧ ¬DeclaresEntryPoint (toScript commentedSource)) ∧
      reviewBy textRules swallowedSource = [] ∧ ¬DeclaresEntryPoint (toScript swallowedSource) := by
  have undeclared {t : Text} (none : Text.contains entryWords t = false) : ¬DeclaresEntryPoint t := fun declares =>
    Bool.false_ne_true (none.symm.trans declares.contains_entryWords)
  refine ⟨⟨?_, undeclared ?_⟩, ?_, undeclared ?_⟩
  all_goals
    simp only [commentedSource, swallowedSource, Text.ofString_eq rfl]
    decide +kernel

end LessonService.Script
