import LessonService.Proofs.Text.Occurrence
import LessonService.Proofs.Text.Scanning
import LessonService.Script.Plain

namespace LessonService.Script

open Pattern

/-- Everything that goes when imports are removed, pass by pass. -/
def removedImports (source : Text) : List Text :=
  importFrom.findAll source ++ importForEffect.findAll (importFrom.remove source)

/-- The module that something removed names: what stands between its last quotes. -/
def removedTarget (found : Text) : Text := importTarget (Text.trimRight (fun c => !isQuote c) found)

def Quoteless (t : Text) : Prop := ∀ c ∈ t, isQuote c = false

instance (t : Text) : Decidable (Quoteless t) := inferInstanceAs (Decidable (∀ c ∈ t, _))

/-- What stands in the first quotes of a text. -/
def firstQuoted (t : Text) : Text := ((t.dropWhile fun c => !isQuote c).drop 1).takeWhile fun c => !isQuote c

section Quotes

variable {lead name rest : Text} {opening closing : CodePoint}

theorem Quoteless.append {a b : Text} (first : Quoteless a) (second : Quoteless b) : Quoteless (a ++ b) :=
  List.forall_mem_append.mpr ⟨first, second⟩

theorem takeWhile_quoteless (quoteless : Quoteless name) (closes : isQuote closing = true) :
    (name ++ closing :: rest).takeWhile (fun c => !isQuote c) = name := by
  rw [List.takeWhile_append_of_pos (by simpa [Quoteless] using quoteless)]
  simp [closes]

theorem firstQuoted_eq (quoteless : Quoteless lead) (opens : isQuote opening = true) (plain : Quoteless name)
    (closes : isQuote closing = true) : firstQuoted (lead ++ opening :: (name ++ closing :: rest)) = name := by
  have start : (lead ++ opening :: (name ++ closing :: rest)).dropWhile (fun c => !isQuote c)
      = opening :: (name ++ closing :: rest) := by
    rw [List.dropWhile_append_of_pos (by simpa [Quoteless] using quoteless)]
    simp [opens]
  rw [firstQuoted, start, List.drop_one, List.tail_cons, takeWhile_quoteless plain closes]

/-- An import up to its closing quote names what its quotes hold. -/
theorem importTarget_eq (opens : isQuote opening = true) (plain : Quoteless name) :
    importTarget (lead ++ opening :: (name ++ [closing])) = name := by
  have within : (lead ++ opening :: (name ++ [closing])).dropLast = lead ++ opening :: name := by
    rw [show lead ++ opening :: (name ++ [closing]) = lead ++ opening :: name ++ [closing] by simp,
      List.dropLast_concat]
  have reversed : Quoteless name.reverse := fun c member => plain c (List.mem_reverse.mp member)
  rw [importTarget, within, ending, List.reverse_append, List.reverse_cons, List.append_assoc,
    List.singleton_append, takeWhile_quoteless reversed opens, List.reverse_reverse]

theorem removedTarget_eq (opens : isQuote opening = true) (plain : Quoteless name)
    (closes : isQuote closing = true) (quoteless : Quoteless rest) :
    removedTarget (lead ++ opening :: (name ++ closing :: rest)) = name := by
  have trimmed : Text.trimRight (fun c => !isQuote c) (lead ++ opening :: (name ++ closing :: rest))
      = lead ++ opening :: (name ++ [closing]) := by
    have reversed : ∀ c ∈ rest.reverse, (!isQuote c) = true := by
      simpa [Quoteless] using quoteless
    rw [Text.trimRight, show lead ++ opening :: (name ++ closing :: rest)
        = lead ++ opening :: (name ++ [closing]) ++ rest by simp, List.reverse_append,
      List.dropWhile_append_of_pos reversed]
    simp [closes]
  rw [removedTarget, trimmed, importTarget_eq opens plain]

end Quotes

theorem isQuote_iff {c : CodePoint} : isQuote c = true ↔ c = '"' ∨ c = '\'' := by
  have marks : "\"'".toList = ['"', '\''] := by decide
  rw [isQuote, charIn_iff marks]
  simp [eq_comm]

theorem isQuote_eq_false_of {holds : CodePoint → Bool} (double : holds '"' = false) (single : holds '\'' = false)
    {c : CodePoint} (member : holds c = true) : isQuote c = false := by
  rw [Bool.eq_false_iff, Ne, isQuote_iff]
  rintro (rfl | rfl)
  · exact Bool.false_ne_true (double.symm.trans member)
  · exact Bool.false_ne_true (single.symm.trans member)

theorem isQuote_of_isBlank {c : CodePoint} : c.isBlank = true → isQuote c = false :=
  isQuote_eq_false_of (by decide) (by decide)

theorem isQuote_of_isClauseCharacter {c : CodePoint} : isClauseCharacter c = true → isQuote c = false :=
  isQuote_eq_false_of (by decide +kernel) (by decide +kernel)

/-- An import up to the quotes of its module. -/
def importLead : List Pattern := [
  lineStart, blanks, exactly "import", someBlanks, optional (both (exactly "type") someBlanks),
  optional (seq [fewest isClauseCharacter 1, someBlanks, exactly "from", someBlanks])]

theorem importLead_within : (seq importLead).Within fun c => isQuote c = false := by
  have blank : ∀ c : CodePoint, c.isBlank = true → isQuote c = false := fun c => isQuote_of_isBlank
  have clause : ∀ c, isClauseCharacter c = true → isQuote c = false := fun c => isQuote_of_isClauseCharacter
  have optionalType : (optional (both (exactly "type") someBlanks)).Within fun c => isQuote c = false :=
    ⟨⟨within_exactly (by decide), blank⟩, trivial⟩
  have optionalClause : (optional (seq [fewest isClauseCharacter 1, someBlanks, exactly "from", someBlanks])).Within
      fun c => isQuote c = false :=
    ⟨⟨clause, blank, within_exactly (by decide), blank⟩, trivial⟩
  exact ⟨trivial, blank, within_exactly (by decide), blank, optionalType, optionalClause⟩

section StaticImport

variable {previous : Option CodePoint} {found after : Text}

theorem matches_quoted : quoted.Matches previous found after ↔
    ∃ opening name closing, found = opening :: (name ++ [closing]) ∧ isQuote opening = true ∧ name ≠ [] ∧
      Quoteless name ∧ isQuote closing = true := by
  constructor
  · rintro ⟨_, _, rfl, ⟨opening, rfl, opens⟩, name, _, rfl, ⟨long, plain⟩, closing, rfl, closes⟩
    exact ⟨opening, name, closing, rfl, opens, List.length_pos_iff.mp long, by simpa [Quoteless] using plain, closes⟩
  · rintro ⟨opening, name, closing, rfl, opens, filled, plain, closes⟩
    exact ⟨[opening], _, rfl, ⟨opening, rfl, opens⟩, name, [closing], rfl,
      ⟨List.length_pos_iff.mpr filled, by simpa [Quoteless] using plain⟩, closing, rfl, closes⟩

/-- What counts as an import is its lead and its quotes. -/
theorem matches_staticImport : staticImport.Matches previous found after ↔
    ∃ lead name, found = lead ++ name ∧ (seq importLead).Matches previous lead (name ++ after) ∧
      quoted.Matches (lead.getLast?.or previous) name after :=
  matches_seq_append lineStart quoted importLead.tail []

/-- What counts as an import ends with the first quotes in it. -/
theorem exists_quotes_of_matches (match_ : staticImport.Matches previous found after) :
    ∃ lead opening name closing, found = lead ++ opening :: (name ++ [closing]) ∧ Quoteless lead ∧
      isQuote opening = true ∧ Quoteless name ∧ isQuote closing = true := by
  obtain ⟨lead, _, rfl, matchesLead, matchesQuoted⟩ := matches_staticImport.mp match_
  obtain ⟨opening, name, closing, rfl, opens, -, plain, closes⟩ := matches_quoted.mp matchesQuoted
  exact ⟨lead, opening, name, closing, rfl, importLead_within.of_matches matchesLead, opens, plain, closes⟩

end StaticImport

/-- One or more blanks. -/
def IsGap (t : Text) : Prop := t ≠ [] ∧ ∀ c ∈ t, c.isBlank = true

instance (t : Text) : Decidable (IsGap t) := inferInstanceAs (Decidable (t ≠ [] ∧ ∀ c ∈ t, c.isBlank = true))

/-- What stands before the quotes of an import that brings in names: the names, and `from` between blanks. -/
def IsClause (t : Text) : Prop :=
  ∃ names before after, t = names ++ before ++ "from" ++ after ∧ names ≠ [] ∧
    (∀ c ∈ names, isClauseCharacter c = true) ∧ IsGap before ∧ IsGap after

/-- An import that is written plainly, with what follows it on its line. -/
structure PlainImport where
  indent : Text
  gap : Text
  clause : Text
  opening : CodePoint
  target : Text
  closing : CodePoint
  rest : Text
  indent_blank : ∀ c ∈ indent, c.isBlank = true
  isGap : IsGap gap
  isClause : clause = [] ∨ IsClause clause
  opens : isQuote opening = true
  target_ne_nil : target ≠ []
  quoteless : Quoteless target
  closes : isQuote closing = true
  rest_quoteless : Quoteless rest

namespace PlainImport

variable (i : PlainImport)

/-- What stands before its quotes. -/
def lead : Text := i.indent ++ "import" ++ i.gap ++ i.clause

def text : Text := i.lead ++ i.opening :: (i.target ++ i.closing :: i.rest)

theorem removedTarget_text : removedTarget i.text = i.target :=
  removedTarget_eq i.opens i.quoteless i.closes i.rest_quoteless

theorem matches_gap {gap : Text} {previous : Option CodePoint} {after : Text} (isGap : IsGap gap) :
    someBlanks.Matches previous gap after :=
  ⟨List.length_pos_iff.mpr isGap.1, isGap.2⟩

theorem matches_clause {clause : Text} {previous : Option CodePoint} {after : Text}
    (isClause : clause = [] ∨ IsClause clause) :
    (optional (seq [fewest isClauseCharacter 1, someBlanks, exactly "from", someBlanks])).Matches previous clause after := by
  rcases isClause with none | ⟨names, first, second, rfl, filled, all, isFirst, isSecond⟩
  · exact .inr none
  · refine .inl ⟨names, first ++ ("from" ++ second), by simp, ⟨List.length_pos_iff.mpr filled, all⟩, ?_⟩
    exact ⟨first, _, rfl, matches_gap isFirst, "from", second, rfl, (matches_exactly _).mpr rfl, matches_gap isSecond⟩

theorem matches_lead {previous : Option CodePoint} {after : Text} (start : ∀ c ∈ previous, c = ('\n' : CodePoint)) :
    (seq importLead).Matches previous i.lead after := by
  have atStart : lineStart.Matches previous [] (i.lead ++ after) := by
    refine ⟨rfl, ?_⟩
    cases previous with
    | none => rfl
    | some c => exact decide_eq_true (congrArg CodePoint.value (start c rfl))
  refine ⟨[], i.lead, rfl, atStart, i.indent, "import" ++ (i.gap ++ i.clause), by simp [lead],
    ⟨Nat.zero_le _, i.indent_blank⟩, "import", _, rfl, (matches_exactly _).mpr rfl, i.gap, _, rfl,
    matches_gap i.isGap, [], i.clause, rfl, .inr rfl, matches_clause i.isClause⟩

theorem matches_text {previous : Option CodePoint} {after : Text} (start : ∀ c ∈ previous, c = ('\n' : CodePoint)) :
    staticImport.Matches previous (i.lead ++ i.opening :: (i.target ++ [i.closing])) after := by
  refine matches_staticImport.mpr ⟨i.lead, _, rfl, i.matches_lead start, ?_⟩
  exact matches_quoted.mpr ⟨_, _, _, rfl, i.opens, i.target_ne_nil, i.quoteless, i.closes⟩

theorem quoteless_lead : Quoteless i.lead := by
  have matchesLead : (seq importLead).Matches none i.lead [] := i.matches_lead nofun
  exact importLead_within.of_matches matchesLead

theorem firstQuoted_text (after : Text) : firstQuoted (i.text ++ after) = i.target := by
  rw [text, List.append_assoc, List.cons_append, List.append_assoc, List.cons_append]
  exact firstQuoted_eq i.quoteless_lead i.opens i.quoteless i.closes

end PlainImport

/-- Where a line starts after a quote, a line feed stands between. -/
theorem lineFeed_mem {lead name : Text} {opening : CodePoint} (opens : isQuote opening = true)
    (start : ∀ c ∈ (lead ++ opening :: name).getLast?, c = ('\n' : CodePoint)) : ('\n' : CodePoint) ∈ name := by
  rcases List.eq_nil_or_concat name with rfl | ⟨shorter, last, rfl⟩
  · have same : opening = ('\n' : CodePoint) := start opening (by simp)
    rw [same] at opens
    exact absurd opens (by decide)
  · have split : lead ++ opening :: (shorter ++ [last]) = lead ++ opening :: shorter ++ [last] := by simp
    rw [List.concat_eq_append, split, List.getLast?_concat] at start
    simp [start last rfl]

section Within

variable {before rest earlier lead name later : Text} {opening closing : CodePoint}

/-- From the lead of an import on, its name is the first in quotes. -/
theorem firstQuoted_of_within (parted : before ++ rest = earlier ++ (lead ++ opening :: (name ++ closing :: later)))
    (lower : earlier.length ≤ before.length) (upper : before.length ≤ (earlier ++ lead).length)
    (quoteless : Quoteless lead) (opens : isQuote opening = true) (plain : Quoteless name)
    (closes : isQuote closing = true) : firstQuoted rest = name := by
  obtain ⟨middle, crossing, rfl⟩ := exists_append_of_length_le (parted.trans (List.append_assoc _ _ _).symm) upper
  obtain ⟨_, -, rfl⟩ := exists_append_of_length_le crossing lower
  have first : Quoteless middle := fun c inMiddle => quoteless c (List.mem_append_right _ inMiddle)
  exact firstQuoted_eq first opens plain closes

/-- A line that starts between the quotes of an import starts after a line feed in its name. -/
theorem lineFeed_mem_of_within (parted : before ++ rest = earlier ++ (lead ++ opening :: (name ++ closing :: later)))
    (lower : (earlier ++ lead).length < before.length) (upper : before.length ≤ (earlier ++ lead).length + name.length + 1)
    (opens : isQuote opening = true) (start : ∀ c ∈ before.getLast?, c = ('\n' : CodePoint)) :
    ('\n' : CodePoint) ∈ name := by
  have opened : (earlier ++ lead ++ [opening]) ++ (name ++ closing :: later) = before ++ rest := by simp [parted]
  have longer : (earlier ++ lead ++ [opening]).length ≤ before.length := by
    rw [List.length_append]
    exact lower
  obtain ⟨middle, rfl, tail⟩ := exists_append_of_length_le opened longer
  have short : middle.length ≤ name.length := by
    simp only [List.length_append, List.length_singleton] at upper
    omega
  obtain ⟨_, rfl, -⟩ := exists_append_of_length_le tail.symm short
  rw [List.append_assoc, List.singleton_append] at start
  exact List.mem_append_left _ (lineFeed_mem opens start)

end Within

namespace PlainImport

/-- A search for imports goes on from the start of a plain one. -/
theorem exists_end (i : PlainImport) {previous : Option CodePoint} (after : Text)
    (start : ∀ c ∈ previous, c = ('\n' : CodePoint)) :
    ∃ e, staticImport.end? ⟨previous, i.text ++ after⟩ = some e ∧ e.rest.length < (i.text ++ after).length := by
  have goes : (staticImport.end? ⟨previous, i.text ++ after⟩).isSome = true := by
    rw [end?_isSome_iff]
    exact ⟨_, i.rest ++ after, by simp [text], i.matches_text start⟩
  obtain ⟨e, ends⟩ := Option.isSome_iff_exists.mp goes
  obtain ⟨⟨split, -⟩, match_⟩ := end?_eq_some ends
  obtain ⟨lead, opening, name, closing, same, -⟩ := exists_quotes_of_matches match_
  rw [same] at split
  have lengths := congrArg List.length split
  refine ⟨e, ends, ?_⟩
  simp only [List.length_append, List.length_cons] at lengths ⊢
  omega

/-- An import that is written plainly at the start of a line is among the modules that the source asks for, or
it stands between the quotes of another one. -/
theorem mem_targets (i : PlainImport) {source before after : Text} (text : source = before ++ i.text ++ after)
    (start : ∀ c ∈ before.getLast?, c = ('\n' : CodePoint)) :
    i.target ∈ targets source ∨ ∃ target ∈ targets source, ('\n' : CodePoint) ∈ target := by
  rw [List.append_assoc] at text
  have previous : ∀ c ∈ before.getLast?.or none, c = ('\n' : CodePoint) := by simpa using start
  obtain ⟨e, ends, shorter⟩ := i.exists_end after previous
  obtain ⟨earlier, found, later, parted, member, match_, lower, upper⟩ := findsAround_of_end? ends shorter
  obtain ⟨lead, opening, name, closing, rfl, quoteless, opens, plain, closes⟩ := exists_quotes_of_matches match_
  rw [← text] at member
  have seen : name ∈ targets source :=
    List.mem_append_left _ (List.mem_map.mpr ⟨_, mem_findAll.mpr member, importTarget_eq opens plain⟩)
  have around : before ++ (i.text ++ after) = earlier ++ (lead ++ opening :: (name ++ closing :: later)) := by
    simpa using parted
  by_cases position : before.length ≤ (earlier ++ lead).length
  · have first := firstQuoted_of_within around lower position quoteless opens plain closes
    rw [i.firstQuoted_text] at first
    exact .inl (first ▸ seen)
  · have inside : before.length ≤ (earlier ++ lead).length + name.length + 1 := by
      simp only [List.length_append, List.length_cons, List.length_nil] at upper ⊢
      omega
    exact .inr ⟨name, seen, lineFeed_mem_of_within around (Nat.lt_of_not_le position) inside opens start⟩

end PlainImport

/-- An import that the first pass removes stands at the start of a line. -/
theorem lineStart_of_importFrom {source found : Text} (removed : found ∈ importFrom.findAll source) :
    ∃ before after, source = before ++ found ++ after ∧ ∀ c ∈ before.getLast?, c = ('\n' : CodePoint) := by
  obtain ⟨before, after, text, match_⟩ := matches_of_found (mem_findAll.mp removed)
  obtain ⟨_, _, -, ⟨-, start⟩, -⟩ := (matches_seq_cons _ _ _).mp match_
  refine ⟨before, after, text, fun c last => ?_⟩
  rw [Option.or_none, Option.mem_def.mp last] at start
  obtain ⟨value⟩ := c
  exact congrArg CodePoint.mk (of_decide_eq_true start)

/-- Whatever is removed from a source is of the provided module or among the foreign modules of the source. -/
def SeesRemovals (source : Text) : Prop :=
  ∀ found ∈ removedImports source, removedTarget found = providedModule ∨ removedTarget found ∈ foreignTargets source

instance (source : Text) : Decidable (SeesRemovals source) :=
  inferInstanceAs (Decidable (∀ found ∈ removedImports source, _))

/-- It goes unseen without a blank after `import`, without one before the quotes, and after another import on
its line. -/
theorem removedImports_unseen :
    ¬SeesRemovals "import\"lodash\";\n" ∧ ¬SeesRemovals "import all from\"lodash\";\n" ∧
      ¬SeesRemovals "import React from \"react\"; import \"lodash\";\n" := by
  simp only [Text.ofString_eq rfl]
  decide +kernel

/-- A plain import that is removed, in the first pass or from the start of a line of the source, is of the
provided module or is seen, or another module is seen whose quotes the import stands between. In any case a
source of which no foreign module is seen loses no plain import of one. -/
theorem removedImports_seen (source : Text) (i : PlainImport)
    (removed : i.text ∈ importFrom.findAll source ∨ i.text ∈ importForEffect.findAll (importFrom.remove source) ∧
      ∃ before after, source = before ++ i.text ++ after ∧ ∀ c ∈ before.getLast?, c = ('\n' : CodePoint)) :
    i.text ∈ removedImports source ∧ removedTarget i.text = i.target ∧
      (i.target = providedModule ∨ i.target ∈ foreignTargets source ∨
        ∃ target ∈ foreignTargets source, ('\n' : CodePoint) ∈ target) := by
  have foreign {target : Text} (asked : target ∈ targets source) (other : target ≠ providedModule) :
      target ∈ foreignTargets source := List.mem_filter.mpr ⟨asked, decide_eq_true other⟩
  obtain ⟨before, after, text, start⟩ : ∃ before after, source = before ++ i.text ++ after ∧
      ∀ c ∈ before.getLast?, c = ('\n' : CodePoint) :=
    removed.elim lineStart_of_importFrom And.right
  refine ⟨List.mem_append.mpr (removed.imp_right And.left), i.removedTarget_text, ?_⟩
  rcases i.mem_targets text start with asked | ⟨target, asked, broken⟩
  · by_cases provided : i.target = providedModule
    · exact .inl provided
    · exact .inr (.inl (foreign asked provided))
  · refine .inr (.inr ⟨target, foreign asked ?_, broken⟩)
    rintro rfl
    exact absurd broken (by decide)

/-- An import of all that a module holds. -/
def namespaceImport : PlainImport where
  indent := []
  gap := " "
  clause := "* as all from "
  opening := '"'
  target := "lodash"
  closing := '"'
  rest := ";\n"
  indent_blank := by decide
  isGap := by decide
  isClause := .inr ⟨"* as all", " ", " ", by decide, by decide, by decide +kernel, by decide, by decide⟩
  opens := by decide
  target_ne_nil := by decide
  quoteless := by decide
  closes := by decide
  rest_quoteless := by decide

def namespaceSource : Text := "import React from \"react\";\nimport * as all from \"lodash\";\n"

theorem removedImports_seen_namespace :
    namespaceImport.text ∈ removedImports namespaceSource ∧ removedTarget namespaceImport.text = "lodash" ∧
      (namespaceImport.target = providedModule ∨ namespaceImport.target ∈ foreignTargets namespaceSource ∨
        ∃ target ∈ foreignTargets namespaceSource, ('\n' : CodePoint) ∈ target) := by
  have removed : namespaceImport.text ∈ importFrom.findAll namespaceSource := by
    simp only [namespaceImport, namespaceSource, PlainImport.text, PlainImport.lead, Text.ofString_eq rfl]
    decide +kernel
  exact removedImports_seen namespaceSource namespaceImport (.inl removed)

end LessonService.Script
