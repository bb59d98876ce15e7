import LessonService.Proofs.Script.ImportLines
import LessonService.Script.Imports

namespace LessonService.Script

open Pattern Review

/-- White space within a line: among it the mark U+FEFF, which is no blank. -/
def isSpacing (c : CodePoint) : Bool :=
  c.value ∈ [0x09, 0x0B, 0x0C, 0x20, 0xA0, 0x1680, 0x2000, 0x2001, 0x2002, 0x2003, 0x2004, 0x2005, 0x2006, 0x2007, 0x2008,
    0x2009, 0x200A, 0x202F, 0x205F, 0x3000, 0xFEFF]

def isLineTerminator (c : CodePoint) : Bool := c.value ∈ [0x0A, 0x0D, 0x2028, 0x2029]

/-- What a declaration names, and the word `from` with the spacing around it. Only braces need none before it. -/
structure FromClause where
  names : Text
  before : Text
  after : Text
  named : ∀ c ∈ names, isLineTerminator c = false
  spacedBefore : ∀ c ∈ before, isSpacing c = true
  spacedAfter : ∀ c ∈ after, isSpacing c = true
  parted : before = [] → names.getLast? = some ('\x7d' : CodePoint)

def FromClause.text (k : FromClause) : Text := k.names ++ k.before ++ "from" ++ k.after

/-- A declaration that imports the provided module. The word `import` needs no spacing before a quote, a brace or an
asterisk. -/
structure Declaration where
  gap : Text
  clause : Option FromClause
  quote : CodePoint
  ending : Text
  spaced : ∀ c ∈ gap, isSpacing c = true
  parted : gap = [] → ∀ k ∈ clause, k.names.head? = some ('\x7b' : CodePoint) ∨ k.names.head? = some ('*' : CodePoint)
  quoted : isQuote quote = true
  ended : ∀ c ∈ ending, isLineTerminator c = false

namespace Declaration

def lead (d : Declaration) : Text := d.gap ++ (d.clause.elim [] FromClause.text)

def text (d : Declaration) : Text := "import" ++ d.lead ++ d.quote :: (providedModule ++ d.quote :: d.ending)

/-- Blanks stand where the removal looks for them. -/
def IsSpaced (d : Declaration) : Prop :=
  match d.clause with
  | none => ∀ c ∈ d.gap, c.isBlank = true
  | some k => (∃ c ∈ d.gap.head?, c.isBlank = true) ∧ ∀ c ∈ k.after, c.isBlank = true

/-- Names stand right after the word `import`, or something that is no blank parts it from what follows. -/
def IsTight (d : Declaration) : Prop := (d.gap = [] → d.clause ≠ none) ∧ ∀ c ∈ d.gap.head?, c.isBlank = false

end Declaration

variable {c : CodePoint} {d : Declaration}

theorem isSpacing_plain (spacing : isSpacing c = true) :
    isLineTerminator c = false ∧ c.isWord = false ∧ isQuote c = false := by
  have all : ∀ n ∈ [0x09, 0x0B, 0x0C, 0x20, 0xA0, 0x1680, 0x2000, 0x2001, 0x2002, 0x2003, 0x2004, 0x2005, 0x2006, 0x2007,
      0x2008, 0x2009, 0x200A, 0x202F, 0x205F, 0x3000, 0xFEFF], isLineTerminator ⟨n⟩ = false ∧
        (CodePoint.mk n).isWord = false ∧ isQuote ⟨n⟩ = false := by decide +kernel
  exact all c.value (of_decide_eq_true spacing)

theorem isLineTerminator_of_isQuote (quote : isQuote c = true) : isLineTerminator c = false := by
  rcases isQuote_iff.mp quote with rfl | rfl <;> decide

namespace Declaration

theorem oneLine (d : Declaration) : ∀ c ∈ d.text, isLineTerminator c = false := by
  have gapped : ∀ c ∈ d.gap, isLineTerminator c = false := fun c member => (isSpacing_plain (d.spaced c member)).1
  have clauses : ∀ c ∈ d.clause.elim [] FromClause.text, isLineTerminator c = false := by
    cases d.clause with
    | none => exact List.forall_mem_nil _
    | some k =>
      simp only [Option.elim_some, FromClause.text, List.forall_mem_append]
      exact ⟨⟨⟨k.named, fun c member => (isSpacing_plain (k.spacedBefore c member)).1⟩, by decide⟩,
        fun c member => (isSpacing_plain (k.spacedAfter c member)).1⟩
  have quote := isLineTerminator_of_isQuote d.quoted
  simp only [text, lead, List.forall_mem_append, List.forall_mem_cons]
  exact ⟨⟨by decide, gapped, clauses⟩, quote, by decide, quote, d.ended⟩

theorem exists_cons (d : Declaration) : ∃ rest, d.text = ('i' : CodePoint) :: rest :=
  ⟨"mport" ++ d.lead ++ d.quote :: (providedModule ++ d.quote :: d.ending), rfl⟩

theorem isImport (d : Declaration) {isClause : Text → Prop} (clauses : isClause d.lead) : IsImport isClause d.text :=
  ⟨[], d.lead, providedModule, d.ending, d.quote, d.quote, rfl, nofun, clauses, d.quoted, by decide, by decide, d.quoted⟩

/-- The word `from` has an edge before it. -/
theorem isFromClause {k : FromClause} {first : CodePoint} {gap : Text} (blank : first.isBlank = true)
    (after : ∀ c ∈ k.after, c.isBlank = true) : IsFromClause (first :: gap ++ k.text) := by
  refine ⟨[first], gap ++ k.names ++ k.before, k.after, by simp [FromClause.text], ⟨List.cons_ne_nil _ _, by simpa⟩, ?_,
    after⟩
  rcases List.eq_nil_or_concat' k.before with empty | ⟨front, last, split⟩
  · rw [empty, List.append_nil, ← List.append_assoc, List.getLast?_append, k.parted empty, Option.some_or]
    decide
  · rw [split, ← List.append_assoc, ← List.append_assoc, List.getLast?_concat]
    exact (isSpacing_plain (k.spacedBefore last (by simp [split]))).2.1

/-- A declaration with blanks where the removal looks for them is found by one of its two patterns. -/
theorem exists_starts (spaced : d.IsSpaced) : ∃ p ∈ [importFrom, importForEffect], ∀ previous t, IsLineStart previous →
    p.Starts previous (d.text ++ t) := by
  rw [IsSpaced] at spaced
  cases kind : d.clause with
  | none =>
    rw [kind] at spaced
    refine ⟨importForEffect, by simp, fun previous t start => ?_⟩
    rw [importForEffect_eq]
    refine starts_of_isImport matches_blankClause start (d.isImport ?_)
    rw [lead, kind, Option.elim_none, List.append_nil]
    exact spaced
  | some k =>
    rw [kind] at spaced
    obtain ⟨⟨first, head, blank⟩, after⟩ := spaced
    obtain ⟨gap, split⟩ := List.head?_eq_some_iff.mp head
    refine ⟨importFrom, by simp, fun previous t start => ?_⟩
    rw [importFrom_eq]
    refine starts_of_isImport matches_fromClause start (d.isImport ?_)
    rw [lead, kind, Option.elim_some, split]
    exact isFromClause blank after

/-- Where no blank stands after the word `import`, a quote does not stand there either. -/
theorem exists_of_isTight (tight : d.IsTight) :
    ∃ (c : CodePoint) (rest : Text), d.text = "import" ++ c :: rest ∧ c.isBlank = false ∧ isQuote c = false := by
  obtain ⟨named, unblank⟩ := tight
  cases gap : d.gap with
  | cons c more =>
    rw [gap] at unblank
    refine ⟨c, more ++ d.clause.elim [] FromClause.text ++ d.quote :: (providedModule ++ d.quote :: d.ending),
      by simp [text, lead, gap], unblank c rfl, ?_⟩
    exact (isSpacing_plain (d.spaced c (by simp [gap]))).2.2
  | nil =>
    obtain ⟨k, kind⟩ := Option.ne_none_iff_exists'.mp (named gap)
    obtain ⟨c, head, mark⟩ : ∃ c, k.names.head? = some c ∧ (c = '\x7b' ∨ c = '*') := by
      rcases d.parted gap k kind with brace | asterisk
      · exact ⟨_, brace, .inl rfl⟩
      · exact ⟨_, asterisk, .inr rfl⟩
    obtain ⟨more, split⟩ := List.head?_eq_some_iff.mp head
    refine ⟨c, more ++ (k.before ++ ("from" ++ k.after)) ++ d.quote :: (providedModule ++ d.quote :: d.ending),
      by simp [text, lead, gap, kind, FromClause.text, split], ?_⟩
    rcases mark with rfl | rfl <;> decide

theorem not_starts_of_isTight {p : Pattern} (among : p ∈ [importFrom, importForEffect]) (tight : d.IsTight)
    (previous : Option CodePoint) (t : Text) : ¬p.Starts previous (d.text ++ t) := by
  rintro ⟨found, after, same, -, match_⟩
  obtain ⟨-, indent, rest, c, rfl, indented, goesOn⟩ := shape_of_import among match_
  obtain ⟨e, more, text, unblank, unquoted⟩ := exists_of_isTight tight
  rw [text] at same
  cases indent with
  | cons c indent =>
    have first : ('i' : CodePoint) = c := by
      rw [Text.ofString_eq rfl] at same
      exact (List.cons.inj same).1
    have blank : charIn " \t" c = true := indented c List.mem_cons_self
    rw [← first] at blank
    exact absurd blank (by decide)
  | nil =>
    have next : e = c := by
      rw [List.nil_append, List.append_assoc, List.append_assoc, List.append_cancel_left_eq] at same
      exact (List.cons.inj same).1
    rw [next] at unblank unquoted
    rcases goesOn with blank | quote
    · exact Bool.false_ne_true (unblank.symm.trans blank)
    · exact Bool.false_ne_true (unquoted.symm.trans quote)

end Declaration

theorem importPatterns_startsLines : ∀ p ∈ [importFrom, importForEffect], p.StartsLines := by
  intro p among
  refine ⟨fun previous found after match_ => (shape_of_import among match_).1, not_matches_nil ?_⟩
  rcases List.mem_pair.mp among with rfl | rfl <;> decide

/-- At the start of a line, a declaration with blanks after its words is removed, so that it is left only if the text has
it a second time. A declaration with no blank after the word `import` is left, unless an import stands before it. -/
theorem infix_withoutImports (d : Declaration) {before after : Text} (start : IsLineStart before.getLast?)
    (next : ∃ c ∈ after.head?, isLineTerminator c = true) :
    (d.IsSpaced → ¬d.text <:+: before → ¬d.text <:+: after → ¬d.text <:+: withoutImports (before ++ d.text ++ after)) ∧
      (d.IsTight → (∀ line ∈ Text.splitOn '\n' before, beginsWithImport line = false) →
        d.text <:+: withoutImports (before ++ d.text ++ after)) := by
  obtain ⟨c, head, terminates⟩ := next
  obtain ⟨after, rfl⟩ := List.head?_eq_some_iff.mp head
  have absent {e : CodePoint} (terminates : isLineTerminator e = true) : e ∉ d.text := fun member =>
    Bool.false_ne_true ((d.oneLine e member).symm.trans terminates)
  have unbroken : ('\n' : CodePoint) ∉ d.text := absent (by decide)
  obtain ⟨rest, text⟩ := d.exists_cons
  constructor
  · intro spaced notBefore notAfter left
    have starts : ∃ p ∈ [importFrom, importForEffect], ∀ previous t, IsLineStart previous →
        p.Starts previous (d.text ++ c :: t) := by
      obtain ⟨p, among, met⟩ := Declaration.exists_starts spaced
      exact ⟨p, among, fun previous t => met previous (c :: t)⟩
    have whole : d.text <:+: removeAll [importFrom, importForEffect] (before ++ (d.text ++ c :: after)) := by
      rwa [← List.append_assoc]
    rw [text] at notBefore notAfter unbroken starts whole absent
    rcases infix_of_removeAll importPatterns_startsLines unbroken (absent terminates) start starts whole with inFirst | inSecond
    · exact notBefore inFirst
    · exact notAfter (inSecond.trans (List.suffix_cons c after).isInfix)
  · intro tight plain
    -- No import starts up to the end of the line, whatever comes after it.
    have passes {p : Pattern} (among : p ∈ [importFrom, importForEffect]) (t : Text) :
        p.Passes none (before ++ (d.text ++ [c])) t := by
      refine (passes_body among plain (.inr start)).append ?_
      have here := Declaration.not_starts_of_isTight among tight (before.getLast?.or none) ([c] ++ t)
      rw [text, List.cons_append, passes_cons]
      rw [text] at here unbroken
      exact ⟨by simpa using here, (importPatterns_startsLines p among).passes unbroken⟩
    have whole : before ++ d.text ++ c :: after = (before ++ (d.text ++ [c])) ++ after := by simp
    obtain ⟨left, removed⟩ : ∃ left, withoutImports (before ++ (d.text ++ [c]) ++ after)
        = before ++ (d.text ++ [c]) ++ left := exists_removeAll_append (fun p among t => passes among t) after
    rw [whole, removed]
    exact ⟨before, [c] ++ left, by simp⟩

theorem isQuote_double : isQuote '"' = true := by decide

/-- The import of a default, with one space between the words. -/
def defaultImport : Declaration where
  gap := " "
  clause := some ⟨"React", " ", " ", by decide, by decide, by decide, nofun⟩
  quote := '"'
  ending := ";"
  spaced := by decide
  parted := nofun
  quoted := isQuote_double
  ended := by decide

/-- The import of a name in braces, with no space at all. -/
def bracedImport : Declaration where
  gap := []
  clause := some ⟨"\x7buseState\x7d", [], [], by decide, nofun, nofun, fun _ => by decide⟩
  quote := '\''
  ending := ";"
  spaced := nofun
  parted := by
    rintro - _ ⟨⟩
    exact .inl (by decide)
  quoted := by decide
  ended := by decide

theorem infix_withoutImports_default :
    (defaultImport.IsSpaced ∧ ¬defaultImport.text <:+: withoutImports ("const a = 1;\n" ++ defaultImport.text ++ "\n")) ∧
      bracedImport.IsTight ∧ bracedImport.text <:+: withoutImports ("const a = 1;\n" ++ bracedImport.text ++ "\n") := by
  have spaced : defaultImport.IsSpaced := ⟨⟨_, rfl, by decide⟩, by decide⟩
  have tight : bracedImport.IsTight := ⟨nofun, nofun⟩
  have start : IsLineStart (Text.ofString "const a = 1;\n").getLast? := by
    rw [Text.ofString_eq rfl]
    exact isLineStart_feed
  refine ⟨⟨spaced, (infix_withoutImports defaultImport start ⟨_, rfl, by decide⟩).1 spaced ?_ ?_⟩, tight,
    (infix_withoutImports bracedImport start ⟨_, rfl, by decide⟩).2 tight ?_⟩
  · rw [← Text.contains_eq_false_iff]
    decide +kernel
  · rw [← Text.contains_eq_false_iff]
    decide +kernel
  · decide +kernel

/-- Without a space, the whole text stays as it is. -/
theorem withoutImports_braced :
    bracedImport.text = "import\x7buseState\x7dfrom'react';" ∧
      withoutImports (bracedImport.text ++ "\n") = bracedImport.text ++ "\n" ∧
      bracedImport.text <:+: withoutImports (bracedImport.text ++ "\n") := by
  have same : withoutImports (bracedImport.text ++ "\n") = bracedImport.text ++ "\n" := by
    decide +kernel
  refine ⟨by decide, same, ?_⟩
  rw [same]
  exact (List.prefix_append _ _).isInfix

end LessonService.Script
