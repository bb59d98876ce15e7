import LessonService.Proofs.Script.EntryPoint
import LessonService.Proofs.Text.AnyCase
import LessonService.Proofs.Text.LineStarts
import Mathlib.Data.List.Forall2

namespace LessonService.Script

open Pattern Review

abbrev lineBreak : CodePoint := '\n'

/-- A line of text, without anything that belongs to mark-up or to an expression. -/
def IsTextLine (t : Text) : Prop := ∀ c ∈ t, charIn "<>\x7b\x7d&\n\r" c = false

instance (t : Text) : Decidable (IsTextLine t) := inferInstanceAs (Decidable (∀ c ∈ t, _))

theorem isTextLine_append {a b : Text} : IsTextLine (a ++ b) ↔ IsTextLine a ∧ IsTextLine b := List.forall_mem_append

theorem IsTextLine.notMem {t : Text} {c : CodePoint} (line : IsTextLine t) (mark : charIn "<>\x7b\x7d&\n\r" c = true) :
    c ∉ t := fun member => Bool.false_ne_true ((line c member).symm.trans mark)

def IsIndent (t : Text) : Prop := ∀ c ∈ t, charIn " \t" c = true

/-- A word of lowercase letters, in any case. -/
def IsWordInAnyCase (word t : Text) : Prop := List.Forall₂ (fun letter c => CodePoint.isCaseOf letter c = true) word t

/-- At most one semicolon, with blanks around it. -/
def IsTerminator (t : Text) : Prop :=
  ∃ first mark second, t = first ++ mark ++ second ∧ IsIndent first ∧ (mark = [] ∨ mark = ";") ∧ IsIndent second

/-- A line with the directive and nothing else. Its quotes need not be of one kind. -/
def IsDirective (t : Text) : Prop :=
  ∃ (indent use space client rest : Text) (opening closing : CodePoint),
    t = indent ++ opening :: (use ++ space ++ client ++ closing :: rest) ∧ IsIndent indent ∧ isQuote opening = true ∧
      IsWordInAnyCase "use" use ∧ IsGap space ∧ IsWordInAnyCase "client" client ∧ isQuote closing = true ∧
      IsTerminator rest

/-- What stands between `import` and the quotes, if it ends with `from`: anything at all, after a blank. -/
def IsFromClause (t : Text) : Prop :=
  ∃ space names last, t = space ++ names ++ "from" ++ last ∧ IsGap space ∧
    (space ++ names).getLast?.elim false CodePoint.isWord = false ∧ ∀ c ∈ last, c.isBlank = true

/-- A line that begins with an import of such a clause, whatever comes after it. -/
def IsImport (isClause : Text → Prop) (t : Text) : Prop :=
  ∃ (indent clause name rest : Text) (opening closing : CodePoint),
    t = indent ++ "import" ++ clause ++ opening :: (name ++ closing :: rest) ∧ IsIndent indent ∧ isClause clause ∧
      isQuote opening = true ∧ name ≠ [] ∧ Quoteless name ∧ isQuote closing = true

/-- A line that somewhere exports a function by default, up to its parameters or to the end. -/
def HasExportedFunction (t : Text) : Prop :=
  ∃ before first second head space rest, t = before ++ exportText first second ++ head ++ space ++ rest ∧
    before.getLast?.elim false CodePoint.isWord = false ∧ IsGap first ∧ IsGap second ∧ IsHead head ∧
    (∀ c ∈ space, c.isBlank = true) ∧ ∀ c ∈ rest.head?, c = '('

/-- A line that begins with the word `export`, and goes on with a blank if it goes on. -/
def IsExport (t : Text) : Prop :=
  ∃ indent rest, t = indent ++ "export" ++ rest ∧ IsIndent indent ∧ ∀ c ∈ rest.head?, c.isBlank = true

/-- A line that is taken for module syntax. -/
inductive IsModuleLine (t : Text) : Prop
  | directive (is : IsDirective t)
  | importFrom (is : IsImport IsFromClause t)
  | importForEffect (is : IsImport (fun clause => ∀ c ∈ clause, c.isBlank = true) t)
  | exportedFunction (has : HasExportedFunction t)
  | exportMark (is : IsExport t)

/-- It has a quote or the letter that the word `export` has. -/
theorem IsModuleLine.exists_mark {t : Text} (line : IsModuleLine t) : ∃ c ∈ t, isQuote c = true ∨ c = 'x' := by
  cases line with
  | directive is =>
    obtain ⟨indent, use, space, client, rest, opening, closing, rfl, -, opens, -⟩ := is
    exact ⟨opening, by simp, .inl opens⟩
  | importFrom is | importForEffect is =>
    obtain ⟨indent, clause, name, rest, opening, closing, rfl, -, -, opens, -⟩ := is
    exact ⟨opening, by simp, .inl opens⟩
  | exportedFunction has =>
    obtain ⟨before, first, second, head, space, rest, rfl, -⟩ := has
    refine ⟨'x', ?_, .inr rfl⟩
    simp [exportText, Text.ofString_eq rfl]
  | exportMark is =>
    obtain ⟨indent, rest, rfl, -⟩ := is
    refine ⟨'x', ?_, .inr rfl⟩
    simp [Text.ofString_eq rfl]

theorem not_isModuleLine {t : Text} (plain : ∀ c ∈ t, isQuote c = false ∧ c ≠ 'x') : ¬IsModuleLine t := by
  intro line
  obtain ⟨c, inside, quote | letter⟩ := line.exists_mark
  · exact Bool.false_ne_true ((plain c inside).1.symm.trans quote)
  · exact (plain c inside).2 letter

/-- What comes after the line of text in a lesson, with or without a line break at the end. -/
def lessonEnds : List Text := ["</p>\n);\n\x7d", "</p>\n);\n\x7d\n"]

section Ends

variable {after : Text}

theorem exists_of_lessonEnds (among : after ∈ lessonEnds) : ∃ rest, after = ('<' : CodePoint) :: rest := by
  rcases List.mem_pair.mp among with rfl | rfl <;> exact ⟨_, rfl⟩

/-- Marks and letters with which no module syntax can end after the line. -/
theorem notMem_lessonEnds (among : after ∈ lessonEnds) {c : CodePoint}
    (mark : isQuote c = true ∨ c = 't' ∨ c = 'n' ∨ c = '(') : c ∉ lineBreak :: after := by
  have plain : ∀ d ∈ lineBreak :: after, isQuote d = false ∧ d ≠ 't' ∧ d ≠ 'n' ∧ d ≠ '(' := by
    rcases List.mem_pair.mp among with rfl | rfl
    all_goals
      simp only [Text.ofString_eq rfl]
      decide
  intro member
  obtain ⟨notQuote, notT, notN, notOpener⟩ := plain c member
  rcases mark with quote | rfl | rfl | rfl
  · exact Bool.false_ne_true (notQuote.symm.trans quote)
  · exact notT rfl
  · exact notN rfl
  · exact notOpener rfl

end Ends

section Shapes

variable {previous : Option CodePoint} {found after line t : Text}

/-- A pattern that starts with a line starts in a line of text nowhere but at its beginning. -/
theorem passes_line_iff {p : Pattern} {ps : List Pattern} (plain : IsTextLine line) :
    (seq (lineStart :: p :: ps)).Passes (some lineBreak) (line ++ [lineBreak]) after ↔
      ¬(seq (lineStart :: p :: ps)).Starts (some lineBreak) (line ++ lineBreak :: after) := by
  have whole : line ++ lineBreak :: after = (line ++ [lineBreak]) ++ after := by simp
  constructor
  · intro passes
    cases line with
    | nil => exact passes [] lineBreak [] rfl
    | cons c line => simpa using passes [] c (line ++ [lineBreak]) rfl
  · intro none before c x split starts
    rcases List.eq_nil_or_concat' before with rfl | ⟨before, d, rfl⟩
    · rw [whole, split] at none
      exact none starts
    · obtain ⟨found, rest, -, -, match_⟩ := starts
      have start := ((matches_seq_between _ _ _).mp match_).1
      rw [List.getLast?_concat] at start
      have same : d = lineBreak := congrArg CodePoint.mk (of_decide_eq_true start)
      have shorter := congrArg List.dropLast split
      rw [List.dropLast_concat, List.dropLast_append_of_ne_nil (List.cons_ne_nil c x)] at shorter
      have inside : d ∈ line := by simp [shorter]
      exact plain.notMem (by decide) (same ▸ inside)

theorem matches_terminator : terminator.Matches previous found after ↔ IsTerminator found := by
  constructor
  · rintro ⟨first, _, rfl, ⟨-, isFirst⟩, mark, second, rfl, isMark, -, isSecond⟩
    refine ⟨first, mark, second, (List.append_assoc _ _ _).symm, isFirst, ?_, isSecond⟩
    rcases isMark with ⟨c, rfl, member⟩ | empty
    · obtain ⟨d, among, rfl⟩ := (charIn_iff (by decide : ";".toList = [';']) c).mp member
      rw [List.mem_singleton.mp among]
      exact .inr rfl
    · exact .inl empty
  · rintro ⟨first, mark, second, rfl, isFirst, isMark, isSecond⟩
    refine ⟨first, mark ++ second, List.append_assoc _ _ _, ⟨Nat.zero_le _, isFirst⟩, mark, second, rfl, ?_,
      Nat.zero_le _, isSecond⟩
    rcases isMark with rfl | rfl
    · exact .inr rfl
    · exact .inl ⟨_, rfl, by decide⟩

theorem matches_wordInAnyCase {word : Text} (lower : ∀ c ∈ word, c.isLowerLetter = true) :
    (inAnyCase word).Matches previous found after ↔ IsWordInAnyCase word found := by
  rw [matches_inAnyCase]
  induction word generalizing found with
  | nil => simp [IsInAnyCase, IsWordInAnyCase, List.forall₂_nil_left_iff]
  | cons letter word ih =>
    rw [List.forall_mem_cons] at lower
    have here (c : CodePoint) : standsFor letter c = letter.isCaseOf c := by rw [standsFor, if_pos lower.1]
    have later (found : Text) := @ih found lower.2
    unfold IsInAnyCase IsWordInAnyCase at later ⊢
    simp only [List.forall₂_cons_left_iff, here, later]

end Shapes

section Lines

variable {previous : Option CodePoint} {found after line t : Text} {c : CodePoint}

theorem IsIndent.notMem (indented : IsIndent t) (mark : charIn " \t" c = false) : c ∉ t := fun member =>
  Bool.false_ne_true (mark.symm.trans (indented c member))

theorem IsTerminator.notMem (isTerminator : IsTerminator t) (mark : charIn " \t" c = false) (other : c ≠ ';') :
    c ∉ t := by
  obtain ⟨first, semicolon, second, rfl, isFirst, isMark, isSecond⟩ := isTerminator
  simp only [List.mem_append, not_or]
  refine ⟨⟨isFirst.notMem mark, ?_⟩, isSecond.notMem mark⟩
  rcases isMark with rfl | rfl
  · exact List.not_mem_nil
  · simpa [Text.ofString_eq rfl] using other

theorem head?_of_lineFeed (ends : (either lineFeed lineEnd).Matches previous found after) :
    ∀ c ∈ (found ++ after).head?, c = lineBreak ∨ c = '\r' := by
  rcases ends with ⟨_, _, rfl, ⟨c, rfl, isReturn⟩ | rfl, d, rfl, isFeed⟩ | ⟨rfl, atEnd⟩
  · obtain ⟨e, among, rfl⟩ := (charIn_iff (by decide : "\r".toList = ['\r']) c).mp isReturn
    simp_all
  · obtain ⟨e, among, rfl⟩ := (charIn_iff (by decide : "\n".toList = ['\n']) d).mp isFeed
    simp_all
  · intro c head
    rw [List.nil_append, Option.mem_def] at head
    rw [head] at atEnd
    exact .inl (congrArg CodePoint.mk (of_decide_eq_true atEnd))

/-- A pattern at a line's end lets nothing of the line stand before it. -/
theorem eq_nil_of_lineFeed (ends : (either lineFeed lineEnd).Matches previous found after) {more rest : Text}
    (plain : IsTextLine more) (text : found ++ after = more ++ lineBreak :: rest) : more = [] := by
  cases more with
  | nil => rfl
  | cons d more =>
    have first := head?_of_lineFeed ends d (by simp [text])
    have mark : charIn "<>\x7b\x7d&\n\r" d = true := by
      rcases first with rfl | rfl <;> decide
    exact absurd List.mem_cons_self (plain.notMem mark)

theorem directiveLine_passes_iff (among : after ∈ lessonEnds) (plain : IsTextLine line) :
    directiveLine.Passes (some lineBreak) (line ++ [lineBreak]) after ↔ ¬IsDirective line := by
  refine (passes_line_iff plain).trans (not_congr ?_)
  constructor
  · rintro ⟨_, rest, text, -, match_⟩
    obtain ⟨-, indent, _, rfl, ⟨-, indented⟩, _, _, rfl, ⟨opening, rfl, opens⟩, use, _, rfl, isUse, space, _, rfl, isGap,
      client, _, rfl, isClient, _, _, rfl, ⟨closing, rfl, closes⟩, tail, last, rfl, isTail, ends⟩ :=
      (matches_seq_between _ _ _).mp match_
    rw [matches_wordInAnyCase (by decide)] at isUse isClient
    rw [matches_terminator] at isTail
    have parted : (indent ++ opening :: (use ++ space ++ client)) ++ closing :: (tail ++ (last ++ rest))
        = line ++ lineBreak :: after := by simp [text]
    obtain ⟨more, rfl, split⟩ := Text.exists_rest_of_notMem parted (notMem_lessonEnds among (.inl closes))
    obtain ⟨final, rfl, remaining⟩ := Text.exists_rest_of_notMem_left split (isTail.notMem (by decide) (by decide))
    rw [isTextLine_append] at plain
    have none : final = [] := eq_nil_of_lineFeed ends (fun c member => plain.2 c (by simp [member])) remaining
    exact ⟨indent, use, space, client, tail, opening, closing, by simp [none], indented, opens, isUse,
      matches_someBlanks.mp isGap, isClient, closes, isTail⟩
  · rintro ⟨indent, use, space, client, tail, opening, closing, rfl, indented, opens, isUse, isGap, isClient, closes, isTail⟩
    refine ⟨indent ++ ([opening] ++ (use ++ (space ++ (client ++ ([closing] ++ (tail ++ [lineBreak])))))), after,
      by simp, by simp, (matches_seq_between _ _ _).mpr ⟨rfl, ?_⟩⟩
    exact ⟨indent, _, rfl, ⟨Nat.zero_le _, indented⟩, [opening], _, rfl, ⟨opening, rfl, opens⟩, use, _, rfl,
      (matches_wordInAnyCase (by decide)).mpr isUse, space, _, rfl, matches_someBlanks.mpr isGap, client, _, rfl,
      (matches_wordInAnyCase (by decide)).mpr isClient, [closing], _, rfl, ⟨closing, rfl, closes⟩, tail, [lineBreak], rfl,
      matches_terminator.mpr isTail, .inl ⟨[], [lineBreak], rfl, .inr rfl, lineBreak, rfl, by decide⟩⟩

/-- From the word at the start of a line over a clause to what stands in quotes, and over the rest of the line if it
is a terminator. -/
def importWith (clause : List Pattern) : Pattern :=
  seq (lineStart :: gap :: exactly "import" :: (clause ++ [quoted, terminator, optional lineFeed]))

section Imports

variable {p : Pattern} {ps : List Pattern} {isClause : Text → Prop}

theorem exists_import_of_matches (match_ : (importWith (p :: ps)).Matches previous found after) :
    ∃ (indent clause name rest t : Text) (opening closing : CodePoint),
      found = (indent ++ ("import" ++ clause) ++ opening :: name) ++ closing :: rest ∧ IsIndent indent ∧
        (seq (p :: ps)).Matches (some 't') clause t ∧ isQuote opening = true ∧ name ≠ [] ∧ Quoteless name ∧
        isQuote closing = true ∧ ('<' : CodePoint) ∉ rest := by
  obtain ⟨-, indent, _, rfl, ⟨-, indented⟩, _, _, rfl, isImport, parts⟩ := (matches_seq_between _ _ _).mp match_
  cases (matches_exactly _).mp isImport
  obtain ⟨clause, _, rfl, matchesClause, quotes, _, rfl, matchesQuotes, tail, feed, rfl, isTail, isFeed⟩ :=
    (matches_seq_append p quoted ps [terminator, optional lineFeed]).mp parts
  obtain ⟨opening, name, closing, rfl, opens, filled, quoteless, closes⟩ := matches_quoted.mp matchesQuotes
  have within : (optional lineFeed).Within (· ≠ '<') := within_of_mayRead (by decide)
  refine ⟨indent, clause, name, tail ++ feed, _, opening, closing, by simp, indented, matchesClause, opens, filled,
    quoteless, closes, ?_⟩
  rw [List.mem_append, not_or]
  exact ⟨(matches_terminator.mp isTail).notMem (by decide) (by decide), fun member => within.of_matches isFeed _ member rfl⟩

/-- An import of a clause is found at the start of a line, whatever comes after it. -/
theorem starts_of_isImport (spec : ∀ found after, (seq (p :: ps)).Matches (some 't') found after ↔ isClause found)
    (start : IsLineStart previous) (is : IsImport isClause t) : (importWith (p :: ps)).Starts previous (t ++ after) := by
  obtain ⟨indent, clause, name, rest, opening, closing, rfl, indented, clauses, opens, filled, quoteless, closes⟩ := is
  refine ⟨indent ++ ("import" ++ (clause ++ (opening :: (name ++ [closing])))), rest ++ after,
    by simp, by simp, (matches_seq_between _ _ _).mpr ⟨isLineStart_iff.mp start, ?_⟩⟩
  refine ⟨indent, _, rfl, ⟨Nat.zero_le _, indented⟩, "import", _, rfl, (matches_exactly _).mpr rfl, ?_⟩
  refine (matches_seq_append p quoted ps [terminator, optional lineFeed]).mpr ⟨clause, _, rfl, ?_, ?_⟩
  · exact (spec _ _).mpr clauses
  · refine ⟨opening :: (name ++ [closing]), [], by simp, matches_quoted.mpr ⟨_, _, _, rfl, opens, filled, quoteless,
      closes⟩, [], [], rfl, matches_terminator.mpr ⟨[], [], [], rfl, nofun, .inl rfl, nofun⟩, .inr rfl⟩

theorem importWith_passes_iff (spec : ∀ found after, (seq (p :: ps)).Matches (some 't') found after ↔ isClause found)
    (among : after ∈ lessonEnds) (plain : IsTextLine line) :
    (importWith (p :: ps)).Passes (some lineBreak) (line ++ [lineBreak]) after ↔ ¬IsImport isClause line := by
  refine (passes_line_iff plain).trans (not_congr ?_)
  constructor
  · rintro ⟨_, after', text, -, match_⟩
    obtain ⟨indent, clause, name, rest, _, opening, closing, rfl, indented, matchesClause, opens, filled, quoteless,
      closes, -⟩ := exists_import_of_matches match_
    have parted : (indent ++ ("import" ++ clause) ++ opening :: name) ++ closing :: (rest ++ after')
        = line ++ lineBreak :: after := by simp [text]
    obtain ⟨more, rfl, -⟩ := Text.exists_rest_of_notMem parted (notMem_lessonEnds among (.inl closes))
    exact ⟨indent, clause, name, more, opening, closing, by simp, indented, (spec _ _).mp matchesClause, opens, filled,
      quoteless, closes⟩
  · exact starts_of_isImport spec isLineStart_feed

/-- No import ends after the line: the last quote of the text is in it, and only a terminator follows. -/
theorem importWith_parts (among : after ∈ lessonEnds) : (importWith (p :: ps)).Parts previous line after := by
  intro before x y rest _ second _ filled match_
  obtain ⟨indent, clause, name, tail, _, opening, closing, whole, -, -, -, -, -, closes, unread⟩ :=
    exists_import_of_matches match_
  obtain ⟨ending, rfl⟩ := exists_of_lessonEnds among
  obtain ⟨d, y, rfl⟩ := List.exists_cons_of_ne_nil filled
  cases (List.cons.inj second).1
  have parted : x ++ ('<' : CodePoint) :: y
      = ((indent ++ ("import" ++ clause) ++ opening :: name) ++ [closing]) ++ tail := by
    rw [whole, List.append_assoc _ [closing] tail]
    rfl
  obtain ⟨more, split, rfl⟩ := Text.exists_rest_of_notMem parted unread
  have last := congrArg List.getLast? split
  rw [List.getLast?_concat, List.getLast?_append_of_ne_nil _ (List.cons_ne_nil _ _)] at last
  have inside : closing ∈ ('<' : CodePoint) :: more := List.mem_of_getLast? last.symm
  refine notMem_lessonEnds among (.inl closes) (List.mem_cons_of_mem _ ?_)
  rw [second]
  exact List.mem_append_left rest (List.mem_append_left tail inside)

theorem importFrom_parts (among : after ∈ lessonEnds) : importFrom.Parts previous line after :=
  show (importWith [someBlanks, fewest (fun _ => true) 0, edge, exactly "from", blanks]).Parts previous line after from
    importWith_parts among

theorem importForEffect_parts (among : after ∈ lessonEnds) : importForEffect.Parts previous line after :=
  show (importWith [blanks]).Parts previous line after from importWith_parts among

theorem matches_fromClause (found after : Text) :
    (seq [someBlanks, fewest (fun _ => true) 0, edge, exactly "from", blanks]).Matches (some 't') found after ↔
      IsFromClause found := by
  have edgeOfSpace {space names : Text} (isGap : IsGap space) :
      (names.getLast?.or (space.getLast?.or (some 't'))) = (space ++ names).getLast? := by
    have filled := isGap.1
    rw [List.getLast?_append, List.getLast?_eq_some_getLast filled]
    rfl
  have startsWord (t : Text) : ("from" ++ t : Text).head?.elim false CodePoint.isWord = true := by
    rw [Text.ofString_eq rfl]
    rfl
  constructor
  · rintro ⟨space, _, rfl, isSpace, names, _, rfl, -, _, _, rfl, ⟨rfl, differ⟩, _, last, rfl, isFrom, -, blank⟩
    cases (matches_exactly _).mp isFrom
    have isGap := matches_someBlanks.mp isSpace
    refine ⟨space, names, last, by simp, isGap, ?_, blank⟩
    rw [edgeOfSpace isGap, List.append_assoc] at differ
    simpa only [startsWord, bne_iff_ne, ne_eq, Bool.not_eq_true] using differ
  · rintro ⟨space, names, last, rfl, isGap, word, blank⟩
    refine ⟨space, names ++ ("from" ++ last), by simp, matches_someBlanks.mpr isGap, names, _, rfl, ⟨Nat.zero_le _, by simp⟩,
      [], "from" ++ last, rfl, ⟨rfl, ?_⟩, "from", last, rfl, (matches_exactly _).mpr rfl, Nat.zero_le _, blank⟩
    rw [edgeOfSpace isGap, List.append_assoc]
    simp only [startsWord, word, bne_iff_ne, ne_eq, Bool.false_eq_true, not_false_eq_true]

theorem importFrom_passes_iff (among : after ∈ lessonEnds) (plain : IsTextLine line) :
    importFrom.Passes (some lineBreak) (line ++ [lineBreak]) after ↔ ¬IsImport IsFromClause line :=
  importWith_passes_iff matches_fromClause among plain

theorem matches_blankClause (found after : Text) :
    (seq [blanks]).Matches (some 't') found after ↔ ∀ c ∈ found, c.isBlank = true :=
  ⟨And.right, fun all => ⟨Nat.zero_le _, all⟩⟩

theorem importForEffect_passes_iff (among : after ∈ lessonEnds) (plain : IsTextLine line) :
    importForEffect.Passes (some lineBreak) (line ++ [lineBreak]) after ↔
      ¬IsImport (fun clause => ∀ c ∈ clause, c.isBlank = true) line :=
  importWith_passes_iff matches_blankClause among plain

end Imports

theorem exportMark_passes_iff (among : after ∈ lessonEnds) (plain : IsTextLine line) :
    exportMark.Passes (some lineBreak) (line ++ [lineBreak]) after ↔ ¬IsExport line := by
  have spelled : (Text.ofString "export") = Text.ofString "expor" ++ [('t' : CodePoint)] := by
    simp only [Text.ofString_eq rfl]
    rfl
  refine (passes_line_iff plain).trans (not_congr ?_)
  constructor
  · rintro ⟨_, rest, text, -, match_⟩
    obtain ⟨-, indent, _, rfl, ⟨-, indented⟩, _, _, rfl, isExport, first, later, rfl, isFirst, -⟩ :=
      (matches_seq_between _ _ _).mp match_
    cases (matches_exactly _).mp isExport
    have isGap := matches_someBlanks.mp isFirst
    have parted : (indent ++ "expor") ++ ('t' : CodePoint) :: (first ++ (later ++ rest)) = line ++ lineBreak :: after := by
      simp [text, spelled]
    obtain ⟨more, rfl, split⟩ := Text.exists_rest_of_notMem parted (notMem_lessonEnds among (.inr (.inl rfl)))
    refine ⟨indent, more, by simp [spelled], indented, fun c head => isGap.2 c ?_⟩
    obtain ⟨d, first, rfl⟩ := List.exists_cons_of_ne_nil isGap.1
    cases more with
    | nil => cases head
    | cons e more =>
      cases head
      cases (List.cons.inj split).1
      exact List.mem_cons_self
  · rintro ⟨indent, rest, rfl, indented, goesOn⟩
    obtain ⟨d, more, split, blank⟩ : ∃ d more, rest ++ lineBreak :: after = d :: more ∧ d.isBlank = true := by
      cases rest with
      | nil => exact ⟨lineBreak, after, rfl, by decide⟩
      | cons d rest => exact ⟨d, rest ++ lineBreak :: after, rfl, goesOn d rfl⟩
    refine ⟨indent ++ ("export" ++ [d]), more, by simp [split], by simp, (matches_seq_between _ _ _).mpr ⟨rfl, ?_⟩⟩
    exact ⟨indent, _, rfl, ⟨Nat.zero_le _, indented⟩, "export", [d], rfl, (matches_exactly _).mpr rfl, [d], [], rfl,
      matches_someBlanks.mpr ⟨List.cons_ne_nil _ _, by simpa using blank⟩, .inr rfl⟩

theorem IsHead.notMem (isHead : IsHead t) (blank : c.isBlank = false) (part : isNamePart c = false)
    (start : isNameStart c = false) : c ∉ t := by
  rcases isHead with ⟨space, first, rest, rfl, isGap, starts, all⟩ | all
  · simp only [List.mem_append, List.mem_cons, not_or]
    refine ⟨fun member => ?_, ?_, fun member => ?_⟩
    · exact Bool.false_ne_true (blank.symm.trans (isGap.2 c member))
    · rintro rfl
      exact Bool.false_ne_true (start.symm.trans starts)
    · exact Bool.false_ne_true (part.symm.trans (all c member))
  · exact fun member => Bool.false_ne_true (blank.symm.trans (all c member))

/-- A head with blanks after it that ends with a line break. -/
theorem IsHead.of_concat {head space : Text} (isHead : IsHead head) (blank : ∀ c ∈ space, c.isBlank = true)
    (whole : head ++ space = t ++ [lineBreak]) :
    ∃ head' space', t = head' ++ space' ∧ IsHead head' ∧ ∀ c ∈ space', c.isBlank = true := by
  rcases List.eq_nil_or_concat' space with rfl | ⟨space, last, rfl⟩
  · rw [List.append_nil] at whole
    subst whole
    rcases isHead with ⟨gap, first, rest, text, -, starts, all⟩ | all
    · have last := congrArg List.getLast? text
      rw [List.getLast?_concat, List.getLast?_append] at last
      rcases List.eq_nil_or_concat' rest with rfl | ⟨rest, d, rfl⟩
      · cases last
        cases starts
      · rw [← List.cons_append, List.getLast?_concat] at last
        cases last
        cases all lineBreak (by simp)
    · exact ⟨t, [], by simp, .inr fun c member => all c (List.mem_append_left _ member), nofun⟩
  · rw [← List.append_assoc] at whole
    obtain ⟨rfl, -⟩ := List.append_inj' whole rfl
    exact ⟨head, space, rfl, isHead, fun c member => blank c (List.mem_append_left _ member)⟩

theorem exportText_eq (first second : Text) : exportText first second
    = ("export" ++ first ++ "default" ++ second ++ "functio") ++ [('n' : CodePoint)] := by
  simp [exportText, Text.ofString_eq rfl]

/-- What follows the words of an export in a line of text, if its parameters or the next tag open after it. -/
theorem exists_signature {head space more rest : Text} {opener : CodePoint} (among : after ∈ lessonEnds)
    (plain : IsTextLine more) (isHead : IsHead head) (blank : ∀ c ∈ space, c.isBlank = true)
    (opens : isOpener opener = true) (text : head ++ (space ++ opener :: rest) = more ++ lineBreak :: after) :
    ∃ head space rest, more = head ++ space ++ rest ∧ IsHead head ∧ (∀ c ∈ space, c.isBlank = true) ∧
      ∀ c ∈ rest.head?, c = '(' := by
  rcases isOpener_iff.mp opens with rfl | rfl
  -- No line of text has the mark of a tag, so that it is the one of the tag after the line.
  · obtain ⟨ending, rfl⟩ := exists_of_lessonEnds among
    have parted : (head ++ space) ++ ('<' : CodePoint) :: rest = (more ++ [lineBreak]) ++ ('<' : CodePoint) :: ending := by
      simpa using text
    have inSpace : ('<' : CodePoint) ∉ space := fun member => by cases blank _ member
    have whole : head ++ space = more ++ [lineBreak] := by
      refine Text.eq_of_notMem parted ?_ ?_
      · rw [List.mem_append, not_or]
        exact ⟨isHead.notMem (by decide) (by decide) (by decide), inSpace⟩
      · rw [List.mem_append, not_or]
        exact ⟨plain.notMem (by decide), by decide⟩
    obtain ⟨head, space, rfl, isHead, blank⟩ := isHead.of_concat blank whole
    exact ⟨head, space, [], by simp, isHead, blank, nofun⟩
  · have parted : (head ++ space) ++ ('(' : CodePoint) :: rest = more ++ lineBreak :: after := by simpa using text
    obtain ⟨last, rfl, -⟩ := Text.exists_rest_of_notMem parted (notMem_lessonEnds among (.inr (.inr (.inr rfl))))
    refine ⟨head, space, ('(' : CodePoint) :: last, rfl, isHead, blank, ?_⟩
    rintro _ ⟨⟩
    rfl

theorem exists_opener {space rest : Text} (among : after ∈ lessonEnds) (blank : ∀ c ∈ space, c.isBlank = true)
    (opens : ∀ c ∈ rest.head?, c = '(') :
    ∃ gap opener last, space ++ rest ++ lineBreak :: after = gap ++ opener :: last ∧ (∀ c ∈ gap, c.isBlank = true) ∧
      isOpener opener = true := by
  cases rest with
  | nil =>
    obtain ⟨ending, rfl⟩ := exists_of_lessonEnds among
    refine ⟨space ++ [lineBreak], '<', ending, by simp, List.forall_mem_append.mpr ⟨blank, ?_⟩, by decide⟩
    rw [List.forall_mem_singleton]
    decide
  | cons d rest =>
    cases opens d rfl
    exact ⟨space, '(', rest ++ lineBreak :: after, by simp, blank, by decide⟩

theorem exportedFunction_passes_iff (among : after ∈ lessonEnds) (plain : IsTextLine line) :
    exportedFunction.Passes (some lineBreak) (line ++ [lineBreak]) after ↔ ¬HasExportedFunction line := by
  rw [← not_iff_not, not_not]
  constructor
  · intro stops
    simp only [Passes, not_forall, not_not] at stops
    obtain ⟨before, c, x, split, _, after', text, -, match_⟩ := stops
    obtain ⟨word, ⟨first, second, head, rfl, isFirst, isSecond, isHead⟩, space, opener, rest, rfl, blank, opens⟩ :=
      matches_exportedFunction.mp match_
    have whole : line ++ lineBreak :: after = before ++ c :: (x ++ after) := by
      simpa using congrArg (· ++ after) split
    have parted : (before ++ ("export" ++ first ++ "default" ++ second ++ "functio")) ++
        ('n' : CodePoint) :: (head ++ (space ++ opener :: rest)) = line ++ lineBreak :: after := by
      rw [whole, text, exportText_eq]
      simp
    obtain ⟨more, rfl, goesOn⟩ := Text.exists_rest_of_notMem parted (notMem_lessonEnds among (.inr (.inr (.inl rfl))))
    have unworded : before.getLast?.elim false CodePoint.isWord = false := by
      cases last : before.getLast? with
      | none => rfl
      | some d => simpa [last] using word
    have plainMore : IsTextLine more := fun c member => plain c (by simp [member])
    obtain ⟨head, space, rest, rfl, isHead, blank, opens⟩ := exists_signature among plainMore isHead blank opens goesOn
    exact ⟨before, first, second, head, space, rest, by simp [exportText_eq], unworded, isFirst, isSecond, isHead, blank,
      opens⟩
  · rintro ⟨before, first, second, head, space, rest, rfl, word, isFirst, isSecond, isHead, blank, opens⟩ passes
    obtain ⟨letters, spelled⟩ : ∃ letters, exportText first second = ('e' : CodePoint) :: letters := ⟨_, rfl⟩
    have unworded : (before.getLast?.or (some lineBreak)).elim false CodePoint.isWord = false := by
      cases last : before.getLast? with
      | none => rfl
      | some d => simpa [last] using word
    obtain ⟨gap, opener, last, goesOn, gapBlank, gapOpens⟩ := exists_opener among blank opens
    refine passes before 'e' (letters ++ head ++ space ++ rest ++ [lineBreak]) (by simp [spelled]) ?_
    refine ⟨exportText first second ++ head, gap ++ opener :: last, by simp [spelled, ← goesOn], by simp [spelled], ?_⟩
    exact matches_exportedFunction.mpr ⟨unworded, ⟨first, second, head, rfl, isFirst, isSecond, isHead⟩, gap, opener, last,
      rfl, gapBlank, gapOpens⟩

end Lines

end LessonService.Script
