import LessonService.Proofs.Script.ModuleLines
import LessonService.Proofs.Text.FirstEnds
import LessonService.Proofs.Text.Letters
import LessonService.Proofs.Text.Runs
import Mathlib.Data.List.DropRight

namespace LessonService.Script

open Pattern Review

/-- A line that imports from the provided module, for its effect alone or for what a clause names. -/
structure ImportLine where
  clause : Option Text
  ending : Text
  quoteless : ∀ names ∈ clause, Quoteless names
  isEnding : ending = "\n" ∨ ending = "\r\n"

namespace ImportLine

/-- What stands before the quotes. -/
def lead (i : ImportLine) : Text :=
  match i.clause with
  | some names => names ++ " from "
  | none => []

def text (i : ImportLine) : Text := "import " ++ (i.lead ++ ("\"react\";" ++ i.ending))

end ImportLine

/-- Whether a line begins, after blanks, with the word `import`. -/
def beginsWithImport (line : Text) : Bool :=
  (Text.dropStart? "import" (line.dropWhile (charIn " \t"))).any fun rest => rest.head?.all fun c => !c.isWord

/-- The word `from` before something in quotes. -/
def fromQuoted : Pattern := seq [edge, exactly "from", blanks, quoted]

/-- The same, with what ends the line of an import. -/
def fromTail : Pattern := seq [edge, exactly "from", blanks, quoted, terminator, optional lineFeed]

variable {previous : Option CodePoint} {t body : Text} {c : CodePoint} {e : Place}

theorem isWord_of_isQuote (quote : isQuote c = true) : c.isWord = false := by
  rcases isQuote_iff.mp quote with rfl | rfl <;> decide

theorem ends_lineStart (start : IsLineStart previous) : lineStart.ends ⟨previous, t⟩ = [⟨previous, t⟩] :=
  ends_between (isLineStart_iff.mp start)

theorem fromTail_mayStart (differs : c ≠ 'f') : fromTail.mayStart previous c = false := by
  have word : (exactly "from").mayStart previous c = false := by
    simp only [Text.ofString_eq rfl]
    simpa [exactly, seq, mayStart, mayPass] using differs
  have unpassed : (exactly "from").mayPass previous c = false := by
    simp only [Text.ofString_eq rfl]
    simp [exactly, seq, mayPass]
  simp [fromTail, seq, mayStart, word, unpassed, edge, edgeOf]

theorem fromTail_passes_of_notMem (absent : ('f' : CodePoint) ∉ t) (b : Text) : fromTail.Passes previous t b := by
  refine passes_of_forall fun c member previous rest => not_starts_of_mayStart (fromTail_mayStart ?_)
  rintro rfl
  exact absent member

/-- From the start of a line on, the imports from a module are where a search for a module ends. -/
theorem end?_importFrom (start : IsLineStart previous)
    (found : (fromTail.findFrom? previous ("import " ++ t)).map Prod.snd = some e) :
    importFrom.end? ⟨previous, "import " ++ t⟩ = some e := by
  have spelled : ("import " ++ t : Text) = "import" ++ ((' ' : CodePoint) :: t) := by simp [Text.ofString_eq rfl]
  obtain ⟨blank, rest, split, all, stops⟩ : ∃ blank rest, t = blank ++ rest ∧
      (∀ c ∈ blank, c.isBlank = true) ∧ ∀ c ∈ rest.head?, c.isBlank = false := by
    refine ⟨t.takeWhile CodePoint.isBlank, t.dropWhile CodePoint.isBlank, List.takeWhile_append_dropWhile.symm,
      fun c member => List.mem_takeWhile_imp member, fun c head => ?_⟩
    have stopped := List.head?_dropWhile_not CodePoint.isBlank t
    rw [Option.mem_def.mp head] at stopped
    exact stopped
  let gapText : Text := (' ' : CodePoint) :: blank
  have whole : ("import " ++ t : Text) = ("import" ++ gapText) ++ rest := by
    rw [spelled, split]
    simp [gapText]
  have isGap : ∀ c ∈ gapText, c.isBlank = true := List.forall_mem_cons.mpr ⟨by decide, all⟩
  have passes : fromTail.Passes previous ("import" ++ gapText) rest := by
    refine fromTail_passes_of_notMem ?_ rest
    rw [List.mem_append, not_or]
    exact ⟨by decide, fun member => absurd (isGap _ member) (by decide)⟩
  have last : ("import" ++ gapText : Text).getLast?.or previous
      = gapText.getLast?.or ((Text.ofString "import").getLast?.or previous) := by
    rw [List.getLast?_append, Option.or_assoc]
  rw [whole, findFrom?_append (by decide) passes, last, ← end?_fewest] at found
  have noIndent : gap.end? ⟨previous, "import" ++ (gapText ++ rest)⟩
      = some ⟨previous, "import" ++ (gapText ++ rest)⟩ := by
    have unread : ∀ c ∈ ("import" ++ (gapText ++ rest) : Text).head?, charIn " \t" c = false := by
      rintro _ ⟨⟩
      decide
    exact end?_most (List.forall_mem_nil _) (Nat.le_refl 0) unread
  have overGap : someBlanks.end? ⟨(Text.ofString "import").getLast?.or previous, gapText ++ rest⟩
      = some ⟨gapText.getLast?.or ((Text.ofString "import").getLast?.or previous), rest⟩ := by
    exact end?_most isGap (Nat.le_add_left 1 _) stops
  show (both lineStart (both gap (both (exactly "import") (both someBlanks (both (fewest (fun _ => true) 0) fromTail))))).end?
    _ = some e
  rw [whole, List.append_assoc, end?_both_of_ends (ends_lineStart start)]
  refine end?_both_of_end? noIndent ?_
  rw [end?_both_of_ends (ends_exactly _)]
  exact end?_both_of_end? overGap found

/-- The word `from` is not followed by something in quotes before the last one on the way there. -/
theorem fromTail_passes_names {names : Text} (quoteless : Quoteless names) (b : Text) :
    fromTail.Passes previous (names ++ " ") ("from \"" ++ b) := by
  have spelled : ("from \"" : Text) = "from " ++ [('"' : CodePoint)] := by simp [Text.ofString_eq rfl]
  rintro before c x split ⟨_, after, text, -, match_⟩
  obtain ⟨-, _, _, rfl, isFrom, blank, _, rfl, ⟨-, all⟩, _, tail, rfl, matchesQuotes, -⟩ :=
    (matches_seq_edge _ _).mp match_
  cases (matches_exactly _).mp isFrom
  obtain ⟨opening, name, closing, rfl, opens, -, -, -⟩ := matches_quoted.mp matchesQuotes
  -- Both ways to read the text have the same first quote.
  have inNames : Quoteless (c :: x) := by
    have inside : Quoteless (names ++ " ") := quoteless.append (by decide)
    exact fun d member => inside d (split ▸ List.mem_append_right before member)
  have first : (c :: x) ++ "from " = "from" ++ blank := by
    have one : ((c :: x) ++ "from " ++ ('"' : CodePoint) :: b).takeWhile (fun c => !isQuote c) = (c :: x) ++ "from " :=
      takeWhile_quoteless (inNames.append (by decide)) (by decide)
    have two : ("from" ++ blank ++ opening :: (name ++ [closing] ++ (tail ++ after))).takeWhile (fun c => !isQuote c)
        = "from" ++ blank :=
      takeWhile_quoteless ((by decide : Quoteless "from").append fun d member => isQuote_of_isBlank (all d member)) opens
    rw [← one, ← two]
    congr 1
    simpa [spelled] using text
  have parted : (c :: (x ++ "fro") : Text) ++ ('m' : CodePoint) :: " " = "from" ++ blank := by
    rw [← first]
    simp [Text.ofString_eq rfl]
  obtain ⟨middle, -, rfl⟩ := exists_append_of_length_le parted.symm (by simp [Text.ofString_eq rfl])
  exact absurd (all 'm' (by simp)) (by decide)

namespace ImportLine

theorem text_of_naming {i : ImportLine} {names : Text} (naming : i.clause = some names) (t : Text) :
    i.text ++ t = "import " ++ (names ++ " ") ++ ("from \"react\";" ++ (i.ending ++ t)) := by
  simp only [text, lead, naming, Text.ofString_eq rfl]
  simp

theorem text_of_effect {i : ImportLine} (effect : i.clause = none) (t : Text) :
    i.text ++ t = "import \"react\";" ++ (i.ending ++ t) := by
  simp only [text, lead, effect, Text.ofString_eq rfl]
  simp

theorem getLast?_ending (i : ImportLine) : i.ending.getLast? = some lineBreak := by
  rcases i.isEnding with feed | pair
  · rw [feed]
    decide
  · rw [pair]
    decide

theorem getLast?_text (i : ImportLine) : i.text.getLast? = some lineBreak := by
  have filled : i.ending ≠ [] := by
    intro empty
    have last := i.getLast?_ending
    rw [empty] at last
    cases last
  rw [text, ← List.append_assoc, ← List.append_assoc, List.getLast?_append_of_ne_nil _ filled, getLast?_ending]

/-- An import that names something ends the search. -/
theorem findFrom?_of_naming {i : ImportLine} {names : Text} (naming : i.clause = some names) (t : Text) :
    (fromTail.findFrom? previous (i.text ++ t)).map Prod.snd = some ⟨some lineBreak, t⟩ := by
  have begun : fromTail.Passes previous ("import " ++ (names ++ " ")) ("from \"react\";" ++ (i.ending ++ t)) := by
    have spelled : ("from \"react\";" ++ (i.ending ++ t) : Text) = "from \"" ++ ("react\";" ++ (i.ending ++ t)) := by
      simp [Text.ofString_eq rfl]
    refine (fromTail_passes_of_notMem (by decide) _).append ?_
    rw [spelled]
    exact fromTail_passes_names (i.quoteless names naming) _
  have ends : fromTail.end? ⟨some ' ', "from \"react\";" ++ (i.ending ++ t)⟩ = some ⟨some lineBreak, t⟩ := by
    rcases i.isEnding with feed | pair
    · rw [feed]
      cbv
    · rw [pair]
      cbv
  have last : ("import " ++ (names ++ " ") : Text).getLast?.or previous = some (' ' : CodePoint) := by
    rw [← List.append_assoc, List.getLast?_append_of_ne_nil _ (by decide)]
    rfl
  have spelled : ("from \"react\";" ++ (i.ending ++ t) : Text)
      = ('f' : CodePoint) :: ("rom \"react\";" ++ (i.ending ++ t)) := by simp [Text.ofString_eq rfl]
  rw [text_of_naming naming, findFrom?_append (by decide) begun, last, spelled, findFrom?_cons, ← spelled, ends,
    Option.some_or]

theorem notMem_of_effect {i : ImportLine} (effect : i.clause = none) : ('f' : CodePoint) ∉ i.text := by
  have spelled := text_of_effect effect []
  rw [List.append_nil] at spelled
  rw [spelled, List.append_nil, List.mem_append, not_or]
  refine ⟨by decide, ?_⟩
  rcases i.isEnding with feed | pair
  · rw [feed]
    decide
  · rw [pair]
    decide

theorem getLast?_flatMap {imports : List ImportLine} (filled : imports ≠ []) :
    (imports.flatMap text).getLast? = some lineBreak := by
  obtain ⟨front, last, rfl⟩ := (List.eq_nil_or_concat' imports).resolve_left filled
  have ends := last.getLast?_text
  have more : last.text ≠ [] := by
    intro empty
    rw [empty] at ends
    cases ends
  rw [List.flatMap_append, List.flatMap_singleton, List.getLast?_append_of_ne_nil _ more, ends]

theorem flatMap_eq {imports : List ImportLine} (filled : imports ≠ []) :
    ∃ rest, ∀ t, imports.flatMap text ++ t = "import " ++ (rest ++ t) := by
  obtain ⟨i, more, rfl⟩ := List.exists_cons_of_ne_nil filled
  refine ⟨i.lead ++ ("\"react\";" ++ i.ending) ++ more.flatMap text, fun t => ?_⟩
  rw [List.flatMap_cons, text]
  simp

/-- In a list that ends with an import that names something, a search ends with the first such import. -/
theorem exists_first (imports : List ImportLine) (filled : imports ≠ [])
    (last : ∀ i ∈ imports.getLast?, i.clause ≠ none) :
    ∃ first rest, imports = first ++ rest ∧ first ≠ [] ∧ (∀ i ∈ rest.getLast?, i.clause ≠ none) ∧
      ∀ previous t, (fromTail.findFrom? previous (first.flatMap text ++ t)).map Prod.snd = some ⟨some lineBreak, t⟩ := by
  induction imports with
  | nil => exact absurd rfl filled
  | cons i imports ih =>
    have later : ∀ j ∈ imports.getLast?, j.clause ≠ none := by
      intro j member
      refine last j ?_
      rw [List.getLast?_cons, Option.mem_def.mp member]
      rfl
    cases kind : i.clause with
    | some names =>
      refine ⟨[i], imports, rfl, List.cons_ne_nil _ _, later, fun previous t => ?_⟩
      rw [List.flatMap_singleton]
      exact findFrom?_of_naming kind t
    | none =>
      have more : imports ≠ [] := by
        rintro rfl
        exact last i rfl kind
      obtain ⟨first, rest, rfl, -, ends, found⟩ := ih more later
      refine ⟨i :: first, rest, rfl, List.cons_ne_nil _ _, ends, fun previous t => ?_⟩
      rw [List.flatMap_cons, List.append_assoc, findFrom?_append (by decide)
        (fromTail_passes_of_notMem (notMem_of_effect kind) _)]
      exact found _ t

/-- Imports of which the last one names something are all removed by what removes imports from a module. -/
theorem becomes_of_naming (imports : List ImportLine) (last : ∀ i ∈ imports.getLast?, i.clause ≠ none)
    (previous : Option CodePoint) (start : IsLineStart previous) (t : Text) :
    importFrom.Becomes (fun _ => []) previous (imports.flatMap text) t [] := by
  by_cases filled : imports = []
  · cases filled
    exact becomes_of_passes fun before c x split => absurd split (by simp)
  · obtain ⟨first, rest, rfl, nonempty, ends, found⟩ := exists_first imports filled last
    have shorter : rest.length < (first ++ rest).length := by
      rw [List.length_append]
      exact Nat.lt_add_of_pos_left (List.length_pos_iff.mpr nonempty)
    obtain ⟨more, begun⟩ := flatMap_eq nonempty
    have lastFeed := getLast?_flatMap nonempty
    have ends' : importFrom.end? ⟨previous, first.flatMap text ++ (rest.flatMap text ++ t)⟩
        = some ⟨(first.flatMap text).getLast?.or previous, rest.flatMap text ++ t⟩ := by
      have goes := found previous (rest.flatMap text ++ t)
      rw [begun] at goes
      rw [begun, lastFeed]
      exact end?_importFrom start goes
    have here : importFrom.Becomes (fun _ => []) previous (first.flatMap text) (rest.flatMap text ++ t) [] := by
      refine becomes_of_end? ?_ ends'
      intro empty
      rw [empty] at lastFeed
      cases lastFeed
    have afterFeed : IsLineStart ((first.flatMap text).getLast?.or previous) := by
      rw [lastFeed]
      exact isLineStart_feed
    have later := becomes_of_naming rest ends _ afterFeed t
    rw [List.flatMap_append]
    exact here.append later
termination_by imports.length

end ImportLine

theorem importFrom_eq : importFrom = importWith [someBlanks, fewest (fun _ => true) 0, edge, exactly "from", blanks] := rfl

theorem importForEffect_eq : importForEffect = importWith [blanks] := rfl

/-- What begins, after blanks, with the word `import` and goes on with a blank or a quote. -/
def GoesOnFromImport (t : Text) : Prop :=
  ∃ (indent rest : Text) (c : CodePoint), t = indent ++ ("import" ++ c :: rest) ∧ IsIndent indent ∧
    (c.isBlank = true ∨ isQuote c = true)

/-- An import stands at the start of a line, which begins with the word. -/
theorem shape_of_import {p : Pattern} (among : p ∈ [importFrom, importForEffect]) {found after : Text}
    (match_ : p.Matches previous found after) :
    IsLineStart previous ∧ GoesOnFromImport found := by
  have shape {q : Pattern} {qs : List Pattern}
      (blank : ∀ clause t, (seq (q :: qs)).Matches (some 't') clause t → ∀ c ∈ clause.head?, c.isBlank = true)
      (match_ : (importWith (q :: qs)).Matches previous found after) : IsLineStart previous ∧ GoesOnFromImport found := by
    refine ⟨isLineStart_iff.mpr ((matches_seq_between _ _ _).mp match_).1, ?_⟩
    obtain ⟨indent, clause, name, rest, t, opening, closing, rfl, indented, clauses, opens, -⟩ :=
      exists_import_of_matches match_
    cases clause with
    | nil => exact ⟨indent, name ++ closing :: rest, opening, by simp, indented, .inr opens⟩
    | cons c clause =>
      exact ⟨indent, clause ++ opening :: (name ++ closing :: rest), c, by simp, indented, .inl (blank _ t clauses c rfl)⟩
  rcases List.mem_pair.mp among with rfl | rfl
  · rw [importFrom_eq] at match_
    refine shape (fun clause t clauses => ?_) match_
    obtain ⟨space, names, last, rfl, isGap, -⟩ := (matches_fromClause clause t).mp clauses
    obtain ⟨c, space, rfl⟩ := List.exists_cons_of_ne_nil isGap.1
    rintro _ ⟨⟩
    exact isGap.2 c List.mem_cons_self
  · rw [importForEffect_eq] at match_
    refine shape (fun clause t clauses c head => ?_) match_
    exact (matches_blankClause clause t).mp clauses c (List.mem_of_mem_head? head)

theorem beginsWithImport_of_shape {indent rest : Text} (indented : IsIndent indent)
    (word : ∀ c ∈ rest.head?, c.isWord = false) : beginsWithImport (indent ++ ("import" ++ rest)) = true := by
  have stops : ("import" ++ rest : Text).dropWhile (charIn " \t") = "import" ++ rest := by
    rw [Text.ofString_eq rfl]
    rfl
  have cut : Text.dropStart? "import" ("import" ++ rest) = some rest := by
    rw [Text.dropStart?, if_pos (List.isPrefixOf_iff_prefix.mpr (List.prefix_append _ _)), List.drop_left]
  rw [beginsWithImport, List.dropWhile_append_of_pos indented, stops, cut]
  cases rest with
  | nil => rfl
  | cons c rest =>
    have first : c.isWord = false := word c rfl
    simp [first]

theorem takeWhile_mem_splitOn_of_start {before : Text} (start : IsLineStart (before.getLast?.or previous)) (t : Text) :
    t.takeWhile (· ≠ lineBreak) ∈ Text.splitOn lineBreak (before ++ t) := by
  have first := Text.takeWhile_mem_splitOn lineBreak t
  rcases List.eq_nil_or_concat' before with rfl | ⟨front, last, rfl⟩
  · exact first
  · have feed : last = lineBreak := start last (by simp)
    rw [feed, List.append_assoc, List.singleton_append, Text.splitOn_append]
    exact List.mem_append_right _ first

/-- The first line of a text that ends with a line is the same whatever comes after it. -/
theorem takeWhile_append_of_ended {before x : Text} (ended : t = [] ∨ IsLineStart (before ++ c :: x).getLast?) :
    (c :: (x ++ t)).takeWhile (· ≠ lineBreak) = (c :: x).takeWhile (· ≠ lineBreak) := by
  rcases ended with rfl | feed
  · rw [List.append_nil]
  · rcases List.eq_nil_or_concat' (c :: x) with empty | ⟨front, last, whole⟩
    · cases empty
    · have isFeed : last = lineBreak := feed last (by rw [whole, ← List.append_assoc, List.getLast?_concat]; rfl)
      rw [← List.cons_append, whole, isFeed, List.append_assoc]
      simp [List.takeWhile_append]

/-- Where no line begins with the word, nothing counts as an import. -/
theorem passes_body {p : Pattern} (among : p ∈ [importFrom, importForEffect])
    (plain : ∀ line ∈ Text.splitOn lineBreak body, beginsWithImport line = false)
    (ended : t = [] ∨ IsLineStart body.getLast?) : p.Passes previous body t := by
  rintro before c x rfl ⟨found, after, text, -, match_⟩
  obtain ⟨start, indent, rest, d, rfl, indented, goesOn⟩ := shape_of_import among match_
  have begins : (c :: x).takeWhile (· ≠ lineBreak)
      = indent ++ ("import" ++ (d :: (rest ++ after)).takeWhile (· ≠ lineBreak)) := by
    have unbroken : ∀ e ∈ indent ++ "import", decide (e ≠ lineBreak) = true := by
      rw [List.forall_mem_append]
      refine ⟨fun e member => ?_, by decide⟩
      have notFeed : lineBreak ∉ indent := indented.notMem (by decide)
      simpa using ne_of_mem_of_not_mem member notFeed
    have whole : c :: (x ++ t) = (indent ++ "import") ++ (d :: (rest ++ after)) := by simp [text]
    rw [← takeWhile_append_of_ended ended, whole, List.takeWhile_append_of_pos unbroken, List.append_assoc]
  have found : beginsWithImport ((c :: x).takeWhile (· ≠ lineBreak)) = true := by
    rw [begins]
    refine beginsWithImport_of_shape indented fun e head => ?_
    by_cases feed : d = lineBreak
    · simp [feed] at head
    · rw [List.takeWhile_cons_of_pos (by simpa using feed)] at head
      cases head
      exact goesOn.elim CodePoint.isWord_of_isBlank isWord_of_isQuote
  exact Bool.false_ne_true ((plain _ (takeWhile_mem_splitOn_of_start start (c :: x))).symm.trans found)

theorem matches_fromTail_of_fromQuoted {found after : Text} (match_ : fromQuoted.Matches previous found after) :
    fromTail.Matches previous found after := by
  have nothing : terminator.Matches (found.getLast?.or previous) [] ([] ++ after) :=
    matches_terminator.mpr ⟨[], [], [], rfl, nofun, .inl rfl, nofun⟩
  exact (matches_seq_append edge terminator [exactly "from", blanks, quoted] [optional lineFeed]).mpr
    ⟨found, [], by simp, match_, [], [], rfl, nothing, .inr rfl⟩

/-- What removes imports from a module needs one in quotes after the word `from`. -/
theorem occursIn_fromQuoted {before found after : Text}
    (match_ : importFrom.Matches (before.getLast?.or previous) found after) :
    fromQuoted.occursIn (before ++ found ++ after) = true := by
  obtain ⟨lead, rest, rfl, matchesLead, tail⟩ :=
    (matches_seq_append lineStart edge [gap, exactly "import", someBlanks, fewest (fun _ => true) 0]
      [exactly "from", blanks, quoted, terminator, optional lineFeed]).mp match_
  obtain ⟨m, more, rfl, found, -⟩ :=
    (matches_seq_append edge terminator [exactly "from", blanks, quoted] [optional lineFeed]).mp tail
  have reads : lead ≠ [] := by
    rintro rfl
    exact not_matches_nil (by decide) _ _ matchesLead
  obtain ⟨front, last, rfl⟩ := (List.eq_nil_or_concat' lead).resolve_left reads
  rw [occursIn_iff]
  refine ⟨before ++ (front ++ [last]), m, more ++ after, by simp, ?_⟩
  rw [List.getLast?_concat, Option.some_or] at found
  rw [← List.append_assoc, List.getLast?_concat]
  exact found

/-- At the start of a line it is the same whether a line break stands before it or nothing does. -/
theorem matches_fromQuoted_of_start (start : IsLineStart previous) {before found after : Text} :
    fromQuoted.Matches (before.getLast?.or previous) found after ↔ fromQuoted.Matches before.getLast? found after := by
  rcases List.eq_nil_or_concat' before with rfl | ⟨front, last, rfl⟩
  · cases previous with
    | none => exact Iff.rfl
    | some c =>
      rw [start c rfl]
      constructor
      · exact fun match_ => (matches_seq_edge _ _).mpr ((matches_seq_edge _ _).mp match_)
      · exact fun match_ => (matches_seq_edge _ _).mpr ((matches_seq_edge _ _).mp match_)
  · rw [List.getLast?_concat, Option.some_or]

theorem occursIn_append {lead : Text} (absent : ('f' : CodePoint) ∉ lead) (start : IsLineStart lead.getLast?)
    (occurs : fromQuoted.occursIn (lead ++ t) = true) : fromQuoted.occursIn t = true := by
  obtain ⟨before, found, after, split, match_⟩ := occursIn_iff.mp occurs
  obtain ⟨-, _, rest, rfl, isFrom, -⟩ := (matches_seq_edge _ _).mp match_
  cases (matches_exactly _).mp isFrom
  have first : ("from" ++ rest : Text) = ('f' : CodePoint) :: ("rom" ++ rest) := by simp [Text.ofString_eq rfl]
  have parted : lead ++ t = before ++ ('f' : CodePoint) :: ("rom" ++ (rest ++ after)) := by
    rw [split, first]
    simp
  obtain ⟨more, rfl, tail⟩ := Text.exists_rest_of_notMem_left parted absent
  rw [occursIn_iff]
  refine ⟨more, "from" ++ rest, after, ?_, ?_⟩
  · rw [tail, first]
    simp
  · rw [List.getLast?_append, matches_fromQuoted_of_start start] at match_
    exact match_

/-- Where nothing in quotes comes after the word `from`, nothing is removed as imports from a module. -/
theorem importFrom_passes_of_absent (absent : fromQuoted.occursIn t = false) : importFrom.Passes previous t [] := by
  rintro before c x rfl ⟨found, after, text, -, match_⟩
  have occurs := occursIn_fromQuoted match_
  rw [List.append_assoc, ← text, List.append_nil, absent] at occurs
  cases occurs

namespace ImportLine

variable {effects : List ImportLine}

theorem notMem_of_effects (all : ∀ i ∈ effects, i.clause = none) : ('f' : CodePoint) ∉ effects.flatMap text := by
  rw [List.mem_flatMap]
  rintro ⟨i, among, inside⟩
  exact notMem_of_effect (all i among) inside

/-- Imports for their effects are removed by what removes such imports. -/
theorem becomes_of_effects (all : ∀ i ∈ effects, i.clause = none) (previous : Option CodePoint)
    (start : IsLineStart previous) (t : Text) :
    importForEffect.Becomes (fun _ => []) previous (effects.flatMap text) t [] := by
  induction effects generalizing previous with
  | nil => exact becomes_of_passes fun before c x split => absurd split (by simp)
  | cons i effects ih =>
    rw [List.forall_mem_cons] at all
    have ends : importForEffect.end? ⟨previous, i.text ++ (effects.flatMap text ++ t)⟩
        = some ⟨i.text.getLast?.or previous, effects.flatMap text ++ t⟩ := by
      rw [text_of_effect all.1, getLast?_text]
      have read : previous = none ∨ previous = some lineBreak := by
        cases previous with
        | none => exact .inl rfl
        | some c => exact .inr (congrArg some (start c rfl))
      rcases read with rfl | rfl <;> rcases i.isEnding with ending | ending <;> rw [ending] <;> cbv
    have filled : i.text ≠ [] := by
      intro empty
      have last := i.getLast?_text
      rw [empty] at last
      cases last
    have afterFeed : IsLineStart (i.text.getLast?.or previous) := by
      rw [getLast?_text]
      exact isLineStart_feed
    rw [List.flatMap_cons]
    exact (becomes_of_end? filled ends).append (ih all.2 _ afterFeed)

/-- After imports for their effects, what removes imports from a module goes on into what follows, if a module is
named there. -/
theorem end?_of_effects (all : ∀ i ∈ effects, i.clause = none) (filled : effects ≠ [])
    (start : IsLineStart previous) (occurs : fromQuoted.occursIn body = true) :
    ∃ e, importFrom.end? ⟨previous, effects.flatMap text ++ body⟩ = some e ∧ e.rest.length < body.length := by
  have feed := getLast?_flatMap filled
  have afterFeed : IsLineStart (some lineBreak) := isLineStart_feed
  have goes : (fromTail.findFrom? (some lineBreak) body).isSome = true := by
    obtain ⟨before, found, after, rfl, match_⟩ := occursIn_iff.mp occurs
    rw [← matches_fromQuoted_of_start afterFeed] at match_
    exact findFrom?_isSome_iff.mpr ⟨before, found, after, rfl, matches_fromTail_of_fromQuoted match_⟩
  obtain ⟨⟨place, e⟩, found⟩ := Option.isSome_iff_exists.mp goes
  have ends : (fromTail.findFrom? (some lineBreak) body).map Prod.snd = some e := by rw [found]; rfl
  obtain ⟨more, begun⟩ := flatMap_eq filled
  refine ⟨e, ?_, ?_⟩
  · have whole : (fromTail.findFrom? previous (effects.flatMap text ++ body)).map Prod.snd = some e := by
      rw [findFrom?_append (by decide) (fromTail_passes_of_notMem (notMem_of_effects all) _), feed, Option.some_or, ends]
    rw [begun] at whole ⊢
    exact end?_importFrom start whole
  · obtain ⟨before, m, split, match_⟩ := exists_of_findFrom? ends
    have nonempty : m ≠ [] := by
      rintro rfl
      exact not_matches_nil (by decide) _ _ match_
    have positive := List.length_pos_iff.mpr nonempty
    rw [split, List.length_append, List.length_append]
    omega

/-- Imports are parted after the last one that names something. -/
theorem exists_parts (imports : List ImportLine) :
    ∃ front effects, imports = front ++ effects ∧ (∀ i ∈ front.getLast?, i.clause ≠ none) ∧
      ∀ i ∈ effects, i.clause = none := by
  refine ⟨imports.rdropWhile fun i => i.clause.isNone, imports.rtakeWhile fun i => i.clause.isNone,
    List.rdropWhile_append_rtakeWhile.symm, fun i last => ?_, fun i member => ?_⟩
  · obtain ⟨filled, rfl⟩ := List.mem_getLast?_eq_getLast last
    have named := List.rdropWhile_last_not (fun i : ImportLine => i.clause.isNone) imports filled
    simpa using named
  · simpa using List.mem_rtakeWhile_imp member

variable {front : List ImportLine}

/-- The last of all is an import for its effect exactly if there are such imports after the last one that names
something. -/
theorem forall_last_iff {P : Prop} (naming : ∀ i ∈ front.getLast?, i.clause ≠ none)
    (all : ∀ i ∈ effects, i.clause = none) :
    (∀ last ∈ (front ++ effects).getLast?, last.clause = none → P) ↔ (effects ≠ [] → P) := by
  rcases List.eq_nil_or_concat' effects with rfl | ⟨others, last, rfl⟩
  · rw [List.append_nil]
    exact iff_of_true (fun last member unnamed => absurd unnamed (naming last member)) fun filled => absurd rfl filled
  · have unnamed : last.clause = none := all last (by simp)
    rw [← List.append_assoc, List.getLast?_concat]
    simp [unnamed]

theorem isLineStart_after (imports : List ImportLine) (start : IsLineStart previous) :
    IsLineStart ((imports.flatMap text).getLast?.or previous) := by
  by_cases filled : imports = []
  · rw [filled]
    exact start
  · rw [getLast?_flatMap filled]
    exact isLineStart_feed

/-- If no module is named after imports for their effects, what removes imports from a module lets all of it pass. -/
theorem importFrom_passes_of_effects (all : ∀ i ∈ effects, i.clause = none) (filled : effects ≠ [])
    (absent : fromQuoted.occursIn body = false) (previous : Option CodePoint) :
    importFrom.Passes previous (effects.flatMap text ++ body) [] := by
  refine importFrom_passes_of_absent (Bool.eq_false_iff.mpr fun occurs => ?_)
  have lastFeed : IsLineStart (effects.flatMap text).getLast? := by
    rw [getLast?_flatMap filled]
    exact isLineStart_feed
  have inBody := occursIn_append (notMem_of_effects all) lastFeed occurs
  exact Bool.false_ne_true (absent.symm.trans inBody)

/-- If a module is named after imports for their effects, the search that starts at the first of them takes a piece of
what follows them, and not all of that is left. -/
theorem length_withoutImports_lt (naming : ∀ i ∈ front.getLast?, i.clause ≠ none)
    (all : ∀ i ∈ effects, i.clause = none) (filled : effects ≠ []) (occurs : fromQuoted.occursIn body = true) :
    (withoutImports ((front ++ effects).flatMap text ++ body)).length < body.length := by
  obtain ⟨s, scanned, -, gone⟩ :=
    becomes_of_naming front naming none isLineStart_none (effects.flatMap text ++ body)
  obtain ⟨e, ends, shorter⟩ := end?_of_effects all filled (isLineStart_after front isLineStart_none) occurs
  have longer : e.rest.length < (effects.flatMap text ++ body).length := by
    rw [List.length_append]
    omega
  have left : (withoutImports ((front ++ effects).flatMap text ++ body)).Sublist e.rest := by
    refine (remove_sublist _ _).trans ?_
    rw [List.flatMap_append, List.append_assoc, remove, replaceAll_eq, scanned, List.flatMap_append, gone,
      List.nil_append]
    exact removed_sublist_of_end? ends longer
  exact left.length_le.trans_lt shorter

/-- Imports go and the body stays, if both searches let the body pass and no module is named after imports for their
effects. -/
theorem withoutImports_eq_body (naming : ∀ i ∈ front.getLast?, i.clause ≠ none)
    (all : ∀ i ∈ effects, i.clause = none) (absent : effects ≠ [] → fromQuoted.occursIn body = false)
    (kept : ∀ p ∈ [importFrom, importForEffect], ∀ previous, p.Passes previous body []) :
    withoutImports ((front ++ effects).flatMap text ++ body) = body := by
  have first : importFrom.remove (front.flatMap text ++ (effects.flatMap text ++ body))
      = effects.flatMap text ++ body := by
    refine (becomes_of_naming front naming none isLineStart_none _).remove_eq ?_
    by_cases filled : effects = []
    · rw [filled]
      exact kept _ (by simp) _
    · exact importFrom_passes_of_effects all filled (absent filled) _
  rw [withoutImports, List.flatMap_append, List.append_assoc, first]
  exact (becomes_of_effects all none isLineStart_none body).remove_eq (kept _ (by simp) _)

end ImportLine

/-- Imports at the start of a source go, and what follows them stays as it is, exactly if the last one names something
or no module is named after it. -/
theorem withoutImports_eq_iff (imports : List ImportLine) (body : Text)
    (plain : ∀ line ∈ Text.splitOn '\n' body, beginsWithImport line = false) :
    withoutImports (imports.flatMap ImportLine.text ++ body) = body ↔
      ∀ last ∈ imports.getLast?, last.clause = none → fromQuoted.occursIn body = false := by
  obtain ⟨front, effects, rfl, naming, all⟩ := ImportLine.exists_parts imports
  rw [ImportLine.forall_last_iff naming all]
  constructor
  · intro same filled
    rw [← Bool.not_eq_true]
    intro occurs
    have shorter := ImportLine.length_withoutImports_lt naming all filled occurs
    rw [same] at shorter
    exact lt_irrefl _ shorter
  · intro absent
    exact ImportLine.withoutImports_eq_body naming all absent fun p among previous =>
      passes_body among plain (.inl rfl)

def reactForEffect : ImportLine where
  clause := none
  ending := "\n"
  quoteless := nofun
  isEnding := .inl rfl

def reactByName : ImportLine where
  clause := some "React"
  ending := "\r\n"
  quoteless := by
    rintro _ ⟨⟩
    decide
  isEnding := .inr rfl

/-- A line in which something in quotes comes after the word `from`. -/
def mailLine : Text := "const note = <p>Mail from \"home\"</p>;\n"

theorem mailLine_plain : ∀ line ∈ Text.splitOn '\n' mailLine, beginsWithImport line = false := by
  simp only [mailLine, Text.ofString_eq rfl]
  decide +kernel

theorem withoutImports_eq_iff_named :
    (∀ line ∈ Text.splitOn '\n' mailLine, beginsWithImport line = false) ∧
      withoutImports ([reactForEffect, reactByName].flatMap ImportLine.text ++ mailLine) = mailLine := by
  refine ⟨mailLine_plain, (withoutImports_eq_iff _ _ mailLine_plain).mpr ?_⟩
  rintro _ ⟨⟩ ⟨⟩

/-- With the import for its effect alone, half of the line goes as well. -/
theorem withoutImports_ne_mailLine :
    (∀ line ∈ Text.splitOn '\n' mailLine, beginsWithImport line = false) ∧
      withoutImports ([reactForEffect].flatMap ImportLine.text ++ mailLine) = "</p>;\n" ∧
      withoutImports ([reactForEffect].flatMap ImportLine.text ++ mailLine) ≠ mailLine := by
  refine ⟨mailLine_plain, ?_⟩
  simp only [List.flatMap_singleton, reactForEffect, ImportLine.text, ImportLine.lead, mailLine, withoutImports,
    Text.ofString_eq rfl]
  decide +kernel

end LessonService.Script
