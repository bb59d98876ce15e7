import LessonService.Generation.Prompt
import LessonService.Proofs.Text.AnyCase
import LessonService.Proofs.Text.Occurrence
import LessonService.Proofs.Text.Trim

namespace LessonService.Generation

open Pattern

/-- The languages that may be named after a fence. -/
def languages : List Text := ["typescript", "tsx", "jsx", "ts", "javascript", "js"]

/-- The rest of the line of a fence, as far as it goes with it. -/
def fenceRest : Pattern := seq [manyIn " \t", optional (oneIn "\r"), optional (oneIn "\n")]

theorem fence_eq :
    fence = both (exactly "```") (both (optional (oneOf (languages.map inAnyCase))) fenceRest) := rfl

variable {previous : Option CodePoint} {a b t found after tag gap : Text} {c : CodePoint}

theorem marks_eq : ("```" : Text) = [⟨0x60⟩, ⟨0x60⟩, ⟨0x60⟩] := rfl

/-- A match of a fence starts exactly where the three marks stand. -/
theorem fence_starts_iff : fence.Starts previous t ↔ ("```" : Text) <+: t := by
  constructor
  · intro ⟨found, after, split, _, match_⟩
    obtain ⟨marks, rest, whole, isMarks, _⟩ := match_
    rw [(matches_exactly _).mp isMarks] at whole
    rw [split, whole, List.append_assoc]
    exact List.prefix_append _ _
  · intro ⟨after, split⟩
    refine ⟨"```", after, split.symm, by simp [marks_eq], "```", [], rfl, (matches_exactly _).mpr rfl, ?_⟩
    exact ⟨[], [], rfl, .inr rfl, [], [], rfl, ⟨Nat.zero_le _, by simp⟩, [], [], rfl, .inr rfl, .inr rfl⟩

theorem fence_passes_of_notMem (absent : (⟨0x60⟩ : CodePoint) ∉ a) : fence.Passes previous a b := by
  refine passes_of_forall fun c member previous t starts => ?_
  have first := fence_starts_iff.mp starts
  rw [marks_eq, List.cons_prefix_cons] at first
  exact absent (first.1 ▸ member)

/-- No fence starts in a text that has none, before another character. -/
theorem fence_passes (absent : ¬("```" : Text) <:+: a) (other : ∀ c ∈ b.head?, c ≠ ⟨0x60⟩) :
    fence.Passes previous a b := by
  intro before c x split starts
  have first := fence_starts_iff.mp starts
  have inside : ("```" : Text) <+: c :: x := by
    cases b with
    | nil => rwa [List.append_nil] at first
    | cons d b =>
      have apart : d ∉ ("```" : Text) := by
        have differs := other d rfl
        simp [marks_eq, differs]
      exact Text.prefix_of_prefix_append_cons apart first
  exact absent (split ▸ inside.isInfix.trans (List.suffix_append before (c :: x)).isInfix)

/-- The rest of a line goes as far as it can, over blanks. -/
theorem exists_fenceRest_end? (previous : Option CodePoint) (t : Text) :
    ∃ read more, t = read ++ more ∧ (∀ c ∈ read, c.isBlank = true) ∧
      fenceRest.end? ⟨previous, t⟩ = some ⟨read.getLast?.or previous, more⟩ := by
  have goes : (fenceRest.end? ⟨previous, t⟩).isSome = true := by
    rw [end?_isSome_iff]
    exact ⟨[], t, rfl, [], [], rfl, ⟨Nat.zero_le _, by simp⟩, [], [], rfl, .inr rfl, .inr rfl⟩
  have blanks : fenceRest.Within fun c => c.isBlank = true := by
    have marks {cs : String} {chars : List Char} (only : cs.toList = chars)
        (all : (chars.all fun d => (d : CodePoint).isBlank) = true) (c : CodePoint) (member : charIn cs c = true) :
        c.isBlank = true := by
      obtain ⟨d, among, rfl⟩ := (charIn_iff only c).mp member
      exact List.all_eq_true.mp all d among
    have spaces := marks (by decide : " \t".toList = [' ', '\t']) (by decide)
    have returns := marks (by decide : "\r".toList = ['\r']) (by decide)
    have feeds := marks (by decide : "\n".toList = ['\n']) (by decide)
    exact ⟨spaces, ⟨returns, trivial⟩, feeds, trivial⟩
  obtain ⟨⟨last, more⟩, ends⟩ := Option.isSome_iff_exists.mp goes
  obtain ⟨leads, match_⟩ := end?_eq_some ends
  refine ⟨_, more, leads.1, blanks.of_matches match_, ?_⟩
  rw [ends, ← leads.2]

/-- The name of a language in any case, or nothing. -/
def IsTag (tag : Text) : Prop := tag = [] ∨ ∃ language ∈ languages, IsInAnyCase language tag

theorem isWord_of_language {language : Text} (member : language ∈ languages) (cased : IsInAnyCase language tag) :
    ∀ c ∈ tag, c.isWord = true := by
  have lower : ∀ language ∈ languages, ∀ c ∈ language, c.isLowerLetter = true := by decide
  exact cased.isWord (lower language member)

/-- The name of a language ends where a word does. -/
theorem tag_end? (isTag : IsTag tag) (stops : ∀ c ∈ t.head?, c.isWord = false) :
    (optional (oneOf (languages.map inAnyCase))).end? ⟨previous, tag ++ t⟩ = some ⟨tag.getLast?.or previous, t⟩ := by
  have within : ∀ language ∈ languages, ∀ found, IsInAnyCase language found → found <+: tag ++ t → found <+: tag := by
    intro language member found cased starts
    cases t with
    | nil => rwa [List.append_nil] at starts
    | cons c t =>
      refine Text.prefix_of_prefix_append_cons (fun inside => ?_) starts
      have word := isWord_of_language member cased c inside
      rw [stops c rfl] at word
      cases word
  rw [end?_optional]
  rcases isTag with rfl | ⟨language, member, cased⟩
  · have none : (oneOf (languages.map inAnyCase)).end? ⟨previous, [] ++ t⟩ = Option.none := by
      by_contra some
      obtain ⟨found, after, split, match_⟩ := end?_isSome_iff.mp (Option.isSome_iff_ne_none.mpr some)
      obtain ⟨language, member, cased⟩ := matches_oneOf_inAnyCase.mp match_
      have empty := List.prefix_nil.mp (within language member found cased ⟨after, split.symm⟩)
      have length := cased.length_eq
      have filled : ∀ language ∈ languages, 0 < language.length := by decide
      have positive := filled language member
      rw [empty, List.length_nil] at length
      omega
    rw [none]
    rfl
  · rw [end?_oneOf_inAnyCase (by decide) (by decide) member cased within]
    rfl

/-- Blanks, and at least one. -/
structure IsBreak (t : Text) : Prop where
  filled : t ≠ []
  blank : ∀ c ∈ t, c.isBlank = true

/-- Blanks that are read from a text go no further than to its first character that is none. -/
theorem exists_gap_eq {read rest : Text} (split : gap ++ a = read ++ rest) (blank : ∀ c ∈ read, c.isBlank = true)
    (solid : ∀ c ∈ a.head?, c.isBlank = false) : ∃ more, gap = read ++ more ∧ rest = more ++ a := by
  rcases List.append_eq_append_iff.mp split with ⟨excess, further, after⟩ | ⟨more, before, after⟩
  · cases excess with
    | nil => exact ⟨[], by simpa using further.symm, by simpa using after.symm⟩
    | cons c excess =>
      have inside : c ∈ read := further ▸ List.mem_append_right _ List.mem_cons_self
      have first := solid c (by rw [after]; rfl)
      rw [blank c inside] at first
      cases first
  · exact ⟨more, before, after⟩

/-- A fence is removed with its tag and some of the blanks after it. -/
theorem exists_fence_becomes (previous : Option CodePoint) (isTag : IsTag tag) (blank : ∀ c ∈ gap, c.isBlank = true)
    (ended : gap ≠ [] ∨ a = []) (solid : ∀ c ∈ a.head?, c.isBlank = false) :
    ∃ read more, gap = read ++ more ∧
      fence.Becomes (fun _ => []) previous ("```" ++ tag ++ read) (more ++ a) [] := by
  have stops : ∀ c ∈ (gap ++ a).head?, c.isWord = false := by
    intro c first
    cases gap with
    | nil =>
      rw [ended.resolve_left fun filled => filled rfl] at first
      cases first
    | cons d gap =>
      cases first
      exact CodePoint.isWord_of_isBlank (blank c List.mem_cons_self)
  let atTag := ("```" : Text).getLast?.or previous
  obtain ⟨read, rest, split, isBlank, restEnd⟩ := exists_fenceRest_end? (tag.getLast?.or atTag) (gap ++ a)
  obtain ⟨more, parted, rfl⟩ := exists_gap_eq split isBlank solid
  refine ⟨read, more, parted, becomes_of_end? (by simp [marks_eq]) ?_⟩
  have ends : fence.end? ⟨previous, "```" ++ (tag ++ (gap ++ a))⟩
      = some ⟨read.getLast?.or (tag.getLast?.or atTag), more ++ a⟩ := by
    rw [fence_eq, end?_both_of_ends (ends_exactly "```")]
    exact end?_both_of_end? (tag_end? isTag stops) restEnd
  rw [List.append_assoc, List.append_assoc, ← split, ends, List.getLast?_append, List.getLast?_append, Option.or_assoc,
    Option.or_assoc]

/-- Code without fences, of which trimming takes nothing. -/
structure IsBare (code : Text) : Prop where
  filled : code ≠ []
  trimmed : code.IsTrimmed
  unfenced : ¬("```" : Text) <:+: code

theorem IsBreak.unmarked (isBreak : IsBreak gap) : (⟨0x60⟩ : CodePoint) ∉ gap := by
  intro member
  have blank := isBreak.blank _ member
  cases blank

/-- Between fences the code is left, with some of the blanks around it. -/
theorem exists_remove_fence {lead code ending : Text} (unmarked : (⟨0x60⟩ : CodePoint) ∉ lead) (isTag : IsTag tag)
    (isGap : IsBreak gap) (isBare : IsBare code) (isEnding : IsBreak ending) :
    ∃ more, more <:+ gap ∧
      fence.remove (lead ++ "```" ++ tag ++ gap ++ code ++ ending ++ "```") = lead ++ more ++ code ++ ending := by
  have solid : ∀ c ∈ (code ++ ending ++ "```" : Text).head?, c.isBlank = false := by
    rw [List.append_assoc, List.head?_append_of_ne_nil code isBare.filled]
    exact isBare.trimmed.first
  obtain ⟨read, more, parted, opening⟩ :=
    exists_fence_becomes (lead.getLast?.or none) isTag isGap.blank (.inl isGap.filled) solid
  have suffix : more <:+ gap := ⟨read, parted.symm⟩
  let first : Text := "```" ++ tag ++ read
  let body : Text := more ++ code ++ ending
  have before : fence.Becomes (fun _ => []) none lead (first ++ (body ++ "```")) lead :=
    becomes_of_passes (fence_passes_of_notMem unmarked)
  have around : fence.Becomes (fun _ => []) ((lead ++ first).getLast?.or none) body "```" body := by
    refine becomes_of_passes (((fence_passes_of_notMem ?_).append (fence_passes isBare.unfenced ?_)).append
      (fence_passes_of_notMem isEnding.unmarked))
    · exact fun member => isGap.unmarked (suffix.subset member)
    · rw [List.head?_append_of_ne_nil ending isEnding.filled]
      rintro c last rfl
      exact isEnding.unmarked (List.mem_of_head? last)
  have closing : fence.Becomes (fun _ => []) ((lead ++ first ++ body).getLast?.or none) "```" [] [] := by
    have untagged : IsTag [] := .inl rfl
    obtain ⟨read', more', nothing, ends⟩ := exists_fence_becomes ((lead ++ first ++ body).getLast?.or none) untagged
      (List.forall_mem_nil _) (.inr rfl) (by simp)
    obtain ⟨rfl, rfl⟩ := List.append_eq_nil_iff.mp nothing.symm
    exact ends
  rw [show more ++ (code ++ ending ++ "```") = body ++ "```" by simp [body]] at opening
  have scanned := ((before.append opening).append around).append closing
  refine ⟨more, suffix, ?_⟩
  have removed := scanned.replaceAll_eq
  simpa [remove, first, body, parted] using removed

/-- What models say before the code. -/
def introductions : List Text := ["here's the fixed code", "here is the fixed code", "fixed code"]

theorem preamble_eq : preamble = both textStart (both (oneOf (introductions.map inAnyCase))
    (both blanks (both (optional (oneIn ":")) (both blanks (manyIn "\n"))))) := rfl

/-- An introduction is found only where a text starts, and only one of those there are. -/
theorem preamble_starts (starts : preamble.Starts previous t) :
    previous = none ∧ ∃ introduction ∈ introductions, ∃ said, IsInAnyCase introduction said ∧ said <+: t := by
  obtain ⟨found, after, split, _, match_⟩ := starts
  rw [preamble_eq] at match_
  obtain ⟨nothing, rest, whole, ⟨empty, atStart⟩, said, later, whole', isSaid, _⟩ := match_
  obtain ⟨introduction, member, cased⟩ := matches_oneOf_inAnyCase.mp isSaid
  refine ⟨by simpa using atStart, introduction, member, said, cased, ?_⟩
  rw [split, whole, empty, whole', List.nil_append, List.append_assoc]
  exact List.prefix_append _ _

theorem preamble_passes_after (c : CodePoint) (a b : Text) : preamble.Passes (some c) a b := by
  intro before d x _ starts
  have atStart := (preamble_starts starts).1
  simp at atStart

/-- Where no introduction is at the start, nothing is removed. -/
theorem remove_preamble_eq_self
    (none : ∀ introduction ∈ introductions, ∀ said, IsInAnyCase introduction said → ¬said <+: t) :
    preamble.remove t = t := by
  refine Becomes.replaceAll_eq (becomes_of_passes ?_)
  cases t with
  | nil => exact passes_of_forall (by simp)
  | cons c t =>
    refine passes_cons.mpr ⟨fun starts => ?_, preamble_passes_after c t []⟩
    obtain ⟨_, introduction, member, said, cased, begins⟩ := preamble_starts starts
    rw [List.append_nil] at begins
    exact none introduction member said cased begins

/-- An introduction with a colon and blanks after it is read to where the code begins. -/
theorem preamble_end? {introduction said code : Text} (member : introduction ∈ introductions)
    (cased : IsInAnyCase introduction said) (blank : ∀ c ∈ gap, c.isBlank = true)
    (solid : ∀ c ∈ code.head?, c.isBlank = false) :
    preamble.end? ⟨none, said ++ (":" ++ (gap ++ code))⟩
      = some ⟨gap.getLast?.or (some (⟨0x3A⟩ : CodePoint)), code⟩ := by
  have stops : ∀ other ∈ introductions, ∀ found, IsInAnyCase other found →
      found <+: said ++ (":" ++ (gap ++ code)) → found <+: said := by
    intro other among found cased' begins
    rcases List.prefix_or_prefix_of_prefix begins (List.prefix_append said _) with inside | beyond
    · exact inside
    · have plain : ∀ introduction ∈ introductions, isPhrase introduction = true := by decide
      have apart : ∀ first ∈ introductions, ∀ later ∈ introductions, first <+: later → first = later := by decide
      have same := apart introduction member other among
        (cased.phrase_begins cased' (plain introduction member) (plain other among) beyond)
      have length : said.length = found.length := by rw [← cased.length_eq, ← cased'.length_eq, same]
      rw [beyond.eq_of_length length]
  have colon : charIn ":" ⟨0x3A⟩ = true := by decide
  let atColon := said.getLast?.or (none : Option CodePoint)
  let atGap := some (⟨0x3A⟩ : CodePoint)
  let atCode := gap.getLast?.or atGap
  have space : blanks.end? ⟨atColon, ":" ++ (gap ++ code)⟩ = some ⟨atColon, ":" ++ (gap ++ code)⟩ := by
    refine end?_most_nil fun c first => ?_
    cases first
    rfl
  have mark : (optional (oneIn ":")).end? ⟨atColon, ":" ++ (gap ++ code)⟩ = some ⟨atGap, gap ++ code⟩ := by
    rw [end?_optional, end?, show (":" : Text) ++ (gap ++ code) = ⟨0x3A⟩ :: (gap ++ code) from rfl, oneIn, ends_one colon]
    rfl
  have lines : blanks.end? ⟨atGap, gap ++ code⟩ = some ⟨atCode, code⟩ := end?_most blank (Nat.zero_le _) solid
  have feeds : (manyIn "\n").end? ⟨atCode, code⟩ = some ⟨atCode, code⟩ := by
    refine end?_most_nil fun c first => ?_
    by_contra feed
    obtain ⟨d, among, rfl⟩ := (charIn_iff (by decide : "\n".toList = ['\n']) c).mp (eq_true_of_ne_false feed)
    have other := solid _ first
    rw [List.mem_singleton.mp among] at other
    cases other
  rw [preamble_eq, textStart, end?_both_of_ends (ends_between rfl)]
  exact end?_both_of_end? (end?_oneOf_inAnyCase (by decide) (by decide) member cased stops)
    (end?_both_of_end? space (end?_both_of_end? mark (end?_both_of_end? lines feeds)))

/-- An introduction is removed with its colon and the blanks after it. -/
theorem remove_preamble_eq {introduction said code : Text} (member : introduction ∈ introductions)
    (cased : IsInAnyCase introduction said) (blank : ∀ c ∈ gap, c.isBlank = true)
    (solid : ∀ c ∈ code.head?, c.isBlank = false) :
    preamble.remove (said ++ ":" ++ gap ++ code) = code := by
  have ends := preamble_end? member cased blank solid
  have last : (said ++ ":" ++ gap).getLast?.or none = gap.getLast?.or (some (⟨0x3A⟩ : CodePoint)) := by
    have colon : (":" : Text).getLast? = some ⟨0x3A⟩ := rfl
    rw [List.getLast?_append, List.getLast?_append, colon, Option.or_none, Option.some_or]
  have gone : preamble.Becomes (fun _ => []) none (said ++ ":" ++ gap) code [] := by
    refine becomes_of_end? (by simp [Text.ofString_eq rfl]) ?_
    rw [last, ← ends]
    simp
  refine gone.remove_eq ?_
  rw [last]
  cases gap.getLast? with
  | none => exact preamble_passes_after _ code []
  | some c => exact preamble_passes_after c code []

theorem removed_of_passes {p : Pattern} (passes : p.Passes previous a []) :
    (p.segmentsFrom previous a).flatMap (Segment.changed fun _ => []) = a := by
  have kept := segmentsFrom_kept_append passes
  rw [List.append_nil, segmentsFrom, List.append_nil] at kept
  rw [kept, Segment.flatMap_changed_kept]

/-- Only a start of a text goes with an introduction. -/
theorem remove_preamble_suffix (t : Text) : preamble.remove t <:+ t := by
  rw [remove, replaceAll_eq]
  cases t with
  | nil => rw [segmentsFrom]; exact List.suffix_rfl
  | cons c t =>
    rcases segmentsFrom_cons preamble none c t with ⟨m, e, filled, leads, -, scanned⟩ | scanned
    · obtain ⟨d, last⟩ : ∃ d, m.getLast? = some d := ⟨_, List.getLast?_eq_some_getLast filled⟩
      rw [scanned, List.flatMap_cons, leads.2, last, Option.some_or,
        removed_of_passes (preamble_passes_after d e.rest [])]
      exact ⟨m, leads.1.symm⟩
    · rw [scanned, List.flatMap_cons, removed_of_passes (preamble_passes_after c t [])]
      exact List.suffix_rfl

/-- How many marks a text begins with. -/
def marksBefore (t : Text) : Nat := (t.takeWhile (· = (⟨0x60⟩ : CodePoint))).length

theorem marksBefore_cons_mark (t : Text) : marksBefore (⟨0x60⟩ :: t) = marksBefore t + 1 := rfl

theorem marksBefore_cons_of_ne (other : c ≠ ⟨0x60⟩) : marksBefore (c :: t) = 0 := by
  rw [marksBefore, List.takeWhile_cons_of_neg (by simpa using other)]
  rfl

theorem replicate_prefix_iff (n : Nat) (t : Text) : List.replicate n (⟨0x60⟩ : CodePoint) <+: t ↔ n ≤ marksBefore t := by
  induction n generalizing t with
  | zero => exact iff_of_true List.nil_prefix (Nat.zero_le _)
  | succ n ih =>
    cases t with
    | nil => simp [marksBefore]
    | cons c t =>
      rw [List.replicate_succ, List.cons_prefix_cons, ih]
      by_cases mark : c = ⟨0x60⟩
      · rw [mark, marksBefore_cons_mark, Nat.succ_le_succ_iff, and_iff_right rfl]
      · rw [marksBefore_cons_of_ne mark]
        simp [Ne.symm mark]

theorem marks_prefix_iff : ("```" : Text) <+: t ↔ 3 ≤ marksBefore t := replicate_prefix_iff 3 t

/-- A scan joins no marks to a fence: what is left of a text begins with as many marks as the text itself, where no
fence begins it. -/
theorem unfenced_removed (previous : Option CodePoint) (t : Text) :
    ¬("```" : Text) <:+: (fence.segmentsFrom previous t).flatMap (Segment.changed fun _ => []) ∧
      (marksBefore t < 3 →
        marksBefore ((fence.segmentsFrom previous t).flatMap (Segment.changed fun _ => [])) = marksBefore t) := by
  induction length : t.length using Nat.strong_induction_on generalizing t previous with
  | _ n ih =>
    cases t with
    | nil =>
      rw [segmentsFrom]
      exact ⟨by simp [marks_eq], fun _ => rfl⟩
    | cons c t =>
      by_cases begins : ("```" : Text) <+: c :: t
      · have reads : fence.alwaysReads = true := rfl
        obtain ⟨found, after, split, -, match_⟩ := fence_starts_iff.mpr begins
        obtain ⟨m, e, leads, first, scanned⟩ := exists_found_of_matches (not_matches_nil reads) match_
        have filled : m ≠ [] := by
          rintro rfl
          exact not_matches_nil reads _ _ first
        have shorter : e.rest.length < n := by
          have whole : found ++ after = m ++ e.rest := leads.1
          have positive := List.length_pos_iff.mpr filled
          rw [← length, split, whole, List.length_append]
          omega
        obtain ⟨unfenced, _⟩ := ih e.rest.length shorter e.previous e.rest rfl
        rw [split, scanned, List.flatMap_cons]
        refine ⟨unfenced, fun few => ?_⟩
        have many := marks_prefix_iff.mp (split ▸ begins)
        omega
      · have kept : fence.segmentsFrom previous (c :: t) = .kept c :: fence.segmentsFrom (some c) t :=
          segmentsFrom_of_not_starts (mt fence_starts_iff.mp begins)
        have few : marksBefore (c :: t) < 3 := by
          have fewer := mt marks_prefix_iff.mpr begins
          omega
        obtain ⟨unfenced, same⟩ := ih t.length (by rw [← length]; exact Nat.lt_succ_self _) (some c) t rfl
        rw [kept, List.flatMap_cons]
        generalize (fence.segmentsFrom (some c) t).flatMap (Segment.changed fun _ => []) = left at unfenced same ⊢
        have counted : marksBefore (c :: left) = marksBefore (c :: t) := by
          by_cases mark : c = ⟨0x60⟩
          · rw [mark, marksBefore_cons_mark] at few
            rw [mark, marksBefore_cons_mark, marksBefore_cons_mark, same (by omega)]
          · rw [marksBefore_cons_of_ne mark, marksBefore_cons_of_ne mark]
        refine ⟨fun inside => ?_, fun _ => counted⟩
        rcases List.infix_cons_iff.mp inside with here | later
        · have many : 3 ≤ marksBefore (c :: left) := marks_prefix_iff.mp here
          omega
        · exact unfenced later

theorem remove_fence_unfenced (answer : Text) : ¬("```" : Text) <:+: fence.remove answer := by
  rw [remove, replaceAll_eq]
  exact (unfenced_removed none answer).1

theorem cleanCode_unfenced (answer : Text) : ¬("```" : Text) <:+: cleanCode answer := by
  intro inside
  refine remove_fence_unfenced answer (inside.trans ?_)
  calc cleanCode answer <:+: preamble.remove (Text.trim (fence.remove answer)) := Text.trim_infix _
    _ <:+: Text.trim (fence.remove answer) := (remove_preamble_suffix _).isInfix
    _ <:+: fence.remove answer := Text.trim_infix _

/-- Code that no introduction begins. -/
def IsUnintroduced (code : Text) : Prop :=
  ∀ introduction ∈ introductions, ∀ said, IsInAnyCase introduction said → ¬said <+: code

/-- Nothing, or an introduction with a colon and a break after it. -/
def IsLead (lead : Text) : Prop :=
  lead = [] ∨ ∃ introduction ∈ introductions, ∃ said gap, IsInAnyCase introduction said ∧ IsBreak gap ∧
    lead = said ++ ":" ++ gap

theorem unmarked_of_introduction {introduction said : Text} (member : introduction ∈ introductions)
    (cased : IsInAnyCase introduction said) : (⟨0x60⟩ : CodePoint) ∉ said := by
  intro inside
  obtain ⟨letter, among, stands⟩ := exists_of_mem_exchanged cased inside
  have other : ∀ introduction ∈ introductions, ∀ letter ∈ introduction, standsFor letter ⟨0x60⟩ = false := by decide
  rw [other introduction member letter among] at stands
  cases stands

theorem IsLead.unmarked {lead : Text} (isLead : IsLead lead) : (⟨0x60⟩ : CodePoint) ∉ lead := by
  rcases isLead with rfl | ⟨introduction, member, said, gap, cased, isBreak, rfl⟩
  · exact List.not_mem_nil
  · have colon : (⟨0x60⟩ : CodePoint) ∉ (":" : Text) := by decide
    simp only [List.mem_append, not_or]
    exact ⟨⟨unmarked_of_introduction member cased, colon⟩, isBreak.unmarked⟩

/-- An introduction begins with a letter. -/
theorem solid_of_introduction {introduction said : Text} (member : introduction ∈ introductions)
    (cased : IsInAnyCase introduction said) : said ≠ [] ∧ ∀ c ∈ said.head?, c.isBlank = false := by
  have first : ∀ introduction ∈ introductions, introduction.head?.any CodePoint.isLowerLetter = true := by decide
  have lower := first introduction member
  cases cased with
  | nil => cases lower
  | @cons letter c _ _ stands _ =>
    refine ⟨List.cons_ne_nil _ _, fun d head => ?_⟩
    cases head
    have letterLower : letter.isLowerLetter = true := lower
    rw [standsFor, if_pos letterLower] at stands
    have word := CodePoint.isWord_of_isCaseOf letterLower stands
    by_contra blank
    rw [CodePoint.isWord_of_isBlank (eq_true_of_ne_false blank)] at word
    cases word

theorem cleanCode_eq_self {code : Text} (isBare : IsBare code) (unintroduced : IsUnintroduced code) :
    cleanCode code = code := by
  have kept : fence.remove code = code :=
    Becomes.replaceAll_eq (becomes_of_passes (fence_passes isBare.unfenced (by simp)))
  rw [cleanCode, kept, isBare.trimmed.trim_eq, remove_preamble_eq_self unintroduced, isBare.trimmed.trim_eq]

theorem cleanCode_wrapped {code lead ending : Text} (isBare : IsBare code) (unintroduced : IsUnintroduced code)
    (isLead : IsLead lead) (isTag : IsTag tag) (isGap : IsBreak gap) (isEnding : IsBreak ending) :
    cleanCode (lead ++ "```" ++ tag ++ gap ++ code ++ ending ++ "```") = code := by
  obtain ⟨more, suffix, removed⟩ := exists_remove_fence isLead.unmarked isTag isGap isBare isEnding
  have blank : ∀ c ∈ more, c.isBlank = true := fun c member => isGap.blank c (suffix.subset member)
  rw [cleanCode, removed]
  rcases isLead with rfl | ⟨introduction, member, said, space, cased, isBreak, rfl⟩
  · have trimmed : Text.trim ([] ++ more ++ code ++ ending) = code := by
      rw [List.nil_append, List.append_assoc, Text.trim_append_of_blank blank, isBare.trimmed.trim_append isEnding.blank]
    rw [trimmed, remove_preamble_eq_self unintroduced, isBare.trimmed.trim_eq]
  · have gathered : said ++ ":" ++ space ++ more ++ code = said ++ ":" ++ (space ++ more) ++ code := by simp
    have between : ∀ c ∈ space ++ more, c.isBlank = true := List.forall_mem_append.mpr ⟨isBreak.blank, blank⟩
    obtain ⟨filled, solid⟩ := solid_of_introduction member cased
    have isTrimmed : (said ++ ":" ++ (space ++ more) ++ code).IsTrimmed := by
      constructor
      · intro c first
        rw [List.append_assoc, List.append_assoc, List.head?_append_of_ne_nil said filled] at first
        exact solid c first
      · intro c last
        rw [List.getLast?_append_of_ne_nil _ isBare.filled] at last
        exact isBare.trimmed.last c last
    rw [gathered, isTrimmed.trim_append isEnding.blank, remove_preamble_eq member cased between isBare.trimmed.first,
      isBare.trimmed.trim_eq]

/-- Cleaning an answer gives back the code in it, bare or between fences with or without an introduction, and never
leaves a fence or blanks at the ends. -/
theorem cleanCode_gives_back :
    (∀ code, code ≠ [] → Text.trim code = code → ¬("```" : Text) <:+: code → IsUnintroduced code →
      cleanCode code = code ∧
        ∀ lead tag gap ending, IsLead lead → IsTag tag → IsBreak gap → IsBreak ending →
          cleanCode (lead ++ "```" ++ tag ++ gap ++ code ++ ending ++ "```") = code) ∧
    ∀ answer, ¬("```" : Text) <:+: cleanCode answer ∧ (cleanCode answer).IsTrimmed := by
  refine ⟨fun code filled trimmed unfenced unintroduced => ?_, fun answer => ?_⟩
  · have isBare : IsBare code := ⟨filled, trimmed ▸ Text.trim_isTrimmed code, unfenced⟩
    exact ⟨cleanCode_eq_self isBare unintroduced, fun lead tag gap ending isLead isTag isGap isEnding =>
      cleanCode_wrapped isBare unintroduced isLead isTag isGap isEnding⟩
  · exact ⟨cleanCode_unfenced answer, Text.trim_isTrimmed _⟩

theorem cleanCode_gives_back_template :
    let code : Text := "const half = `1/${two}`;"
    let answer : Text := "HERE'S the Fixed Code:\r\n```TypeScript \t\r\nconst half = `1/${two}`;\n```"
    cleanCode code = code ∧ cleanCode answer = code ∧ ¬("```" : Text) <:+: cleanCode answer := by
  intro code answer
  have unintroduced : IsUnintroduced code := by
    intro introduction member said cased begins
    have none : ∀ introduction ∈ introductions, ¬IsInAnyCase introduction (code.take introduction.length) := by decide
    have start : said = code.take introduction.length := by rw [cased.length_eq, ← List.prefix_iff_eq_take.mp begins]
    exact none introduction member (start ▸ cased)
  have lead : IsLead "HERE'S the Fixed Code:\r\n" := by
    refine .inr ⟨"here's the fixed code", by decide, "HERE'S the Fixed Code", "\r\n", ?_, ⟨by decide, by decide⟩, rfl⟩
    decide
  have tag : IsTag "TypeScript" := .inr ⟨"typescript", by decide, by decide⟩
  obtain ⟨itself, wrapped⟩ := cleanCode_gives_back.1 code (by decide) (by decide +kernel)
    ((Text.contains_eq_false_iff _ _).mp (by decide)) unintroduced
  refine ⟨itself, wrapped "HERE'S the Fixed Code:\r\n" "TypeScript" " \t\r\n" "\n" lead tag ⟨by decide, by decide⟩
    ⟨by decide, by decide⟩, (cleanCode_gives_back.2 answer).1⟩

end LessonService.Generation
