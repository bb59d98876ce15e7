import LessonService.Proofs.Request.Stages
import LessonService.Proofs.Request.Words

namespace LessonService.Request

open Pattern Script

variable {t u before found after : Text} {previous : Option CodePoint}

abbrev verbs : String := "select|insert|update|delete|drop|create|alter|exec|execute"

abbrev targets : String := "from|into|table|database"

/-- A verb and after it a target, each as a whole word in any case, wherever they stand in a text. -/
structure Statement (t : Text) where
  before : Text
  verb : Text
  between : Text
  target : Text
  after : Text
  text_eq : t = before ++ (verb ++ between ++ target) ++ after
  isVerb : IsOneOf verbs verb
  verbAlone : StandsAlone before.getLast? (between ++ target ++ after)
  isTarget : IsOneOf targets target
  targetAlone : StandsAlone (before ++ verb ++ between).getLast? after

/-- Whether no line feed parts the target from the verb. -/
def Statement.IsOnOneLine (s : Statement t) : Prop := lineBreak ∉ s.between

/-- The shape of a statement. -/
def statementShape : Pattern := seq [wholeWord verbs, lineRest, wholeWord targets]

theorem statementShape_mem : statementShape ∈ sqlPatterns := List.mem_cons_self

theorem verbs_lowercase : AreLowercase verbs := by decide

theorem targets_lowercase : AreLowercase targets := by decide

theorem matches_lineRest : lineRest.Matches previous found after ↔ lineBreak ∉ found := by
  constructor
  · rintro ⟨-, all⟩ member
    exact absurd (all lineBreak member) (by decide)
  · intro absent
    refine ⟨Nat.zero_le _, fun c member => decide_eq_true fun same => absent ?_⟩
    rwa [show lineBreak = c from congrArg CodePoint.mk same.symm]

theorem occursIn_statementShape_iff : statementShape.occursIn t = true ↔ ∃ s : Statement t, s.IsOnOneLine := by
  rw [occursIn_iff]
  constructor
  · rintro ⟨before, _, after, rfl, verb, _, rfl, first, between, target, rfl, rest, last⟩
    obtain ⟨isVerb, verbAlone⟩ := (matches_wholeWord verbs_lowercase).mp first
    obtain ⟨isTarget, targetAlone⟩ := (matches_wholeWord targets_lowercase).mp last
    refine ⟨⟨before, verb, between, target, after, by simp, isVerb, by simpa using verbAlone, isTarget, ?_⟩,
      matches_lineRest.mp rest⟩
    rwa [List.getLast?_append, List.getLast?_append]
  · rintro ⟨⟨before, verb, between, target, after, rfl, isVerb, verbAlone, isTarget, targetAlone⟩, oneLine⟩
    refine ⟨before, _, after, rfl, verb, between ++ target, List.append_assoc _ _ _, ?_, between, target, rfl,
      matches_lineRest.mpr oneLine, ?_⟩
    · exact (matches_wholeWord verbs_lowercase).mpr ⟨isVerb, verbAlone⟩
    · rw [List.getLast?_append, List.getLast?_append] at targetAlone
      exact (matches_wholeWord targets_lowercase).mpr ⟨isTarget, targetAlone⟩

theorem head_alone_of_prefix {a b : Text} (kept : a <+: b) (alone : b.head?.elim false CodePoint.isWord = false) :
    a.head?.elim false CodePoint.isWord = false := by
  cases a with
  | nil => rfl
  | cons c a =>
    obtain ⟨rest, rfl⟩ := kept
    exact alone

theorem last_alone_of_suffix {a b : Text} (kept : a <:+ b) (alone : b.getLast?.elim false CodePoint.isWord = false) :
    a.getLast?.elim false CodePoint.isWord = false := by
  rw [← List.head?_reverse] at alone ⊢
  exact head_alone_of_prefix (List.reverse_prefix.mpr kept) alone

/-- A statement stays where blanks at the ends of a text go. -/
theorem Statement.exists_trim (s : Statement t) : ∃ trimmed : Statement (Text.trim t), trimmed.between = s.between := by
  have visible {c : CodePoint} (isWord : c.isWord = true) : c.isBlank = false := by
    rw [Bool.eq_false_iff]
    intro blank
    exact Bool.false_ne_true ((CodePoint.isWord_of_isBlank blank).symm.trans isWord)
  obtain ⟨before, verb, between, target, after, rfl, isVerb, verbAlone, isTarget, targetAlone⟩ := s
  have filledVerb := (isVerb.exists_letter verbs_lowercase).1
  have filledTarget := (isTarget.exists_letter targets_lowercase).1
  obtain ⟨first, rest, sameVerb⟩ := List.exists_cons_of_ne_nil filledVerb
  obtain ⟨front, last, sameTarget⟩ := (List.eq_nil_or_concat' target).resolve_left filledTarget
  -- The stretch from the verb to the target has characters of words at both ends, so nothing is cut off it.
  have starts : first.isBlank = false := visible (isVerb.isWord verbs_lowercase first (by simp [sameVerb]))
  have ends : last.isBlank = false := visible (isTarget.isWord targets_lowercase last (by simp [sameTarget]))
  have stretch : verb ++ between ++ target = first :: ((rest ++ between ++ front) ++ [last]) := by
    simp [sameVerb, sameTarget]
  obtain ⟨b, a, keptBefore, keptAfter, trimmed⟩ := Text.exists_trim_append starts ends before after
  rw [← stretch] at trimmed
  have filled : between ++ target ≠ [] := List.append_ne_nil_of_right_ne_nil between filledTarget
  have filledLead : verb ++ between ≠ [] := List.append_ne_nil_of_left_ne_nil filledVerb between
  refine ⟨⟨b, verb, between, target, a, trimmed, isVerb, ⟨last_alone_of_suffix keptBefore verbAlone.1, ?_⟩, isTarget, ?_,
    head_alone_of_prefix keptAfter targetAlone.2⟩, rfl⟩
  · have head := verbAlone.2
    rwa [List.head?_append_of_ne_nil _ filled] at head ⊢
  · have tail := targetAlone.1
    rwa [List.append_assoc, List.getLast?_append_of_ne_nil _ filledLead] at tail ⊢

/-- Whether a character stays, or is a blank and becomes another one that is no line feed. -/
def Respaces (c d : CodePoint) : Prop := d = c ∨ c.isBlank = true ∧ d.isBlank = true ∧ d ≠ lineBreak

instance : DecidableRel Respaces := fun _ _ => inferInstanceAs (Decidable (_ ∨ _))

/-- Whether a text becomes another one by other white space in the places of some blanks. -/
def Respaced (t u : Text) : Prop := List.Forall₂ Respaces t u

instance (t u : Text) : Decidable (Respaced t u) := inferInstanceAs (Decidable (List.Forall₂ Respaces t u))

theorem Respaces.isBlank_eq {c d : CodePoint} (pair : Respaces c d) : c.isBlank = d.isBlank := by
  rcases pair with rfl | ⟨first, second, -⟩
  · rfl
  · rw [first, second]

theorem Respaces.isWord_eq {c d : CodePoint} (pair : Respaces c d) : c.isWord = d.isWord := by
  rcases pair with rfl | ⟨first, second, -⟩
  · rfl
  · rw [CodePoint.isWord_of_isBlank first, CodePoint.isWord_of_isBlank second]

theorem Respaced.dropWhile (spaced : Respaced t u) :
    Respaced (t.dropWhile CodePoint.isBlank) (u.dropWhile CodePoint.isBlank) := by
  induction spaced with
  | nil => exact .nil
  | @cons c d t u pair rest ih =>
    cases blank : c.isBlank with
    | false =>
      have visible : d.isBlank = false := pair.isBlank_eq ▸ blank
      rw [List.dropWhile_cons_of_neg (by simp [blank]), List.dropWhile_cons_of_neg (by simp [visible])]
      exact .cons pair rest
    | true =>
      have blank' : d.isBlank = true := pair.isBlank_eq ▸ blank
      rw [List.dropWhile_cons_of_pos blank, List.dropWhile_cons_of_pos blank']
      exact ih

theorem Respaced.trim (spaced : Respaced t u) : Respaced (Text.trim t) (Text.trim u) := by
  have left : Respaced (t.dropWhile CodePoint.isBlank).reverse (u.dropWhile CodePoint.isBlank).reverse :=
    List.rel_reverse spaced.dropWhile
  exact List.rel_reverse left.dropWhile

theorem allows_edge : edge.Allows Respaces := by
  have same : ∀ a b, Option.Rel Respaces a b → a.elim false CodePoint.isWord = b.elim false CodePoint.isWord := by
    rintro _ _ (pair | _)
    · exact pair.isWord_eq
    · rfl
  intro a a' b b' before behind differ
  have apart := bne_iff_ne.mp differ
  rw [same a a' before, same b b' behind] at apart
  exact bne_iff_ne.mpr apart

/-- A pattern for one visible character allows other white space. -/
theorem allows_visible {reads : CodePoint → Bool} (visible : ∀ c, reads c = true → c.isBlank = false) :
    (one reads).Allows Respaces := by
  rintro c d (rfl | ⟨blank, -, -⟩) read
  · exact read
  · exact absurd blank (by simp [visible c read])

theorem allows_blanks : blanks.Allows Respaces := by
  intro c d pair blank
  rwa [← pair.isBlank_eq]

theorem allows_lineRest : lineRest.Allows Respaces := by
  rintro c d (rfl | ⟨-, -, unbroken⟩) read
  · exact read
  · exact decide_eq_true fun same => unbroken (congrArg CodePoint.mk same)

theorem allows_anyOf {words : String} (lower : AreLowercase words) : (anyOf words).Allows Respaces := by
  refine allows_oneOf fun p member => ?_
  obtain ⟨w, among, rfl⟩ := List.mem_map.mp member
  refine allows_seq fun q inside => ?_
  obtain ⟨letter, inWord, rfl⟩ := List.mem_map.mp inside
  have isLower := (lower w among).2 letter inWord
  rw [if_pos isLower]
  refine allows_visible fun c partner => ?_
  rw [Bool.eq_false_iff]
  intro blank
  have isWord := CodePoint.isWord_of_isCaseOf isLower partner
  exact Bool.false_ne_true ((CodePoint.isWord_of_isBlank blank).symm.trans isWord)

theorem allows_wholeWord {words : String} (lower : AreLowercase words) : (wholeWord words).Allows Respaces :=
  ⟨allows_edge, allows_anyOf lower, allows_edge⟩

theorem allows_mark (mark : Char) {marks : String} (only : marks.toList = [mark])
    (visible : (mark : CodePoint).isBlank = false) : (oneIn marks).Allows Respaces := by
  refine allows_visible fun c among => ?_
  obtain ⟨d, member, rfl⟩ := (charIn_iff only c).mp among
  rwa [List.mem_singleton.mp member]

theorem allows_exactly {word : Text} (visible : ∀ c ∈ word, c.isBlank = false) : (exactly word).Allows Respaces := by
  refine allows_seq fun p member => ?_
  obtain ⟨c, among, rfl⟩ := List.mem_map.mp member
  refine allows_visible fun d same => ?_
  rw [of_decide_eq_true same]
  exact visible c among

/-- Each shape that the stage looks for may have other white space in it. -/
theorem sqlPatterns_allow : ∀ p ∈ sqlPatterns, p.Allows Respaces := by
  have word {words : String} (lower : AreLowercase words) := allows_wholeWord lower
  have quote : (oneIn "'").Allows Respaces := allows_mark '\'' rfl (by decide)
  have equal : (oneIn "=").Allows Respaces := allows_mark '=' rfl (by decide)
  simp only [sqlPatterns, List.forall_mem_cons]
  refine ⟨⟨word verbs_lowercase, allows_lineRest, word targets_lowercase⟩, allows_exactly (by decide),
    ⟨word (by decide), allows_lineRest, equal, allows_lineRest, word (by decide)⟩,
    ⟨allows_mark ';' rfl (by decide), allows_blanks, allows_anyOf (by decide)⟩,
    ⟨quote, allows_blanks, allows_anyOf (by decide), allows_blanks, allows_exactly (by decide), allows_blanks, equal,
      allows_blanks, allows_exactly (by decide)⟩, nofun⟩

theorem rejection?_ne_none_of_anyOccurs (occurs : anyOccurs sqlPatterns (Text.trim t) = true) : rejection? t ≠ none := by
  intro accepted
  have none := (rejection?_eq_none_iff.mp accepted).noStatement
  exact Bool.false_ne_true (none.symm.trans occurs)

/-- A text with a verb and later a target on one line, as whole words in any case, is turned down. And a text that is
turned down for its statements is turned down as well with other white space in it, unless line feeds are put in. -/
theorem statement_refused (t : Text) :
    ((∃ s : Statement t, s.IsOnOneLine) → rejection? t ≠ none) ∧
      ∀ r u, rejection? t = some r → r.stage = .sqlInjection → Respaced t u → rejection? u ≠ none := by
  constructor
  · rintro ⟨s, oneLine⟩
    obtain ⟨trimmed, same⟩ := s.exists_trim
    have occurs : statementShape.occursIn (Text.trim t) = true := by
      refine occursIn_statementShape_iff.mpr ⟨trimmed, ?_⟩
      rwa [Statement.IsOnOneLine, same]
    exact rejection?_ne_none_of_anyOccurs (List.any_eq_true.mpr ⟨_, statementShape_mem, occurs⟩)
  · intro r u rejected named spaced
    obtain ⟨p, member, occurs⟩ := List.any_eq_true.mp (anyOccurs_of_stage rejected named)
    have still : p.occursIn (Text.trim u) = true := (sqlPatterns_allow p member).occursIn occurs spaced.trim
    exact rejection?_ne_none_of_anyOccurs (List.any_eq_true.mpr ⟨p, member, still⟩)

/-- A request for the names of students. -/
def onOneLine : Text := "SELECT name FROM students for a lesson"

theorem select_isVerb : IsOneOf verbs "SELECT" := by decide

theorem from_isTarget : IsOneOf targets "FROM" := by decide

def onOneLine_statement : Statement onOneLine :=
  ⟨[], "SELECT", " name ", "FROM", " students for a lesson", by decide, select_isVerb, by decide, from_isTarget,
    by decide⟩

/-- The same request with a carriage return and a vertical tab in the places of spaces. -/
def withOtherBlanks : Text := "SELECT\rname\x0bFROM students for a lesson"

/-- The same request over two lines. -/
def overTwoLines : Text := "SELECT name\nFROM students for a lesson"

def overTwoLines_statement : Statement overTwoLines :=
  ⟨[], "SELECT", " name\n", "FROM", " students for a lesson", by decide, select_isVerb, by decide, from_isTarget,
    by decide⟩

theorem statement_refused_onOneLine :
    onOneLine_statement.IsOnOneLine ∧ rejection? onOneLine ≠ none ∧
      Respaced onOneLine withOtherBlanks ∧ rejection? withOtherBlanks ≠ none := by
  have oneLine : onOneLine_statement.IsOnOneLine := by
    rw [Statement.IsOnOneLine]
    decide
  have spaced : Respaced onOneLine withOtherBlanks := by decide
  have rejected : rejection? onOneLine = some ⟨.sqlInjection, "Invalid characters or patterns detected in prompt"⟩ := by
    decide +kernel
  obtain ⟨refused, respaced⟩ := statement_refused onOneLine
  exact ⟨oneLine, refused ⟨_, oneLine⟩, spaced, respaced _ _ rejected rfl spaced⟩

/-- A line feed in the place of a space lets the statement pass, though it is only other white space. -/
theorem statement_accepted_overTwoLines :
    rejection? onOneLine = some ⟨.sqlInjection, "Invalid characters or patterns detected in prompt"⟩ ∧
      List.Forall₂ (fun c d => d = c ∨ c.isBlank = true ∧ d.isBlank = true) onOneLine overTwoLines ∧
      (∃ s : Statement overTwoLines, s.between = " name\n") ∧ rejection? overTwoLines = none := by
  have admissible : IsAdmissible overTwoLines := {
    long := by decide
    short := by decide
    visible := by decide
    sparing := by decide
    noSpam := by decide +kernel
    noStatement := by decide +kernel
    noInjection := by decide +kernel
    inoffensive := by decide +kernel
    educational := .inr (by decide +kernel)
    legible := .inr (by decide +kernel) }
  have trimmed : Text.trim overTwoLines = overTwoLines := by decide
  refine ⟨by decide +kernel, by decide, ⟨overTwoLines_statement, rfl⟩, ?_⟩
  rw [rejection?_eq_none_iff, trimmed]
  exact admissible

end LessonService.Request
