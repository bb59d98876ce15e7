import LessonService.Proofs.Text.Trim
import LessonService.Settings.Environment

namespace LessonService.Environment

variable {t name raw value : Text} {c : CodePoint}

def AreBlank (t : Text) : Prop := ∀ c ∈ t, c.isBlank = true

/-- A value is what stands between two equal quotes, or everything if it does not stand in quotes. -/
def IsUnquoted (raw value : Text) : Prop :=
  (∃ q, isQuote q = true ∧ raw = q :: (value ++ [q])) ∨
    (value = raw ∧ ∀ q inner, isQuote q = true → raw ≠ q :: (inner ++ [q]))

theorem isUnquoted_unquoted (raw : Text) : IsUnquoted raw (unquoted raw) := by
  rcases raw with _ | ⟨a, rest⟩
  · exact .inr ⟨rfl, fun _ _ _ => List.cons_ne_nil _ _ |>.symm⟩
  rcases List.eq_nil_or_concat' rest with rfl | ⟨inner, b, rfl⟩
  · refine .inr ⟨by simp [unquoted], fun q inner _ same => ?_⟩
    exact absurd (List.cons.inj same).2.symm (List.append_ne_nil_of_right_ne_nil _ (List.cons_ne_nil _ _))
  · have cut : unquoted (a :: (inner ++ [b])) = if a = b ∧ isQuote a = true then inner else a :: (inner ++ [b]) := by
      have last : (a :: (inner ++ [b])).getLast? = some b := by rw [← List.cons_append, List.getLast?_concat]
      simp [unquoted, last]
    rw [cut]
    split
    · rename_i quoted
      exact .inl ⟨a, quoted.2, by rw [quoted.1]⟩
    · rename_i bare
      refine .inr ⟨rfl, fun q middle isQuote same => bare ?_⟩
      obtain ⟨rfl, tail⟩ := List.cons.inj same
      obtain ⟨-, last⟩ := List.append_inj' tail rfl
      exact ⟨(List.cons.inj last).1.symm, isQuote⟩

theorem IsUnquoted.eq_unquoted (given : IsUnquoted raw value) : value = unquoted raw := by
  rcases given with ⟨q, isQuote, rfl⟩ | ⟨rfl, bare⟩
  · rcases isUnquoted_unquoted (q :: (value ++ [q])) with ⟨r, -, same⟩ | ⟨-, bare⟩
    · exact (List.append_inj' (List.cons.inj same).2 rfl).1
    · exact absurd rfl (bare q value isQuote)
  · rcases isUnquoted_unquoted value with ⟨q, isQuote, same⟩ | ⟨same, -⟩
    · exact absurd same (bare q _ isQuote)
    · exact same.symm

/-- The names of the service's own variables start with capital letters. -/
theorem exists_capital_of_isOwn (own : isOwn name = true) : ∃ c rest, name = c :: rest ∧ c.isUpperLetter = true := by
  rcases (Bool.or_eq_true _ _).mp own with starts | named
  · obtain ⟨rest, rfl⟩ := List.isPrefixOf_iff_prefix.mp starts
    exact ⟨'L', "ESSONFORGE_" ++ rest, rfl, by decide⟩
  · have each : ∀ n ∈ ownNames, ∃ c rest, n = c :: rest ∧ c.isUpperLetter = true := by
      simp only [ownNames, List.forall_mem_cons]
      exact ⟨⟨'G', "EMINI_API_KEY", rfl, by decide⟩, ⟨'O', "PENROUTER_API_KEY", rfl, by decide⟩,
        ⟨'D', "ATABASE_URL", rfl, by decide⟩, List.forall_mem_nil _⟩
    exact each name (List.contains_iff_mem.mp named)

theorem isBlank_of_isUpperLetter (capital : c.isUpperLetter = true) : c.isBlank = false := by
  simp only [CodePoint.isUpperLetter, CodePoint.isBetween, Bool.and_eq_true, decide_eq_true_eq] at capital
  simp only [CodePoint.isBlank, Bool.or_eq_false_iff, Bool.and_eq_false_iff, decide_eq_false_iff_not]
  omega

/-- The word after which a shell sets a variable and passes it on. -/
def exportWord : Text := "export "

/-- What is read from a line: it without the word for a shell, and without blanks around it. -/
def readFrom (line : Text) : Text :=
  let core := Text.trim line
  Text.trim ((Text.dropStart? exportWord core).getD core)

/-- What is read is a comment, or it sets nothing. -/
def isIdle (t : Text) : Bool := t.isEmpty || t.head? = some ('#' : CodePoint) || ('=' : CodePoint) ∉ t

theorem ofLine?_eq (line : Text) : ofLine? line = if isIdle (readFrom line) then none else
    some (Text.trim ((readFrom line).takeWhile fun (c : CodePoint) => decide (c ≠ '=')),
      unquoted (Text.trim (((readFrom line).dropWhile fun (c : CodePoint) => decide (c ≠ '=')).drop 1))) := rfl

/-- A line that sets a variable of the service. The word for a shell may stand before the name. -/
structure Assignment where
  indent : Text
  lead : Text
  name : Text
  gap : Text
  space : Text
  raw : Text
  trail : Text
  indent_blank : AreBlank indent
  lead_exports : lead = [] ∨ ∃ more, lead = exportWord ++ more ∧ AreBlank more
  own : isOwn name = true
  name_trimmed : name.IsTrimmed
  name_ends : ('=' : CodePoint) ∉ name
  gap_blank : AreBlank gap
  space_blank : AreBlank space
  raw_trimmed : raw.IsTrimmed
  trail_blank : AreBlank trail

/-- A text is blanks, what trimming leaves of it, and blanks. -/
theorem exists_blanks_of_trim (t : Text) :
    ∃ before after, t = before ++ (Text.trim t ++ after) ∧ AreBlank before ∧ AreBlank after := by
  let rest := t.dropWhile CodePoint.isBlank
  have left : t = t.takeWhile CodePoint.isBlank ++ rest := List.takeWhile_append_dropWhile.symm
  have right : rest = Text.trim t ++ (rest.reverse.takeWhile CodePoint.isBlank).reverse := by
    have parted := congrArg List.reverse (List.takeWhile_append_dropWhile (p := CodePoint.isBlank) (l := rest.reverse))
    rw [List.reverse_append, List.reverse_reverse] at parted
    exact parted.symm
  refine ⟨_, _, left.trans (congrArg _ right), fun c member => List.mem_takeWhile_imp member, fun c member => ?_⟩
  exact List.mem_takeWhile_imp (List.mem_reverse.mp member)

namespace Assignment

variable (a : Assignment)

/-- The value without blanks around it, and those before it if there is a value. -/
def tidy : Text := if a.raw = [] then [] else a.space ++ a.raw

/-- The assignment from its name on, without the blanks at its end. -/
def body : Text := a.name ++ a.gap ++ ('=' : CodePoint) :: a.tidy

def line : Text := a.indent ++ (a.lead ++ (a.name ++ a.gap ++ ('=' : CodePoint) :: (a.space ++ a.raw ++ a.trail)))

theorem exists_line_eq : ∃ blanks, AreBlank blanks ∧ a.line = a.indent ++ (a.lead ++ a.body ++ blanks) := by
  by_cases empty : a.raw = []
  · refine ⟨a.space ++ a.trail, List.forall_mem_append.mpr ⟨a.space_blank, a.trail_blank⟩, ?_⟩
    simp [line, body, tidy, empty]
  · exact ⟨a.trail, a.trail_blank, by simp [line, body, tidy, empty]⟩

theorem trim_tidy : Text.trim a.tidy = a.raw := by
  unfold tidy
  split
  · rename_i empty
    rw [empty]
    rfl
  · rw [Text.trim_append_of_blank a.space_blank, a.raw_trimmed.trim_eq]

/-- An assignment ends with its value, or with the sign if there is no value. -/
theorem getLast?_body_not_blank (before : Text) : ∀ c ∈ (before ++ a.body).getLast?, c.isBlank = false := by
  intro c last
  have sign : (('=' : CodePoint) :: a.tidy).getLast? = some c := by
    rw [body, ← List.append_assoc] at last
    rwa [List.getLast?_append_cons] at last
  unfold tidy at sign
  split at sign
  · cases sign
    decide
  · rename_i filled
    obtain ⟨d, raw⟩ := Option.ne_none_iff_exists'.mp (mt List.getLast?_eq_none_iff.mp filled)
    rw [← List.cons_append, List.getLast?_append, raw] at sign
    cases sign
    exact a.raw_trimmed.last c raw

theorem body_isTrimmed : a.body.IsTrimmed where
  first c head := by
    obtain ⟨first, rest, name, capital⟩ := exists_capital_of_isOwn a.own
    rw [body, name] at head
    cases head
    exact isBlank_of_isUpperLetter capital
  last := a.getLast?_body_not_blank []

theorem lead_body_isTrimmed : (a.lead ++ a.body).IsTrimmed where
  first c head := by
    rcases a.lead_exports with empty | ⟨more, lead, -⟩
    · rw [empty] at head
      exact a.body_isTrimmed.first c head
    · rw [lead] at head
      cases head
      decide
  last := a.getLast?_body_not_blank a.lead

/-- What is read from an assignment is what comes after its lead. -/
theorem readFrom_line : readFrom a.line = a.body := by
  obtain ⟨blanks, blank, shape⟩ := a.exists_line_eq
  have trimmed : Text.trim a.line = a.lead ++ a.body := by
    rw [shape, Text.trim_append_of_blank a.indent_blank, a.lead_body_isTrimmed.trim_append blank]
  rw [readFrom, trimmed]
  rcases a.lead_exports with empty | ⟨more, lead, blank⟩
  · have absent : Text.dropStart? exportWord a.body = none := by
      obtain ⟨first, rest, name, capital⟩ := exists_capital_of_isOwn a.own
      refine if_neg fun starts => ?_
      obtain ⟨_, same⟩ := List.isPrefixOf_iff_prefix.mp starts
      rw [body, name, show exportWord = ('e' : CodePoint) :: "xport " from rfl] at same
      obtain ⟨rfl, -⟩ := List.cons.inj same
      cases capital
    rw [empty, List.nil_append, absent]
    exact a.body_isTrimmed.trim_eq
  · have cut : Text.dropStart? exportWord (exportWord ++ (more ++ a.body)) = some (more ++ a.body) := by
      rw [Text.dropStart?, if_pos (List.isPrefixOf_iff_prefix.mpr (List.prefix_append _ _)), List.drop_left]
    rw [lead, List.append_assoc, cut, Option.getD_some, Text.trim_append_of_blank blank, a.body_isTrimmed.trim_eq]

theorem isIdle_body : isIdle a.body = false := by
  obtain ⟨first, rest, name, capital⟩ := exists_capital_of_isOwn a.own
  have unmarked : a.body.head? ≠ some ('#' : CodePoint) := by
    rw [body, name]
    rintro ⟨⟩
    cases capital
  have signed : ('=' : CodePoint) ∈ a.body := List.mem_append_right _ List.mem_cons_self
  rw [isIdle, Bool.or_eq_false_iff, Bool.or_eq_false_iff]
  exact ⟨⟨by simp [body], decide_eq_false unmarked⟩, decide_eq_false (not_not.mpr signed)⟩

/-- An assignment is read as its name and its value. -/
theorem ofLine?_line : ofLine? a.line = some (a.name, unquoted a.raw) := by
  have unsigned : ∀ c ∈ a.name ++ a.gap, decide (c ≠ '=') = true := by
    intro c member
    refine decide_eq_true ?_
    rcases List.mem_append.mp member with inName | inGap
    · exact fun same => a.name_ends (same ▸ inName)
    · rintro rfl
      exact absurd (a.gap_blank _ inGap) (by decide)
  have before : a.body.takeWhile (fun (c : CodePoint) => decide (c ≠ '=')) = a.name ++ a.gap := by
    rw [body, List.takeWhile_append_of_pos unsigned]
    simp
  have after : (a.body.dropWhile fun (c : CodePoint) => decide (c ≠ '=')).drop 1 = a.tidy := by
    rw [body, List.dropWhile_append_of_pos unsigned]
    simp
  rw [ofLine?_eq, a.readFrom_line, if_neg (Bool.eq_false_iff.mp a.isIdle_body), before, after, a.trim_tidy,
    a.name_trimmed.trim_append a.gap_blank]

end Assignment

/-- A line is indented and may have the word for a shell before what is read from it. -/
theorem exists_lead (line : Text) :
    ∃ indent lead trail, AreBlank indent ∧ (lead = [] ∨ ∃ more, lead = exportWord ++ more ∧ AreBlank more) ∧
      AreBlank trail ∧ line = indent ++ (lead ++ (readFrom line ++ trail)) := by
  obtain ⟨indent, trail, outer, indentBlank, trailBlank⟩ := exists_blanks_of_trim line
  have trimmed := Text.trim_isTrimmed line
  unfold readFrom
  dsimp only
  generalize Text.trim line = core at *
  unfold Text.dropStart?
  split
  · rename_i starts
    obtain ⟨rest, rfl⟩ := List.isPrefixOf_iff_prefix.mp starts
    obtain ⟨more, after, parted, moreBlank, afterBlank⟩ := exists_blanks_of_trim rest
    refine ⟨indent, exportWord ++ more, after ++ trail, indentBlank, .inr ⟨more, rfl, moreBlank⟩,
      List.forall_mem_append.mpr ⟨afterBlank, trailBlank⟩, ?_⟩
    rw [List.drop_left, Option.getD_some, outer]
    nth_rewrite 1 [parted]
    simp
  · exact ⟨indent, [], trail, indentBlank, .inl rfl, trailBlank, by rw [Option.getD_none, trimmed.trim_eq]; exact outer⟩

/-- A text is parted by the first of a character. -/
theorem eq_takeWhile_append_cons (member : c ∈ t) :
    t = t.takeWhile (fun d => decide (d ≠ c)) ++ c :: (t.dropWhile fun d => decide (d ≠ c)).drop 1 := by
  induction t with
  | nil => cases member
  | cons d t ih =>
    by_cases same : d = c
    · simp [same]
    · have later := ih ((List.mem_cons.mp member).resolve_left (Ne.symm same))
      simpa [same] using later

/-- What is read as a variable of the service is an assignment. -/
theorem exists_assignment {line : Text} (read : ofLine? line = some (name, value)) (own : isOwn name = true) :
    ∃ a : Assignment, a.line = line ∧ a.name = name ∧ unquoted a.raw = value := by
  rw [ofLine?_eq] at read
  split at read
  · cases read
  · rename_i busy
    obtain ⟨indent, lead, trail, indentBlank, leads, trailBlank, shape⟩ := exists_lead line
    have trimmed : (readFrom line).IsTrimmed := Text.trim_isTrimmed _
    generalize readFrom line = body at *
    have signed : ('=' : CodePoint) ∈ body := by
      simp only [isIdle, Bool.or_eq_true, decide_eq_true_eq, not_or, not_not] at busy
      exact busy.2
    have parted := eq_takeWhile_append_cons signed
    have unsigned : ('=' : CodePoint) ∉ body.takeWhile fun (c : CodePoint) => decide (c ≠ '=') := by
      intro member
      exact absurd (List.mem_takeWhile_imp member) (by decide)
    generalize body.takeWhile (fun (c : CodePoint) => decide (c ≠ '=')) = front at *
    generalize (body.dropWhile fun (c : CodePoint) => decide (c ≠ '=')).drop 1 = back at *
    obtain ⟨rfl, rfl⟩ := Prod.mk.inj (Option.some.inj read)
    obtain ⟨room, gap, frontParts, roomBlank, gapBlank⟩ := exists_blanks_of_trim front
    obtain ⟨space, rest, backParts, spaceBlank, restBlank⟩ := exists_blanks_of_trim back
    -- No blanks are left before the name.
    have flush : room = [] := by
      cases room with
      | nil => rfl
      | cons c room =>
        have blank := roomBlank c List.mem_cons_self
        have visible := trimmed.first c (by rw [parted, frontParts]; rfl)
        exact absurd (blank.symm.trans visible) nofun
    have whole : line = indent ++ (lead ++ (Text.trim front ++ gap ++ ('=' : CodePoint) ::
        (space ++ Text.trim back ++ (rest ++ trail)))) := by
      rw [flush, List.nil_append] at frontParts
      rw [shape, parted, ← frontParts, List.append_assoc space, ← List.append_assoc _ rest, ← List.append_assoc space,
        ← backParts, List.append_assoc, List.cons_append]
    exact ⟨{ indent, lead, name := Text.trim front, gap, space, raw := Text.trim back, trail := rest ++ trail
             indent_blank := indentBlank, lead_exports := leads, own, name_trimmed := Text.trim_isTrimmed front
             name_ends := fun member => unsigned ((Text.trim_infix front).subset member), gap_blank := gapBlank
             space_blank := spaceBlank, raw_trimmed := Text.trim_isTrimmed back
             trail_blank := List.forall_mem_append.mpr ⟨restBlank, trailBlank⟩ }, whole.symm, rfl, rfl⟩

/-- A line sets a variable to a value, which may stand in quotes. -/
def Sets (line name raw : Text) : Prop := ∃ a : Assignment, a.line = line ∧ a.name = name ∧ a.raw = raw

end LessonService.Environment
