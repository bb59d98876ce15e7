import LessonService.Script.MarkupText
import LessonService.Proofs.Text.Runs

namespace LessonService.Script.MarkupText

variable {c : CodePoint} {line t : Text} {ls : List Text}

def isBreak (c : CodePoint) : Bool := c = '\n' || c = '\r'

/-- A text without a line break. -/
def IsUnbroken (t : Text) : Prop := ∀ c ∈ t, isBreak c = false

theorem IsUnbroken.ne (unbroken : IsUnbroken line) (member : c ∈ line) : c ≠ '\n' ∧ c ≠ '\r' := by
  simpa [isBreak] using unbroken c member

/-- A text is parted into lines at line feeds, carriage returns and pairs of the two. -/
inductive Parted : Text → List Text → Prop
  | last {line : Text} (unbroken : IsUnbroken line) : Parted line [line]
  | feed {line t : Text} {ls : List Text} (unbroken : IsUnbroken line) (rest : Parted t ls) :
    Parted (line ++ ('\n' : CodePoint) :: t) (line :: ls)
  | pair {line t : Text} {ls : List Text} (unbroken : IsUnbroken line) (rest : Parted t ls) :
    Parted (line ++ ('\r' : CodePoint) :: ('\n' : CodePoint) :: t) (line :: ls)
  | carriage {line t : Text} {ls : List Text} (unbroken : IsUnbroken line)
    (alone : t.head? ≠ some ('\n' : CodePoint)) (rest : Parted t ls) :
    Parted (line ++ ('\r' : CodePoint) :: t) (line :: ls)

theorem Parted.ne_nil (parted : Parted t ls) : ls ≠ [] := by
  cases parted <;> exact List.cons_ne_nil _ _

theorem Parted.cons (unbroken : isBreak c = false) (parted : Parted t (line :: ls)) :
    Parted (c :: t) ((c :: line) :: ls) := by
  have longer {line : Text} (rest : IsUnbroken line) : IsUnbroken (c :: line) := List.forall_mem_cons.mpr ⟨unbroken, rest⟩
  cases parted with
  | last rest => exact .last (longer rest)
  | feed rest more => exact .feed (longer rest) more
  | pair rest more => exact .pair (longer rest) more
  | carriage rest alone more => exact .carriage (longer rest) alone more

theorem parted_lines (t : Text) : Parted t (lines t) := by
  have empty : IsUnbroken [] := List.forall_mem_nil _
  fun_induction lines t with
  | case1 => exact .last empty
  | case2 c isBreak =>
    rcases (Bool.or_eq_true _ _).mp isBreak with feed | carriage
    · cases of_decide_eq_true feed
      exact .feed empty (.last empty)
    · cases of_decide_eq_true carriage
      exact .carriage empty nofun (.last empty)
  | case3 c unbroken => exact .last (List.forall_mem_singleton.mpr (Bool.eq_false_iff.mpr unbroken))
  | case4 c d t isPair ih =>
    obtain ⟨carriage, feed⟩ := (Bool.and_eq_true _ _).mp isPair
    cases of_decide_eq_true carriage
    cases of_decide_eq_true feed
    exact .pair empty ih
  | case5 c d t single isBreak ih =>
    rcases (Bool.or_eq_true _ _).mp isBreak with feed | carriage
    · cases of_decide_eq_true feed
      exact .feed empty ih
    · cases of_decide_eq_true carriage
      exact .carriage empty (by simpa using single) ih
  | case6 c d t single unbroken l ls split ih =>
    rw [split] at ih
    exact ih.cons (Bool.eq_false_iff.mpr unbroken)
  | case7 c d t single unbroken none ih =>
    exact absurd none ih.ne_nil

theorem lines_feed (t : Text) : lines (('\n' : CodePoint) :: t) = [] :: lines t := by
  cases t <;> rfl

theorem lines_carriage (alone : t.head? ≠ some ('\n' : CodePoint)) : lines (('\r' : CodePoint) :: t) = [] :: lines t := by
  cases t with
  | nil => rfl
  | cons d t =>
    have other : d ≠ '\n' := fun same => alone (congrArg some same)
    rw [lines, if_neg (by simpa using other)]
    rfl

theorem lines_append (unbroken : IsUnbroken line) (t : Text) : lines (line ++ t) = (lines t).modifyHead (line ++ ·) := by
  induction line with
  | nil => exact (congrFun List.modifyHead_id (lines t)).symm
  | cons c line ih =>
    rw [IsUnbroken, List.forall_mem_cons] at unbroken
    obtain ⟨first, rest, split⟩ := List.exists_cons_of_ne_nil (parted_lines t).ne_nil
    have later := ih unbroken.2
    have plain : (decide (c = '\n') || decide (c = '\r')) = false := unbroken.1
    rw [split] at later ⊢
    rw [List.cons_append]
    cases more : line ++ t with
    | nil =>
      obtain ⟨rfl, rfl⟩ := List.append_eq_nil_iff.mp more
      cases split
      rw [lines, if_neg (Bool.eq_false_iff.mp plain)]
      rfl
    | cons d tail =>
      rw [more] at later
      have notPair : (decide (c = '\r') && decide (d = '\n')) = false := by
        rw [(Bool.or_eq_false_iff.mp plain).2]
        rfl
      rw [lines, if_neg (Bool.eq_false_iff.mp notPair), if_neg (Bool.eq_false_iff.mp plain), later]
      rfl

theorem Parted.lines_eq (parted : Parted t ls) : lines t = ls := by
  induction parted with
  | last unbroken =>
    have whole := lines_append unbroken []
    rw [List.append_nil] at whole
    rw [whole]
    simp [lines]
  | feed unbroken rest ih =>
    rw [lines_append unbroken, lines_feed, ih]
    simp
  | pair unbroken rest ih =>
    rw [lines_append unbroken, lines, if_pos (by decide), ih]
    simp
  | carriage unbroken alone rest ih =>
    rw [lines_append unbroken, lines_carriage alone, ih]
    simp

theorem isUnbroken_of_mem_lines (member : line ∈ lines t) : IsUnbroken line := by
  have parted := parted_lines t
  generalize lines t = ls at parted member
  induction parted with
  | last unbroken => exact List.mem_singleton.mp member ▸ unbroken
  | feed unbroken rest ih | pair unbroken rest ih | carriage unbroken alone rest ih =>
    rcases List.mem_cons.mp member with rfl | later
    · exact unbroken
    · exact ih later

/-- What belongs to a word: anything but spaces, tabs and line breaks. -/
def isSolid (c : CodePoint) : Bool := !(c = ' ' || c = '\t' || c = '\r' || c = '\n')

theorem isSolid_eq_false_iff : isSolid c = false ↔ c = ' ' ∨ c = '\t' ∨ c = '\r' ∨ c = '\n' := by
  simp only [isSolid, Bool.not_eq_false', Bool.or_eq_true, decide_eq_true_eq, or_assoc]

theorem isSolid_of_isSpaceOrTab (blank : isSpaceOrTab c = true) : isSolid c = false := by
  rcases (Bool.or_eq_true _ _).mp blank with space | tab
  · exact isSolid_eq_false_iff.mpr (.inl (of_decide_eq_true space))
  · exact isSolid_eq_false_iff.mpr (.inr (.inl (of_decide_eq_true tab)))

theorem isSolid_of_isBreak (broken : isBreak c = true) : isSolid c = false := by
  rcases (Bool.or_eq_true _ _).mp broken with feed | carriage
  · exact isSolid_eq_false_iff.mpr (.inr (.inr (.inr (of_decide_eq_true feed))))
  · exact isSolid_eq_false_iff.mpr (.inr (.inr (.inl (of_decide_eq_true carriage))))

/-- A list that is made of a text is made of what stands between its spaces and tabs. -/
structure SplitsAtSpaces {β : Type} (f : Text → List β) : Prop where
  nil : f [] = []
  append_cons : ∀ c, isSpaceOrTab c = true → ∀ a b, f (a ++ c :: b) = f a ++ f b

/-- It is made of what stands between its line breaks as well. -/
structure SplitsAtBlanks {β : Type} (f : Text → List β) : Prop extends SplitsAtSpaces f where
  append_break : ∀ c, isBreak c = true → ∀ a b, f (a ++ c :: b) = f a ++ f b

theorem splitsAtBlanks_runs : SplitsAtBlanks (Text.runs isSolid) where
  nil := Text.runs_nil
  append_cons _ blank a b := Text.runs_append_cons a b (isSolid_of_isSpaceOrTab blank)
  append_break _ broken a b := Text.runs_append_cons a b (isSolid_of_isBreak broken)

theorem SplitsAtBlanks.flatMap_lines {β : Type} {f : Text → List β} (splits : SplitsAtBlanks f) (t : Text) :
    f t = (lines t).flatMap f := by
  have parted := parted_lines t
  generalize lines t = ls at parted
  induction parted with
  | last => rw [List.flatMap_singleton]
  | feed unbroken rest ih | carriage unbroken alone rest ih =>
    rw [splits.append_break _ (by decide), ih, List.flatMap_cons]
  | @pair line t _ unbroken rest ih =>
    have feed : f (('\n' : CodePoint) :: t) = f t := by
      rw [← List.nil_append (('\n' : CodePoint) :: t), splits.append_break _ (by decide), splits.nil, List.nil_append]
    rw [splits.append_break _ (by decide), feed, ih, List.flatMap_cons]

end LessonService.Script.MarkupText
