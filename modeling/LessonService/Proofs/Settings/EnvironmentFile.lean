import LessonService.Proofs.Settings.Assignments
import LessonService.Proofs.Text.Letters
import LessonService.Proofs.Text.Occurrence

namespace LessonService

namespace Text

variable {t : Text} {c : CodePoint}

def IsUnbroken (t : Text) : Prop := ∀ c ∈ t, c.isLineBreak = false

/-- What may stand after the last line of a text: nothing, or one line break, which may be written as two characters. -/
def IsLineEnd (ending : Text) : Prop :=
  ending = [] ∨ (∃ c : CodePoint, c.isLineBreak = true ∧ ending = [c]) ∨ ending = "\r\n"

theorem lines_cons_of_not_break (unbroken : c.isLineBreak = false) :
    lines (c :: t) = (c :: (lines t).headD []) :: (lines t).tail := by
  have notReturn : c.value ≠ 0x0D := by
    intro isReturn
    simp [CodePoint.isLineBreak, isReturn] at unbroken
  rw [lines.eq_def]
  dsimp only
  rw [if_neg notReturn, if_neg (Bool.eq_false_iff.mp unbroken)]
  cases lines t <;> rfl

theorem lines_break (breaks : c.isLineBreak = true) : lines [c] = [[]] := by
  rw [lines]
  split <;> rfl

theorem lines_of_isLineEnd {ending : Text} (ends : IsLineEnd ending) : lines ending = [] ∨ lines ending = [[]] := by
  rcases ends with rfl | ⟨c, breaks, rfl⟩ | rfl
  · exact .inl rfl
  · exact .inr (lines_break breaks)
  · exact .inr rfl

/-- A text without line breaks is one line, also if a line break comes after it. -/
theorem lines_append_of_isUnbroken {ending : Text} (filled : t ≠ []) (unbroken : t.IsUnbroken)
    (ends : IsLineEnd ending) : lines (t ++ ending) = [t] := by
  induction t with
  | nil => exact absurd rfl filled
  | cons c t ih =>
    obtain ⟨first, later⟩ := List.forall_mem_cons.mp unbroken
    rw [List.cons_append, lines_cons_of_not_break first]
    cases t with
    | nil => rcases lines_of_isLineEnd ends with none | one <;> simp [*]
    | cons d t => rw [ih (List.cons_ne_nil d t) later]; rfl

end Text

namespace Environment

/-- A variable that is added, with its value and the place of the line that sets it. -/
structure Addition where
  place : Nat
  name : Text
  value : Text

def Addition.entry (a : Addition) : Text × Text := (a.name, a.value)

variable {e more : Environment} {lines : List Text} {line name raw value : Text} {additions : List Addition}
  {a : Addition}

theorem isSet_iff : e.isSet name = true ↔ ∃ v ∈ e, v.1 = name := by
  simp [isSet, get?, List.find?_isSome]

theorem isSet_append : (e ++ more).isSet name = (e.isSet name || more.isSet name) := by
  rw [Bool.eq_iff_iff, Bool.or_eq_true, isSet_iff, isSet_iff, isSet_iff]
  simp only [List.mem_append, or_and_right, exists_or]

theorem isSet_entries : isSet (additions.map Addition.entry) name = true ↔ name ∈ additions.map Addition.name := by
  rw [isSet_iff]
  constructor
  · rintro ⟨_, inEntries, rfl⟩
    obtain ⟨a, member, rfl⟩ := List.mem_map.mp inEntries
    exact List.mem_map_of_mem member
  · intro inNames
    obtain ⟨a, member, rfl⟩ := List.mem_map.mp inNames
    exact ⟨a.entry, List.mem_map_of_mem member, rfl⟩

theorem get?_append_of_isSet (set : e.isSet name = true) : (e ++ more).get? name = e.get? name := by
  obtain ⟨value, known⟩ := Option.isSome_iff_exists.mp set
  obtain ⟨v, found, rfl⟩ := Option.map_eq_some_iff.mp known
  rw [get?, get?, List.find?_append, found, Option.some_or]

theorem get?_append_of_unset (unset : more.isSet name = false) : (e ++ more).get? name = e.get? name := by
  have absent : more.find? (fun v => v.1 = name) = none := by
    simpa [isSet, get?] using unset
  rw [get?, get?, List.find?_append, absent, Option.or_none]

theorem get?_append_entries (unset : e.isSet a.name = false) (nodup : (additions.map Addition.name).Nodup)
    (member : a ∈ additions) : (e ++ additions.map Addition.entry).get? a.name = some a.value := by
  have absent : e.find? (fun v => v.1 = a.name) = none := by
    simpa [isSet, get?] using unset
  have found : (additions.map Addition.entry).find? (fun v => v.1 = a.name) = some a.entry := by
    refine List.find?_eq_some_iff_append.mpr ⟨decide_eq_true rfl, ?_⟩
    obtain ⟨before, after, rfl⟩ := List.append_of_mem member
    refine ⟨before.map Addition.entry, after.map Addition.entry, by simp, fun v inMapped => ?_⟩
    obtain ⟨b, inBefore, rfl⟩ := List.mem_map.mp inMapped
    rw [List.map_append, List.nodup_append] at nodup
    have differs := nodup.2.2 b.name (List.mem_map_of_mem inBefore) a.name (by simp)
    exact Bool.not_eq_true' _ |>.mpr (decide_eq_false differs)
  rw [get?, List.find?_append, absent, Option.none_or, found]
  rfl

theorem Sets.own (sets : Sets line name raw) : isOwn name = true := by
  obtain ⟨a, -, rfl, -⟩ := sets
  exact a.own

theorem Sets.ofLine?_eq (sets : Sets line name raw) : ofLine? line = some (name, unquoted raw) := by
  obtain ⟨a, rfl, rfl, rfl⟩ := sets
  exact a.ofLine?_line

theorem exists_sets (read : ofLine? line = some (name, value)) (own : isOwn name = true) :
    ∃ raw, Sets line name raw ∧ IsUnquoted raw value := by
  obtain ⟨a, written, named, valued⟩ := exists_assignment read own
  exact ⟨a.raw, ⟨a, written, named, rfl⟩, valued ▸ isUnquoted_unquoted a.raw⟩

/-- The line at the place of an addition is the first that sets its variable. -/
structure IsFirst (lines : List Text) (a : Addition) : Prop where
  sets : ∃ line raw, lines[a.place]? = some line ∧ Sets line a.name raw ∧ IsUnquoted raw a.value
  none_before : ∀ line ∈ lines.take a.place, ∀ raw, ¬Sets line a.name raw

theorem IsFirst.place_lt (first : IsFirst lines a) : a.place < lines.length := by
  obtain ⟨_, _, there, -⟩ := first.sets
  exact (List.getElem?_eq_some_iff.mp there).1

theorem IsFirst.append (first : IsFirst lines a) (line : Text) : IsFirst (lines ++ [line]) a where
  sets := by rw [List.getElem?_append_left first.place_lt]; exact first.sets
  none_before := by rw [List.take_append_of_le_length first.place_lt.le]; exact first.none_before

/-- What lines add to an environment, in their order. -/
structure Adds (e : Environment) (lines : List Text) (additions : List Addition) : Prop where
  ordered : additions.Pairwise fun a b => a.place < b.place
  unset : ∀ a ∈ additions, e.isSet a.name = false
  first : ∀ a ∈ additions, IsFirst lines a
  complete : ∀ line ∈ lines, ∀ name raw, Sets line name raw →
    e.isSet name = true ∨ name ∈ additions.map Addition.name

def loaded (e : Environment) (additions : List Addition) : Loaded :=
  ⟨e ++ additions.map Addition.entry, additions.map Addition.name⟩

theorem adds_nil (e : Environment) : Adds e [] [] where
  ordered := .nil
  unset := List.forall_mem_nil _
  first := List.forall_mem_nil _
  complete := List.forall_mem_nil _

namespace Adds

theorem skip (adds : Adds e lines additions)
    (idle : ∀ name raw, Sets line name raw → e.isSet name = true ∨ name ∈ additions.map Addition.name) :
    Adds e (lines ++ [line]) additions where
  ordered := adds.ordered
  unset := adds.unset
  first a member := (adds.first a member).append line
  complete := List.forall_mem_append.mpr ⟨adds.complete, List.forall_mem_singleton.mpr idle⟩

theorem add (adds : Adds e lines additions) (sets : Sets line name raw) (valued : IsUnquoted raw value)
    (unset : e.isSet name = false) (fresh : name ∉ additions.map Addition.name) :
    Adds e (lines ++ [line]) (additions ++ [⟨lines.length, name, value⟩]) where
  ordered := by
    refine List.pairwise_append.mpr ⟨adds.ordered, List.pairwise_singleton _ _, fun a member => ?_⟩
    exact List.forall_mem_singleton.mpr (adds.first a member).place_lt
  unset := List.forall_mem_append.mpr ⟨adds.unset, List.forall_mem_singleton.mpr unset⟩
  first := by
    refine List.forall_mem_append.mpr ⟨fun a member => (adds.first a member).append line,
      List.forall_mem_singleton.mpr ⟨⟨line, raw, List.getElem?_concat_length, sets, valued⟩, ?_⟩⟩
    intro earlier inLines raw setsToo
    rw [List.take_left] at inLines
    rcases adds.complete earlier inLines name raw setsToo with set | added
    · exact absurd (set.symm.trans unset) nofun
    · exact fresh added
  complete := by
    refine List.forall_mem_append.mpr ⟨fun earlier inLines name raw setsToo => ?_,
      List.forall_mem_singleton.mpr fun other raw setsToo => ?_⟩
    · refine (adds.complete earlier inLines name raw setsToo).imp_right fun added => ?_
      rw [List.map_append]
      exact List.mem_append_left _ added
    · obtain ⟨rfl, -⟩ := Prod.mk.inj (Option.some.inj (sets.ofLine?_eq.symm.trans setsToo.ofLine?_eq))
      exact .inr (by simp)

/-- No line is the first for two variables that are added, and no variable is added twice. -/
theorem names_nodup (adds : Adds e lines additions) : (additions.map Addition.name).Nodup := by
  refine List.pairwise_map.mpr (adds.ordered.imp_of_mem fun {a b} inFirst inSecond earlier same => ?_)
  obtain ⟨line, raw, there, sets, -⟩ := (adds.first a inFirst).sets
  have before : line ∈ lines.take b.place := by
    refine List.mem_of_getElem? (i := a.place) ?_
    rw [List.getElem?_take_of_lt earlier]
    exact there
  exact (adds.first b inSecond).none_before line before raw (same ▸ sets)

theorem own (adds : Adds e lines additions) (member : a ∈ additions) : isOwn a.name = true := by
  obtain ⟨_, _, -, sets, -⟩ := (adds.first a member).sets
  exact sets.own

/-- A line adds its variable if it sets one that is neither set nor added yet. -/
theorem readLine (adds : Adds e lines additions) (line : Text) :
    ∃ next, Adds e (lines ++ [line]) next ∧ (loaded e additions).readLine line = loaded e next := by
  cases read : ofLine? line with
  | none =>
    have idle : ∀ name raw, ¬Sets line name raw := fun name raw sets => by
      cases read.symm.trans sets.ofLine?_eq
    exact ⟨additions, adds.skip fun name raw sets => absurd sets (idle name raw), by rw [Loaded.readLine, read]⟩
  | some found =>
    obtain ⟨name, value⟩ := found
    have named : ∀ other raw, Sets line other raw → other = name := fun other raw sets =>
      (Prod.mk.inj (Option.some.inj (read.symm.trans sets.ofLine?_eq))).1.symm
    have known : (loaded e additions).environment.isSet name = true ↔
        e.isSet name = true ∨ name ∈ additions.map Addition.name := by
      rw [loaded, isSet_append, Bool.or_eq_true, isSet_entries]
    by_cases skipped : isOwn name = false ∨ (loaded e additions).environment.isSet name = true
    · refine ⟨additions, adds.skip fun other raw sets => ?_, ?_⟩
      · obtain rfl := named other raw sets
        rcases skipped with foreign | set
        · exact absurd (sets.own.symm.trans foreign) nofun
        · exact known.mp set
      · rw [Loaded.readLine, read]
        exact if_pos (by rcases skipped with foreign | set <;> simp [*])
    · obtain ⟨own, unset⟩ := not_or.mp skipped
      obtain ⟨raw, sets, valued⟩ := exists_sets read (eq_true_of_ne_false own)
      obtain ⟨unsetBefore, fresh⟩ := not_or.mp (mt known.mpr unset)
      refine ⟨_, adds.add sets valued (eq_false_of_ne_true unsetBefore) fresh, ?_⟩
      rw [Loaded.readLine, read]
      refine (if_neg (by simp [eq_true_of_ne_false own, eq_false_of_ne_true unset])).trans ?_
      simp [loaded, Addition.entry]

end Adds

/-- All lines together add what each of them adds, one after the other. -/
theorem exists_adds (e : Environment) (content : Text) :
    ∃ additions, Adds e (Text.lines content) additions ∧ load e content = loaded e additions := by
  unfold load
  induction Text.lines content using List.reverseRecOn with
  | nil => exact ⟨[], adds_nil e, by simp [loaded]⟩
  | append_singleton lines line ih =>
    obtain ⟨additions, adds, run⟩ := ih
    obtain ⟨next, addsNext, step⟩ := adds.readLine line
    exact ⟨next, addsNext, by rw [List.foldl_concat, run, step]⟩

/-- What is loaded once is set, so that loading it again adds nothing. -/
theorem load_load (e : Environment) (content : Text) :
    load (load e content).environment content = ⟨(load e content).environment, []⟩ := by
  obtain ⟨additions, adds, run⟩ := exists_adds e content
  obtain ⟨again, addsAgain, runAgain⟩ := exists_adds (load e content).environment content
  have none : again = [] := by
    refine List.eq_nil_iff_forall_not_mem.mpr fun a member => ?_
    obtain ⟨line, raw, there, sets, -⟩ := (addsAgain.first a member).sets
    have known := adds.complete line (List.mem_of_getElem? there) a.name raw sets
    have unset := addsAgain.unset a member
    rw [run, loaded, isSet_append, Bool.or_eq_false_iff, ← Bool.not_eq_true, ← Bool.not_eq_true, isSet_entries] at unset
    exact known.elim unset.1 unset.2
  rw [runAgain, none, loaded, List.map_nil, List.append_nil, List.map_nil]

def quoted (value : Text) : Text := ('"' : CodePoint) :: (value ++ [('"' : CodePoint)])

def quotedLine (name value : Text) : Text := name ++ ('=' : CodePoint) :: quoted value

theorem sets_quotedLine (own : isOwn name = true) (words : ∀ c ∈ name, c.isWord = true) (value : Text) :
    Sets (quotedLine name value) name (quoted value) := by
  have visible : ∀ c ∈ name, c.isBlank = false := fun c member => by
    refine Bool.eq_false_iff.mpr fun blank => ?_
    exact Bool.false_ne_true ((CodePoint.isWord_of_isBlank blank).symm.trans (words c member))
  have none : AreBlank [] := List.forall_mem_nil _
  exact ⟨{ indent := [], lead := [], name, gap := [], space := [], raw := quoted value, trail := []
           indent_blank := none, lead_exports := .inl rfl, own
           name_trimmed := ⟨fun c head => visible c (List.mem_of_mem_head? head),
             fun c last => visible c (List.mem_of_getLast? last)⟩
           name_ends := fun member => absurd (words _ member) (by decide)
           gap_blank := none, space_blank := none
           raw_trimmed := ⟨fun c head => by cases head; decide, fun c last => by
             rw [quoted, ← List.cons_append, List.getLast?_concat] at last
             cases last
             decide⟩
           trail_blank := none }, by simp [Assignment.line, quotedLine], rfl, rfl⟩

theorem isUnbroken_quotedLine (words : ∀ c ∈ name, c.isWord = true) (unbroken : value.IsUnbroken) :
    (quotedLine name value).IsUnbroken := by
  have blank : ∀ c : CodePoint, c.isLineBreak = true → c.isBlank = true := fun c breaks => by
    simp only [CodePoint.isLineBreak, Bool.or_eq_true, Bool.and_eq_true, decide_eq_true_eq] at breaks
    simp only [CodePoint.isBlank, Bool.or_eq_true, Bool.and_eq_true, decide_eq_true_eq]
    omega
  have inName : name.IsUnbroken := fun c member => by
    refine Bool.eq_false_iff.mpr fun breaks => ?_
    exact Bool.false_ne_true ((CodePoint.isWord_of_isBlank (blank c breaks)).symm.trans (words c member))
  refine List.forall_mem_append.mpr ⟨inName, List.forall_mem_cons.mpr ⟨by decide, List.forall_mem_cons.mpr ⟨by decide,
    List.forall_mem_append.mpr ⟨unbroken, List.forall_mem_singleton.mpr (by decide)⟩⟩⟩⟩

/-- A value in double quotes is loaded as it is, whatever quotes, blanks and signs it has. -/
theorem load_quotedLine {ending : Text} (own : isOwn name = true) (words : ∀ c ∈ name, c.isWord = true)
    (unset : e.isSet name = false) (unbroken : value.IsUnbroken) (ends : Text.IsLineEnd ending) :
    load e (quotedLine name value ++ ending) = ⟨e ++ [(name, value)], [name]⟩ := by
  have filled : quotedLine name value ≠ [] := List.append_ne_nil_of_right_ne_nil _ (List.cons_ne_nil _ _)
  have read : ofLine? (quotedLine name value) = some (name, value) := by
    have unquotes : IsUnquoted (quoted value) value := .inl ⟨_, rfl, rfl⟩
    rw [(sets_quotedLine own words value).ofLine?_eq, ← unquotes.eq_unquoted]
  rw [load, Text.lines_append_of_isUnbroken filled (isUnbroken_quotedLine words unbroken) ends, List.foldl_cons,
    List.foldl_nil, Loaded.readLine, read]
  exact if_neg (by simp [own, unset])

/-- Loading a file adds the variables of the service that are not set yet, each with the value of the first line that
sets it, in the order of these lines. Nothing else changes, and a second time nothing is added. A value between double
quotes on a line of its own is added as it stands. -/
theorem load_adds_first (e : Environment) (content : Text) :
    (∃ additions, Adds e (Text.lines content) additions ∧ load e content = loaded e additions ∧
      (additions.map Addition.name).Nodup ∧
      ∀ a ∈ additions, isOwn a.name = true ∧ (load e content).environment.get? a.name = some a.value) ∧
    (∀ name, e.isSet name = true ∨ name ∉ (load e content).added →
      (load e content).environment.get? name = e.get? name) ∧
    load (load e content).environment content = ⟨(load e content).environment, []⟩ ∧
    ∀ name value ending, isOwn name = true → (∀ c ∈ name, c.isWord = true) → e.isSet name = false →
      value.IsUnbroken → Text.IsLineEnd ending →
      load e (name ++ "=\"" ++ value ++ "\"" ++ ending) = ⟨e ++ [(name, value)], [name]⟩ := by
  obtain ⟨additions, adds, run⟩ := exists_adds e content
  refine ⟨⟨additions, adds, run, adds.names_nodup, fun a member => ⟨adds.own member, ?_⟩⟩, fun name kept => ?_,
    load_load e content, fun name value ending own words unset unbroken ends => ?_⟩
  · rw [run, loaded, get?_append_entries (adds.unset a member) adds.names_nodup member]
  · rw [run] at kept ⊢
    rcases kept with set | absent
    · exact get?_append_of_isSet set
    · exact get?_append_of_unset (eq_false_of_ne_true (mt isSet_entries.mp absent))
  · have shape : name ++ "=\"" ++ value ++ "\"" = quotedLine name value := by
      simp [quotedLine, quoted, Text.ofString_eq rfl]
    rw [shape, load_quotedLine own words unset unbroken ends]

theorem load_adds_first_greeting :
    load [] ("LESSONFORGE_GREETING" ++ "=\"" ++ " \"Hi\" # 1=1 " ++ "\"" ++ "\n") =
      ⟨[("LESSONFORGE_GREETING", " \"Hi\" # 1=1 ")], ["LESSONFORGE_GREETING"]⟩ :=
  (load_adds_first [] "").2.2.2 "LESSONFORGE_GREETING" " \"Hi\" # 1=1 " "\n" rfl
    (by simp only [Text.ofString_eq rfl]; decide +kernel) rfl (by
      simp only [Text.IsUnbroken, Text.ofString_eq rfl]; decide +kernel) (.inr (.inl ⟨'\n', rfl, rfl⟩))

end Environment

end LessonService
