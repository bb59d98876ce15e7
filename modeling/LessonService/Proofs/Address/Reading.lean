import LessonService.Address
import Mathlib.Data.List.Basic

namespace LessonService.Address

variable {c : CodePoint} {s t raw scheme authority rest : Text} {a : Address}

section Cut

@[simp] theorem cut_nil (c : CodePoint) : cut c [] = ([], none) := rfl

@[simp] theorem cut_cons_self (c : CodePoint) (t : Text) : cut c (c :: t) = ([], some t) := by
  simp [cut]

theorem cut_cons_of_ne {d : CodePoint} (other : d ≠ c) (t : Text) :
    cut c (d :: t) = (d :: (cut c t).1, (cut c t).2) := by
  unfold cut
  rw [List.dropWhile_cons_of_pos (by simpa using other), List.takeWhile_cons_of_pos (by simpa using other)]
  split <;> rfl

/-- A text without the character belongs to what lies before it. -/
theorem cut_append (absent : c ∉ s) (t : Text) : cut c (s ++ t) = (s ++ (cut c t).1, (cut c t).2) := by
  induction s with
  | nil => rfl
  | cons d s ih =>
    rw [List.mem_cons, not_or] at absent
    rw [List.cons_append, cut_cons_of_ne (Ne.symm absent.1), ih absent.2]
    rfl

theorem cut_of_notMem (absent : c ∉ t) : cut c t = (t, none) := by
  simpa using cut_append absent []

theorem cut_append_cons (absent : c ∉ s) (t : Text) : cut c (s ++ c :: t) = (s, some t) := by
  simp [cut_append absent]

theorem notMem_cut (c : CodePoint) (t : Text) : c ∉ (cut c t).1 := by
  by_cases member : c ∈ t
  · obtain ⟨before, after, rfl, absent⟩ := List.eq_append_cons_of_mem member
    rwa [cut_append_cons absent]
  · rwa [cut_of_notMem member]

theorem cut_isPrefix (c : CodePoint) (t : Text) : (cut c t).1 <+: t := by
  by_cases member : c ∈ t
  · obtain ⟨before, after, rfl, absent⟩ := List.eq_append_cons_of_mem member
    rw [cut_append_cons absent]
    exact List.prefix_append _ _
  · simp [cut_of_notMem member]

theorem cutLast_append_cons (s : Text) (absent : c ∉ t) : cutLast c (s ++ c :: t) = (some s, t) := by
  have last : (s ++ c :: t).reverse = t.reverse ++ c :: s.reverse := by simp
  rw [cutLast, last, cut_append_cons (by simpa using absent)]
  simp

theorem cutLast_of_notMem (absent : c ∉ t) : cutLast c t = (none, t) := by
  rw [cutLast, cut_of_notMem (by simpa using absent)]
  simp

/-- A text with a character is parted at the last place of it. -/
theorem exists_last (member : c ∈ t) : ∃ before after, t = before ++ c :: after ∧ c ∉ after := by
  obtain ⟨after, before, parted, absent⟩ := List.eq_append_cons_of_mem (List.mem_reverse.mpr member)
  exact ⟨before.reverse, after.reverse, by simpa using congrArg List.reverse parted, by simpa using absent⟩

theorem cutLast_isSuffix (c : CodePoint) (t : Text) : (cutLast c t).2 <:+ t := by
  by_cases member : c ∈ t
  · obtain ⟨before, after, rfl, absent⟩ := exists_last member
    rw [cutLast_append_cons before absent]
    exact ⟨before ++ [c], by simp⟩
  · simp [cutLast_of_notMem member]

end Cut

section Path

theorem pathOf_nil (scheme : Text) : pathOf scheme [] = [] := by
  simp [pathOf, cutLast]

/-- Parameters are looked for behind the last slash of a path. -/
theorem pathOf_append_cons (scheme s : Text) (absent : ('/' : CodePoint) ∉ t) :
    pathOf scheme (s ++ ('/' : CodePoint) :: t) =
      s ++ ('/' : CodePoint) :: if withParameters.contains scheme then (cut ';' t).1 else t := by
  unfold pathOf
  split
  · rw [cutLast_append_cons s absent]
    simp [Text.ofString]
  · rfl

theorem pathOf_of_slash_notMem (absent : ('/' : CodePoint) ∉ t) :
    pathOf scheme t = if withParameters.contains scheme then (cut ';' t).1 else t := by
  rw [pathOf, cutLast_of_notMem absent]
  rfl

theorem pathOf_of_notMem (absent : (';' : CodePoint) ∉ t) : pathOf scheme t = t := by
  by_cases slash : ('/' : CodePoint) ∈ t
  · obtain ⟨before, after, rfl, last⟩ := exists_last slash
    have none : (';' : CodePoint) ∉ after := fun member =>
      absent (List.mem_append_right _ (List.mem_cons_of_mem _ member))
    rw [pathOf_append_cons scheme before last, cut_of_notMem none, ite_self]
  · rw [pathOf_of_slash_notMem slash, cut_of_notMem absent, ite_self]

theorem mem_of_mem_pathOf (member : c ∈ pathOf scheme t) : c ∈ t := by
  unfold pathOf at member
  split at member
  · by_cases slash : ('/' : CodePoint) ∈ t
    · obtain ⟨before, after, rfl, last⟩ := exists_last slash
      rw [cutLast_append_cons before last] at member
      have shorter := (cut_isPrefix ';' after).sublist.append_left (before ++ [('/' : CodePoint)])
      simpa using shorter.mem member
    · rw [cutLast_of_notMem slash] at member
      exact (cut_isPrefix ';' t).mem member
  · exact member

/-- A path that has been freed from parameters has none. -/
theorem pathOf_idem (scheme t : Text) : pathOf scheme (pathOf scheme t) = pathOf scheme t := by
  have cutTwice (t : Text) : (cut ';' (cut ';' t).1).1 = (cut ';' t).1 := by rw [cut_of_notMem (notMem_cut ';' t)]
  have stillAbsent {t : Text} (absent : ('/' : CodePoint) ∉ t) : ('/' : CodePoint) ∉ (cut ';' t).1 :=
    fun member => absent ((cut_isPrefix ';' t).mem member)
  by_cases slash : ('/' : CodePoint) ∈ t
  · obtain ⟨before, after, rfl, last⟩ := exists_last slash
    rw [pathOf_append_cons scheme before last]
    split
    next parameters => rw [pathOf_append_cons scheme before (stillAbsent last), if_pos parameters, cutTwice]
    next parameters => rw [pathOf_append_cons scheme before last, if_neg parameters]
  · rw [pathOf_of_slash_notMem slash]
    split
    next parameters => rw [pathOf_of_slash_notMem (stillAbsent slash), if_pos parameters, cutTwice]
    next parameters => rw [pathOf_of_slash_notMem slash, if_neg parameters]

end Path

section Brackets

/-- What is wrong with a host that stands in brackets. -/
def hostFault? (host : Text) : Option Fault :=
  if host.head? = some ('v' : CodePoint) then (if isFuture host then none else some .futureVersion)
  else if isFourBytes host then some .bracketedFour
  else if isSixteenBytes host then none
  else some (.notAnAddress host)

/-- Only what stands between the brackets is looked at, and nothing before them. -/
theorem bracketFault?_append (none : ∀ c ∈ s, c ≠ '[' ∧ c ≠ ']') (t : Text) :
    bracketFault? (s ++ t) = bracketFault? t := by
  have opens : ('[' : CodePoint) ∉ s := fun member => (none _ member).1 rfl
  have closes : (']' : CodePoint) ∉ s := fun member => (none _ member).2 rfl
  simp only [bracketFault?, List.mem_append, opens, closes, false_or, cut_append opens]

theorem bracketFault?_brackets (absent : (']' : CodePoint) ∉ t) (after : Text) :
    bracketFault? (('[' : CodePoint) :: (t ++ (']' : CodePoint) :: after)) = hostFault? t := by
  have opens : ('[' : CodePoint) ∈ ('[' : CodePoint) :: (t ++ (']' : CodePoint) :: after) := List.mem_cons_self
  have closes : (']' : CodePoint) ∈ ('[' : CodePoint) :: (t ++ (']' : CodePoint) :: after) := by simp
  simp only [bracketFault?, opens, closes, cut_cons_self, Option.getD_some, cut_append_cons absent]
  rfl

end Brackets

section Characters

/-- Whether a character can stand in an authority. -/
def isInside (c : CodePoint) : Bool := c ≠ '/' && c ≠ '?' && c ≠ '#'

theorem value_le_of_isIgnored (ignored : isIgnored c = true) : c.value ≤ 0x20 := by
  simp only [isIgnored, Bool.or_eq_true, decide_eq_true_eq] at ignored
  rcases ignored with (rfl | rfl) | rfl <;> decide

theorem isIgnored_of_lt (visible : 0x20 < c.value) : isIgnored c = false := by
  cases ignored : isIgnored c with
  | false => rfl
  | true => exact absurd (value_le_of_isIgnored ignored) (Nat.not_le.mpr visible)

theorem isInside_eq_false_iff : isInside c = false ↔ c = '/' ∨ c = '?' ∨ c = '#' := by
  simp only [isInside, Bool.and_eq_false_iff, decide_eq_false_iff_not, ne_eq, not_not, or_assoc]

theorem isIgnored_of_separator (separates : isInside c = false) : isIgnored c = false := by
  rcases isInside_eq_false_iff.mp separates with rfl | rfl | rfl <;> decide

theorem takeWhile_isInside (inside : ∀ c ∈ s, isInside c = true)
    (stops : ∀ c, t.head? = some c → isInside c = false) : (s ++ t).takeWhile isInside = s := by
  rw [List.takeWhile_append_of_pos inside]
  cases t with
  | nil => simp
  | cons c t => rw [List.takeWhile_cons_of_neg (by simp [stops c rfl]), List.append_nil]

theorem dropWhile_isInside (inside : ∀ c ∈ s, isInside c = true)
    (stops : ∀ c, t.head? = some c → isInside c = false) : (s ++ t).dropWhile isInside = t := by
  rw [List.dropWhile_append_of_pos inside]
  cases t with
  | nil => rfl
  | cons c t => rw [List.dropWhile_cons_of_neg (by simp [stops c rfl])]

/-- A text that does not stay in an authority leaves it at its first separator. -/
theorem exists_separator (outside : ¬∀ c ∈ t, isInside c = true) :
    ∃ before c after, t = before ++ c :: after ∧ (∀ d ∈ before, isInside d = true) ∧ isInside c = false := by
  induction t with
  | nil => exact absurd (List.forall_mem_nil _) outside
  | cons c t ih =>
    cases inside : isInside c with
    | false => exact ⟨[], c, t, rfl, List.forall_mem_nil _, inside⟩
    | true =>
      rw [List.forall_mem_cons] at outside
      obtain ⟨before, d, after, rfl, all, separates⟩ := ih fun all => outside ⟨inside, all⟩
      exact ⟨c :: before, d, after, rfl, List.forall_mem_cons.mpr ⟨inside, all⟩, separates⟩

/-- What is read of a text. -/
def cleaned (raw : Text) : Text := (raw.dropWhile fun c => c.value ≤ 0x20).filter fun c => !isIgnored c

theorem cleaned_eq (visible : ∀ c, t.head? = some c → 0x20 < c.value) :
    cleaned t = t.filter fun c => !isIgnored c := by
  cases t with
  | nil => rfl
  | cons c t =>
    have first := visible c rfl
    rw [cleaned, List.dropWhile_cons_of_neg (by simpa using first)]

theorem cleaned_eq_self (visible : ∀ c, t.head? = some c → 0x20 < c.value) (kept : ∀ c ∈ t, isIgnored c = false) :
    cleaned t = t := by
  rw [cleaned_eq visible, List.filter_eq_self]
  simpa using kept

theorem mem_of_mem_cleaned (member : c ∈ cleaned raw) : c ∈ raw :=
  (List.dropWhile_suffix _).mem (List.mem_filter.mp member).1

theorem isIgnored_of_mem_cleaned (member : c ∈ cleaned raw) : isIgnored c = false := by
  simpa using (List.mem_filter.mp member).2

end Characters

section Reading

/-- Whether a text can name a scheme. -/
def isScheme (t : Text) : Bool := t.head?.elim false CodePoint.isLetter && t.all isSchemeCharacter

theorem colon_notMem (valid : isScheme scheme = true) : (':' : CodePoint) ∉ scheme := by
  intro member
  have fits := List.all_eq_true.mp (Bool.and_eq_true_iff.mp valid).2 _ member
  exact absurd fits (by decide)

theorem schemeAndRest_append (absent : (':' : CodePoint) ∉ scheme) (rest : Text) :
    schemeAndRest (scheme ++ (':' : CodePoint) :: rest) =
      if isScheme scheme then (scheme.map CodePoint.lower, rest) else ([], scheme ++ (':' : CodePoint) :: rest) := by
  rw [schemeAndRest, cut_append_cons absent]
  rfl

theorem authorityAndRest_slashes (rest : Text) :
    authorityAndRest (('/' : CodePoint) :: ('/' : CodePoint) :: rest) =
      (rest.takeWhile isInside, rest.dropWhile isInside) := by
  rfl

theorem authorityAndRest_of_head (other : t.head? ≠ some ('/' : CodePoint)) : authorityAndRest t = ([], t) := by
  cases t with
  | nil => rfl
  | cons c t =>
    have differs : (('/' : CodePoint) == c) = false := by
      rw [beq_eq_false_iff_ne]
      exact fun same => other (by rw [List.head?_cons, same])
    have apart : Text.dropStart? "//" (c :: t) = none := by
      rw [Text.dropStart?, show ("//" : Text) = [('/' : CodePoint), ('/' : CodePoint)] from rfl,
        List.isPrefixOf_cons_cons, differs]
      rfl
    rw [authorityAndRest, apart]

/-- The address with a scheme, an authority and what follows it. -/
def ofParts (scheme authority rest : Text) : Address :=
  let (start, fragment) := cut '#' rest
  let (path, query) := cut '?' start
  ⟨scheme, authority, pathOf scheme path, query.getD [], fragment.getD []⟩

/-- The checks of an authority let it pass. -/
structure IsReadable (authority : Text) : Prop where
  brackets : bracketFault? authority = none
  plain : authority.any foldsToSeparator = false

theorem isReadable_nil : IsReadable [] := ⟨rfl, rfl⟩

theorem read_eq_ok_iff (parted : schemeAndRest (cleaned raw) = (scheme, t))
    (followed : authorityAndRest t = (authority, rest)) :
    read raw = .ok a ↔ IsReadable authority ∧ a = ofParts scheme authority rest := by
  unfold cleaned at parted
  dsimp only [read]
  rw [parted]
  dsimp only
  rw [followed]
  dsimp only
  cases brackets : bracketFault? authority with
  | some e =>
    have unreadable : ¬IsReadable authority := fun readable => by simpa [brackets] using readable.brackets
    simp [unreadable]
  | none =>
    cases plain : authority.any foldsToSeparator with
    | true =>
      have unreadable : ¬IsReadable authority := fun readable => by simpa [plain] using readable.plain
      simp [unreadable]
    | false =>
      have readable : IsReadable authority := ⟨brackets, plain⟩
      constructor
      · exact fun taken => ⟨readable, (Except.ok.inj taken).symm⟩
      · rintro ⟨-, rfl⟩
        rfl

theorem absolute_eq (scheme rest : Text) : scheme ++ "://" ++ rest =
    scheme ++ (':' : CodePoint) :: ('/' : CodePoint) :: ('/' : CodePoint) :: rest := by
  rw [List.append_assoc]
  rfl

/-- The parts of an address with a scheme and an authority. -/
theorem read_absolute_iff (valid : isScheme scheme = true) (clean : cleaned raw = scheme ++ "://" ++ rest) :
    read raw = .ok a ↔ IsReadable (rest.takeWhile isInside) ∧
      a = ofParts (scheme.map CodePoint.lower) (rest.takeWhile isInside) (rest.dropWhile isInside) := by
  apply read_eq_ok_iff (t := ('/' : CodePoint) :: ('/' : CodePoint) :: rest) _ (authorityAndRest_slashes rest)
  rw [clean, absolute_eq, schemeAndRest_append (colon_notMem valid), if_pos valid]

/-- An address whose scheme is not one can be read, and has none. -/
theorem exists_read_of_not_isScheme (invalid : isScheme scheme = false) (absent : (':' : CodePoint) ∉ scheme)
    (first : scheme.head? ≠ some ('/' : CodePoint)) (clean : cleaned raw = scheme ++ (':' : CodePoint) :: rest) :
    ∃ a, read raw = .ok a ∧ a.scheme = [] := by
  have parted : schemeAndRest (cleaned raw) = ([], cleaned raw) := by
    rw [clean, schemeAndRest_append absent, if_neg (by simp [invalid])]
  have bare : authorityAndRest (cleaned raw) = ([], cleaned raw) := by
    apply authorityAndRest_of_head
    rw [clean]
    cases scheme with
    | nil =>
      rw [List.nil_append, List.head?_cons]
      decide
    | cons c scheme => exact first
  exact ⟨_, (read_eq_ok_iff parted bare).mpr ⟨isReadable_nil, rfl⟩, rfl⟩

theorem exists_of_schemeAndRest (parted : schemeAndRest t = (scheme, rest)) (named : scheme ≠ []) :
    ∃ s, isScheme s = true ∧ t = s ++ (':' : CodePoint) :: rest := by
  by_cases colon : (':' : CodePoint) ∈ t
  · obtain ⟨s, after, rfl, absent⟩ := List.eq_append_cons_of_mem colon
    rw [schemeAndRest_append absent] at parted
    split at parted
    next valid =>
      cases parted
      exact ⟨s, valid, rfl⟩
    next =>
      cases parted
      exact absurd rfl named
  · rw [schemeAndRest, cut_of_notMem colon] at parted
    cases parted
    exact absurd rfl named

theorem exists_of_authorityAndRest (parted : authorityAndRest t = (authority, rest)) (absolute : authority ≠ []) :
    ∃ s, t = ('/' : CodePoint) :: ('/' : CodePoint) :: s := by
  unfold authorityAndRest Text.dropStart? at parted
  split at parted
  next =>
    cases parted
    exact absurd rfl absolute
  next s found =>
    split at found
    next starts =>
      obtain ⟨s, rfl⟩ := List.isPrefixOf_iff_prefix.mp starts
      exact ⟨s, rfl⟩
    next => cases found

/-- Where a scheme and an authority are read, there are two slashes between them. -/
theorem exists_parts_of_read (reads : read raw = .ok a) (named : a.scheme ≠ []) (absolute : a.authority ≠ []) :
    ∃ scheme rest, isScheme scheme = true ∧ cleaned raw = scheme ++ "://" ++ rest := by
  cases parted : schemeAndRest (cleaned raw) with
  | mk scheme t =>
    cases followed : authorityAndRest t with
    | mk authority rest =>
      obtain ⟨-, rfl⟩ := (read_eq_ok_iff parted followed).mp reads
      obtain ⟨s, valid, clean⟩ := exists_of_schemeAndRest parted named
      obtain ⟨r, rfl⟩ := exists_of_authorityAndRest followed absolute
      exact ⟨s, r, valid, clean.trans (absolute_eq s r).symm⟩

end Reading

section Writing

theorem ofParts_path (scheme authority rest : Text) :
    (ofParts scheme authority rest).path = pathOf scheme (cut '?' (cut '#' rest).1).1 := rfl

theorem notMem_of_cut (t : Text) :
    ('?' : CodePoint) ∉ (cut '?' (cut '#' t).1).1 ∧ ('#' : CodePoint) ∉ (cut '?' (cut '#' t).1).1 :=
  ⟨notMem_cut _ _, fun member => notMem_cut '#' t ((cut_isPrefix _ _).mem member)⟩

theorem head?_pathOf (first : t.head? = some ('/' : CodePoint)) :
    (pathOf scheme t).head? = some ('/' : CodePoint) := by
  obtain ⟨before, after, rfl, last⟩ := exists_last (List.mem_of_head? first)
  rw [pathOf_append_cons scheme before last]
  cases before with
  | nil => rfl
  | cons d before => exact first

/-- A path is empty or begins with a slash. -/
theorem eq_slash_of_path (first : (ofParts scheme authority (rest.dropWhile isInside)).path.head? = some c) :
    c = '/' := by
  rw [ofParts_path] at first
  have ⟨question, mark⟩ := notMem_of_cut (rest.dropWhile isInside)
  have shorter : (cut '?' (cut '#' (rest.dropWhile isInside)).1).1 <+: rest.dropWhile isInside :=
    (cut_isPrefix _ _).trans (cut_isPrefix _ _)
  generalize (cut '?' (cut '#' (rest.dropWhile isInside)).1).1 = path at first question mark shorter
  cases path with
  | nil =>
    rw [pathOf_nil] at first
    cases first
  | cons d path =>
    obtain ⟨more, longer⟩ := shorter
    have separates := List.head?_dropWhile_not isInside rest
    rw [← longer] at separates
    have slash : d = '/' := by
      rcases isInside_eq_false_iff.mp separates with slash | rfl | rfl
      · exact slash
      · exact absurd List.mem_cons_self question
      · exact absurd List.mem_cons_self mark
    rw [head?_pathOf (t := d :: path) (congrArg some slash)] at first
    exact (Option.some.inj first).symm

theorem visible_of_isSchemeCharacter (fits : isSchemeCharacter c = true) : 0x20 < c.value := by
  simp only [isSchemeCharacter, CodePoint.isLetter, CodePoint.isLowerLetter, CodePoint.isUpperLetter,
    CodePoint.isDigit, CodePoint.isBetween, Bool.or_eq_true, Bool.and_eq_true, decide_eq_true_eq] at fits
  rcases fits with (((letter | digit) | rfl) | rfl) | rfl
  · omega
  · omega
  all_goals decide

theorem ofParts_of_notMem (question : ('?' : CodePoint) ∉ t) (mark : ('#' : CodePoint) ∉ t) :
    ofParts scheme authority t = ⟨scheme, authority, pathOf scheme t, [], []⟩ := by
  rw [ofParts, cut_of_notMem mark]
  dsimp only
  rw [cut_of_notMem question]
  rfl

/-- What is so of the parts of an address that has a scheme and an authority. -/
structure IsReadFrom (a : Address) (raw : Text) : Prop where
  readable : IsReadable a.authority
  authority : ∀ c ∈ a.authority, isInside c = true ∧ c ∈ cleaned raw
  path : ∀ c ∈ a.path, c ≠ '?' ∧ c ≠ '#' ∧ c ∈ cleaned raw
  slash : ∀ c, a.path.head? = some c → c = '/'
  parameters : pathOf a.scheme a.path = a.path

theorem isReadFrom (reads : read raw = .ok a) (named : a.scheme ≠ []) (absolute : a.authority ≠ []) :
    IsReadFrom a raw := by
  obtain ⟨scheme, rest, valid, clean⟩ := exists_parts_of_read reads named absolute
  obtain ⟨readable, same⟩ := (read_absolute_iff valid clean).mp reads
  have inRaw {c : CodePoint} (member : c ∈ rest) : c ∈ cleaned raw := by simp [clean, member]
  have ⟨question, mark⟩ := notMem_of_cut (rest.dropWhile isInside)
  have shorter : (cut '?' (cut '#' (rest.dropWhile isInside)).1).1 <+: rest.dropWhile isInside :=
    (cut_isPrefix _ _).trans (cut_isPrefix _ _)
  subst same
  exact {
    readable
    authority c member :=
      have shorter := List.takeWhile_prefix isInside
      ⟨List.all_eq_true.mp List.all_takeWhile c member, inRaw (shorter.mem member)⟩
    path c member := by
      have inPath := mem_of_mem_pathOf member
      refine ⟨fun same => question (same ▸ inPath), fun same => mark (same ▸ inPath), inRaw ?_⟩
      exact (List.dropWhile_suffix _).mem (shorter.mem inPath)
    slash _ := eq_slash_of_path
    parameters := pathOf_idem _ _ }

/-- An address without a query and a fragment is read again from its parts. -/
theorem read_text (reads : read raw = .ok a) (absolute : a.authority ≠ []) (valid : isScheme a.scheme = true)
    (lowered : a.scheme.map CodePoint.lower = a.scheme) (query : a.query = []) (fragment : a.fragment = []) :
    read (a.scheme ++ "://" ++ (a.authority ++ a.path)) = .ok a := by
  have named : a.scheme ≠ [] := by
    intro none
    rw [none] at valid
    cases valid
  have origin := isReadFrom reads named absolute
  have inScheme : ∀ c ∈ a.scheme, 0x20 < c.value := fun c member =>
    visible_of_isSchemeCharacter (List.all_eq_true.mp (Bool.and_eq_true_iff.mp valid).2 c member)
  have clean : cleaned (a.scheme ++ "://" ++ (a.authority ++ a.path)) =
      a.scheme ++ "://" ++ (a.authority ++ a.path) := by
    apply cleaned_eq_self
    · intro c first
      rw [List.append_assoc, List.head?_append_of_ne_nil a.scheme named] at first
      exact inScheme c (List.mem_of_head? first)
    · simp only [List.forall_mem_append]
      exact ⟨⟨fun c member => isIgnored_of_lt (inScheme c member), by decide⟩,
        fun c member => isIgnored_of_mem_cleaned (origin.authority c member).2,
        fun c member => isIgnored_of_mem_cleaned (origin.path c member).2.2⟩
  have within : ∀ c ∈ a.authority, isInside c = true := fun c member => (origin.authority c member).1
  have stops : ∀ c, a.path.head? = some c → isInside c = false := by
    intro c first
    rw [origin.slash c first]
    decide
  rw [read_absolute_iff valid clean, takeWhile_isInside within stops, dropWhile_isInside within stops, lowered,
    ofParts_of_notMem (fun member => (origin.path _ member).1 rfl) (fun member => (origin.path _ member).2.1 rfl),
    origin.parameters]
  refine ⟨origin.readable, ?_⟩
  cases a
  cases query
  cases fragment
  rfl

end Writing

end LessonService.Address
