import LessonService.Generation.Template
import LessonService.Proofs.Text.Occurrence
import LessonService.Proofs.Text.Runs

namespace LessonService.Generation

variable {values : List (String × Text)} {names : List String} {v : String × Text} {n : String} {t : Text}
  {c : CodePoint}

theorem mark_ne_nil (n : String) : mark n ≠ [] := by
  intro empty
  have length := congrArg List.length empty
  simp [mark, Text.ofString] at length

/-- The first of the values whose mark a text starts with. -/
def starting? (values : List (String × Text)) (t : Text) : Option (String × Text) :=
  values.find? fun v => (mark v.1).isPrefixOf t

theorem prefix_of_starting? (found : starting? values t = some v) : mark v.1 <+: t := by
  unfold starting? at found
  have here := List.find?_some found
  exact List.isPrefixOf_iff_prefix.mp here

theorem starting?_eq_none_iff : starting? values t = none ↔ ∀ v ∈ values, ¬mark v.1 <+: t := by
  simp only [starting?, List.find?_eq_none, List.isPrefixOf_iff_prefix]

theorem starting?_cons_of_starts (here : mark v.1 <+: t) : starting? (v :: values) t = some v := by
  rw [starting?, List.find?_cons, List.isPrefixOf_iff_prefix.mpr here]

theorem starting?_cons_of_not_starts (elsewhere : ¬mark v.1 <+: t) :
    starting? (v :: values) t = starting? values t := by
  have fails : (mark v.1).isPrefixOf t = false := Bool.eq_false_iff.mpr (mt List.isPrefixOf_iff_prefix.mp elsewhere)
  rw [starting?, List.find?_cons, fails]
  rfl

/-- What follows a character that is in none of the marks does not matter. -/
theorem starting?_append_cons (absent : ∀ n ∈ values.map Prod.fst, c ∉ mark n) (a b : Text) :
    starting? values (a ++ c :: b) = starting? values a := by
  induction values with
  | nil => rfl
  | cons v values ih =>
    rw [List.map_cons, List.forall_mem_cons] at absent
    by_cases here : mark v.1 <+: a
    · rw [starting?_cons_of_starts here, starting?_cons_of_starts (here.trans (List.prefix_append _ _))]
    · have elsewhere := mt (Text.prefix_of_prefix_append_cons (b := b) absent.1) here
      rw [starting?_cons_of_not_starts here, starting?_cons_of_not_starts elsewhere, ih absent.2]

/-- Fills in all names in one walk over the template, without a look at what is put in. -/
def fillAtOnce (values : List (String × Text)) (t : Text) : Text :=
  match t with
  | [] => []
  | c :: rest =>
    match starting? values (c :: rest) with
    | some v => v.2 ++ fillAtOnce values ((c :: rest).drop (mark v.1).length)
    | none => c :: fillAtOnce values rest
termination_by t.length
decreasing_by
  · have filled := List.length_pos_iff.mpr (mark_ne_nil v.1)
    simp only [List.length_drop, List.length_cons]
    omega
  · exact Nat.lt_succ_self _

theorem fillAtOnce_nil (values : List (String × Text)) : fillAtOnce values [] = [] := by
  rw [fillAtOnce]

theorem fillAtOnce_of_starting? (found : starting? values t = some v) :
    fillAtOnce values t = v.2 ++ fillAtOnce values (t.drop (mark v.1).length) := by
  cases t with
  | nil => exact absurd (List.prefix_nil.mp (prefix_of_starting? found)) (mark_ne_nil v.1)
  | cons c t => rw [fillAtOnce, found]

theorem fillAtOnce_cons_kept (none : ∀ v ∈ values, ¬mark v.1 <+: c :: t) :
    fillAtOnce values (c :: t) = c :: fillAtOnce values t := by
  rw [fillAtOnce, starting?_eq_none_iff.mpr none]

/-- A walk starts afresh behind a character that is in none of the marks. -/
theorem fillAtOnce_append_cons (absent : ∀ n ∈ values.map Prod.fst, c ∉ mark n) (a b : Text) :
    fillAtOnce values (a ++ c :: b) = fillAtOnce values a ++ c :: fillAtOnce values b := by
  induction a using fillAtOnce.induct values with
  | case1 =>
    have nowhere : starting? values [] = none :=
      starting?_eq_none_iff.mpr fun v _ here => mark_ne_nil v.1 (List.prefix_nil.mp here)
    rw [fillAtOnce_nil, List.nil_append, List.nil_append, fillAtOnce, ← List.nil_append (c :: b),
      starting?_append_cons absent, nowhere]
  | case2 d a v found ih =>
    have here := prefix_of_starting? found
    rw [fillAtOnce_of_starting? ((starting?_append_cons absent _ b).trans found), fillAtOnce_of_starting? found,
      List.drop_append_of_le_length here.length_le, ih, List.append_assoc]
  | case3 d a nowhere ih =>
    have longer := (starting?_append_cons absent (d :: a) b).trans nowhere
    rw [List.cons_append] at longer ⊢
    rw [fillAtOnce, longer, fillAtOnce_cons_kept (starting?_eq_none_iff.mp nowhere), ih, List.cons_append]

theorem fillAtOnce_eq_self (none : ∀ v ∈ values, ¬mark v.1 <:+: t) : fillAtOnce values t = t := by
  induction t with
  | nil => exact fillAtOnce_nil values
  | cons c t ih =>
    rw [fillAtOnce_cons_kept fun v member => mt List.IsPrefix.isInfix (none v member),
      ih fun v member inside => none v member (inside.trans (List.suffix_cons c t).isInfix)]

theorem fst_mem_of_starting? (found : starting? values t = some v) : v.1 ∈ values.map Prod.fst :=
  List.mem_map_of_mem (List.mem_of_find?_eq_some found)

/-- A text that is a mark if a mark is in it becomes the value of its name. -/
theorem fillAtOnce_eq_elim (alone : ∀ n ∈ values.map Prod.fst, mark n <:+: t → t = mark n) :
    fillAtOnce values t = (starting? values t).elim t Prod.snd := by
  cases found : starting? values t with
  | none =>
    have elsewhere := starting?_eq_none_iff.mp found
    refine fillAtOnce_eq_self fun v member inside => elsewhere v member ?_
    exact alone v.1 (List.mem_map_of_mem member) inside ▸ List.prefix_rfl
  | some v =>
    have whole := alone v.1 (fst_mem_of_starting? found) (prefix_of_starting? found).isInfix
    rw [fillAtOnce_of_starting? found, ← whole, List.drop_length, fillAtOnce_nil, List.append_nil]
    rfl

/-- Filling in one name is replacing its mark. -/
theorem replaceText_mark (v : String × Text) (t : Text) : replaceText (mark v.1) v.2 t = fillAtOnce [v] t := by
  have filled := List.length_pos_iff.mpr (mark_ne_nil v.1)
  induction t using replaceText.induct (mark v.1) with
  | case1 => rw [replaceText, fillAtOnce_nil]
  | case2 c t here ih =>
    rw [Bool.and_eq_true] at here
    rw [Nat.max_eq_left filled] at ih
    rw [replaceText, if_pos (Bool.and_eq_true _ _ ▸ here), Nat.max_eq_left filled, ih,
      fillAtOnce_of_starting? (starting?_cons_of_starts (List.isPrefixOf_iff_prefix.mp here.1))]
  | case3 c t elsewhere ih =>
    have notHere : ¬mark v.1 <+: c :: t := by
      rwa [Bool.and_eq_true, decide_eq_true_eq, List.isPrefixOf_iff_prefix, and_iff_left (mark_ne_nil v.1)]
        at elsewhere
    rw [replaceText, if_neg elsewhere, ih, fillAtOnce_cons_kept (List.forall_mem_singleton.mpr notHere)]

theorem fill_nil (t : Text) : fill t [] = t := rfl

theorem fill_cons (t : Text) (v : String × Text) (later : List (String × Text)) :
    fill t (v :: later) = fill (fillAtOnce [v] t) later := by
  rw [← replaceText_mark]
  rfl

theorem fill_append_cons (absent : ∀ n ∈ values.map Prod.fst, c ∉ mark n) (a b : Text) :
    fill (a ++ c :: b) values = fill a values ++ c :: fill b values := by
  induction values generalizing a b with
  | nil => rfl
  | cons v later ih =>
    rw [List.map_cons, List.forall_mem_cons] at absent
    have absentOne : ∀ n ∈ [v].map Prod.fst, c ∉ mark n := List.forall_mem_singleton.mpr absent.1
    rw [fill_cons, fillAtOnce_append_cons absentOne, ih absent.2, fill_cons, fill_cons]

theorem fill_eq_self (none : ∀ v ∈ values, ¬mark v.1 <:+: t) : fill t values = t := by
  induction values with
  | nil => rfl
  | cons v later ih =>
    rw [List.forall_mem_cons] at none
    rw [fill_cons, fillAtOnce_eq_self (List.forall_mem_singleton.mpr none.1), ih none.2]

/-- The values as they end up: each has been looked through for the names after it. -/
def settled : List (String × Text) → List (String × Text)
  | [] => []
  | (n, value) :: later => (n, fill value later) :: settled later

theorem settled_eq_self (plain : values.Pairwise fun v w => ¬mark w.1 <:+: v.2) : settled values = values := by
  induction values with
  | nil => rfl
  | cons v later ih =>
    obtain ⟨first, rest⟩ := List.pairwise_cons.mp plain
    rw [settled, fill_eq_self first, ih rest]

theorem fst_settled (values : List (String × Text)) : (settled values).map Prod.fst = values.map Prod.fst := by
  induction values with
  | nil => rfl
  | cons v later ih => rw [settled, List.map_cons, List.map_cons, ih]

/-- A text made of parts, with characters that are in no mark between them. A part in which a mark is, is that
mark. -/
inductive IsSpaced (names : List String) : Text → Prop
  | part {t : Text} : (∀ n ∈ names, mark n <:+: t → t = mark n) → IsSpaced names t
  | parted {a b : Text} {c : CodePoint} :
      (∀ n ∈ names, c ∉ mark n) → IsSpaced names a → IsSpaced names b → IsSpaced names (a ++ c :: b)

/-- Whether a character is in the mark of one of the names. -/
def isOfMark (names : List String) (c : CodePoint) : Bool := names.any fun n => decide (c ∈ mark n)

/-- The parts are the runs of characters of marks. -/
theorem isSpaced_of_runs
    (alone : ∀ part ∈ Text.runs (isOfMark names) t, ∀ n ∈ names, Text.contains (mark n) part = true → part = mark n) :
    IsSpaced names t := by
  induction length : t.length using Nat.strong_induction_on generalizing t with | _ k ih =>
  by_cases all : ∀ c ∈ t, isOfMark names c = true
  · refine .part fun n known inside => ?_
    by_cases filled : t = []
    · rw [filled, List.infix_nil] at inside
      exact absurd inside (mark_ne_nil n)
    · have run : t ∈ Text.runs (isOfMark names) t := Text.runs_of_forall filled all ▸ List.mem_cons_self
      exact alone t run n known ((Text.contains_iff _ _).mpr inside)
  · -- A character that is in no mark parts the text into two shorter ones, and its runs into theirs.
    simp only [not_forall, Bool.not_eq_true] at all
    obtain ⟨c, inside, other⟩ := all
    obtain ⟨a, b, rfl⟩ := List.append_of_mem inside
    rw [Text.runs_append_cons a b other, List.forall_mem_append] at alone
    rw [isOfMark, List.any_eq_false] at other
    rw [List.length_append, List.length_cons] at length
    exact .parted (by simpa using other) (ih a.length (by omega) alone.1 rfl) (ih b.length (by omega) alone.2 rfl)

theorem fill_eq_elim (alone : ∀ n ∈ values.map Prod.fst, mark n <:+: t → t = mark n) :
    fill t values = (starting? (settled values) t).elim t Prod.snd := by
  induction values with
  | nil => rfl
  | cons v later ih =>
    rw [List.map_cons, List.forall_mem_cons] at alone
    have aloneOne : ∀ n ∈ [v].map Prod.fst, mark n <:+: t → t = mark n := List.forall_mem_singleton.mpr alone.1
    rw [fill_cons, fillAtOnce_eq_elim aloneOne]
    by_cases here : mark v.1 <+: t
    · have first : starting? (settled (v :: later)) t = some (v.1, fill v.2 later) := starting?_cons_of_starts here
      rw [starting?_cons_of_starts here, first]
      rfl
    · have first : starting? (settled (v :: later)) t = starting? (settled later) t := starting?_cons_of_not_starts here
      rw [starting?_cons_of_not_starts here, first]
      exact ih alone.2

/-- Filling in one name after the other is filling in all at once, with values that have been looked through for the
names after theirs. -/
theorem fill_eq_fillAtOnce (spaced : IsSpaced (values.map Prod.fst) t) :
    fill t values = fillAtOnce (settled values) t := by
  induction spaced with
  | part alone => rw [fill_eq_elim alone, fillAtOnce_eq_elim ((fst_settled values).symm ▸ alone)]
  | parted absent _ _ first second =>
    rw [fill_append_cons absent, fillAtOnce_append_cons ((fst_settled values).symm ▸ absent), first, second]

/-- What is filled in for a mark in the template is in the text. -/
theorem infix_fillAtOnce (spaced : IsSpaced (values.map Prod.fst) t) (first : starting? values (mark n) = some v)
    (named : v.1 = n) (inside : mark n <:+: t) : v.2 <:+: fillAtOnce values t := by
  have known : n ∈ values.map Prod.fst := named ▸ fst_mem_of_starting? first
  induction spaced with
  | part alone =>
    rw [fillAtOnce_eq_elim alone, alone n known inside, first]
    exact List.infix_rfl
  | parted absent _ _ inFirst inSecond =>
    rw [fillAtOnce_append_cons absent]
    rcases (Text.infix_append_cons_iff (absent n known)).mp inside with here | here
    · exact (inFirst here).trans (List.prefix_append _ _).isInfix
    · exact (inSecond here).trans ((List.suffix_cons _ _).trans (List.suffix_append _ _)).isInfix

/-- A mark that is in none of the values is not in the text. -/
theorem not_infix_fillAtOnce (spaced : IsSpaced (values.map Prod.fst) t) (known : n ∈ values.map Prod.fst)
    (plain : ∀ v ∈ values, ¬mark n <:+: v.2) : ¬mark n <:+: fillAtOnce values t := by
  induction spaced with
  | part alone =>
    rw [fillAtOnce_eq_elim alone]
    cases found : starting? values _ with
    | none =>
      obtain ⟨v, member, rfl⟩ := List.mem_map.mp known
      intro inside
      exact starting?_eq_none_iff.mp found v member (alone v.1 known inside ▸ List.prefix_rfl)
    | some v => exact plain v (List.mem_of_find?_eq_some found)
  | parted absent _ _ first second =>
    rw [fillAtOnce_append_cons absent, Text.infix_append_cons_iff (absent n known), not_or]
    exact ⟨first, second⟩

end LessonService.Generation
