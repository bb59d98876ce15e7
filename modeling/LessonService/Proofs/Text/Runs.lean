import LessonService.Text.Basic
import Mathlib.Data.List.Basic
import Mathlib.Data.List.TakeWhile

namespace LessonService.Text

variable {holds : CodePoint → Bool} {a b t : Text} {c : CodePoint}

/-- The runs of characters of a class in a text. -/
def runs (holds : CodePoint → Bool) (t : Text) : List Text :=
  (t.splitOnP fun c => !holds c).filter fun run => !run.isEmpty

/-- Whether a run goes on from one text to the next. -/
def isSeamless (holds : CodePoint → Bool) (a b : Text) : Bool := a.getLast?.any holds && b.head?.any holds

theorem isSeamless_eq_false_left (none : ∀ c ∈ a, holds c = false) : isSeamless holds a b = false := by
  rw [isSeamless, Bool.and_eq_false_iff, Option.any_eq_false]
  exact .inl fun c last => by simpa using none c (List.mem_of_getLast? last)

theorem isSeamless_eq_false_right (none : ∀ c ∈ b, holds c = false) : isSeamless holds a b = false := by
  rw [isSeamless, Bool.and_eq_false_iff, Option.any_eq_false, Option.any_eq_false]
  exact .inr fun c first => by simpa using none c (List.mem_of_head? first)

theorem isSeamless_append (filled : b ≠ []) (t : Text) : isSeamless holds a (b ++ t) = isSeamless holds a b := by
  rw [isSeamless, isSeamless, List.head?_append_of_ne_nil b filled]

theorem runs_nil : runs holds [] = [] := rfl

theorem runs_append_cons (a b : Text) (parts : holds c = false) :
    runs holds (a ++ c :: b) = runs holds a ++ runs holds b := by
  rw [runs, List.splitOnP_append_cons _ _ (by simp [parts]), List.filter_append]
  rfl

theorem runs_cons_of_not (parts : holds c = false) : runs holds (c :: t) = runs holds t :=
  runs_append_cons [] t parts

theorem runs_eq_nil (none : ∀ c ∈ t, holds c = false) : runs holds t = [] := by
  induction t with
  | nil => rfl
  | cons c t ih =>
    rw [List.forall_mem_cons] at none
    rw [runs_cons_of_not none.1, ih none.2]

/-- A character of the class begins a run or goes on with one. -/
theorem length_runs_cons (c : CodePoint) (t : Text) :
    (runs holds (c :: t)).length = (runs holds t).length + if holds c && !t.head?.any holds then 1 else 0 := by
  cases member : holds c with
  | false =>
    rw [runs_cons_of_not member]
    rfl
  | true =>
    have longer (t : Text) : (c :: t).splitOnP (fun c => !holds c)
        = (t.splitOnP fun c => !holds c).modifyHead (c :: ·) := by
      rw [List.splitOnP_cons_eq_if_modifyHead, if_neg (by simp [member])]
    rw [runs, runs, longer]
    cases t with
    | nil => rfl
    | cons d t =>
      obtain ⟨run, rest, split⟩ := List.exists_cons_of_ne_nil (List.splitOnP_ne_nil (fun c => !holds c) t)
      cases next : holds d <;> simp [List.splitOnP_cons_eq_if_modifyHead, split, next]

/-- Where two texts meet, a run is lost if it goes on. -/
theorem length_runs_append (holds : CodePoint → Bool) (a b : Text) :
    (runs holds (a ++ b)).length + (if isSeamless holds a b then 1 else 0)
      = (runs holds a).length + (runs holds b).length := by
  induction a with
  | nil => simp [runs_nil, isSeamless]
  | cons c a ih =>
    rw [List.cons_append, length_runs_cons, length_runs_cons]
    cases a with
    | nil =>
      cases member : holds c <;> cases next : b.head?.any holds <;> simp [isSeamless, member, next, runs_nil, Nat.add_comm]
    | cons d a =>
      have same : isSeamless holds (c :: d :: a) b = isSeamless holds (d :: a) b := by
        rw [isSeamless, isSeamless, List.getLast?_cons_cons]
      rw [same]
      rw [List.cons_append, List.head?_cons, List.head?_cons] at *
      omega

theorem runs_append (parted : isSeamless holds a b = false) :
    runs holds (a ++ b) = runs holds a ++ runs holds b := by
  rcases List.eq_nil_or_concat' a with rfl | ⟨a, c, rfl⟩
  · rfl
  cases b with
  | nil => rw [List.append_nil, runs_nil, List.append_nil]
  | cons d b =>
    rw [isSeamless, List.getLast?_concat, List.head?_cons, Bool.and_eq_false_iff] at parted
    rcases parted with last | first
    · rw [List.append_assoc, List.singleton_append, runs_append_cons a _ last, runs_append_cons a [] last, runs_nil,
        List.append_nil]
    · rw [runs_append_cons _ b first, runs_cons_of_not first]

/-- A text of characters of the class is one run. -/
theorem runs_of_forall (filled : t ≠ []) (all : ∀ c ∈ t, holds c = true) : runs holds t = [t] := by
  rw [runs, List.splitOnP_eq_singleton (by simpa using all)]
  exact List.filter_cons_of_pos (by simpa using filled)

theorem holds_of_mem_splitOnP {part : Text} (member : part ∈ t.splitOnP fun c => !holds c) :
    ∀ c ∈ part, holds c = true := by
  induction t generalizing part with
  | nil =>
    rw [List.splitOnP_nil, List.mem_singleton] at member
    exact member ▸ List.forall_mem_nil _
  | cons d t ih =>
    obtain ⟨first, rest, parts⟩ := List.exists_cons_of_ne_nil (List.splitOnP_ne_nil (fun c => !holds c) t)
    rw [List.splitOnP_cons_eq_if_modifyHead] at member
    rw [parts] at member ih
    cases inside : holds d with
    | false =>
      rw [if_pos (by simp [inside])] at member
      rcases List.mem_cons.mp member with rfl | later
      · exact List.forall_mem_nil _
      · exact ih later
    | true =>
      rw [if_neg (by simp [inside]), List.modifyHead_cons] at member
      rcases List.mem_cons.mp member with rfl | later
      · exact List.forall_mem_cons.mpr ⟨inside, ih List.mem_cons_self⟩
      · exact ih (List.mem_cons_of_mem _ later)

theorem holds_of_mem_runs {run : Text} (member : run ∈ runs holds t) : ∀ c ∈ run, holds c = true :=
  holds_of_mem_splitOnP (List.mem_filter.mp member).1

section Parts

theorem join_cons_cons (separator a b : Text) (parts : List Text) :
    join separator (a :: b :: parts) = a ++ separator ++ join separator (b :: parts) := rfl

theorem mem_join {separator : Text} {ts : List Text} (member : c ∈ join separator ts) :
    c ∈ separator ∨ ∃ t ∈ ts, c ∈ t := by
  induction ts with
  | nil => exact absurd member List.not_mem_nil
  | cons t ts ih =>
    cases ts with
    | nil => exact .inr ⟨t, List.mem_cons_self, member⟩
    | cons u us =>
      rw [join_cons_cons, List.mem_append, List.mem_append] at member
      rcases member with (inFirst | inSeparator) | later
      · exact .inr ⟨t, List.mem_cons_self, inFirst⟩
      · exact .inl inSeparator
      · exact (ih later).imp_right fun ⟨u, among, inside⟩ => ⟨u, List.mem_cons_of_mem _ among, inside⟩

theorem infix_join {part : Text} {ts : List Text} (separator : Text) (member : part ∈ ts) :
    part <:+: join separator ts := by
  induction ts with
  | nil => exact absurd member List.not_mem_nil
  | cons t ts ih =>
    cases ts with
    | nil => exact List.mem_singleton.mp member ▸ List.infix_rfl
    | cons u us =>
      rw [join_cons_cons, List.append_assoc]
      rcases List.mem_cons.mp member with rfl | later
      · exact (List.prefix_append _ _).isInfix
      · exact (ih later).trans ((List.suffix_append _ _).trans (List.suffix_append _ _)).isInfix

theorem splitOn_ne_nil (c : CodePoint) (t : Text) : splitOn c t ≠ [] := by
  cases t with
  | nil => exact List.cons_ne_nil _ _
  | cons d t =>
    rw [splitOn]
    split
    · exact List.cons_ne_nil _ _
    · split <;> exact List.cons_ne_nil _ _

theorem splitOn_of_notMem (absent : c ∉ t) : splitOn c t = [t] := by
  induction t with
  | nil => rfl
  | cons d t ih =>
    rw [List.mem_cons, not_or] at absent
    rw [splitOn, if_neg (Ne.symm absent.1), ih absent.2]

theorem splitOn_append_cons (absent : c ∉ a) (b : Text) : splitOn c (a ++ c :: b) = a :: splitOn c b := by
  induction a with
  | nil => rw [List.nil_append, splitOn, if_pos rfl]
  | cons d a ih =>
    rw [List.mem_cons, not_or] at absent
    rw [List.cons_append, splitOn, if_neg (Ne.symm absent.1), ih absent.2]

theorem splitOn_append (c : CodePoint) (a b : Text) : splitOn c (a ++ c :: b) = splitOn c a ++ splitOn c b := by
  induction a with
  | nil => exact splitOn_append_cons List.not_mem_nil b
  | cons d a ih =>
    obtain ⟨part, parts, split⟩ := List.exists_cons_of_ne_nil (splitOn_ne_nil c a)
    rw [List.cons_append, splitOn, splitOn, ih, split]
    split <;> rfl

/-- The first part is what stands before the first separator. -/
theorem takeWhile_mem_splitOn (c : CodePoint) (t : Text) : t.takeWhile (· ≠ c) ∈ splitOn c t := by
  by_cases inside : c ∈ t
  · obtain ⟨a, b, rfl, absent⟩ := List.eq_append_cons_of_mem inside
    have whole : (a ++ c :: b).takeWhile (· ≠ c) = a := by
      rw [List.takeWhile_append_of_pos fun d member => by simpa using ne_of_mem_of_not_mem member absent]
      simp
    rw [whole, splitOn_append_cons absent]
    exact List.mem_cons_self
  · rw [splitOn_of_notMem inside, List.mem_singleton, List.takeWhile_eq_self_iff]
    exact fun d member => by simpa using ne_of_mem_of_not_mem member inside

end Parts

end LessonService.Text
