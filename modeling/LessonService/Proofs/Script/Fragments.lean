import LessonService.Proofs.Text.Runs
import LessonService.Script.Emission

namespace LessonService.Script

namespace Fragment

variable {f g : Fragment}

@[simp] theorem code_ofText (t : Text) : (ofText t).code = t := rfl

@[simp] theorem failure_ofText (t : Text) : (ofText t).failure = none := rfl

@[simp] theorem code_append (f g : Fragment) : (f ++ g).code = f.code ++ g.code := rfl

@[simp] theorem failure_append_eq_none_iff : (f ++ g).failure = none ↔ f.failure = none ∧ g.failure = none :=
  Option.or_eq_none_iff

theorem join_cons_cons (separator : Text) (f g : Fragment) (fs : List Fragment) :
    join separator (f :: g :: fs) = f ++ ofText separator ++ join separator (g :: fs) := rfl

theorem code_join (separator : Text) (fs : List Fragment) :
    (join separator fs).code = Text.join separator (fs.map code) := by
  induction fs with
  | nil => rfl
  | cons f fs ih =>
    cases fs with
    | nil => rfl
    | cons g gs =>
      rw [List.map_cons] at ih
      rw [join_cons_cons, List.map_cons, List.map_cons, Text.join_cons_cons, code_append, code_append, ih,
        code_ofText]

theorem failure_join_eq_none_iff (separator : Text) {fs : List Fragment} :
    (join separator fs).failure = none ↔ ∀ f ∈ fs, f.failure = none := by
  induction fs with
  | nil => simp [join]
  | cons f fs ih =>
    cases fs with
    | nil => simp [join]
    | cons g gs =>
      rw [join_cons_cons, failure_append_eq_none_iff, failure_append_eq_none_iff, ih, failure_ofText,
        and_iff_left rfl, List.forall_mem_cons (a := f)]

end Fragment

theorem code_call (arguments : List Fragment) :
    (call arguments).code = elementFactory ++ "(" ++ Text.join ", " (arguments.map Fragment.code) ++ ")" := by
  rw [call, Fragment.code_append, Fragment.code_append, Fragment.code_join]
  rfl

theorem failure_call_eq_none_iff {arguments : List Fragment} :
    (call arguments).failure = none ↔ ∀ f ∈ arguments, f.failure = none := by
  rw [call, Fragment.failure_append_eq_none_iff, Fragment.failure_append_eq_none_iff,
    Fragment.failure_join_eq_none_iff]
  simp

end LessonService.Script
