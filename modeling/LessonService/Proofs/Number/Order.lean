import LessonService.Number
import Mathlib.Algebra.Order.Ring.Rat

namespace LessonService.Number

variable {a b c : Number} {p q : Rat}

theorem less_iff (atA : a.value? = some p) (atB : b.value? = some q) : a.less b = true ↔ p < q := by
  rcases a with m | (x | _ | _ | _) <;> rcases b with n | (y | _ | _ | _) <;>
    simp_all only [less, Double.less, value?, Double.value?, Option.some.injEq, Option.elim_some, Option.getD_some,
      decide_eq_true_eq, reduceCtorEq]
  subst atA atB
  exact Rat.intCast_lt_intCast.symm

/-- What has no value is less than all that have one, or than none of them. -/
theorem less_congr (valueless : a.value? = none) (atB : b.value? = some p) (atC : c.value? = some q) :
    a.less b = a.less c := by
  rcases a with m | (x | _ | _ | _) <;> rcases b with n | (y | _ | _ | _) <;> rcases c with k | (z | _ | _ | _) <;>
    simp_all [less, Double.less, value?, Double.value?]

theorem less_of_less_of_le (below : a.less b = true) (atB : b.value? = some p) (atC : c.value? = some q) (le : p ≤ q) :
    a.less c = true := by
  cases atA : a.value? with
  | none => rwa [← less_congr atA atB atC]
  | some r => exact (less_iff atA atC).mpr (((less_iff atA atB).mp below).trans_le le)

end LessonService.Number
