import LessonService.Number
import Mathlib.Algebra.Order.Field.Power
import Mathlib.Algebra.Order.Ring.Rat
import Mathlib.Algebra.Field.Rat
import Mathlib.Tactic.FieldSimp
import Mathlib.Tactic.Linarith
import Mathlib.Tactic.NormNum
import Mathlib.Tactic.Positivity
import Mathlib.Tactic.Ring

namespace LessonService.Double

variable {q : Rat}

theorem twoTo_eq (e : Int) : twoTo e = 2 ^ e := by
  unfold twoTo
  split
  · rename_i negative
    obtain ⟨n, rfl⟩ := Int.eq_negSucc_of_lt_zero negative
    simp [Int.natAbs, zpow_negSucc]
  · rename_i nonneg
    lift e to Nat using Int.not_lt.mp nonneg
    simp

theorem roundQuotient_near {n d : Nat} (positive : 0 < d) :
    2 * n ≤ 2 * (roundQuotient n d * d) + d ∧ 2 * (roundQuotient n d * d) ≤ 2 * n + d := by
  have whole := Nat.div_add_mod' n d
  have rest := Nat.mod_lt n positive
  have next : (n / d + 1) * d = n / d * d + d := Nat.succ_mul ..
  unfold roundQuotient
  dsimp only
  split_ifs <;> omega

theorem nearestWhole_near (nonneg : 0 ≤ q) : |(nearestWhole q : Rat) - q| ≤ 1 / 2 := by
  have size : (q.num.natAbs : Rat) = q * q.den := by
    have whole : ((q.num.natAbs : Int) : Rat) = q.num := by
      rw [Int.natAbs_of_nonneg (Rat.num_nonneg.mpr nonneg)]
    rw [Rat.mul_den_eq_num, ← whole, Int.cast_natCast]
  have den : (0 : Rat) < q.den := Nat.cast_pos.mpr q.pos
  obtain ⟨above, below⟩ := roundQuotient_near (n := q.num.natAbs) q.pos
  have whole : nearestWhole q = roundQuotient q.num.natAbs q.den := by
    simp [nearestWhole, Int.not_lt.mpr (Rat.num_nonneg.mpr nonneg)]
  have above' := (Nat.cast_le (α := Rat)).mpr above
  have below' := (Nat.cast_le (α := Rat)).mpr below
  simp only [Nat.cast_add, Nat.cast_mul, Nat.cast_ofNat, size] at above' below'
  rw [whole, Int.cast_natCast, abs_le]
  constructor <;> nlinarith

theorem nearestWhole_natCast (n : Nat) : nearestWhole n = n := by
  have whole : roundQuotient n 1 = n := by simp [roundQuotient, Nat.mod_one]
  simp [nearestWhole, whole]

theorem binaryOrder_spec (positive : 0 < q) : (2 : Rat) ^ binaryOrder q ≤ q ∧ q < 2 ^ (binaryOrder q + 1) := by
  have num : q.num.natAbs ≠ 0 := by simpa using positive.ne'
  have value : q = (q.num.natAbs : Rat) / q.den := by
    have whole : ((q.num.natAbs : Int) : Rat) = q.num := by
      rw [Int.natAbs_of_nonneg (Rat.num_nonneg.mpr positive.le)]
    rw [← Int.cast_natCast, whole, Rat.num_div_den]
  have den : (0 : Rat) < q.den := Nat.cast_pos.mpr q.pos
  have numLow : (2 : Rat) ^ (q.num.natAbs.log2 : Int) ≤ q.num.natAbs := by
    rw [zpow_natCast]
    exact_mod_cast Nat.log2_self_le num
  have numHigh : (q.num.natAbs : Rat) < 2 ^ ((q.num.natAbs.log2 : Int) + 1) := by
    rw [← Nat.cast_succ, zpow_natCast]
    exact_mod_cast Nat.lt_log2_self (n := q.num.natAbs)
  have denLow : (2 : Rat) ^ (q.den.log2 : Int) ≤ q.den := by
    rw [zpow_natCast]
    exact_mod_cast Nat.log2_self_le q.den_nz
  have denHigh : (q.den : Rat) < 2 ^ ((q.den.log2 : Int) + 1) := by
    rw [← Nat.cast_succ, zpow_natCast]
    exact_mod_cast Nat.lt_log2_self (n := q.den)
  have two : (2 : Rat) ≠ 0 := by norm_num
  -- The quotient of two powers of two is off by a factor of two at most, either way.
  have high : q < 2 ^ ((q.num.natAbs.log2 : Int) - q.den.log2 + 1) := by
    refine value.trans_lt ((div_lt_iff₀ den).mpr ?_)
    calc (q.num.natAbs : Rat) < 2 ^ ((q.num.natAbs.log2 : Int) + 1) := numHigh
      _ = 2 ^ ((q.num.natAbs.log2 : Int) - q.den.log2 + 1) * 2 ^ (q.den.log2 : Int) := by
        rw [← zpow_add₀ two]; congr 1; omega
      _ ≤ 2 ^ ((q.num.natAbs.log2 : Int) - q.den.log2 + 1) * q.den := by gcongr
  have low : (2 : Rat) ^ ((q.num.natAbs.log2 : Int) - q.den.log2 - 1) ≤ q := by
    refine ((le_div_iff₀ den).mpr ?_).trans_eq value.symm
    calc (2 : Rat) ^ ((q.num.natAbs.log2 : Int) - q.den.log2 - 1) * q.den
        ≤ 2 ^ ((q.num.natAbs.log2 : Int) - q.den.log2 - 1) * 2 ^ ((q.den.log2 : Int) + 1) := by gcongr
      _ = 2 ^ (q.num.natAbs.log2 : Int) := by rw [← zpow_add₀ two]; congr 1; omega
      _ ≤ q.num.natAbs := numLow
  unfold binaryOrder
  dsimp only
  rw [twoTo_eq]
  split
  · rename_i less
    rw [sub_add_cancel]
    exact ⟨low, less⟩
  · rename_i notLess
    exact ⟨not_lt.mp notLess, high⟩

/-- What rounding keeps of a positive value: whole units of the last place. -/
def kept (q : Rat) : Rat := nearestWhole (q / twoTo (lastPlace q)) * twoTo (lastPlace q)

theorem twoTo_pos (e : Int) : 0 < twoTo e := by
  rw [twoTo_eq]
  positivity

theorem kept_near (positive : 0 < q) : |kept q - q| ≤ twoTo (lastPlace q) / 2 := by
  have unit := twoTo_pos (lastPlace q)
  have near := nearestWhole_near (div_nonneg positive.le unit.le)
  have scaled : kept q - q = (nearestWhole (q / twoTo (lastPlace q)) - q / twoTo (lastPlace q)) * twoTo (lastPlace q) := by
    rw [kept, sub_mul, div_mul_cancel₀ _ unit.ne']
  rw [scaled, abs_mul, abs_of_pos unit]
  calc _ ≤ 1 / 2 * twoTo (lastPlace q) := mul_le_mul_of_nonneg_right near unit.le
    _ = twoTo (lastPlace q) / 2 := by ring

/-- The last place is 52 places behind the first one, unless that is too far behind the point. -/
theorem twoTo_lastPlace_le (positive : 0 < q) : twoTo (lastPlace q) ≤ max (2 ^ (-1074 : Int)) (q / 2 ^ 52) := by
  obtain ⟨order, -⟩ := binaryOrder_spec positive
  rw [twoTo_eq, lastPlace]
  rcases le_total (binaryOrder q - 52) (-1074) with far | near
  · rw [max_eq_left far]
    exact le_max_left _ _
  · rw [max_eq_right near]
    refine le_max_of_le_right ?_
    rw [zpow_sub₀ (by norm_num)]
    exact div_le_div_of_nonneg_right order (by positivity)

theorem value?_round_of_pos (positive : 0 < q) (bounded : kept q < twoTo 1024) :
    (round q).value? = some (kept q) := by
  have nonneg : ¬q < 0 := not_lt.mpr positive.le
  have size : round q = if kept q ≥ twoTo 1024 then infinite false else if kept q = 0 then finite 0 else finite (kept q) := by
    simp [round, kept, positive.ne', nonneg]
  rw [size, if_neg (not_le.mpr bounded)]
  split
  · rename_i zero
    rw [zero]
    rfl
  · rfl

theorem value?_round_neg (positive : 0 < q) (bounded : kept q < twoTo 1024) :
    (round (-q)).value? = some (-kept q) := by
  have size : round (-q) =
      if kept q ≥ twoTo 1024 then infinite true else if kept q = 0 then negativeZero else finite (-kept q) := by
    simp [round, kept, positive.ne', positive]
  rw [size, if_neg (not_le.mpr bounded)]
  split
  · rename_i zero
    rw [zero]
    rfl
  · rfl

theorem kept_dyadic {n k : Nat} (positive : 0 < n) (short : n < 2 ^ 53) (fine : k ≤ 1074) :
    kept (n / 2 ^ k) = n / 2 ^ k := by
  have two : (2 : Rat) ≠ 0 := by norm_num
  have value : (0 : Rat) < n / 2 ^ k := by positivity
  obtain ⟨order, -⟩ := binaryOrder_spec value
  have below : (n : Rat) / 2 ^ k < 2 ^ (53 - (k : Int)) := by
    rw [zpow_sub₀ two, zpow_natCast]
    have short' : (n : Rat) < 2 ^ (53 : Int) := by exact_mod_cast short
    gcongr
  have small : binaryOrder (n / 2 ^ k) < 53 - k := (zpow_lt_zpow_iff_right₀ (by norm_num)).mp (order.trans_lt below)
  have place : lastPlace (n / 2 ^ k) ≤ -k := by
    unfold lastPlace
    omega
  obtain ⟨j, same⟩ := Int.le.dest place
  have units : (n : Rat) / 2 ^ k / twoTo (lastPlace (n / 2 ^ k)) = (n * 2 ^ j : Nat) := by
    rw [twoTo_eq, div_div, ← zpow_natCast 2 k, ← zpow_add₀ two, div_eq_mul_inv, ← zpow_neg, Nat.cast_mul, Nat.cast_pow,
      Nat.cast_ofNat, ← zpow_natCast 2 j]
    congr 2
    rw [zpow_natCast]
    omega
  rw [kept, units, nearestWhole_natCast, Int.cast_natCast, ← units, div_mul_cancel₀ _ (twoTo_pos _).ne']

theorem value?_round_dyadic {n : Int} {k : Nat} (short : |n| < 2 ^ 53) (fine : k ≤ 1074) :
    (round (n / 2 ^ k)).value? = some ((n : Rat) / 2 ^ k) := by
  have bounded {m : Nat} (positive : 0 < m) (short : m < 2 ^ 53) : kept (m / 2 ^ k) < twoTo 1024 := by
    rw [kept_dyadic positive short fine, twoTo_eq]
    calc (m : Rat) / 2 ^ k ≤ m := div_le_self (by positivity) (one_le_pow₀ (by norm_num))
      _ < 2 ^ 53 := by exact_mod_cast short
      _ ≤ 2 ^ (1024 : Int) := zpow_le_zpow_right₀ (m := 53) (by norm_num) (by norm_num)
  rcases lt_trichotomy n 0 with negative | rfl | positive
  · obtain ⟨m, rfl⟩ := Int.eq_negSucc_of_lt_zero negative
    have short' : m + 1 < 2 ^ 53 := by simp [abs] at short; omega
    have value : ((Int.negSucc m : Int) : Rat) / 2 ^ k = -(((m + 1 : Nat) : Rat) / 2 ^ k) := by
      rw [Int.cast_negSucc, neg_div]
    rw [value, value?_round_neg (by positivity) (bounded m.succ_pos short'), kept_dyadic m.succ_pos short' fine]
  · simp [round, value?]
  · lift n to Nat using positive.le
    have positive' : 0 < n := by exact_mod_cast positive
    have short' : n < 2 ^ 53 := by rw [abs_of_pos positive] at short; exact_mod_cast short
    rw [Int.cast_natCast, value?_round_of_pos (by positivity) (bounded positive' short'),
      kept_dyadic positive' short' fine]

theorem kept_lt {d : Nat} (least : 1 / (d : Rat) ≤ 1) (small : q < 2 ^ 53)
    (near : |kept q - q| < 1 / d) : kept q < twoTo 1024 := by
  have above := (abs_lt.mp near).2
  rw [twoTo_eq]
  calc kept q ≤ 2 ^ 53 + 1 := by linarith
    _ ≤ 2 ^ (54 : Int) := by norm_num
    _ < 2 ^ (1024 : Int) := zpow_lt_zpow_right₀ (by norm_num) (by norm_num)

/-- A quotient of whole numbers is moved by less than its distance to the next whole number. -/
theorem kept_quotient_near {n d : Nat} (positive : 0 < n) (short : n < 2 ^ 53) (divisor : 0 < d) (fine : d ≤ 2 ^ 128) :
    |kept (n / d) - n / d| < 1 / d := by
  have value : (0 : Rat) < n / d := by positivity
  have unit := twoTo_lastPlace_le value
  have short' : (n : Rat) < 2 ^ 53 := by exact_mod_cast short
  have fine' : (d : Rat) ≤ 2 ^ (1074 : Int) :=
    calc (d : Rat) ≤ 2 ^ (128 : Int) := by exact_mod_cast fine
      _ ≤ 2 ^ (1074 : Int) := zpow_le_zpow_right₀ (by norm_num) (by norm_num)
  refine (kept_near value).trans_lt ?_
  rw [div_lt_iff₀ (by norm_num)]
  refine unit.trans_lt (max_lt ?_ ?_)
  · have least : (2 : Rat) ^ (-1074 : Int) ≤ 1 / d := by
      rw [zpow_neg, ← one_div]
      exact one_div_le_one_div_of_le (by positivity) fine'
    have half : (0 : Rat) < 1 / d := by positivity
    linarith
  · have less : (n : Rat) / 2 ^ 53 < 1 := (div_lt_one (by positivity)).mpr short'
    calc (n : Rat) / d / 2 ^ 52 = n / 2 ^ 53 * (1 / (d : Rat) * 2) := by field_simp
      _ < 1 * (1 / (d : Rat) * 2) := mul_lt_mul_of_pos_right less (by positivity)
      _ = 1 / d * 2 := one_mul _

theorem add_one_div_le {c : Int} {n d : Nat} (divisor : 0 < d) (less : (c : Rat) < n / d) : (c : Rat) + 1 / d ≤ n / d := by
  have divisor' : (0 : Rat) < d := Nat.cast_pos.mpr divisor
  rw [lt_div_iff₀ divisor'] at less
  have whole : c * d + 1 ≤ (n : Int) := by exact_mod_cast less
  have whole' : (c : Rat) * d + 1 ≤ n := by exact_mod_cast whole
  rwa [le_div_iff₀ divisor', add_mul, one_div_mul_cancel divisor'.ne']

/-- A quotient of whole numbers may be rounded down, but never past a whole number. -/
theorem le_ceil_round_quotient {n d : Nat} (short : n < 2 ^ 53) (divisor : 0 < d) (fine : d ≤ 2 ^ 128) :
    ∃ v, (round (n / d)).value? = some v ∧ (n : Rat) / d ≤ v.ceil := by
  rcases n.eq_zero_or_pos with rfl | positive
  · exact ⟨0, by simp [round, value?], by simp [Rat.ceil]⟩
  have value : (0 : Rat) < n / d := by positivity
  have near := kept_quotient_near positive short divisor fine
  have whole : (1 : Rat) ≤ d := by exact_mod_cast divisor
  have least : 1 / (d : Rat) ≤ 1 := (div_le_one (by positivity)).mpr whole
  have small : (n : Rat) / d < 2 ^ 53 := (div_le_self (by positivity) whole).trans_lt (by exact_mod_cast short)
  refine ⟨_, value?_round_of_pos value (kept_lt least small near), ?_⟩
  by_contra less
  have gap := add_one_div_le divisor (not_le.mp less)
  have below := Rat.le_ceil (x := kept (n / d))
  have close := (abs_lt.mp near).1
  linarith

theorem exact_eq_ok {x : Double} {q : Rat} (value : x.value? = some q) : x.exact = .ok q := by
  cases x <;> cases value <;> rfl

theorem near_eq_ok {e : Overflow} {q v : Rat} (value : (round q).value? = some v) : near e q = .ok (round q) := by
  simp [near, value]

theorem value?_negated {x : Double} {q : Rat} (value : x.value? = some q) : x.negated.value? = some (-q) := by
  rcases x with q' | _ | _ | _ <;> cases value
  · rw [negated]
    split
    · rename_i zero
      simp [value?, zero]
    · rfl
  · rfl

theorem value?_plus {x y : Double} {p q : Rat} (atX : x.value? = some p) (atY : y.value? = some q) :
    (x.plus y).value? = (round (p + q)).value? := by
  rw [plus, atX, atY]
  dsimp only
  split
  · rename_i zeros
    simp only [Bool.and_eq_true, decide_eq_true_eq] at zeros
    rw [zeros.1] at atX
    rw [zeros.2] at atY
    cases atX
    cases atY
    simp [round, value?]
  · rfl

theorem value?_minus {x y : Double} {p q : Rat} (atX : x.value? = some p) (atY : y.value? = some q) :
    (x.minus y).value? = (round (p - q)).value? := by
  rw [minus, value?_plus atX (value?_negated atY), sub_eq_add_neg]

/-- Rounding at most doubles a value, apart from what is tiny. -/
theorem abs_kept_le (positive : 0 < q) : |kept q| ≤ 2 * q + 1 := by
  have near := abs_le.mp (kept_near positive)
  have unit : twoTo (lastPlace q) ≤ 1 + q := by
    refine (twoTo_lastPlace_le positive).trans (max_le ?_ ?_)
    · have tiny : (2 : Rat) ^ (-1074 : Int) ≤ 1 := zpow_le_one_of_nonpos₀ (by norm_num) (by norm_num)
      linarith
    · have part : q / 2 ^ 52 ≤ q := div_le_self positive.le (by norm_num)
      linarith
  rw [abs_le]
  constructor <;> linarith [near.1, near.2]

theorem exists_value?_round (small : |q| ≤ 2 ^ 1022) : ∃ v, (round q).value? = some v ∧ |v| ≤ 2 * |q| + 1 := by
  have bounded {p : Rat} (positive : 0 < p) (small : p ≤ 2 ^ 1022) : kept p < twoTo 1024 := by
    have most := (abs_le.mp (abs_kept_le positive)).2
    have scale : twoTo 1024 = 2 ^ 1022 * 4 := by
      rw [twoTo_eq]
      exact pow_add (2 : Rat) 1022 2 |>.trans (by norm_num)
    have least : (1 : Rat) ≤ 2 ^ 1022 := one_le_pow₀ (by norm_num)
    rw [scale]
    generalize (2 : Rat) ^ 1022 = bound at *
    linarith
  rcases lt_trichotomy q 0 with negative | rfl | positive
  · rw [abs_of_neg negative] at small ⊢
    have opposite : 0 < -q := neg_pos.mpr negative
    refine ⟨-kept (-q), ?_, ?_⟩
    · simpa using value?_round_neg opposite (bounded opposite small)
    · rw [abs_neg]
      exact abs_kept_le opposite
  · exact ⟨0, by simp [round, value?], by simp⟩
  · rw [abs_of_pos positive] at small ⊢
    exact ⟨kept q, value?_round_of_pos positive (bounded positive small), abs_kept_le positive⟩

end LessonService.Double

namespace LessonService.Number

variable {a b : Number} {m n : Int} {k : Nat}

theorem exists_toDouble (atA : a.value? = some ((n : Rat) / 2 ^ k)) (short : |n| < 2 ^ 53) (fine : k ≤ 1074) :
    ∃ x, a.toDouble = .ok x ∧ x.value? = some ((n : Rat) / 2 ^ k) := by
  cases a with
  | whole w =>
    have same : (w : Rat) = n / 2 ^ k := Option.some.inj atA
    have rounded := Double.value?_round_dyadic short fine
    rw [← same] at rounded ⊢
    exact ⟨_, Double.near_eq_ok rounded, rounded⟩
  | real x => exact ⟨x, rfl, atA⟩

theorem plus_real {x y : Double} {w : Int} (converted : Double.ofInt w = .ok y) :
    (real x).plus w = .ok (real (x.plus y)) := by
  rw [plus, converted]
  rfl

/-- Whole numbers are subtracted as they are, and others after they are converted. -/
theorem minus_cases {x y : Double} (toX : a.toDouble = .ok x) (toY : b.toDouble = .ok y) :
    (∃ v w, a = whole v ∧ b = whole w ∧ a.minus b = .ok (whole (v - w))) ∨ a.minus b = .ok (real (x.minus y)) := by
  rcases a with v | x' <;> rcases b with w | y'
  · exact .inl ⟨v, w, rfl, rfl, rfl⟩
  all_goals
    refine .inr ?_
    rw [minus, toX, toY]
    · rfl
    · simp

/-- A sum that has few digits is not rounded. -/
theorem exists_plus {w : Int} (atA : a.value? = some ((n : Rat) / 2 ^ k)) (shortAdded : |w| < 2 ^ 53)
    (short : |n + w * 2 ^ k| < 2 ^ 53) (fine : k ≤ 1074) :
    ∃ r, a.plus w = .ok r ∧ r.value? = some ((n : Rat) / 2 ^ k + w) := by
  cases a with
  | whole v =>
    have same : (v : Rat) = n / 2 ^ k := Option.some.inj atA
    exact ⟨whole (v + w), rfl, by simp [value?, same]⟩
  | real x =>
    have sum : (n : Rat) / 2 ^ k + w = ((n + w * 2 ^ k : Int) : Rat) / 2 ^ k := by
      push_cast
      field_simp
    obtain ⟨y, converted, atY⟩ := exists_toDouble (a := whole w) (n := w) (k := 0) (by simp [value?]) shortAdded (by decide)
    rw [pow_zero, div_one] at atY
    have rounded := Double.value?_round_dyadic short fine
    rw [← sum] at rounded
    exact ⟨real (x.plus y), plus_real converted, (Double.value?_plus atA atY).trans rounded⟩

/-- A difference that has few digits is not rounded. -/
theorem exists_minus (atA : a.value? = some ((m : Rat) / 2 ^ k)) (atB : b.value? = some ((n : Rat) / 2 ^ k))
    (shortA : |m| < 2 ^ 53) (shortB : |n| < 2 ^ 53) (short : |m - n| < 2 ^ 53) (fine : k ≤ 1074) :
    ∃ r, a.minus b = .ok r ∧ r.value? = some (((m - n : Int) : Rat) / 2 ^ k) := by
  have difference : (m : Rat) / 2 ^ k - n / 2 ^ k = ((m - n : Int) : Rat) / 2 ^ k := by
    push_cast
    rw [sub_div]
  obtain ⟨x, toX, atX⟩ := exists_toDouble atA shortA fine
  obtain ⟨y, toY, atY⟩ := exists_toDouble atB shortB fine
  obtain ⟨v, w, rfl, rfl, exact⟩ | rounded := minus_cases toX toY
  · have same : (v : Rat) - w = m / 2 ^ k - n / 2 ^ k := by rw [Option.some.inj atA, Option.some.inj atB]
    exact ⟨_, exact, by rw [← difference, ← same]; simp [value?]⟩
  · refine ⟨_, rounded, ?_⟩
    have value := Double.value?_round_dyadic short fine
    rw [← difference] at value ⊢
    exact (Double.value?_minus atX atY).trans value

/-- A delay in seconds that is rounded up, whatever its quotient is rounded to. -/
theorem exists_ceil_thousandth {n : Nat} (atA : a.value? = some ((n : Rat) / 2 ^ k)) (short : n < 2 ^ 53) (fine : k ≤ 100) :
    ∃ x c, a.thousandth = .ok x ∧ x.ceil = .ok c ∧ (n : Rat) / 2 ^ k / 1000 ≤ c := by
  have divisor : 2 ^ k * 1000 ≤ 2 ^ 128 :=
    calc 2 ^ k * 1000 ≤ 2 ^ 100 * 1000 := Nat.mul_le_mul_right 1000 (Nat.pow_le_pow_right (by decide) fine)
      _ ≤ 2 ^ 128 := by decide
  obtain ⟨v, rounded, above⟩ := Double.le_ceil_round_quotient short (Nat.mul_pos (Nat.two_pow_pos k) (by decide)) divisor
  have same : (n : Rat) / (2 ^ k * 1000 : Nat) = n / 2 ^ k / 1000 := by
    rw [div_div]
    norm_cast
  rw [same] at rounded above
  have ceiling {x : Double} (value : x.value? = some v) : x.ceil = .ok v.ceil := by
    rw [Double.ceil, Double.exact_eq_ok value]
    rfl
  rcases a with w | (q | _ | _ | _)
  · have whole : (w : Rat) = n / 2 ^ k := Option.some.inj atA
    rw [← whole] at rounded above ⊢
    exact ⟨_, _, Double.near_eq_ok rounded, ceiling rounded, above⟩
  · have value : q = n / 2 ^ k := Option.some.inj atA
    rw [← value] at rounded above ⊢
    exact ⟨_, _, rfl, ceiling rounded, above⟩
  · have zero : 0 = (n : Rat) / 2 ^ k := Option.some.inj atA
    exact ⟨_, _, rfl, rfl, by rw [← zero]; norm_num [Rat.ceil]⟩
  · cases atA
  · cases atA

theorem abs_add_le_two_pow {l : Nat} {p q : Rat} (small : |p| ≤ 2 ^ l) (other : |q| ≤ 2 ^ l) : |p + q| ≤ 2 ^ (l + 1) :=
  calc |p + q| ≤ |p| + |q| := abs_add_le p q
    _ ≤ 2 ^ l + 2 ^ l := add_le_add small other
    _ = 2 ^ (l + 1) := by ring

theorem abs_sub_le_two_pow {l : Nat} {p q : Rat} (small : |p| ≤ 2 ^ l) (other : |q| ≤ 2 ^ l) : |p - q| ≤ 2 ^ (l + 1) := by
  rw [sub_eq_add_neg]
  exact abs_add_le_two_pow small (by rwa [abs_neg])

/-- A number with a value that is no larger than a power of two. -/
def IsWithin (m : Nat) (a : Number) : Prop := ∃ q, a.value? = some q ∧ |q| ≤ 2 ^ m

namespace IsWithin

variable {l : Nat}

theorem mono (within : a.IsWithin l) (le : l ≤ k) : a.IsWithin k := by
  obtain ⟨q, atA, small⟩ := within
  exact ⟨q, atA, small.trans (pow_le_pow_right₀ (by norm_num) le)⟩

theorem round {q : Rat} (small : |q| ≤ 2 ^ l) (least : l ≤ 1022) : (real (.round q)).IsWithin (l + 2) := by
  obtain ⟨v, rounded, near⟩ := Double.exists_value?_round (small.trans (pow_le_pow_right₀ (by norm_num) least))
  have whole : (1 : Rat) ≤ 2 ^ l := one_le_pow₀ (by norm_num)
  exact ⟨v, rounded, by rw [pow_add]; linarith⟩

theorem exists_toDouble (within : a.IsWithin l) (least : l ≤ 1022) :
    ∃ x, a.toDouble = .ok x ∧ (real x).IsWithin (l + 2) := by
  cases a with
  | whole w =>
    obtain ⟨q, rfl, small⟩ : ∃ q, (w : Rat) = q ∧ |q| ≤ 2 ^ l := by simpa [IsWithin, value?] using within
    obtain ⟨v, rounded, near⟩ := round small least
    exact ⟨_, Double.near_eq_ok rounded, v, rounded, near⟩
  | real x => exact ⟨x, rfl, within.mono (by omega)⟩

theorem exists_plus {w : Int} (within : a.IsWithin l) (added : |w| ≤ 2 ^ l) (least : l ≤ 1000) :
    ∃ r, a.plus w = .ok r ∧ r.IsWithin (l + 5) := by
  have wholeWithin : (whole w).IsWithin l := ⟨w, rfl, by exact_mod_cast added⟩
  cases a with
  | whole v =>
    obtain ⟨_, ⟨⟩, small⟩ := within
    obtain ⟨_, ⟨⟩, other⟩ := wholeWithin
    have sum : (whole (v + w)).IsWithin (l + 1) := ⟨(v : Rat) + w, by simp [value?], abs_add_le_two_pow small other⟩
    exact ⟨_, rfl, sum.mono (by omega)⟩
  | real x =>
    obtain ⟨p, atX, small⟩ := within.mono (show l ≤ l + 2 by omega)
    obtain ⟨y, converted, q, atY, other⟩ := wholeWithin.exists_toDouble (by omega)
    obtain ⟨v, rounded, bounded⟩ := round (abs_add_le_two_pow small other) (by omega)
    exact ⟨_, plus_real converted, v, (Double.value?_plus atX atY).trans rounded, bounded⟩

theorem exists_minus (within : a.IsWithin l) (other : b.IsWithin l) (least : l ≤ 1010) :
    ∃ r, a.minus b = .ok r ∧ r.IsWithin (l + 5) := by
  obtain ⟨x, toX, p, atX, smallX⟩ := within.exists_toDouble (by omega)
  obtain ⟨y, toY, q, atY, smallY⟩ := other.exists_toDouble (by omega)
  obtain ⟨v, w, rfl, rfl, exact⟩ | rounded := minus_cases toX toY
  · obtain ⟨_, ⟨⟩, smallV⟩ := within
    obtain ⟨_, ⟨⟩, smallW⟩ := other
    have difference : (whole (v - w)).IsWithin (l + 1) :=
      ⟨(v : Rat) - w, by simp [value?], abs_sub_le_two_pow smallV smallW⟩
    exact ⟨_, exact, difference.mono (by omega)⟩
  · obtain ⟨v, value, bounded⟩ := round (abs_sub_le_two_pow smallX smallY) (by omega)
    exact ⟨_, rounded, v, (Double.value?_minus atX atY).trans value, bounded⟩

theorem exists_ceil_thousandth (within : a.IsWithin l) (least : l ≤ 1022) :
    ∃ x c, a.thousandth = .ok x ∧ x.ceil = .ok c := by
  obtain ⟨q, atA, small⟩ := within
  have part : |q / 1000| ≤ 2 ^ l := by
    rw [abs_div]
    exact (div_le_self (abs_nonneg q) (by norm_num)).trans small
  obtain ⟨v, rounded, -⟩ := round part least
  have ceiling : (Double.round (q / 1000)).ceil = .ok v.ceil := by
    rw [Double.ceil, Double.exact_eq_ok rounded]
    rfl
  rcases a with w | (p | _ | _ | _) <;> cases atA
  · exact ⟨_, _, Double.near_eq_ok rounded, ceiling⟩
  · exact ⟨_, _, rfl, ceiling⟩
  · exact ⟨_, _, rfl, rfl⟩

end IsWithin

end LessonService.Number
