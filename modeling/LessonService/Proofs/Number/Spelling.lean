import LessonService.Number
import LessonService.Proofs.Text.Encoding
import Mathlib.Data.List.DropRight

namespace LessonService

namespace Decimal

theorem isWritable_of_le {m n : Int} (natural : 0 ≤ m) (le : m ≤ n) (writable : isWritable n = true) :
    isWritable m = true := by
  unfold isWritable at writable ⊢
  rw [decide_eq_true_eq] at writable ⊢
  have size : m.natAbs ≤ n.natAbs := by omega
  exact Nat.lt_of_le_of_lt size writable

/-- A number that a machine can count to can be written. -/
theorem isWritable_of_machine {n : Int} (natural : 0 ≤ n) (small : n ≤ 9223372036854775808) : isWritable n = true :=
  isWritable_of_le natural small (by decide +kernel)

theorem lt_of_mem_digitsOf {n d : Nat} (member : d ∈ digitsOf n) : d < 10 := by
  obtain ⟨c, among, rfl⟩ := List.mem_map.mp member
  rw [Nat.repr, String.toList_ofList] at among
  have isDigit := Nat.isDigit_of_mem_toDigits (by decide) (by decide) among
  simp only [Char.isDigit, Bool.and_eq_true, decide_eq_true_eq] at isDigit
  have most : c.toNat ≤ 57 := isDigit.2
  omega

theorem digitText_isEncodable {ds : List Nat} (small : ∀ d ∈ ds, d < 10) : (digitText ds).IsEncodable := by
  intro c member
  obtain ⟨d, among, rfl⟩ := List.mem_map.mp member
  have := small d among
  simp only [CodePoint.isUnpaired, Bool.and_eq_false_iff, decide_eq_false_iff_not]
  omega

theorem place_isEncodable {digits : List Nat} (small : ∀ d ∈ digits, d < 10) (point : Int) :
    (place digits point).IsEncodable := by
  have taken (n : Nat) : (digitText (digits.take n)).IsEncodable :=
    digitText_isEncodable fun d member => small d (List.mem_of_mem_take member)
  have dropped (n : Nat) : (digitText (digits.drop n)).IsEncodable :=
    digitText_isEncodable fun d member => small d (List.mem_of_mem_drop member)
  have zeros (n : Nat) : ∀ d ∈ List.replicate n 0, d < 10 := fun d member => by
    rw [List.eq_of_mem_replicate member]
    decide
  unfold place
  split
  · refine Text.isEncodable_ite ?_ (Text.isEncodable_ite ?_ ?_)
    · simp [digitText_isEncodable (List.forall_mem_append.mpr ⟨zeros point.natAbs, small⟩)]
    · simp [digitText_isEncodable (List.forall_mem_append.mpr ⟨small, zeros (point.toNat - digits.length)⟩)]
    · simp [taken, dropped]
  · have exponent : (digitText (digitsOf (point - 1).natAbs)).IsEncodable := digitText_isEncodable fun _ => lt_of_mem_digitsOf
    have padded : Text.IsEncodable (('0' : CodePoint) :: digitText (digitsOf (point - 1).natAbs)) :=
      Text.isEncodable_cons.mpr ⟨by decide, exponent⟩
    simp only [Text.isEncodable_append]
    refine ⟨⟨⟨taken 1, ?_⟩, ?_⟩, Text.isEncodable_ite padded exponent⟩
    · exact Text.isEncodable_ite Text.isEncodable_nil
        (Text.isEncodable_append.mpr ⟨Text.ofString_isEncodable _, dropped 1⟩)
    · exact Text.isEncodable_ite (Text.ofString_isEncodable _) (Text.ofString_isEncodable _)

theorem lt_of_mem_layOut {n d : Nat} (power : Int) (member : d ∈ (layOut n power).1) : d < 10 :=
  lt_of_mem_digitsOf ((List.rdropWhile_prefix _ (digitsOf n)).subset member)

theorem ofDouble_isEncodable (x : Double) : (ofDouble x).IsEncodable := by
  cases x with
  | finite q =>
    rw [ofDouble]
    generalize shortest _ = digits
    refine Text.isEncodable_ite (Text.ofString_isEncodable _) (Text.isEncodable_append.mpr ⟨?_, ?_⟩)
    · exact Text.isEncodable_ite (Text.ofString_isEncodable _) Text.isEncodable_nil
    · exact place_isEncodable (fun d member => lt_of_mem_layOut digits.2 member) _
  | negativeZero | undefined => exact Text.ofString_isEncodable _
  | infinite negative => exact Text.isEncodable_ite (Text.ofString_isEncodable _) (Text.ofString_isEncodable _)

end Decimal

theorem Number.toText_isEncodable (n : Number) : n.toText.IsEncodable := by
  cases n with
  | whole n => exact Text.ofString_isEncodable _
  | real x => exact Decimal.ofDouble_isEncodable x

end LessonService
