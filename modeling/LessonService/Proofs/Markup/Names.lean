import LessonService.Proofs.Text.Occurrence
import LessonService.Text.CharacterReference
import Mathlib.Order.Basic

namespace LessonService.CharacterReference

variable {name more value : Text} {k : Nat}

/-- What every name of the table is. -/
def IsPlainName (name : Text) : Prop := 2 ≤ name.length ∧ ('\r' : CodePoint) ∉ name

instance (name : Text) : Decidable (IsPlainName name) := inferInstanceAs (Decidable (_ ∧ _))

set_option maxRecDepth 20000 in
theorem named_isPlainName : EntityTable.named.all (fun line =>
    (Text.splitOn ' ' (Text.ofString line)).all fun entry => decide (IsPlainName (readEntry entry).1)) = true := by
  unfold EntityTable.named
  simp only [List.all_cons, List.all_nil, Text.ofString_eq rfl]
  decide +kernel

/-- A table that is filled entry by entry has no other names than those of the entries. -/
theorem isPlainName_of_insert {entries : List Text} {all : Std.HashMap Text Text}
    (before : ∀ name value, all[name]? = some value → IsPlainName name)
    (entered : ∀ entry ∈ entries, IsPlainName (readEntry entry).1)
    (found : (entries.foldl (fun all entry => all.insert (readEntry entry).1 (readEntry entry).2) all)[name]? = some value) :
    IsPlainName name := by
  induction entries generalizing all with
  | nil => exact before _ _ found
  | cons entry entries ih =>
    rw [List.forall_mem_cons] at entered
    refine ih (fun name value here => ?_) entered.2 found
    rw [Std.HashMap.getElem?_insert] at here
    split at here
    · rename_i same
      rw [← eq_of_beq same]
      exact entered.1
    · exact before name value here

theorem isPlainName_of_named (found : names[name]? = some value) : IsPlainName name := by
  have entered := named_isPlainName
  simp only [List.all_eq_true, decide_eq_true_eq] at entered
  suffices goes : ∀ (lines : List String) (all : Std.HashMap Text Text),
      (∀ line ∈ lines, ∀ entry ∈ Text.splitOn ' ' (Text.ofString line), IsPlainName (readEntry entry).1) →
      (∀ name value, all[name]? = some value → IsPlainName name) → ∀ name value,
      (lines.foldl (fun all (line : String) => (Text.splitOn ' ' (Text.ofString line)).foldl (fun all entry =>
        all.insert (readEntry entry).1 (readEntry entry).2) all) all)[name]? = some value → IsPlainName name from
    goes _ {} entered (by simp) name value found
  intro lines
  induction lines with
  | nil => exact fun all _ before => before
  | cons line lines ih =>
    intro all entered before
    rw [List.forall_mem_cons] at entered
    exact ih _ entered.2 fun name value => isPlainName_of_insert before entered.1

/-- The start of a name that is looked for does not depend on what stands after it. -/
theorem longestName?_append {table : Text → Option Text} (le : k ≤ name.length) (more : Text) :
    longestName? table (name ++ more) k = (longestName? table name k).map fun (value, rest) => (value, rest ++ more) := by
  induction k with
  | zero => rfl
  | succ k ih =>
    cases k with
    | zero => rfl
    | succ k =>
      rw [longestName?, longestName?, List.take_append_of_le_length le, ih (Nat.le_of_succ_le le)]
      cases table (name.take (k + 2)) with
      | some value => rw [List.drop_append_of_le_length le]; rfl
      | none => rfl

section Table

variable {table : Text → Option Text} (plain : ∀ name value, table name = some value → IsPlainName name)
include plain

theorem eq_none_of_return (returns : ('\r' : CodePoint) ∈ name) : table name = none :=
  Option.eq_none_iff_forall_ne_some.mpr fun value found => (plain name value found).2 returns

/-- No start of a name goes over a carriage return. -/
theorem longestName?_return (le : name.length ≤ k) : longestName? table (name ++ ('\r' : CodePoint) :: more) k
    = longestName? table (name ++ ('\r' : CodePoint) :: more) name.length := by
  induction k, le using Nat.le_induction with
  | base => rfl
  | succ k le ih =>
    cases k with
    | zero =>
      rw [Nat.le_zero.mp le]
      rfl
    | succ k =>
      obtain ⟨rest, split⟩ : ∃ rest, k + 2 - name.length = rest + 1 := ⟨k + 1 - name.length, by omega⟩
      have returns : ('\r' : CodePoint) ∈ (name ++ ('\r' : CodePoint) :: more).take (k + 2) := by
        rw [List.take_append, split]
        simp
      rw [longestName?, eq_none_of_return plain returns, ih]

/-- A reference that goes on over a carriage return stands for what it stands for up to there. -/
theorem ofNameIn_return (filled : name ≠ []) (more : Text) :
    ofNameIn table (name ++ ('\r' : CodePoint) :: more) = ofNameIn table name ++ ('\r' : CodePoint) :: more := by
  have long : name.length ≤ (name ++ ('\r' : CodePoint) :: more).length - 1 := by simp
  rw [ofNameIn, eq_none_of_return plain (by simp), longestName?_return plain long, longestName?_append (Nat.le_refl _), ofNameIn]
  rcases hlength : name.length with _ | _ | length
  · exact absurd (List.eq_nil_of_length_eq_zero hlength) filled
  · have short : table name = none := Option.eq_none_iff_forall_ne_some.mpr fun value found => by
      have long := (plain name value found).1
      omega
    rw [short]
    rfl
  · have whole : name.take (length + 2) = name := List.take_of_length_le (Nat.le_of_eq hlength)
    rw [longestName?, whole]
    cases table name with
    | some value =>
      have none : name.drop (length + 2) = [] := List.drop_of_length_le (Nat.le_of_eq hlength)
      simp [none]
    | none =>
      rw [Nat.add_sub_cancel]
      cases longestName? table name (length + 1) <;> simp

theorem ofNameIn_of_return (more : Text) :
    ofNameIn table (('\r' : CodePoint) :: more) = ('&' : CodePoint) :: ('\r' : CodePoint) :: more := by
  have none := @longestName?_return [] more _ table plain (Nat.zero_le more.length)
  rw [List.nil_append] at none
  rw [ofNameIn, eq_none_of_return plain List.mem_cons_self, List.length_cons, Nat.add_sub_cancel, none, List.length_nil,
    longestName?]

end Table

theorem ofName_of_return (more : Text) : ofName (('\r' : CodePoint) :: more) = ('&' : CodePoint) :: ('\r' : CodePoint) :: more :=
  ofNameIn_of_return (fun _ _ found => isPlainName_of_named found) more

theorem ofName_return (filled : name ≠ []) (more : Text) :
    ofName (name ++ ('\r' : CodePoint) :: more) = ofName name ++ ('\r' : CodePoint) :: more :=
  ofNameIn_return (fun _ _ found => isPlainName_of_named found) filled more

end LessonService.CharacterReference
