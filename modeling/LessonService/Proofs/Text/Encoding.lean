import LessonService.Proofs.Text.Runs

namespace LessonService

namespace CodePoint

theorem isUnpaired_ofChar (c : Char) : (c : CodePoint).isUnpaired = false := by
  have range := c.valid
  simp only [isUnpaired, Bool.and_eq_false_iff, decide_eq_false_iff_not, Char.toNat]
  rcases range with low | ⟨high, -⟩ <;> omega

theorem value_ofChar_lt (c : Char) : (c : CodePoint).value < 0x110000 := by
  rcases c.valid with low | ⟨-, high⟩
  · exact Nat.lt_trans low (by decide)
  · exact high

end CodePoint

/-- Nothing but characters. -/
def Text.IsEncodable (t : Text) : Prop := ∀ c ∈ t, c.isUnpaired = false

instance (t : Text) : Decidable t.IsEncodable := inferInstanceAs (Decidable (∀ c ∈ t, _))

namespace Text

variable {s t : Text}

@[simp] theorem isEncodable_nil : IsEncodable [] := fun _ member => absurd member List.not_mem_nil

@[simp] theorem isEncodable_cons {c : CodePoint} : IsEncodable (c :: t) ↔ c.isUnpaired = false ∧ IsEncodable t :=
  List.forall_mem_cons

@[simp] theorem isEncodable_append : IsEncodable (s ++ t) ↔ IsEncodable s ∧ IsEncodable t := List.forall_mem_append

@[simp] theorem ofString_isEncodable (s : String) : IsEncodable (ofString s) := by
  intro p member
  obtain ⟨c, -, rfl⟩ := List.mem_map.mp member
  exact CodePoint.isUnpaired_ofChar c

theorem isEncodable_ite {p : Prop} [Decidable p] (yes : IsEncodable s) (no : IsEncodable t) :
    IsEncodable (if p then s else t) := by
  split
  · exact yes
  · exact no

theorem IsEncodable.join {separator : Text} {parts : List Text} (between : separator.IsEncodable)
    (encodable : ∀ t ∈ parts, t.IsEncodable) : (Text.join separator parts).IsEncodable := by
  intro c member
  rcases mem_join member with inSeparator | ⟨part, among, inside⟩
  · exact between c inSeparator
  · exact encodable part among c inside

end Text

end LessonService
