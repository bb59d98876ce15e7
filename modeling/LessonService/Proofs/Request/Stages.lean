import LessonService.Proofs.Text.Trim
import LessonService.Request.Admission

namespace LessonService.Request

deriving instance DecidableEq for Rejection

variable {t : Text}

/-- What all stages together ask of a text without blanks at its ends. -/
structure IsAdmissible (t : Text) : Prop where
  long : minLength ≤ t.length
  short : t.length ≤ maxLength
  visible : t.any isInvisible = false
  sparing : t.countP isEmoji ≤ maxEmojis
  noSpam : isSpam t = false
  noStatement : anyOccurs sqlPatterns t = false
  noInjection : anyOccurs injectionPatterns t = false
  inoffensive : anyOccurs offensivePatterns t = false
  educational : hasKeyword t = true ∨ isSubstantive t = true
  legible : t.any isOtherScript = true ∨ hasGibberish t = false

theorem stage_eq_none_iff {objects : Prop} [Decidable objects] {r : Rejection} {later : Option Rejection} :
    (if objects then some r else later) = none ↔ ¬objects ∧ later = none := by
  by_cases objecting : objects
  · rw [if_pos objecting]
    exact ⟨nofun, fun passed => absurd objecting passed.1⟩
  · rw [if_neg objecting]
    exact ⟨fun passed => ⟨objecting, passed⟩, And.right⟩

/-- The stages pass a text exactly if it is what they ask. -/
theorem rejectionOf?_eq_none_iff : rejectionOf? t = none ↔ IsAdmissible t := by
  unfold rejectionOf?
  simp only [stage_eq_none_iff, Nat.not_lt, Bool.not_eq_true, Bool.and_eq_false_iff, Bool.not_eq_eq_eq_not, Bool.not_false,
    and_true]
  constructor
  · rintro ⟨long, short, visible, sparing, noSpam, noStatement, noInjection, inoffensive, educational, legible⟩
    exact ⟨long, short, visible, sparing, noSpam, noStatement, noInjection, inoffensive, educational, legible⟩
  · rintro ⟨long, short, visible, sparing, noSpam, noStatement, noInjection, inoffensive, educational, legible⟩
    exact ⟨long, short, visible, sparing, noSpam, noStatement, noInjection, inoffensive, educational, legible⟩

theorem rejection?_eq_none_iff : rejection? t = none ↔ IsAdmissible (Text.trim t) := by
  rw [← rejectionOf?_eq_none_iff]
  cases t with
  | nil => decide +kernel
  | cons c t => rfl

theorem stage_eq_some_iff {objects : Prop} [Decidable objects] {r s : Rejection} {later : Option Rejection} :
    (if objects then some r else later) = some s ↔ objects ∧ r = s ∨ ¬objects ∧ later = some s := by
  by_cases objecting : objects <;> simp [objecting]

/-- What the stage for statements says, it says because one of its patterns occurs. -/
theorem anyOccurs_of_stage {r : Rejection} (rejected : rejection? t = some r) (named : r.stage = .sqlInjection) :
    anyOccurs sqlPatterns (Text.trim t) = true := by
  simp only [rejection?, rejectionOf?, stage_eq_some_iff] at rejected
  rcases rejected with ⟨-, rfl⟩ | ⟨-, rejected⟩
  · cases named
  -- The stages before the one for statements, from the length to spam.
  rcases rejected with ⟨-, rfl⟩ | ⟨-, ⟨-, rfl⟩ | ⟨-, ⟨-, rfl⟩ | ⟨-, ⟨-, rfl⟩ | ⟨-, ⟨-, rfl⟩ | ⟨-, rejected⟩⟩⟩⟩⟩
  iterate 5 cases named
  rcases rejected with ⟨occurs, -⟩ | ⟨-, ⟨-, rfl⟩ | ⟨-, ⟨-, rfl⟩ | ⟨-, ⟨-, rfl⟩ | ⟨-, ⟨-, rfl⟩ | ⟨-, none⟩⟩⟩⟩⟩
  · exact occurs
  iterate 4 cases named
  cases none

end LessonService.Request
