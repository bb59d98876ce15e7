import LessonService.Script.Hazards
import LessonService.Proofs.Text.Matching

namespace LessonService.Script.Hazard

open Pattern

variable {h : Hazard} {previous : Option CodePoint} {found after : Text}

def word : Hazard → Text
  | evaluation => "eval"
  | functionConstructor => "Function"
  | innerMarkup => "innerHTML"
  | rawMarkup => "dangerouslySetInnerHTML"
  | prototype => "__proto__"
  | documentWrite => "document.write"

/-- What comes after the word and blanks, for hazards that need it. -/
def mark : Hazard → Text
  | evaluation | functionConstructor => "("
  | innerMarkup => "="
  | rawMarkup | prototype | documentWrite => []

/-- Hazards whose word must not go on a longer one. -/
def standsAlone : Hazard → Bool
  | evaluation | functionConstructor => true
  | _ => false

/-- A hazard as it stands in a text after a character, if there is one. -/
structure Spelled (h : Hazard) (previous : Option CodePoint) (found : Text) : Prop where
  start : h.standsAlone = true → previous.elim false CodePoint.isWord = false
  text : ∃ gap, (∀ c ∈ gap, c.isBlank = true) ∧ (h.mark = [] → gap = []) ∧ found = h.word ++ gap ++ h.mark

theorem matches_marked {marks : String} {mark : Char} (only : marks.toList = [mark]) (word : Text) :
    (seq [exactly word, blanks, oneIn marks]).Matches previous found after ↔
      ∃ gap, (∀ c ∈ gap, c.isBlank = true) ∧ found = word ++ gap ++ [(mark : CodePoint)] := by
  simp only [matches_seq_cons, matches_exactly]
  constructor
  · rintro ⟨_, _, rfl, rfl, gap, _, rfl, ⟨-, all⟩, c, rfl, marked⟩
    obtain ⟨_, isMark, rfl⟩ := (charIn_iff only c).mp marked
    cases List.mem_singleton.mp isMark
    exact ⟨gap, all, by simp⟩
  · rintro ⟨gap, all, rfl⟩
    exact ⟨word, gap ++ [_], by simp, rfl, gap, [_], rfl, ⟨Nat.zero_le _, all⟩, _, rfl, (charIn_iff only _).mpr ⟨mark, List.mem_singleton_self mark, rfl⟩⟩

theorem matches_call (first : CodePoint) (rest : Text) (starts : first.isWord = true) :
    (seq [edge, exactly (first :: rest), blanks, oneIn "("]).Matches previous found after ↔
      previous.elim false CodePoint.isWord = false ∧
        ∃ gap, (∀ c ∈ gap, c.isBlank = true) ∧ found = first :: rest ++ gap ++ [(('(' : Char) : CodePoint)] := by
  rw [matches_seq_edge, matches_marked rfl]
  constructor
  · rintro ⟨differ, gap, all, rfl⟩
    exact ⟨by simpa [starts] using differ, gap, all, rfl⟩
  · rintro ⟨start, gap, all, rfl⟩
    exact ⟨by simp [start, starts], gap, all, rfl⟩

/-- A pattern matches exactly what spells its hazard, whatever follows. -/
theorem matches_iff_spelled : h.pattern.Matches previous found after ↔ h.Spelled previous found := by
  have calls (h : Hazard) (alone : h.standsAlone = true) (marked : h.mark ≠ []) :
      (previous.elim false CodePoint.isWord = false ∧
        ∃ gap, (∀ c ∈ gap, c.isBlank = true) ∧ found = h.word ++ gap ++ h.mark) ↔ h.Spelled previous found := by
    constructor
    · rintro ⟨start, gap, all, text⟩
      exact ⟨fun _ => start, gap, all, fun unmarked => absurd unmarked marked, text⟩
    · rintro ⟨start, gap, all, -, text⟩
      exact ⟨start alone, gap, all, text⟩
  cases h with
  | evaluation => exact (matches_call 'e' "val" (by decide)).trans (calls evaluation rfl (by decide))
  | functionConstructor => exact (matches_call 'F' "unction" (by decide)).trans (calls functionConstructor rfl (by decide))
  | innerMarkup =>
    refine (matches_marked rfl _).trans ⟨?_, ?_⟩
    · rintro ⟨gap, all, text⟩
      exact ⟨nofun, gap, all, nofun, text⟩
    · rintro ⟨-, gap, all, -, text⟩
      exact ⟨gap, all, text⟩
  | rawMarkup | prototype | documentWrite =>
    refine (matches_exactly _).trans ⟨?_, ?_⟩
    · rintro text
      exact ⟨nofun, [], nofun, fun _ => rfl, by rw [text]; rfl⟩
    · rintro ⟨-, gap, -, unmarked, text⟩
      rw [text, unmarked rfl]
      rfl

theorem occursIn_iff_spelled (h : Hazard) (t : Text) :
    h.pattern.occursIn t = true ↔ ∃ before found after, t = before ++ found ++ after ∧ h.Spelled before.getLast? found := by
  simp only [occursIn_iff, matches_iff_spelled]

theorem Spelled.ne_nil (spelled : h.Spelled previous found) : found ≠ [] := by
  obtain ⟨-, gap, -, -, rfl⟩ := spelled
  cases h <;> exact nofun

/-- No hazard holds what breaks up tags and comments, nor what is put in to break them up. -/
theorem Spelled.plain (spelled : h.Spelled previous found) : ∀ c ∈ found, c ∉ ("/!\\" : Text) := by
  obtain ⟨-, gap, all, -, rfl⟩ := spelled
  intro c member
  rw [List.mem_append, List.mem_append] at member
  rcases member with (inWord | inGap) | inMark
  · revert c
    cases h <;> decide
  · have visible : ∀ d ∈ ("/!\\" : Text), d.isBlank = false := by decide
    intro special
    cases (all c inGap).symm.trans (visible c special)
  · revert c
    cases h <;> decide

end LessonService.Script.Hazard
