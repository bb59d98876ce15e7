import LessonService.Proofs.Request.Stages
import LessonService.Proofs.Request.Words

namespace LessonService.Request

open Pattern

variable {c : CodePoint} {t : Text}

theorem isOtherScript_iff :
    isOtherScript c = true ↔ 0x900 ≤ c.value ∧ c.value ≤ 0xD7F ∨ 0x600 ≤ c.value ∧ c.value ≤ 0x6FF := by
  simp only [isOtherScript, isIndic, Writing.has, CodePoint.isBetween, Bool.or_eq_true, Bool.and_eq_true,
    decide_eq_true_eq]

theorem value_of_isOtherScript (script : isOtherScript c = true) : 0x600 ≤ c.value ∧ c.value ≤ 0xD7F := by
  rw [isOtherScript_iff] at script
  omega

theorem isBlank_of_isOtherScript (script : isOtherScript c = true) : c.isBlank = false := by
  have range := value_of_isOtherScript script
  rw [Bool.eq_false_iff, ne_eq, CodePoint.isBlank]
  simp only [Bool.or_eq_true, Bool.and_eq_true, decide_eq_true_eq]
  omega

theorem isInvisible_of_isOtherScript (script : isOtherScript c = true) : isInvisible c = false := by
  have range := value_of_isOtherScript script
  rw [Bool.eq_false_iff, ne_eq, isInvisible]
  simp only [CodePoint.isBetween, CodePoint.isUnpaired, Bool.or_eq_true, Bool.and_eq_true, decide_eq_true_eq]
  omega

theorem isEmoji_of_isOtherScript (script : isOtherScript c = true) : isEmoji c = false := by
  have range := value_of_isOtherScript script
  rw [Bool.eq_false_iff, ne_eq, isEmoji]
  simp only [CodePoint.isBetween, Bool.or_eq_true, Bool.and_eq_true, decide_eq_true_eq]
  omega

/-- These scripts have no case. -/
theorem lower_of_isOtherScript (script : isOtherScript c = true) : c.lower = c := by
  have range := value_of_isOtherScript script
  have apart : ∀ run ∈ LetterTable.lowercaseRuns.toList, run.2.1 < 0x600 ∨ 0xD7F < run.1 := by decide +kernel
  refine CodePoint.lower_eq_self (by omega) fun run member => ?_
  have outside := apart run member
  omega

/-- Of them, the Indic ones are not special. -/
theorem isSpecial_of_isOtherScript (script : isOtherScript c = true) : isSpecial c = !isIndic c := by
  have range := value_of_isOtherScript script
  have letter : c.isLetter = false := by
    rw [Bool.eq_false_iff, ne_eq, CodePoint.isLetter]
    simp only [CodePoint.isLowerLetter, CodePoint.isUpperLetter, CodePoint.isBetween, Bool.or_eq_true,
      Bool.and_eq_true, decide_eq_true_eq]
    omega
  have digit : c.isDigit = false := by
    rw [Bool.eq_false_iff, ne_eq, CodePoint.isDigit, CodePoint.isBetween]
    simp only [Bool.and_eq_true, decide_eq_true_eq]
    omega
  rw [isSpecial, letter, digit, isBlank_of_isOtherScript script]
  rfl

/-- No partner of a letter of ASCII is of another script. -/
theorem isOtherScript_of_isCaseOf {letter : CodePoint} (isLower : letter.isLowerLetter = true)
    (partner : letter.isCaseOf c = true) : isOtherScript c = false := by
  rw [Bool.eq_false_iff, ne_eq]
  intro script
  have range := value_of_isOtherScript script
  rcases CodePoint.cases_of_isCaseOf isLower partner with ascii | outside
  · simp only [CodePoint.isLetter, CodePoint.isLowerLetter, CodePoint.isUpperLetter, CodePoint.isBetween,
      Bool.or_eq_true, Bool.and_eq_true, decide_eq_true_eq] at ascii
    omega
  · simp only [List.mem_cons, List.not_mem_nil, or_false] at outside
    omega

theorem needs_letters (words : String) (lower : AreLowercase words) :
    (anyOf words).Needs fun c => isOtherScript c = false :=
  needs_anyOf lower fun _ _ isLower partner => isOtherScript_of_isCaseOf isLower partner

theorem needs_word {words : String} (lower : AreLowercase words) :
    (wholeWord words).Needs fun c => isOtherScript c = false :=
  needs_wholeWord lower fun _ _ isLower partner => isOtherScript_of_isCaseOf isLower partner

theorem needs_mark (mark : Char) {marks : String} (only : marks.toList = [mark])
    (latin : isOtherScript (mark : CodePoint) = false) : (oneIn marks).Needs fun c => isOtherScript c = false := by
  refine needs_one fun c among => ?_
  obtain ⟨d, member, rfl⟩ := (charIn_iff only c).mp among
  rw [List.mem_singleton.mp member]
  exact latin

theorem spamPatterns_need : ∀ p ∈ spamPatterns, p.Needs fun c => isOtherScript c = false := by
  simp only [spamPatterns, List.forall_mem_cons]
  exact ⟨(needs_letters "tes" (by decide)).seq List.mem_cons_self,
    (needs_letters "asd" (by decide)).seq List.mem_cons_self, needs_letters _ (by decide), nofun⟩

theorem sqlPatterns_need : ∀ p ∈ sqlPatterns, p.Needs fun c => isOtherScript c = false := by
  have dashes : (exactly "--").Needs fun c => isOtherScript c = false := by
    intro previous found after match_
    rw [matches_exactly] at match_
    exact ⟨('-' : Char), match_ ▸ List.mem_cons_self, by decide⟩
  simp only [sqlPatterns, List.forall_mem_cons]
  exact ⟨(needs_word (by decide)).seq List.mem_cons_self, dashes, (needs_word (by decide)).seq List.mem_cons_self,
    (needs_mark ';' rfl (by decide)).seq List.mem_cons_self,
    (needs_mark '\'' rfl (by decide)).seq List.mem_cons_self, nofun⟩

theorem injectionPatterns_need : ∀ p ∈ injectionPatterns, p.Needs fun c => isOtherScript c = false := by
  simp only [injectionPatterns, List.forall_mem_cons]
  exact ⟨(needs_letters "ignore" (by decide)).seq List.mem_cons_self,
    (needs_letters "you" (by decide)).seq List.mem_cons_self,
    (needs_letters "system" (by decide)).seq List.mem_cons_self,
    (needs_mark '[' rfl (by decide)).seq List.mem_cons_self,
    (needs_letters "disregard" (by decide)).seq List.mem_cons_self,
    (needs_letters "forget" (by decide)).seq List.mem_cons_self, nofun⟩

theorem offensivePatterns_need : ∀ p ∈ offensivePatterns, p.Needs fun c => isOtherScript c = false := by
  simp only [offensivePatterns, List.forall_mem_cons]
  exact ⟨needs_word (by decide), needs_word (by decide), needs_word (by decide), nofun⟩

/-- Where case changes nothing, the stage finds characters that are really the same. -/
theorem exists_replicate_of_hasLongRun (script : ∀ c ∈ t, isOtherScript c = true) (long : hasLongRun t = true) :
    ∃ c, List.replicate 11 c <:+: t := by
  induction t with
  | nil => cases long
  | cons c t ih =>
    rw [List.forall_mem_cons] at script
    rw [hasLongRun, Bool.or_eq_true, Bool.and_eq_true] at long
    rcases long with ⟨-, here⟩ | later
    · refine ⟨c, List.IsPrefix.isInfix ?_⟩
      rw [List.replicate_succ, List.cons_prefix_cons]
      refine ⟨rfl, ?_⟩
      have ten : 10 ≤ (t.takeWhile fun d => d.lower = c.lower).length := of_decide_eq_true here
      have same : ∀ d ∈ t.takeWhile fun d => d.lower = c.lower, d = c := by
        intro d member
        have lowered : d.lower = c.lower := by simpa using List.mem_takeWhile_imp member
        rw [lower_of_isOtherScript script.1] at lowered
        rw [← lowered, lower_of_isOtherScript (script.2 d ((List.takeWhile_prefix _).subset member))]
      have row : List.replicate 10 c <+: t.takeWhile fun d => d.lower = c.lower := by
        rw [List.eq_replicate_of_mem same, List.prefix_replicate_iff]
        simpa using ten
      exact row.trans (List.takeWhile_prefix _)
    · obtain ⟨d, row⟩ := ih script.2 later
      exact ⟨d, row.trans (List.suffix_cons c t).isInfix⟩

theorem trim_of_script (script : ∀ c ∈ t, isOtherScript c = true) : Text.trim t = t := by
  refine Text.IsTrimmed.trim_eq ⟨fun c head => ?_, fun c last => ?_⟩
  · exact isBlank_of_isOtherScript (script c (List.mem_of_mem_head? head))
  · exact isBlank_of_isOtherScript (script c (List.mem_of_getLast? last))

theorem isSpam_of_script (script : ∀ c ∈ t, isOtherScript c = true) (filled : t ≠ [])
    (varied : ∀ c, ¬List.replicate 11 c <:+: t) : isSpam t = !t.any isIndic := by
  have row : hasLongRun t = false := by
    rw [Bool.eq_false_iff]
    intro long
    obtain ⟨c, found⟩ := exists_replicate_of_hasLongRun script long
    exact varied c found
  have words : anyOccurs spamPatterns t = false :=
    anyOccurs_eq_false spamPatterns_need fun c member => by simp [script c member]
  have special : t.all isSpecial = !t.any isIndic := by
    rw [List.not_any_eq_all_not, Bool.eq_iff_iff, List.all_eq_true, List.all_eq_true]
    exact forall₂_congr fun c member => by rw [isSpecial_of_isOtherScript (script c member)]
  rw [isSpam, row, words, special, List.isEmpty_eq_false_iff.mpr filled]
  simp

/-- A request written in other scripts than Latin, of a fitting length and without a character more than ten times
in a row, is taken up if it has a character of the Indic scripts. All in the Arabic script, it is taken for spam. -/
theorem rejection?_of_script (script : ∀ c ∈ t, isOtherScript c = true) (long : 10 ≤ t.length)
    (short : t.length ≤ 1000) (varied : ∀ c, ¬List.replicate 11 c <:+: t) :
    rejection? t = if t.any isIndic then none else some ⟨.spam, "Please enter a valid lesson-related prompt"⟩ := by
  have filled : t ≠ [] := List.length_pos_iff.mp (by omega)
  have isLong : ¬t.length < minLength := Nat.not_lt.mpr long
  have isShort : ¬t.length > maxLength := Nat.not_lt.mpr short
  have visible : t.any isInvisible = false :=
    List.any_eq_false.mpr fun c member => by simp [isInvisible_of_isOtherScript (script c member)]
  have emojis : t.countP isEmoji = 0 :=
    List.countP_eq_zero.mpr fun c member => by simp [isEmoji_of_isOtherScript (script c member)]
  have sparing : ¬t.countP isEmoji > maxEmojis := by
    rw [emojis]
    exact Nat.not_lt_zero _
  have anyScript : t.any isOtherScript = true := by
    obtain ⟨c, rest, rfl⟩ := List.exists_cons_of_ne_nil filled
    exact List.any_eq_true.mpr ⟨c, List.mem_cons_self, script c List.mem_cons_self⟩
  have latin {patterns : List Pattern} (needs : ∀ p ∈ patterns, p.Needs fun c => isOtherScript c = false) :
      anyOccurs patterns t = false := anyOccurs_eq_false needs fun c member => by simp [script c member]
  cases indic : t.any isIndic with
  | false =>
    have spam : isSpam t = true := by rw [isSpam_of_script script filled varied, indic, Bool.not_false]
    rw [rejection?, if_neg (by simpa using filled), trim_of_script script, rejectionOf?, if_neg isLong, if_neg isShort,
      visible, if_neg Bool.false_ne_true, if_neg sparing, spam]
    rfl
  | true =>
    have admissible : IsAdmissible t := {
      long := long
      short := short
      visible := visible
      sparing := Nat.not_lt.mp sparing
      noSpam := by rw [isSpam_of_script script filled varied, indic, Bool.not_true]
      noStatement := latin sqlPatterns_need
      noInjection := latin injectionPatterns_need
      inoffensive := latin offensivePatterns_need
      educational := .inr (by rw [isSubstantive, anyScript, Bool.or_true])
      legible := .inl anyScript }
    rw [if_pos rfl, rejection?_eq_none_iff, trim_of_script script]
    exact admissible

/-- A character that is rare is not repeated so often. -/
theorem not_replicate_infix {count : Nat} (rare : ∀ c ∈ t, t.count c < count) (filled : 0 < count) :
    ∀ c, ¬List.replicate count c <:+: t := by
  intro c row
  have often := row.sublist.count_le c
  have member : c ∈ t := row.subset (List.mem_replicate.mpr ⟨by omega, rfl⟩)
  have few := rare c member
  rw [List.count_replicate_self] at often
  omega

/-- Light and synthesis in one word of Devanagari. -/
def photosynthesis : Text := "प्रकाशसंश्लेषण"

theorem rejection?_of_script_photosynthesis :
    (∀ c ∈ photosynthesis, isOtherScript c = true) ∧ (10 ≤ photosynthesis.length ∧ photosynthesis.length ≤ 1000) ∧
      (∀ c, ¬List.replicate 11 c <:+: photosynthesis) ∧ rejection? photosynthesis = none := by
  have script : ∀ c ∈ photosynthesis, isOtherScript c = true := by decide
  have varied : ∀ c, ¬List.replicate 11 c <:+: photosynthesis := not_replicate_infix (by decide) (by decide)
  refine ⟨script, by decide, varied, ?_⟩
  rw [rejection?_of_script script (by decide) (by decide) varied, if_pos (by decide)]

/-- An encyclopedia, in Urdu. -/
def encyclopedia : Text := "انسائیکلوپیڈیا"

/-- A word of Urdu that is long enough and varied is still taken for spam. -/
theorem rejection?_encyclopedia :
    (∀ c ∈ encyclopedia, isOtherScript c = true) ∧ (10 ≤ encyclopedia.length ∧ encyclopedia.length ≤ 1000) ∧
      (∀ c, ¬List.replicate 11 c <:+: encyclopedia) ∧
        rejection? encyclopedia = some ⟨.spam, "Please enter a valid lesson-related prompt"⟩ := by
  refine ⟨by decide, by decide, ?_, by decide +kernel⟩
  exact not_replicate_infix (by decide) (by decide)

/-- The block of Oriya, between those of Gujarati and Tamil. -/
def isOriya (c : CodePoint) : Bool := c.isBetween 0xB00 0xB7F

/-- The scripts that have a name have all characters of the other scripts but those of Oriya. -/
theorem exists_has_iff : (∃ w ∈ Writing.all, w.has c = true) ↔ isOtherScript c = true ∧ isOriya c = false := by
  rw [isOtherScript_iff, isOriya, CodePoint.isBetween, Bool.eq_false_iff]
  simp only [Writing.all, List.exists_mem_cons_iff, Writing.has, CodePoint.isBetween, List.not_mem_nil, false_and,
    exists_false, or_false, Bool.and_eq_true, decide_eq_true_eq, ne_eq]
  omega

theorem name_ne_default (w : Writing) : w.name ≠ defaultLanguage := by
  cases w <;> decide

theorem language_ne_default_iff :
    language t ≠ defaultLanguage ↔ ∃ c ∈ t, isOtherScript c = true ∧ isOriya c = false := by
  simp only [← exists_has_iff]
  unfold language writing?
  constructor
  · intro named
    cases found : Writing.all.find? fun w => t.any w.has with
    | none => exact absurd (by rw [found]; rfl) named
    | some w =>
      have among := List.mem_of_find?_eq_some found
      have occurs : t.any w.has = true := (List.find?_eq_some_iff_append.mp found).1
      obtain ⟨c, member, held⟩ := List.any_eq_true.mp occurs
      exact ⟨c, member, w, among, held⟩
  · rintro ⟨c, member, w, among, held⟩
    obtain ⟨first, found⟩ : ∃ first, (Writing.all.find? fun w => t.any w.has) = some first := by
      rw [← Option.isSome_iff_exists, List.find?_isSome]
      exact ⟨w, among, List.any_eq_true.mpr ⟨c, member, held⟩⟩
    rw [found]
    exact name_ne_default first

end LessonService.Request
