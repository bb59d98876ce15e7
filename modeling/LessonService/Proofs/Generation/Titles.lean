import LessonService.Proofs.Generation.Replies
import LessonService.Proofs.Text.Words

namespace LessonService.Generation

open Text

/-- From one to sixty characters, with single spaces between words and no other blank. -/
structure IsDisplayable (t : Text) : Prop where
  filled : 1 ≤ t.length
  short : t.length ≤ 60
  spaced : t.IsEvenlySpaced

variable {t : Text}

theorem IsDisplayable.truncateTitle_eq (displayable : IsDisplayable t) : truncateTitle t = t := by
  have line := displayable.spaced.join_words_eq
  rw [truncateTitle, line]
  exact if_pos displayable.short

/-- Every text that is not blank becomes a title that can be shown: the words of it, or a start of them and an
ellipsis. -/
theorem truncateTitle_isDisplayable (filled : isBlank t = false) : IsDisplayable (truncateTitle t) := by
  have some : words t ≠ [] := by
    intro none
    rw [words_eq_nil_iff, filled] at none
    cases none
  obtain ⟨spaced, left⟩ := join_isEvenlySpaced (fun word => isWord_of_mem_words) some
  by_cases short : (join " " (words t)).length ≤ maxTitleLength
  · rw [truncateTitle, if_pos short]
    exact ⟨List.length_pos_iff.mpr left, short, spaced⟩
  · have ellipsis : IsWord "..." := ⟨by decide, by decide⟩
    have dots : ("..." : Text).length = 3 := rfl
    have most : maxTitleLength - 3 = 57 := rfl
    have cut : (trimRight CodePoint.isBlank ((join " " (words t)).take (maxTitleLength - 3))).length ≤ 57 := by
      have shorter := (List.rdropWhile_prefix CodePoint.isBlank ((join " " (words t)).take (maxTitleLength - 3))).length_le
      have bound := List.length_take_le (maxTitleLength - 3) (join " " (words t))
      exact shorter.trans (most ▸ bound)
    rw [truncateTitle, if_neg short]
    refine ⟨?_, ?_, (spaced.trimRight_take _).append_word ellipsis⟩
    · rw [List.length_append, dots]
      omega
    · rw [List.length_append, dots]
      omega

theorem truncateTitle_eq_nil (blank : isBlank t = true) : truncateTitle t = [] := by
  rw [truncateTitle, words_eq_nil_iff.mpr blank]
  rfl

theorem fallbackTitle_isDisplayable : IsDisplayable fallbackTitle := by
  have kept : truncateTitle fallbackTitle = fallbackTitle := by decide +kernel
  rw [← kept]
  exact truncateTitle_isDisplayable (by decide +kernel)

/-- Whatever a model replies, the title found in it can be shown. -/
theorem cleanTitle_isDisplayable (answer : Text) : IsDisplayable (cleanTitle answer) := by
  have found (t : Text) (trimmed : t.IsTrimmed) :
      IsDisplayable (if t.isEmpty then fallbackTitle else truncateTitle t) := by
    cases t with
    | nil => exact fallbackTitle_isDisplayable
    | cons c t =>
      have solid := trimmed.first c rfl
      exact truncateTitle_isDisplayable (by simp [isBlank, solid])
  simp only [cleanTitle]
  exact found _ (trim_isTrimmed _)

/-- So can the title made of an outline, even of a blank one. -/
theorem ownTitle_isDisplayable (outline : Text) :
    IsDisplayable (if (truncateTitle outline).isEmpty then fallbackTitle else truncateTitle outline) := by
  cases blank : isBlank outline with
  | true =>
    rw [truncateTitle_eq_nil blank]
    exact fallbackTitle_isDisplayable
  | false =>
    have displayable := truncateTitle_isDisplayable blank
    have left : (truncateTitle outline).isEmpty = false :=
      List.isEmpty_eq_false_iff.mpr (List.length_pos_iff.mp displayable.filled)
    rw [left]
    exact displayable

variable {plan : Plan} {r : Request} {heard : List (Question × Except Failure Answer)}

theorem title_isDisplayable {outline : Text} (run : (title plan.agents outline).Gives heard t) : IsDisplayable t := by
  have own := ownTitle_isDisplayable outline
  cases titled : plan.hasTitler with
  | false =>
    simp only [title, Plan.agents, titled] at run
    rw [(Dialogue.done_gives.mp run).2]
    exact own
  | true =>
    simp only [title, Plan.agents, titled] at run
    obtain ⟨first, outcome, later, -, asked, rest⟩ := Dialogue.bind_gives.mp run
    cases outcome with
    | error e =>
      rw [(Dialogue.done_gives.mp rest).2]
      exact own
    | ok found =>
      rw [(Dialogue.done_gives.mp rest).2]
      rcases Dialogue.andThen_gives asked with ⟨e, _, made⟩ | ⟨_, answer, _, _, _, ended⟩
      · cases made
      · rw [Except.ok.inj (Dialogue.done_gives.mp ended).2]
        exact cleanTitle_isDisplayable answer.content

/-- The attempts are the same whoever is asked for a title. -/
theorem attempts_eq_of_draft {ask reply : Type} {agents others : Agents ask reply} (same : agents.draft = others.draft)
    (validator : Validator) (outline : Text) (left : Nat) (p : Progress) :
    attempts agents validator outline left p = attempts others validator outline left p := by
  induction left generalizing p with
  | zero => rfl
  | succ left ih => simp only [attempts, same, ih]

/-- All but the title of a lesson is made without a titler, and the same with one: the title is then asked for, and
put to what is made. -/
theorem exists_generateLesson_eq (plan : Plan) (r : Request) :
    ∃ made : Conversation Untitled,
      (∀ heard outcome, made.Gives heard outcome → ∀ exchange ∈ heard, exchange.1.role ≠ .titler) ∧
      ∀ hasTitler, generateLesson { plan with hasTitler } r = made.andThen fun lesson =>
        (title { plan with hasTitler }.agents r.outline).bind fun t => .done (.ok (lesson.entitle t)) := by
  choose accepted concluded using exists_conclude_eq plan.validator r.outline
  let left := (plan.maxAttempts - r.attempt).toNat
  refine ⟨(attempts plan.agents plan.validator r.outline left { attempt := r.attempt }).bind fun p =>
    .done (accepted p), ?_, ?_⟩
  · intro heard outcome run
    obtain ⟨p, attempted, _⟩ := Dialogue.bind_done_gives.mp run
    obtain ⟨calls, made, _⟩ := attempts_gives attempted
    exact made.role_ne
  · intro hasTitler
    have same := @attempts_eq_of_draft _ _ { plan with hasTitler }.agents plan.agents rfl
    rw [generateLesson, orchestrate, same, Dialogue.andThen, Dialogue.bind_assoc]
    exact congrArg _ (funext fun p => concluded p _)

/-- The title of a lesson can be shown, and is as short as a title is made. The lesson is made before there is a
title, whether or not there is a titler, who is asked nothing until then, and the title then found is put to it: that
changes neither code nor attempts nor usage. -/
theorem generateLesson_title (plan : Plan) (r : Request) :
    (∀ heard lesson, (generateLesson plan r).Gives heard (.ok lesson) →
      IsDisplayable lesson.title ∧ truncateTitle lesson.title = lesson.title) ∧
    ∃ made : Conversation Untitled,
      (∀ heard outcome, made.Gives heard outcome → ∀ exchange ∈ heard, exchange.1.role ≠ .titler) ∧
      ∀ hasTitler, generateLesson { plan with hasTitler } r = made.andThen fun lesson =>
        (title { plan with hasTitler }.agents r.outline).bind fun t => .done (.ok (lesson.entitle t)) := by
  refine ⟨?_, exists_generateLesson_eq plan r⟩
  intro heard lesson run
  obtain ⟨before, p, later, split, _, concluded⟩ := Dialogue.bind_gives.mp run
  obtain ⟨_, _, _, _, _, _, titled⟩ := conclude_ok concluded
  have displayable := title_isDisplayable titled
  exact ⟨displayable, displayable.truncateTitle_eq⟩

theorem generateLesson_title_of_cut :
    let plan : Plan := { provider := "model", delays := [], validator := fun _ _ => ⟨true, []⟩ }
    let r : Request := ⟨"1", "Fractions", 0⟩
    let reply : Text := " **Fractions as equal\tparts of one whole:  adding, comparing and sharing them** \nand more"
    let heard : List (Question × Except Failure Answer) :=
      [(⟨.writer, generationPrompt "Fractions" 1⟩, .ok ⟨"code", []⟩),
        (⟨.titler, titlePrompt "Fractions"⟩, .ok ⟨reply, []⟩)]
    let lesson : Lesson := ⟨"code", "Fractions as equal parts of one whole: adding, comparing...", 1, []⟩
    (generateLesson plan r).Gives heard (.ok lesson) ∧
      IsDisplayable lesson.title ∧ truncateTitle lesson.title = lesson.title := by
  intro plan r reply heard lesson
  have coded : cleanCode "code" = "code" := by decide +kernel
  have titled : cleanTitle reply = lesson.title := by decide +kernel
  have called (q : Question) {answer : Answer} (filled : isBlank answer.content = false) :
      (call plan q).Gives [(q, .ok answer)] (.ok answer) :=
    Dialogue.bind_gives.mpr ⟨_, .ok answer, [], rfl, .ask (.ok answer) (.done _), by simpa [filled] using .done _⟩
  have drafted : (plan.agents.draft (.write "Fractions" 0)).Gives (heard.take 1) (.ok ⟨"code", []⟩) :=
    Dialogue.bind_gives.mpr ⟨_, .ok ⟨"code", []⟩, [], rfl, called _ (by decide +kernel), by simpa only [coded] using .done _⟩
  have named : (title plan.agents "Fractions").Gives (heard.drop 1) lesson.title :=
    Dialogue.bind_gives.mpr ⟨_, .ok lesson.title, [], rfl,
      Dialogue.bind_gives.mpr ⟨_, .ok ⟨reply, []⟩, [], rfl, called _ (by decide +kernel),
        by simpa only [titled] using .done _⟩, .done _⟩
  have run : (generateLesson plan r).Gives heard (.ok lesson) :=
    Dialogue.bind_gives.mpr ⟨heard.take 1, _, heard.drop 1, rfl,
      Dialogue.bind_gives.mpr ⟨heard.take 1, _, [], rfl, drafted, .done _⟩,
      Dialogue.bind_gives.mpr ⟨heard.drop 1, _, [], rfl, named, .done _⟩⟩
  exact ⟨run, (generateLesson_title plan r).1 heard lesson run⟩

end LessonService.Generation
