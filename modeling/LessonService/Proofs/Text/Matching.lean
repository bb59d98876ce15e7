import LessonService.Text.Pattern
import Mathlib.Data.List.Basic

namespace LessonService.Pattern

variable {p : Pattern} {place e : Place} {previous : Option CodePoint} {t : Text}

/-- The texts that a pattern matches, after a character, if there is one, and before a text. -/
def Matches : Pattern → Option CodePoint → Text → Text → Prop
  | one holds, _, found, _ => ∃ c, found = [c] ∧ holds c = true
  | most holds least, _, found, _ => least ≤ found.length ∧ ∀ c ∈ found, holds c = true
  | fewest holds least, _, found, _ => least ≤ found.length ∧ ∀ c ∈ found, holds c = true
  | between holds, previous, found, after => found = [] ∧ holds previous after.head? = true
  | ahead next, previous, found, after =>
    found = [] ∧ ∃ first rest, after = first ++ rest ∧ next.Matches previous first rest
  | nothing, _, found, _ => found = []
  | both first second, previous, found, after =>
    ∃ a b, found = a ++ b ∧ first.Matches previous a (b ++ after) ∧ second.Matches (a.getLast?.or previous) b after
  | either first second, previous, found, after =>
    first.Matches previous found after ∨ second.Matches previous found after

/-- Whether a text leads from a place to another one. -/
def Leads (place : Place) (found : Text) (e : Place) : Prop :=
  place.rest = found ++ e.rest ∧ e.previous = found.getLast?.or place.previous

theorem leads_nil : Leads place [] e ↔ e = place := by
  cases e
  cases place
  simp [Leads, and_comm, eq_comm]

theorem getLast?_cons_or (c : CodePoint) (t : Text) : (c :: t).getLast?.or previous = t.getLast?.or (some c) := by
  cases t <;> simp [List.getLast?_cons_cons, Option.or_eq_left_of_isSome]

theorem leads_cons {c : CodePoint} {found : Text} :
    Leads ⟨previous, t⟩ (c :: found) e ↔ ∃ rest, t = c :: rest ∧ Leads ⟨some c, rest⟩ found e := by
  cases t with
  | nil => simp [Leads]
  | cons d rest =>
    simp [Leads, getLast?_cons_or, and_assoc, eq_comm]

/-- A run of characters of a class is empty, or it starts with one of them. -/
theorem exists_run_cons {holds : CodePoint → Bool} {least : Nat} {c : CodePoint} :
    (∃ found, Leads ⟨previous, c :: t⟩ found e ∧ least ≤ found.length ∧ ∀ d ∈ found, holds d = true) ↔
      (e = ⟨previous, c :: t⟩ ∧ least = 0) ∨ (holds c = true ∧
        ∃ found, Leads ⟨some c, t⟩ found e ∧ least - 1 ≤ found.length ∧ ∀ d ∈ found, holds d = true) := by
  constructor
  · rintro ⟨_ | ⟨d, found⟩, leads, long, all⟩
    · exact .inl ⟨leads_nil.mp leads, Nat.le_zero.mp long⟩
    · obtain ⟨rest, ⟨⟩, leads⟩ := leads_cons.mp leads
      rw [List.forall_mem_cons] at all
      exact .inr ⟨all.1, found, leads, by simpa using long, all.2⟩
  · rintro (⟨rfl, rfl⟩ | ⟨first, found, leads, long, all⟩)
    · exact ⟨[], leads_nil.mpr rfl, by simp⟩
    · exact ⟨c :: found, leads_cons.mpr ⟨t, rfl, leads⟩, by simpa using long, List.forall_mem_cons.mpr ⟨first, all⟩⟩

theorem mem_along_drop (holds : CodePoint → Bool) (least : Nat) :
    e ∈ (along holds previous t).drop least ↔
      ∃ found, Leads ⟨previous, t⟩ found e ∧ least ≤ found.length ∧ ∀ c ∈ found, holds c = true := by
  induction t generalizing previous least with
  | nil =>
    have empty {found : Text} (leads : Leads ⟨previous, []⟩ found e) : found = [] :=
      (List.nil_eq_append_iff.mp leads.1).1
    constructor
    · intro member
      cases least with
      | zero => exact ⟨[], leads_nil.mpr (List.mem_singleton.mp member), by simp⟩
      | succ => simp [along] at member
    · rintro ⟨found, leads, long, -⟩
      cases empty leads
      rw [Nat.le_zero.mp long, leads_nil.mp leads]
      exact List.mem_singleton_self _
  | cons c t ih =>
    rw [exists_run_cons]
    cases least with
    | zero =>
      have later := @ih (some c) 0
      cases first : holds c <;> simp_all [along]
    | succ least =>
      have later := @ih (some c) least
      cases first : holds c <;> simp_all [along]

theorem leads_append {found more : Text} :
    (∃ middle, Leads place found middle ∧ Leads middle more e) ↔ Leads place (found ++ more) e := by
  constructor
  · rintro ⟨middle, ⟨text, last⟩, text', last'⟩
    refine ⟨?_, ?_⟩
    · rw [text, text', List.append_assoc]
    · rw [last', last, List.getLast?_append, Option.or_assoc]
  · rintro ⟨text, last⟩
    refine ⟨⟨found.getLast?.or place.previous, more ++ e.rest⟩, ⟨?_, rfl⟩, rfl, ?_⟩
    · rw [text, List.append_assoc]
    · rw [last, List.getLast?_append, Option.or_assoc]

theorem exists_end_iff {places : List Place} {matched : Text → Text → Prop}
    (spec : ∀ e, e ∈ places ↔ ∃ found, Leads place found e ∧ matched found e.rest) :
    places.isEmpty = false ↔ ∃ found after, place.rest = found ++ after ∧ matched found after := by
  rw [List.isEmpty_eq_false_iff_exists_mem]
  simp only [spec]
  constructor
  · rintro ⟨e, found, leads, match_⟩
    exact ⟨found, e.rest, leads.1, match_⟩
  · rintro ⟨found, after, text, match_⟩
    exact ⟨⟨_, after⟩, found, ⟨text, rfl⟩, match_⟩

/-- A pattern can end after exactly the texts that it matches. -/
theorem mem_ends : e ∈ p.ends place ↔ ∃ found, Leads place found e ∧ p.Matches place.previous found e.rest := by
  induction p generalizing place e with
  | one holds =>
    obtain ⟨previous, t⟩ := place
    constructor
    · intro member
      cases t with
      | nil => simp [ends] at member
      | cons c rest =>
        cases first : holds c with
        | false => simp [ends, first] at member
        | true =>
          simp only [ends, first, if_true, List.mem_singleton] at member
          exact ⟨[c], leads_cons.mpr ⟨rest, rfl, leads_nil.mpr member⟩, c, rfl, first⟩
    · rintro ⟨_, leads, c, rfl, first⟩
      obtain ⟨rest, rfl, next⟩ := leads_cons.mp leads
      simp [ends, first, leads_nil.mp next]
  | most holds least => simp [ends, Matches, mem_along_drop]
  | fewest holds least => exact mem_along_drop holds least
  | between holds =>
    constructor
    · intro member
      cases holding : holds place.previous place.rest.head? with
      | false => simp [ends, holding] at member
      | true =>
        simp only [ends, holding, if_true, List.mem_singleton] at member
        exact ⟨[], leads_nil.mpr member, rfl, member ▸ holding⟩
    · rintro ⟨_, leads, rfl, holding⟩
      cases leads_nil.mp leads
      simp [ends, holding]
  | ahead next ih =>
    have goes := exists_end_iff fun e => @ih place e
    constructor
    · intro member
      cases stops : (next.ends place).isEmpty with
      | true => simp [ends, stops] at member
      | false =>
        simp only [ends, stops, Bool.false_eq_true, if_false, List.mem_singleton] at member
        cases member
        exact ⟨[], leads_nil.mpr rfl, rfl, goes.mp stops⟩
    · rintro ⟨_, leads, rfl, found⟩
      cases leads_nil.mp leads
      simp [ends, goes.mpr found]
  | nothing => simp [ends, Matches, leads_nil]
  | both first second ihFirst ihSecond =>
    simp only [ends, List.mem_flatMap, ihFirst, ihSecond]
    constructor
    · rintro ⟨middle, ⟨a, leadsA, matchesA⟩, b, leadsB, matchesB⟩
      refine ⟨a ++ b, leads_append.mp ⟨middle, leadsA, leadsB⟩, a, b, rfl, ?_, ?_⟩
      · rwa [← leadsB.1]
      · rwa [← leadsA.2]
    · rintro ⟨_, leads, a, b, rfl, matchesA, matchesB⟩
      obtain ⟨middle, leadsA, leadsB⟩ := leads_append.mpr leads
      refine ⟨middle, ⟨a, leadsA, ?_⟩, b, leadsB, ?_⟩
      · rwa [leadsB.1]
      · rwa [leadsA.2]
  | either first second ihFirst ihSecond =>
    simp only [ends, List.mem_append, ihFirst, ihSecond, Matches, and_or_left, exists_or]

theorem end?_isSome_iff :
    (p.end? place).isSome = true ↔ ∃ found after, place.rest = found ++ after ∧ p.Matches place.previous found after := by
  rw [← exists_end_iff fun e => @mem_ends p place e, end?, List.isSome_head?,
    List.isEmpty_eq_false_iff]

theorem findFrom?_isSome_iff :
    (p.findFrom? previous t).isSome = true ↔
      ∃ before found after, t = before ++ found ++ after ∧ p.Matches (before.getLast?.or previous) found after := by
  induction t generalizing previous with
  | nil =>
    rw [findFrom?, Option.isSome_map, end?_isSome_iff]
    constructor
    · rintro ⟨found, after, text, match_⟩
      exact ⟨[], found, after, text, match_⟩
    · rintro ⟨before, found, after, text, match_⟩
      cases (List.append_eq_nil_iff.mp (List.append_eq_nil_iff.mp text.symm).1).1
      exact ⟨found, after, text, match_⟩
  | cons c t ih =>
    have here_or_later : (p.findFrom? previous (c :: t)).isSome = true ↔
        (p.end? ⟨previous, c :: t⟩).isSome = true ∨ (p.findFrom? (some c) t).isSome = true := by
      rw [findFrom?]
      split <;> simp_all
    rw [here_or_later, end?_isSome_iff, ih]
    constructor
    · rintro (⟨found, after, text, match_⟩ | ⟨before, found, after, rfl, match_⟩)
      · exact ⟨[], found, after, text, match_⟩
      · exact ⟨c :: before, found, after, rfl, by rwa [getLast?_cons_or]⟩
    · rintro ⟨_ | ⟨d, before⟩, found, after, text, match_⟩
      · exact .inl ⟨found, after, text, match_⟩
      · cases text
        exact .inr ⟨before, found, after, rfl, by rwa [getLast?_cons_or] at match_⟩

/-- A pattern occurs in a text wherever it matches a part of it. -/
theorem occursIn_iff :
    p.occursIn t = true ↔ ∃ before found after, t = before ++ found ++ after ∧ p.Matches before.getLast? found after := by
  simp [occursIn, find?, findFrom?_isSome_iff]

/-- Characters of a class occur in a row where exactly so many as are needed stand together. -/
theorem occursIn_most_iff {holds : CodePoint → Bool} {least : Nat} :
    (most holds least).occursIn t = true ↔ ∃ row, row <:+: t ∧ row.length = least ∧ ∀ c ∈ row, holds c = true := by
  rw [occursIn_iff]
  constructor
  · rintro ⟨before, found, after, rfl, long, all⟩
    have inside : found.take least <:+: before ++ found ++ after :=
      (List.take_prefix least found).isInfix.trans (List.infix_append before found after)
    exact ⟨found.take least, inside, List.length_take_of_le long, fun c member => all c (List.mem_of_mem_take member)⟩
  · rintro ⟨row, ⟨before, after, rfl⟩, count, all⟩
    exact ⟨before, row, after, rfl, Nat.le_of_eq count.symm, all⟩

variable {found after : Text}

theorem matches_seq_cons (p q : Pattern) (ps : List Pattern) :
    (seq (p :: q :: ps)).Matches previous found after ↔
      ∃ a b, found = a ++ b ∧ p.Matches previous a (b ++ after) ∧ (seq (q :: ps)).Matches (a.getLast?.or previous) b after :=
  .rfl

theorem charIn_iff {marks : String} {chars : List Char} (only : marks.toList = chars) (c : CodePoint) :
    charIn marks c = true ↔ ∃ d ∈ chars, (d : CodePoint) = c := by
  obtain ⟨value⟩ := c
  simp [charIn, only]

/-- A row that starts between two neighbours of which something is asked. -/
theorem matches_seq_between (holds : Option CodePoint → Option CodePoint → Bool) (p : Pattern) (ps : List Pattern) :
    (seq (between holds :: p :: ps)).Matches previous found after ↔
      holds previous (found ++ after).head? = true ∧ (seq (p :: ps)).Matches previous found after := by
  rw [matches_seq_cons]
  constructor
  · rintro ⟨_, b, rfl, ⟨rfl, held⟩, rest⟩
    exact ⟨held, rest⟩
  · rintro ⟨held, rest⟩
    exact ⟨[], found, rfl, ⟨rfl, held⟩, rest⟩

theorem matches_seq_edge (p : Pattern) (ps : List Pattern) :
    (seq (edge :: p :: ps)).Matches previous found after ↔
      previous.elim false CodePoint.isWord ≠ (found ++ after).head?.elim false CodePoint.isWord ∧
        (seq (p :: ps)).Matches previous found after := by
  rw [edge, edgeOf, matches_seq_between, bne_iff_ne]

theorem matches_exactly (word : Text) : (exactly word).Matches previous found after ↔ found = word := by
  induction word generalizing previous found with
  | nil => rfl
  | cons c word ih =>
    cases word with
    | nil => simp [exactly, seq, Matches]
    | cons d word =>
      unfold exactly at ih ⊢
      simp only [List.map_cons] at ih ⊢
      rw [matches_seq_cons]
      simp [Matches, ih]

/-- Whether all that a pattern reads is of a class. -/
def Within (holds : CodePoint → Prop) : Pattern → Prop
  | one reads | most reads _ | fewest reads _ => ∀ c, reads c = true → holds c
  | between _ | ahead _ | nothing => True
  | both first second | either first second => first.Within holds ∧ second.Within holds

theorem Within.of_matches {holds : CodePoint → Prop} (within : p.Within holds)
    (match_ : p.Matches previous found after) : ∀ c ∈ found, holds c := by
  induction p generalizing previous found after with
  | one reads =>
    obtain ⟨c, rfl, read⟩ := match_
    simpa using within c read
  | most reads least | fewest reads least => exact fun c member => within c (match_.2 c member)
  | between | ahead =>
    rw [match_.1]
    exact List.forall_mem_nil _
  | nothing =>
    rw [show found = [] from match_]
    exact List.forall_mem_nil _
  | both first second ihFirst ihSecond =>
    obtain ⟨a, b, rfl, matchesA, matchesB⟩ := match_
    rw [List.forall_mem_append]
    exact ⟨ihFirst within.1 matchesA, ihSecond within.2 matchesB⟩
  | either first second ihFirst ihSecond =>
    rcases match_ with matchesFirst | matchesSecond
    · exact ihFirst within.1 matchesFirst
    · exact ihSecond within.2 matchesSecond

theorem within_seq {holds : CodePoint → Prop} {ps : List Pattern} (all : ∀ p ∈ ps, p.Within holds) :
    (seq ps).Within holds := by
  induction ps with
  | nil => trivial
  | cons p ps ih =>
    rw [List.forall_mem_cons] at all
    cases ps with
    | nil => exact all.1
    | cons q qs => exact ⟨all.1, ih all.2⟩

theorem within_exactly {holds : CodePoint → Prop} {word : Text} (all : ∀ c ∈ word, holds c) :
    (exactly word).Within holds := by
  refine within_seq fun p member => ?_
  obtain ⟨c, inWord, rfl⟩ := List.mem_map.mp member
  intro d same
  rw [of_decide_eq_true same]
  exact all c inWord

/-- A row of patterns matches what its first part and then the rest of it match. -/
theorem matches_seq_append (p q : Pattern) (ps qs : List Pattern) :
    (seq (p :: ps ++ q :: qs)).Matches previous found after ↔
      ∃ a b, found = a ++ b ∧ (seq (p :: ps)).Matches previous a (b ++ after) ∧
        (seq (q :: qs)).Matches (a.getLast?.or previous) b after := by
  induction ps generalizing p previous found with
  | nil => exact matches_seq_cons p q qs
  | cons r ps ih =>
    have later {previous : Option CodePoint} {found : Text} := @ih previous found r
    rw [List.cons_append] at later
    rw [List.cons_append, List.cons_append, matches_seq_cons]
    simp only [later, matches_seq_cons p r ps]
    constructor
    · rintro ⟨a, _, rfl, matchesP, b, c, rfl, matchesPs, matchesQs⟩
      refine ⟨a ++ b, c, (List.append_assoc a b c).symm, ⟨a, b, rfl, ?_, matchesPs⟩, ?_⟩
      · rwa [List.append_assoc] at matchesP
      · rwa [List.getLast?_append, Option.or_assoc]
    · rintro ⟨_, c, rfl, ⟨a, b, rfl, matchesP, matchesPs⟩, matchesQs⟩
      refine ⟨a, b ++ c, List.append_assoc a b c, ?_, b, c, rfl, matchesPs, ?_⟩
      · rwa [List.append_assoc]
      · rwa [List.getLast?_append, Option.or_assoc] at matchesQs

end LessonService.Pattern
