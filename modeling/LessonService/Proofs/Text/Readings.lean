import LessonService.Proofs.Text.Stretches
import Mathlib.Data.List.Forall2

namespace LessonService.Pattern

variable {p : Pattern} {ps : List Pattern} {previous : Option CodePoint} {found after t : Text}

theorem matches_oneOf :
    (oneOf ps).Matches previous found after ↔ ∃ p ∈ ps, p.Matches previous found after := by
  induction ps with
  | nil => simp [oneOf, Matches]
  | cons p ps ih =>
    cases ps with
    | nil => simp [oneOf]
    | cons q ps =>
      rw [List.exists_mem_cons_iff, ← ih]
      rfl

section Needs

variable {holds : CodePoint → Prop}

/-- Every match of the pattern reads a character of a class. -/
def Needs (holds : CodePoint → Prop) (p : Pattern) : Prop :=
  ∀ previous found after, p.Matches previous found after → ∃ c ∈ found, holds c

theorem needs_one {reads : CodePoint → Bool} (all : ∀ c, reads c = true → holds c) : (one reads).Needs holds := by
  rintro _ _ _ ⟨c, rfl, read⟩
  exact ⟨c, List.mem_singleton_self c, all c read⟩

theorem Needs.both_left {q : Pattern} (needs : p.Needs holds) : (both p q).Needs holds := by
  rintro _ _ _ ⟨a, b, rfl, first, -⟩
  obtain ⟨c, member, held⟩ := needs _ _ _ first
  exact ⟨c, List.mem_append_left b member, held⟩

theorem Needs.both_right {q : Pattern} (needs : q.Needs holds) : (both p q).Needs holds := by
  rintro _ _ _ ⟨a, b, rfl, -, second⟩
  obtain ⟨c, member, held⟩ := needs _ _ _ second
  exact ⟨c, List.mem_append_right a member, held⟩

/-- A row of patterns needs what one of them needs. -/
theorem Needs.seq (member : p ∈ ps) (needs : p.Needs holds) : (seq ps).Needs holds := by
  induction ps with
  | nil => cases member
  | cons q ps ih =>
    cases ps with
    | nil =>
      cases List.mem_singleton.mp member
      exact needs
    | cons r ps =>
      rcases List.mem_cons.mp member with rfl | later
      · exact needs.both_left
      · exact (ih later).both_right

theorem Needs.either {q : Pattern} (first : p.Needs holds) (second : q.Needs holds) : (either p q).Needs holds := by
  rintro _ _ _ (match_ | match_)
  · exact first _ _ _ match_
  · exact second _ _ _ match_

theorem needs_exactly {word : Text} {c : CodePoint} (member : c ∈ word) (held : holds c) :
    (exactly word).Needs holds :=
  (needs_one fun _ same => of_decide_eq_true same ▸ held).seq (List.mem_map_of_mem member)

theorem Needs.occursIn_eq_false (needs : p.Needs holds) (none : ∀ c ∈ t, ¬holds c) : p.occursIn t = false := by
  rw [Bool.eq_false_iff, ne_eq, occursIn_iff]
  rintro ⟨before, found, after, rfl, match_⟩
  obtain ⟨c, member, held⟩ := needs _ _ _ match_
  have inside : c ∈ before ++ found ++ after := by simp [member]
  exact none c inside held

theorem Needs.passes (needs : p.Needs holds) (none : ∀ c ∈ t, ¬holds c) : p.Passes previous t [] := by
  rintro before c x rfl ⟨found, after, text, -, match_⟩
  obtain ⟨d, member, held⟩ := needs _ _ _ match_
  have inside : d ∈ c :: (x ++ []) := text ▸ List.mem_append_left after member
  rw [List.append_nil] at inside
  exact none d (List.mem_append_right before inside) held

theorem Needs.replaceAll_eq (needs : p.Needs holds) (none : ∀ c ∈ t, ¬holds c) (change : Text → Text) :
    p.replaceAll change t = t :=
  (becomes_of_passes (needs.passes none)).replaceAll_eq

theorem Needs.findAll_eq_nil (needs : p.Needs holds) (none : ∀ c ∈ t, ¬holds c) : p.findAll t = [] := by
  rw [List.eq_nil_iff_forall_not_mem]
  intro found among
  obtain ⟨before, after, rfl, match_⟩ := matches_of_found (mem_findAll.mp among)
  obtain ⟨c, member, held⟩ := needs _ _ _ match_
  exact none c (List.mem_append_left after (List.mem_append_right before member)) held

end Needs

section Exchange

variable {R : CodePoint → CodePoint → Prop}

/-- Every part of the pattern that reads a character also reads those it is exchanged for. -/
def Allows (R : CodePoint → CodePoint → Prop) : Pattern → Prop
  | one reads | most reads _ | fewest reads _ => ∀ c d, R c d → reads c = true → reads d = true
  | between holds => ∀ a a' b b', Option.Rel R a a' → Option.Rel R b b' → holds a b = true → holds a' b' = true
  | ahead next => next.Allows R
  | nothing => True
  | both first second | either first second => first.Allows R ∧ second.Allows R

theorem allows_seq (all : ∀ p ∈ ps, p.Allows R) : (seq ps).Allows R := by
  induction ps with
  | nil => trivial
  | cons p ps ih =>
    rw [List.forall_mem_cons] at all
    cases ps with
    | nil => exact all.1
    | cons q ps => exact ⟨all.1, ih all.2⟩

theorem allows_oneOf (all : ∀ p ∈ ps, p.Allows R) : (oneOf ps).Allows R := by
  induction ps with
  | nil => exact fun _ _ _ _ _ _ impossible => absurd impossible Bool.false_ne_true
  | cons p ps ih =>
    rw [List.forall_mem_cons] at all
    cases ps with
    | nil => exact all.1
    | cons q ps => exact ⟨all.1, ih all.2⟩

/-- The parts of a text are exchanged one by one. -/
theorem exists_append_of_forall₂ {a b u : Text} (exchanged : List.Forall₂ R (a ++ b) u) :
    ∃ a' b', u = a' ++ b' ∧ List.Forall₂ R a a' ∧ List.Forall₂ R b b' := by
  induction a generalizing u with
  | nil => exact ⟨[], u, rfl, .nil, exchanged⟩
  | cons c a ih =>
    obtain ⟨d, u', pair, rest, rfl⟩ := List.forall₂_cons_left_iff.mp exchanged
    obtain ⟨a', b', rfl, first, second⟩ := ih rest
    exact ⟨d :: a', b', rfl, .cons pair first, second⟩

theorem exists_of_mem_exchanged {a u : Text} {d : CodePoint} (exchanged : List.Forall₂ R a u) (member : d ∈ u) :
    ∃ c ∈ a, R c d := by
  induction exchanged with
  | nil => cases member
  | cons pair _ ih =>
    rcases List.mem_cons.mp member with rfl | later
    · exact ⟨_, List.mem_cons_self, pair⟩
    · obtain ⟨c, among, related⟩ := ih later
      exact ⟨c, List.mem_cons_of_mem _ among, related⟩

theorem rel_head? {a b : Text} (exchanged : List.Forall₂ R a b) : Option.Rel R a.head? b.head? := by
  cases exchanged with
  | nil => exact .none
  | cons pair _ => exact .some pair

theorem rel_getLast?_or {a b : Text} {other : Option CodePoint} (exchanged : List.Forall₂ R a b)
    (before : Option.Rel R previous other) : Option.Rel R (a.getLast?.or previous) (b.getLast?.or other) := by
  have last := rel_head? (List.rel_reverse exchanged)
  rw [List.head?_reverse, List.head?_reverse] at last
  cases lastA : a.getLast? with
  | none =>
    cases lastB : b.getLast? with
    | none => exact before
    | some d => rw [lastA, lastB] at last; cases last
  | some c =>
    cases lastB : b.getLast? with
    | none => rw [lastA, lastB] at last; cases last
    | some d => rwa [lastA, lastB] at last

/-- A match stays one where characters are exchanged, in it and around it. -/
theorem Allows.matches {found' after' : Text} {previous' : Option CodePoint} (allows : p.Allows R)
    (match_ : p.Matches previous found after) (before : Option.Rel R previous previous')
    (inside : List.Forall₂ R found found') (behind : List.Forall₂ R after after') :
    p.Matches previous' found' after' := by
  induction p generalizing previous previous' found found' after after' with
  | one reads =>
    obtain ⟨c, rfl, read⟩ := match_
    obtain ⟨d, _, pair, nothing, rfl⟩ := List.forall₂_cons_left_iff.mp inside
    rw [List.forall₂_nil_left_iff.mp nothing]
    exact ⟨d, rfl, allows c d pair read⟩
  | most reads least | fewest reads least =>
    refine ⟨inside.length_eq ▸ match_.1, fun d member => ?_⟩
    obtain ⟨c, among, pair⟩ := exists_of_mem_exchanged inside member
    exact allows c d pair (match_.2 c among)
  | between holds =>
    obtain ⟨rfl, held⟩ := match_
    exact ⟨List.forall₂_nil_left_iff.mp inside, allows _ _ _ _ before (rel_head? behind) held⟩
  | ahead next ih =>
    obtain ⟨rfl, first, rest, rfl, goes⟩ := match_
    obtain ⟨first', rest', rfl, one, other⟩ := exists_append_of_forall₂ behind
    exact ⟨List.forall₂_nil_left_iff.mp inside, first', rest', rfl, ih allows goes before one other⟩
  | nothing =>
    rw [show found = [] from match_] at inside
    exact List.forall₂_nil_left_iff.mp inside
  | both first second ihFirst ihSecond =>
    obtain ⟨a, b, rfl, matchesA, matchesB⟩ := match_
    obtain ⟨a', b', rfl, one, other⟩ := exists_append_of_forall₂ inside
    have rest : List.Forall₂ R (b ++ after) (b' ++ after') := List.rel_append other behind
    exact ⟨a', b', rfl, ihFirst allows.1 matchesA before one rest,
      ihSecond allows.2 matchesB (rel_getLast?_or one before) other behind⟩
  | either first second ihFirst ihSecond =>
    rcases match_ with one | other
    · exact .inl (ihFirst allows.1 one before inside behind)
    · exact .inr (ihSecond allows.2 other before inside behind)

theorem Allows.occursIn {u : Text} (allows : p.Allows R) (occurs : p.occursIn t = true)
    (exchanged : List.Forall₂ R t u) : p.occursIn u = true := by
  obtain ⟨before, found, after, rfl, match_⟩ := occursIn_iff.mp occurs
  obtain ⟨front, after', rfl, first, third⟩ := exists_append_of_forall₂ exchanged
  obtain ⟨before', found', rfl, outer, inner⟩ := exists_append_of_forall₂ first
  have neighbours := rel_getLast?_or outer (Option.Rel.none (r := R))
  rw [Option.or_none, Option.or_none] at neighbours
  exact occursIn_iff.mpr ⟨before', found', after', rfl, allows.matches match_ neighbours inner third⟩

end Exchange

end LessonService.Pattern
