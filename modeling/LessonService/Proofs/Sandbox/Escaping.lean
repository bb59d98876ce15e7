import LessonService.Sandbox
import LessonService.Proofs.Script.Hazards
import LessonService.Proofs.Text.Occurrence
import Mathlib.Data.List.Chain

namespace LessonService.Sandbox

variable {t u : Text} {c : CodePoint}

/-- A text and what is made of it by putting backslashes before some of its slashes and exclamation marks. -/
inductive Broken : Text → Text → Prop
  | nil : Broken [] []
  | keep (c : CodePoint) {t u : Text} (rest : Broken t u) : Broken (c :: t) (c :: u)
  | insert {c : CodePoint} {t u : Text} (breaks : c = '/' ∨ c = '!') (rest : Broken t u) :
    Broken (c :: t) ('\\' :: c :: u)

theorem Broken.refl : ∀ t : Text, Broken t t
  | [] => .nil
  | c :: t => .keep c (refl t)

theorem breakTags_broken (t : Text) : Broken t (breakTags t) := by
  fun_induction breakTags t with
  | case1 => exact .nil
  | case2 c => exact .refl [c]
  | case3 c d t tag ih =>
    simp only [Bool.and_eq_true, decide_eq_true_eq] at tag
    obtain ⟨rfl, rfl⟩ := tag
    exact .keep _ (.insert (.inl rfl) ih)
  | case4 c d t plain ih => exact .keep c ih

theorem breakComments_broken (t : Text) : Broken t (breakComments t) := by
  fun_induction breakComments t with
  | case1 c d e f t comment ih =>
    simp only [Bool.and_eq_true, decide_eq_true_eq] at comment
    obtain ⟨⟨⟨rfl, rfl⟩, rfl⟩, rfl⟩ := comment
    exact .keep _ (.insert (.inr rfl) (.keep _ (.keep _ ih)))
  | case2 c d e f t plain ih => exact .keep c ih
  | case3 t short => exact .refl t

theorem head?_breakTags (t : Text) : (breakTags t).head? = t.head? := by
  fun_cases breakTags t with
  | case1 | case2 | case4 => rfl
  | case3 c d t tag =>
    simp only [Bool.and_eq_true, decide_eq_true_eq] at tag
    rw [tag.1]
    rfl

theorem head?_breakComments (t : Text) : (breakComments t).head? = t.head? := by
  fun_cases breakComments t with
  | case2 | case3 => rfl
  | case1 c d e f t comment =>
    simp only [Bool.and_eq_true, decide_eq_true_eq] at comment
    rw [comment.1.1.1]
    rfl

namespace Broken

theorem of_append {a b : Text} (broken : Broken (a ++ b) u) : ∃ a' b', u = a' ++ b' ∧ Broken a a' ∧ Broken b b' := by
  induction a generalizing u with
  | nil => exact ⟨[], u, rfl, .nil, broken⟩
  | cons c a ih =>
    cases broken with
    | keep _ rest =>
      obtain ⟨a', b', rfl, first, second⟩ := ih rest
      exact ⟨c :: a', b', rfl, .keep c first, second⟩
    | insert breaks rest =>
      obtain ⟨a', b', rfl, first, second⟩ := ih rest
      exact ⟨'\\' :: c :: a', b', rfl, .insert breaks first, second⟩

/-- A backslash is never put in at the end. -/
theorem getLast?_eq (broken : Broken t u) : u.getLast? = t.getLast? := by
  induction broken with
  | nil => rfl
  | keep c rest ih => rw [List.getLast?_cons, List.getLast?_cons, ih]
  | insert breaks rest ih => rw [List.getLast?_cons_cons, List.getLast?_cons, List.getLast?_cons, ih]

/-- What holds nothing to be broken up stays as it is. -/
theorem of_plain_append {found after : Text} (plain : ∀ c ∈ found, c ∉ ("/!\\" : Text))
    (broken : Broken (found ++ after) u) : ∃ after', u = found ++ after' ∧ Broken after after' := by
  induction found generalizing u with
  | nil => exact ⟨u, rfl, broken⟩
  | cons c found ih =>
    rw [List.forall_mem_cons] at plain
    cases broken with
    | keep _ rest =>
      obtain ⟨after', rfl, broken⟩ := ih plain.2 rest
      exact ⟨after', rfl, broken⟩
    | insert breaks rest =>
      rcases breaks with rfl | rfl
      · exact absurd (by decide) plain.1
      · exact absurd (by decide) plain.1

theorem to_plain_append {found after : Text} (plain : ∀ c ∈ found, c ∉ ("/!\\" : Text))
    (broken : Broken t (found ++ after)) : ∃ after', t = found ++ after' ∧ Broken after' after := by
  induction found generalizing t with
  | nil => exact ⟨t, rfl, broken⟩
  | cons c found ih =>
    rw [List.forall_mem_cons] at plain
    rw [List.cons_append] at broken
    generalize whole : found ++ after = v at broken
    cases broken with
    | keep _ rest =>
      obtain ⟨after', rfl, broken⟩ := ih plain.2 (whole ▸ rest)
      exact ⟨after', rfl, broken⟩
    | insert breaks rest => exact absurd (by decide) plain.1

/-- A text can be parted as what is made of it, except between a backslash and what it breaks up. -/
theorem to_append {a b : Text} (start : ∀ c ∈ b.head?, c ≠ '/' ∧ c ≠ '!') (broken : Broken t (a ++ b)) :
    ∃ a' b', t = a' ++ b' ∧ Broken a' a ∧ Broken b' b := by
  generalize whole : a ++ b = u at broken
  induction broken generalizing a with
  | nil =>
    obtain ⟨rfl, rfl⟩ := List.append_eq_nil_iff.mp whole
    exact ⟨[], [], rfl, .nil, .nil⟩
  | @keep c t u rest ih =>
    cases a with
    | nil => exact ⟨[], c :: t, rfl, .nil, (show b = c :: u from whole) ▸ .keep c rest⟩
    | cons d a =>
      cases whole
      obtain ⟨a', b', rfl, first, second⟩ := ih rfl
      exact ⟨c :: a', b', rfl, .keep c first, second⟩
  | @insert c t u breaks rest ih =>
    match a with
    | [] => exact ⟨[], c :: t, rfl, .nil, (show b = ('\\' : CodePoint) :: c :: u from whole) ▸ .insert breaks rest⟩
    | [_] =>
      obtain ⟨-, rfl⟩ := List.cons.inj whole
      exact absurd breaks (not_or.mpr (start c rfl))
    | _ :: _ :: a =>
      cases whole
      obtain ⟨a', b', rfl, first, second⟩ := ih rfl
      exact ⟨c :: a', b', rfl, .insert breaks first, second⟩

theorem occursIn_iff (broken : Broken t u) (h : Script.Hazard) :
    h.pattern.occursIn u = true ↔ h.pattern.occursIn t = true := by
  rw [h.occursIn_iff_spelled, h.occursIn_iff_spelled]
  constructor
  · rintro ⟨before, found, after, rfl, spelled⟩
    rw [List.append_assoc] at broken
    have start : ∀ c ∈ (found ++ after).head?, c ≠ '/' ∧ c ≠ '!' := by
      cases found with
      | nil => exact absurd rfl spelled.ne_nil
      | cons c found =>
        rintro d ⟨⟩
        constructor <;> rintro rfl <;> exact spelled.plain _ List.mem_cons_self (by decide)
    obtain ⟨before', rest, rfl, first, second⟩ := broken.to_append start
    obtain ⟨after', rfl, -⟩ := second.to_plain_append spelled.plain
    exact ⟨before', found, after', (List.append_assoc ..).symm, first.getLast?_eq ▸ spelled⟩
  · rintro ⟨before, found, after, rfl, spelled⟩
    rw [List.append_assoc] at broken
    obtain ⟨before', rest, rfl, first, second⟩ := broken.of_append
    obtain ⟨after', rfl, -⟩ := second.of_plain_append spelled.plain
    exact ⟨before', found, after', (List.append_assoc ..).symm, first.getLast?_eq ▸ spelled⟩

end Broken

/-- Two characters that do not start the end of an element. -/
def NotClosing (a b : CodePoint) : Prop := ¬(a = '<' ∧ b = '/')

theorem isChain_notClosing_iff : t.IsChain NotClosing ↔ Text.contains "</" t = false := by
  have pair : ("</" : Text) = [('<' : CodePoint), ('/' : CodePoint)] := rfl
  rw [Text.contains_eq_false_iff, List.isChain_iff_forall_rel_of_append_cons_cons, pair]
  constructor
  · rintro chain ⟨before, after, split⟩
    exact chain (by simpa using split.symm) ⟨rfl, rfl⟩
  · rintro absent a b before after rfl ⟨rfl, rfl⟩
    exact absent ⟨before, after, by simp⟩

theorem isChain_cons_of_ne (other : c ≠ '<') : (c :: t).IsChain NotClosing ↔ t.IsChain NotClosing := by
  rw [List.isChain_cons, and_iff_right]
  exact fun _ _ closing => other closing.1

theorem isChain_broken (rest : t.IsChain NotClosing) : (('<' : CodePoint) :: '\\' :: t).IsChain NotClosing :=
  List.isChain_cons_cons.mpr ⟨fun closing => absurd closing.2 (by decide),
    (isChain_cons_of_ne (by decide)).mpr rest⟩

theorem breakTags_isChain (t : Text) : (breakTags t).IsChain NotClosing := by
  fun_induction breakTags t with
  | case1 => exact .nil
  | case2 c => exact .singleton c
  | case3 c d t tag ih => exact isChain_broken ((isChain_cons_of_ne (by decide)).mpr ih)
  | case4 c d t plain ih =>
    refine List.isChain_cons.mpr ⟨fun y head closing => plain ?_, ih⟩
    rw [head?_breakTags] at head
    cases head
    simpa using closing

theorem breakComments_isChain (chain : t.IsChain NotClosing) : (breakComments t).IsChain NotClosing := by
  fun_induction breakComments t with
  | case1 c d e f t comment ih =>
    have rest : t.IsChain NotClosing := chain.tail.tail.tail.tail
    refine isChain_broken ?_
    iterate 3 rw [isChain_cons_of_ne (by decide)]
    exact ih rest
  | case2 c d e f t plain ih =>
    refine List.isChain_cons.mpr ⟨?_, ih chain.tail⟩
    rw [head?_breakComments]
    exact (List.isChain_cons.mp chain).1
  | case3 t short => exact chain

theorem breakTags_cons (other : c ≠ '<') (t : Text) : breakTags (c :: t) = c :: breakTags t := by
  cases t with
  | nil => rfl
  | cons d t =>
    rw [breakTags, if_neg]
    simp only [Bool.and_eq_true, decide_eq_true_eq]
    exact fun tag => other tag.1

theorem breakComments_cons (other : c ≠ '<') (t : Text) : breakComments (c :: t) = c :: breakComments t := by
  match t with
  | [] | [_] | [_, _] => rfl
  | d :: e :: f :: t =>
    rw [breakComments, if_neg]
    simp only [Bool.and_eq_true, decide_eq_true_eq]
    exact fun comment => other comment.1.1.1

theorem length_lt_of_short (short : ∀ (c d e f : CodePoint) (rest : List CodePoint), t = c :: d :: e :: f :: rest → False) :
    t.length < 4 := by
  match t, short with
  | [], _ | [_], _ | [_, _], _ | [_, _, _], _ => simp
  | _ :: _ :: _ :: _ :: _, short => exact (short _ _ _ _ _ rfl).elim

theorem breakComments_of_short (short : t.length < 4) : breakComments t = t := by
  match t with
  | [] | [_] | [_, _] | [_, _, _] => rfl
  | _ :: _ :: _ :: _ :: t =>
    simp only [List.length_cons] at short
    omega

/-- Only a tag is changed at the start of a text. -/
theorem prefix_breakComments_iff {part : Text} (plain : ('<' : CodePoint) ∉ part) (t : Text) :
    part <+: breakComments t ↔ part <+: t := by
  induction part generalizing t with
  | nil => simp
  | cons x part ih =>
    rw [List.mem_cons, not_or] at plain
    cases t with
    | nil => rfl
    | cons c t =>
      by_cases tag : c = '<'
      · have differ (u : Text) (head : u.head? = some c) : ¬x :: part <+: u := by
          rintro ⟨rest, rfl⟩
          exact plain.1 (tag ▸ (Option.some.inj head).symm)
        exact iff_of_false (differ _ (head?_breakComments _)) (differ _ rfl)
      · rw [breakComments_cons tag, List.cons_prefix_cons, List.cons_prefix_cons, ih plain.2]

theorem breakComments_contains (t : Text) : Text.contains "<!--" (breakComments t) = false := by
  have start : ("<!--" : Text) = [('<' : CodePoint), '!', '-', '-'] := rfl
  rw [Text.contains_eq_false_iff, start]
  fun_induction breakComments t with
  | case1 c d e f t comment ih =>
    simpa [List.infix_cons_iff, List.cons_prefix_cons] using ih
  | case2 c d e f t plain ih =>
    rw [List.infix_cons_iff, List.cons_prefix_cons, prefix_breakComments_iff (by decide)]
    rintro (⟨rfl, comment⟩ | later)
    · simp only [List.cons_prefix_cons] at comment
      obtain ⟨rfl, rfl, rfl, -⟩ := comment
      exact plain rfl
    · exact ih later
  | case3 t short =>
    rintro ⟨before, after, rfl⟩
    match before, short with
    | [], short | [_], short | [_, _], short | [_, _, _], short | _ :: _ :: _ :: _ :: _, short =>
      exact short _ _ _ _ _ rfl

theorem breakTags_append_cons (other : c ≠ '<') (slash : c ≠ '/') (t u : Text) :
    breakTags (t ++ c :: u) = breakTags t ++ c :: breakTags u := by
  fun_induction breakTags t with
  | case1 => exact breakTags_cons other u
  | case2 d =>
    have plain : ¬(decide (d = '<') && decide (c = '/')) = true := by
      rw [Bool.and_eq_true, decide_eq_true_eq, decide_eq_true_eq]
      exact fun tag => slash tag.2
    rw [List.singleton_append, breakTags, if_neg plain, breakTags_cons other, List.singleton_append]
  | case3 d e t tag ih => simp only [List.cons_append, breakTags, if_pos tag, ih]
  | case4 d e t plain ih =>
    simp only [List.cons_append, breakTags, if_neg plain] at ih ⊢
    rw [ih]

theorem breakComments_cons_of_not_prefix (other : ¬("<!--" : Text) <+: c :: t) :
    breakComments (c :: t) = c :: breakComments t := by
  match t with
  | [] | [_] | [_, _] => rfl
  | d :: e :: f :: t =>
    rw [breakComments, if_neg]
    simp only [Bool.and_eq_true, decide_eq_true_eq]
    rintro ⟨⟨⟨rfl, rfl⟩, rfl⟩, rfl⟩
    exact other ⟨t, rfl⟩

theorem breakComments_append_cons (apart : c ∉ ("<!--" : Text)) (t u : Text) :
    breakComments (t ++ c :: u) = breakComments t ++ c :: breakComments u := by
  have other : c ≠ '<' := fun tag => apart (tag ▸ List.mem_cons_self)
  fun_induction breakComments t with
  | case1 d e f g t comment ih => simp only [List.cons_append, breakComments, if_pos comment, ih]
  | case2 d e f g t plain ih =>
    simp only [List.cons_append, breakComments, if_neg plain] at ih ⊢
    rw [ih]
  | case3 t short =>
    have few := length_lt_of_short short
    clear short
    induction t with
    | nil => exact breakComments_cons other u
    | cons d t ih =>
      rw [List.cons_append, breakComments_cons_of_not_prefix, ih (Nat.lt_of_succ_lt few), List.cons_append]
      rw [← List.cons_append]
      exact fun comment => Nat.not_le_of_lt few (Text.prefix_of_prefix_append_cons apart comment).length_le

/-- A character that is no part of a tag or a comment parts code. -/
theorem scriptBody_append_cons (apart : c ∉ ("</!--" : Text)) (t u : Text) :
    scriptBody (t ++ c :: u) = scriptBody t ++ c :: scriptBody u := by
  have parts : c ≠ '<' ∧ c ≠ '/' ∧ c ∉ ("!--" : Text) := by
    rw [← not_or, ← not_or]
    exact fun member => apart (by simpa [Text.ofString] using member)
  unfold scriptBody
  rw [breakTags_append_cons parts.1 parts.2.1, breakComments_append_cons]
  exact fun member => (List.mem_cons.mp member).elim parts.1 parts.2.2

/-- Code holds neither the end of an element nor the start of a comment once it stands in a script. -/
theorem scriptBody_contains (code : Text) :
    Text.contains "</" (scriptBody code) = false ∧ Text.contains "<!--" (scriptBody code) = false :=
  ⟨isChain_notClosing_iff.mp (breakComments_isChain (breakTags_isChain code)), breakComments_contains _⟩

theorem notMem_escapeCharacter (c : CodePoint) : ('<' : CodePoint) ∉ escapeCharacter c := by
  unfold escapeCharacter
  split
  · decide
  split
  · decide
  rename_i other
  iterate 3
    split
    · decide
  exact fun member => other (List.mem_singleton.mp member).symm

theorem notMem_escape (t : Text) : ('<' : CodePoint) ∉ escape t := by
  rw [escape, List.mem_flatMap]
  rintro ⟨c, -, member⟩
  exact notMem_escapeCharacter c member

end LessonService.Sandbox
