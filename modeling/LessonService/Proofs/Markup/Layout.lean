import LessonService.Proofs.Markup.Lines
import LessonService.Proofs.Markup.References
import LessonService.Script.Emission
import Mathlib.Data.List.DropRight

namespace LessonService.Script.MarkupText

open Text

variable {c : CodePoint} {line t : Text} {ls : List Text} {holds : CodePoint → Bool}

/-- A line with spaces in the place of tabs. -/
def spaced (line : Text) : Text := line.map fun (c : CodePoint) => if c = '\t' then (' ' : CodePoint) else c

/-- A line without the spaces at its ends, except where the text begins and ends. -/
def trimEnds (first last : Bool) (line : Text) : Text :=
  let line := if first then line else trimLeft isSpace line
  if last then line else trimRight isSpace line

/-- What a line shows. -/
def shown (first last : Bool) (line : Text) : Text := trimEnds first last (spaced line)

theorem trimEnds_sublist (first last : Bool) (line : Text) : (trimEnds first last line).Sublist line := by
  have left (t : Text) : (trimLeft isSpace t).Sublist t := List.dropWhile_sublist _
  have right (t : Text) : (trimRight isSpace t).Sublist t := (List.rdropWhile_prefix isSpace t).sublist
  cases first <;> cases last
  · exact (right _).trans (left _)
  · exact left _
  · exact right _
  · exact List.Sublist.refl _

theorem piece_eq (first last lastFull : Bool) (line : Text) : piece first last lastFull line
    = if (shown first last line).isEmpty || lastFull then shown first last line else shown first last line ++ " " := rfl

theorem isEmpty_trimLeft : (trimLeft holds t).isEmpty = t.all holds := by
  rw [Bool.eq_iff_iff, List.isEmpty_iff, trimLeft, List.dropWhile_eq_nil_iff, List.all_eq_true]

theorem isEmpty_trimRight : (trimRight holds t).isEmpty = t.all holds := by
  rw [Bool.eq_iff_iff, List.isEmpty_iff, List.all_eq_true]
  exact List.rdropWhile_eq_nil_iff

theorem all_trimLeft : (trimLeft holds t).all holds = t.all holds := by
  induction t with
  | nil => rfl
  | cons c t ih =>
    rw [trimLeft] at ih ⊢
    cases here : holds c with
    | false => rw [List.dropWhile_cons_of_neg (by simp [here])]
    | true => rw [List.dropWhile_cons_of_pos here, ih, List.all_cons, here, Bool.true_and]

theorem all_spaced (line : Text) : (spaced line).all isSpace = !isFull line := by
  rw [isFull, Bool.not_not, spaced, List.all_map]
  congr 1
  funext c
  by_cases tab : c = '\t'
  · simp [tab, isSpace, isSpaceOrTab]
  · simp only [Function.comp_apply, isSpace, isSpaceOrTab, if_neg tab, decide_eq_false tab, Bool.or_false]

/-- In a text of several lines, the full ones show something. -/
theorem isEmpty_shown (first last : Bool) (several : (first && last) = false) (line : Text) :
    (shown first last line).isEmpty = !isFull line := by
  rw [← all_spaced]
  cases first <;> cases last
  · exact isEmpty_trimRight.trans all_trimLeft
  · exact isEmpty_trimLeft
  · exact isEmpty_trimRight
  · cases several

/-- The number of the last full line, if lines are counted from some number on. -/
def lastFullFrom (k last : Nat) (ls : List Text) : Nat :=
  (ls.zipIdx k).foldl (fun last (line, i) => if isFull line then i else last) last

theorem lastFullFrom_cons (k last : Nat) (line : Text) (ls : List Text) :
    lastFullFrom k last (line :: ls) = lastFullFrom (k + 1) (if isFull line then k else last) ls := rfl

theorem lastFullFrom_of_none (none : ∀ line ∈ ls, isFull line = false) (k last : Nat) : lastFullFrom k last ls = last := by
  induction ls generalizing k last with
  | nil => rfl
  | cons line ls ih =>
    rw [List.forall_mem_cons] at none
    rw [lastFullFrom_cons, none.1, ih none.2]
    rfl

theorem le_lastFullFrom (some : ∃ line ∈ ls, isFull line = true) (k last : Nat) : k ≤ lastFullFrom k last ls := by
  induction ls generalizing k last with
  | nil =>
    obtain ⟨line, member, -⟩ := some
    cases member
  | cons line ls ih =>
    rw [lastFullFrom_cons]
    by_cases later : ∃ line ∈ ls, isFull line = true
    · exact (Nat.le_succ k).trans (ih later (k + 1) _)
    · have none : ∀ line ∈ ls, isFull line = false := by simpa using later
      obtain ⟨full, member, isFull⟩ := some
      rcases List.mem_cons.mp member with rfl | member
      · rw [lastFullFrom_of_none none, if_pos isFull]
      · exact absurd ⟨full, member, isFull⟩ later

/-- What the lines from some number on show, in a text of so many lines. -/
def shownFrom (count k : Nat) (ls : List Text) : List Text :=
  (ls.zipIdx k).map fun (line, i) => shown (i = 0) (i + 1 = count) line

theorem shownFrom_cons (count k : Nat) (line : Text) (ls : List Text) :
    shownFrom count k (line :: ls) = shown (k = 0) (k + 1 = count) line :: shownFrom count (k + 1) ls := rfl

def piecesFrom (count full k : Nat) (ls : List Text) : Text :=
  (ls.zipIdx k).flatMap fun (line, i) => piece (i = 0) (i + 1 = count) (i = full) line

theorem piecesFrom_cons (count full k : Nat) (line : Text) (ls : List Text) :
    piecesFrom count full k (line :: ls)
      = piece (k = 0) (k + 1 = count) (k = full) line ++ piecesFrom count full (k + 1) ls := rfl

section Several

variable {count : Nat} (several : 2 ≤ count)
include several

theorem isEmpty_shown_at (k : Nat) (line : Text) : (shown (k = 0) (k + 1 = count) line).isEmpty = !isFull line := by
  refine isEmpty_shown _ _ ?_ line
  rw [Bool.and_eq_false_iff, decide_eq_false_iff_not, decide_eq_false_iff_not]
  omega

theorem filter_shownFrom_eq_nil_iff (k : Nat) (ls : List Text) :
    (shownFrom count k ls).filter (fun line => !line.isEmpty) = [] ↔ ∀ line ∈ ls, isFull line = false := by
  induction ls generalizing k with
  | nil => exact iff_of_true rfl (List.forall_mem_nil _)
  | cons line ls ih =>
    rw [shownFrom_cons, List.filter_cons, isEmpty_shown_at several, Bool.not_not, List.forall_mem_cons]
    cases isFull line with
    | false => simpa using ih (k + 1)
    | true => simp

/-- From some line on, the pieces are what the full lines show, with single spaces between them. -/
theorem piecesFrom_eq (ls : List Text) (k last : Nat) : piecesFrom count (lastFullFrom k last ls) k ls
    = join " " ((shownFrom count k ls).filter fun line => !line.isEmpty) := by
  induction ls generalizing k last with
  | nil => rfl
  | cons line ls ih =>
    have isShown := isEmpty_shown_at several k line
    have none := filter_shownFrom_eq_nil_iff several (k + 1) ls
    rw [piecesFrom_cons, lastFullFrom_cons, ih, shownFrom_cons, List.filter_cons, piece_eq, isShown]
    generalize (shownFrom count (k + 1) ls).filter (fun line => !line.isEmpty) = parts at none ⊢
    generalize shown (k = 0) (k + 1 = count) line = text at isShown ⊢
    cases full : isFull line with
    | false =>
      rw [full] at isShown
      cases List.isEmpty_iff.mp isShown
      rfl
    | true =>
      rw [Bool.not_true, Bool.false_or, if_pos rfl, Bool.not_false, if_pos rfl]
      cases parts with
      | nil =>
        rw [lastFullFrom_of_none (none.mp rfl), decide_eq_true rfl, if_pos rfl]
        exact List.append_nil text
      | cons part parts =>
        have later : ∃ line ∈ ls, isFull line = true := by simpa using mt none.mpr (List.cons_ne_nil _ _)
        have before : k ≠ lastFullFrom (k + 1) k ls := Nat.ne_of_lt (le_lastFullFrom later (k + 1) k)
        rw [decide_eq_false before, if_neg Bool.false_ne_true, join_cons_cons]

end Several

/-- What each of the lines of a text shows. -/
def shownLines (ls : List Text) : List Text := shownFrom ls.length 0 ls

/-- A text is laid out as what its lines show, with single spaces between them. -/
theorem layOut_eq (t : Text) : layOut t = join " " ((shownLines (lines t)).filter fun line => !line.isEmpty) := by
  have pieces : layOut t = piecesFrom (lines t).length (lastFullFrom 0 0 (lines t)) 0 (lines t) := rfl
  rw [pieces, shownLines]
  rcases hlines : lines t with _ | ⟨line, _ | ⟨next, rest⟩⟩
  · rfl
  · have full : lastFullFrom 0 0 [line] = 0 := by
      rw [lastFullFrom_cons, ite_self]
      rfl
    rw [full, piecesFrom_cons, shownFrom_cons, piece_eq]
    generalize shown _ _ line = text
    cases text with
    | nil => rfl
    | cons c text => exact List.append_nil _
  · exact piecesFrom_eq (by simp) _ 0 0

theorem shownLines_singleton (line : Text) : shownLines [line] = [spaced line] := rfl

theorem shownFrom_after {count k : Nat} {middle : List Text} (position : k ≠ 0) (whole : k + middle.length + 1 = count)
    (last : Text) : shownFrom count k (middle ++ [last])
      = middle.map (fun line => trimBy isSpace (spaced line)) ++ [trimLeft isSpace (spaced last)] := by
  induction middle generalizing k with
  | nil =>
    have isLast : k + 1 = count := whole
    rw [List.nil_append, shownFrom_cons, decide_eq_false position, decide_eq_true isLast]
    rfl
  | cons line middle ih =>
    rw [List.length_cons] at whole
    have more : k + 1 ≠ count := by omega
    rw [List.cons_append, shownFrom_cons, ih (Nat.succ_ne_zero k) (by omega), decide_eq_false position,
      decide_eq_false more]
    rfl

/-- The first line loses spaces on the right only, the last one on the left only. -/
theorem shownLines_several (first : Text) (middle : List Text) (last : Text) :
    shownLines (first :: (middle ++ [last])) = trimRight isSpace (spaced first) ::
      (middle.map (fun line => trimBy isSpace (spaced line)) ++ [trimLeft isSpace (spaced last)]) := by
  have count : (first :: (middle ++ [last])).length = 0 + 1 + middle.length + 1 := by
    rw [List.length_cons, List.length_append, List.length_singleton]
    omega
  have more : 0 + 1 ≠ (first :: (middle ++ [last])).length := by omega
  rw [shownLines, shownFrom_cons, shownFrom_after (Nat.succ_ne_zero 0) count.symm, decide_eq_false more]
  rfl

theorem isSpaceOrTab_of_isSpace (space : isSpace c = true) : isSpaceOrTab c = true := by
  rw [isSpaceOrTab, show decide (c = ' ') = true from space, Bool.true_or]

theorem spaced_of_notMem (absent : ('\t' : CodePoint) ∉ line) : spaced line = line := by
  have same : ∀ c ∈ line, (if c = '\t' then (' ' : CodePoint) else c) = c := fun c member =>
    if_neg (ne_of_mem_of_not_mem member absent)
  rw [spaced, List.map_congr_left same, List.map_id']

theorem spaced_append_cons (a b : Text) : spaced (a ++ ('\t' : CodePoint) :: b) = spaced a ++ (' ' : CodePoint) :: spaced b := by
  rw [spaced, List.map_append, List.map_cons, if_pos rfl]
  rfl

/-- A line is parted at its first tab, until it has none. -/
theorem tab_induction {motive : Text → Prop} (plain : ∀ line, ('\t' : CodePoint) ∉ line → motive line)
    (parted : ∀ a b, ('\t' : CodePoint) ∉ a → motive b → motive (a ++ ('\t' : CodePoint) :: b)) (line : Text) :
    motive line := by
  by_cases tab : ('\t' : CodePoint) ∈ line
  · obtain ⟨a, b, whole, absent⟩ := List.eq_append_cons_of_mem tab
    have shorter : b.length < line.length := by
      rw [whole, List.length_append, List.length_cons]
      omega
    rw [whole]
    exact parted a b absent (tab_induction plain parted b)
  · exact plain line tab
termination_by line.length

namespace SplitsAtSpaces

variable {β : Type} {f : Text → List β} (splits : SplitsAtSpaces f)
include splits

theorem cons (blank : isSpaceOrTab c = true) (t : Text) : f (c :: t) = f t := by
  rw [← List.nil_append (c :: t), splits.append_cons c blank, splits.nil, List.nil_append]

theorem concat (blank : isSpaceOrTab c = true) (t : Text) : f (t ++ [c]) = f t := by
  rw [splits.append_cons c blank, splits.nil, List.append_nil]

theorem spaced (line : Text) : f (spaced line) = f line := by
  induction line using tab_induction with
  | plain line absent => rw [spaced_of_notMem absent]
  | parted a b absent ih =>
    rw [spaced_append_cons, spaced_of_notMem absent, splits.append_cons _ (by decide), splits.append_cons _ (by decide), ih]

theorem trimLeft (t : Text) : f (trimLeft isSpace t) = f t := by
  induction t with
  | nil => rfl
  | cons c t ih =>
    rw [Text.trimLeft] at ih ⊢
    cases here : isSpace c with
    | false => rw [List.dropWhile_cons_of_neg (by simp [here])]
    | true => rw [List.dropWhile_cons_of_pos here, ih, splits.cons (isSpaceOrTab_of_isSpace here)]

theorem trimRight (t : Text) : f (trimRight isSpace t) = f t := by
  have right (t : Text) : Text.trimRight isSpace t = t.rdropWhile isSpace := rfl
  induction t using List.reverseRecOn with
  | nil => rfl
  | append_singleton t c ih =>
    rw [right] at ih ⊢
    cases here : isSpace c with
    | false => rw [List.rdropWhile_concat_neg isSpace t c (by simp [here])]
    | true => rw [List.rdropWhile_concat_pos isSpace t c here, ih, splits.concat (isSpaceOrTab_of_isSpace here)]

theorem shown (first last : Bool) (line : Text) : f (shown first last line) = f line := by
  cases first <;> cases last
  · exact (splits.trimRight _).trans ((splits.trimLeft _).trans (splits.spaced line))
  · exact (splits.trimLeft _).trans (splits.spaced line)
  · exact (splits.trimRight _).trans (splits.spaced line)
  · exact splits.spaced line

theorem flatMap_shownFrom (count k : Nat) (ls : List Text) : (shownFrom count k ls).flatMap f = ls.flatMap f := by
  induction ls generalizing k with
  | nil => rfl
  | cons line ls ih => rw [shownFrom_cons, List.flatMap_cons, List.flatMap_cons, splits.shown, ih]

theorem join (parts : List Text) : f (join " " (parts.filter fun part => !part.isEmpty)) = parts.flatMap f := by
  have spelled : Text.ofString " " = [(' ' : CodePoint)] := rfl
  induction parts with
  | nil => exact splits.nil
  | cons part parts ih =>
    rw [List.filter_cons, List.flatMap_cons, ← ih]
    generalize parts.filter (fun part => !part.isEmpty) = rest
    cases part with
    | nil => rw [splits.nil]; rfl
    | cons c part =>
      have filled : (!(c :: part).isEmpty) = true := rfl
      rw [if_pos filled]
      cases rest with
      | nil => rw [Text.join, Text.join, splits.nil, List.append_nil]
      | cons next rest =>
        rw [join_cons_cons, List.append_assoc, spelled, List.singleton_append, splits.append_cons _ (by decide)]

/-- Nothing between the spaces of a line is lost where a text is laid out. -/
theorem layOut (t : Text) : f (layOut t) = (lines t).flatMap f := by
  rw [layOut_eq, splits.join, shownLines, splits.flatMap_shownFrom]

end SplitsAtSpaces

theorem SplitsAtBlanks.layOut {β : Type} {f : Text → List β} (splits : SplitsAtBlanks f) (t : Text) :
    f (layOut t) = f t := by
  rw [splits.toSplitsAtSpaces.layOut, ← splits.flatMap_lines]

def isTabOrBreak (c : CodePoint) : Bool := c = '\t' || isBreak c

theorem isTabOrBreak_of_mem_spaced (unbroken : IsUnbroken line) (member : c ∈ spaced line) : isTabOrBreak c = false := by
  obtain ⟨d, inside, rfl⟩ := List.mem_map.mp member
  split
  · decide
  · next other => rw [isTabOrBreak, unbroken d inside, decide_eq_false other, Bool.or_false]

/-- A text that is laid out has neither tabs nor line breaks. -/
theorem isTabOrBreak_of_mem_layOut (member : c ∈ layOut t) : isTabOrBreak c = false := by
  rw [layOut_eq] at member
  rcases mem_join member with space | ⟨part, among, inside⟩
  · have isSpace : c = ' ' := List.mem_singleton.mp space
    rw [isSpace]
    decide
  · obtain ⟨⟨line, i⟩, ofLine, rfl⟩ := List.mem_map.mp (List.mem_filter.mp among).1
    have isLine : line ∈ lines t := List.fst_mem_of_mem_zipIdx ofLine
    exact isTabOrBreak_of_mem_spaced (isUnbroken_of_mem_lines isLine) ((trimEnds_sublist _ _ _).subset inside)

theorem isUnbroken_layOut (t : Text) : IsUnbroken (layOut t) := fun _ member =>
  (Bool.or_eq_false_iff.mp (isTabOrBreak_of_mem_layOut member)).2

theorem eq_of_lines_singleton (single : lines t = [line]) : t = line := by
  have parted := parted_lines t
  rw [single] at parted
  cases parted with
  | last => rfl
  | feed _ rest | pair _ rest | carriage _ _ rest => exact absurd rfl rest.ne_nil

/-- What several lines show, each of them by itself: the first line without the spaces on its right, the last one
without those on its left, the others without both. -/
theorem filter_shownLines_several (first : Text) (middle : List Text) (last : Text) :
    (shownLines (first :: (middle ++ [last]))).filter (fun line => !line.isEmpty) =
      ([first].filter isFull).map (fun line => trimRight isSpace (spaced line)) ++
        (middle.filter isFull).map (fun line => trimBy isSpace (spaced line)) ++
        ([last].filter isFull).map (fun line => trimLeft isSpace (spaced line)) := by
  have full (f : Text → Text) (empty : ∀ line, (f line).isEmpty = !isFull line) (ls : List Text) :
      (ls.map f).filter (fun line => !line.isEmpty) = (ls.filter isFull).map f := by
    rw [List.filter_map]
    congr 2
    funext line
    rw [Function.comp_apply, empty, Bool.not_not]
  have right := full (fun line => trimRight isSpace (spaced line)) fun line =>
    isEmpty_shown true false rfl line
  have both := full (fun line => trimBy isSpace (spaced line)) fun line =>
    isEmpty_shown false false rfl line
  have left := full (fun line => trimLeft isSpace (spaced line)) fun line =>
    isEmpty_shown false true rfl line
  rw [← right, ← both, ← left, ← List.filter_append, ← List.filter_append, shownLines_several]
  rfl

/-- A text without references loses no word, and its line breaks go. One line stays as it is, but for its tabs. Of
several lines, the full ones are trimmed and joined by single spaces. -/
theorem clean_of_notMem {raw : Text} (plain : ('&' : CodePoint) ∉ raw) :
    referenceFailure raw = none ∧
      (∀ c ∈ clean raw, c ≠ '\n' ∧ c ≠ '\r') ∧
      runs isSolid (clean raw) = runs isSolid raw ∧
      (∀ line, lines raw = [line] → clean raw = spaced raw) ∧
      ∀ first middle last, lines raw = first :: (middle ++ [last]) →
        clean raw = join " " (([first].filter isFull).map (fun line => trimRight isSpace (spaced line)) ++
          (middle.filter isFull).map (fun line => trimBy isSpace (spaced line)) ++
          ([last].filter isFull).map (fun line => trimLeft isSpace (spaced line))) := by
  have undecoded : clean raw = layOut raw := congrArg layOut (CharacterReference.decode_of_notMem plain)
  rw [undecoded]
  refine ⟨?_, fun c member => (isUnbroken_layOut raw).ne member, splitsAtBlanks_runs.layOut raw, fun line single => ?_,
    fun first middle last several => ?_⟩
  · rw [referenceFailure, CharacterReference.overlong?, CharacterReference.findAll_of_notMem plain]
    rfl
  · rw [layOut_eq, single, shownLines_singleton, eq_of_lines_singleton single]
    cases spaced line with
    | nil => rfl
    | cons c rest => rfl
  · rw [layOut_eq, several, filter_shownLines_several]

def indented : Text := "\n    Hello\tthere\r\n    world  \n  "

theorem clean_of_notMem_indented :
    ('&' : CodePoint) ∉ indented ∧ clean indented = "Hello there world" := by
  have plain : ('&' : CodePoint) ∉ indented := by decide
  have several : lines indented = ([] : Text) :: ([Text.ofString "    Hello\tthere", Text.ofString "    world  "]
      ++ [Text.ofString "  "]) := by decide +kernel
  refine ⟨plain, ?_⟩
  rw [(clean_of_notMem plain).2.2.2.2 _ _ _ several]
  decide +kernel

end LessonService.Script.MarkupText
