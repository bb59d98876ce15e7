import LessonService.Proofs.Markup.Layout
import LessonService.Proofs.Text.Trim
import Mathlib.Data.List.Forall2

namespace LessonService.Script.MarkupText

open Text Pattern CharacterReference

variable {c : CodePoint} {a b line t raw : Text} {ls ls' : List Text}

theorem mayRead_of_isSpaceOrTab (blank : isSpaceOrTab c = true) : pattern.mayRead c = false := by
  rcases (Bool.or_eq_true _ _).mp blank with space | tab
  · rw [of_decide_eq_true space]
    decide
  · rw [of_decide_eq_true tab]
    decide

theorem mayRead_feed : pattern.mayRead '\n' = false := by decide

theorem splitsAtSpaces_findAll : SplitsAtSpaces pattern.findAll where
  nil := findAll_of_notMem List.not_mem_nil
  append_cons _ blank a b := findAll_append_cons (mayRead_of_isSpaceOrTab blank) a b

theorem splitsAtBlanks_overlongs : SplitsAtBlanks overlongs where
  nil := overlongs_of_notMem List.not_mem_nil
  append_cons _ blank a b := overlongs_append_cons (mayRead_of_isSpaceOrTab blank) a b
  append_break c broken a b := by
    rcases (Bool.or_eq_true _ _).mp broken with feed | carriage
    · rw [of_decide_eq_true feed]
      exact overlongs_append_cons mayRead_feed a b
    · rw [of_decide_eq_true carriage]
      exact overlongs_append_return a b

/-- No reference of a text stands for a tab or a line break. -/
def IsInline (t : Text) : Prop := ∀ m ∈ pattern.findAll t, ∀ c ∈ decodeOne m, isTabOrBreak c = false

theorem isInline_append_cons (blank : isSpaceOrTab c = true) : IsInline (a ++ c :: b) ↔ IsInline a ∧ IsInline b := by
  rw [IsInline, splitsAtSpaces_findAll.append_cons c blank, List.forall_mem_append]
  rfl

theorem mem_decode {m : Text} (among : m ∈ pattern.findAll t) (member : c ∈ decodeOne m) : c ∈ decode t := by
  rw [decode_eq]
  exact List.mem_flatMap.mpr ⟨_, mem_findAll.mp among, member⟩

/-- A tab or a line break that is left stands in the text. -/
theorem mem_of_mem_decode (inline : IsInline t) (member : c ∈ decode t) (layout : isTabOrBreak c = true) : c ∈ t := by
  rw [decode_eq] at member
  obtain ⟨segment, among, inside⟩ := List.mem_flatMap.mp member
  cases segment with
  | kept d =>
    rw [List.mem_singleton.mp inside, ← flatMap_text_segmentsFrom pattern none t]
    exact List.mem_flatMap.mpr ⟨_, among, List.mem_singleton_self d⟩
  | found m => exact absurd (inline m (mem_findAll.mpr among) c inside) (by simp [layout])

theorem isUnbroken_decode (inline : IsInline t) (unbroken : IsUnbroken t) : IsUnbroken (decode t) := by
  intro c member
  by_contra broken
  have layout : isTabOrBreak c = true := by
    rw [isTabOrBreak, (Bool.not_eq_false _).mp broken, Bool.or_true]
  exact broken (unbroken c (mem_of_mem_decode inline member layout))

theorem decode_nil : decode [] = [] := decode_of_notMem List.not_mem_nil

theorem decode_spaced (inline : IsInline line) : decode (spaced line) = spaced (decode line) := by
  induction line using tab_induction with
  | plain line absent =>
    have absentThere : ('\t' : CodePoint) ∉ decode line := fun member =>
      absent (mem_of_mem_decode inline member (by decide))
    rw [spaced_of_notMem absent, spaced_of_notMem absentThere]
  | parted a b absent ih =>
    obtain ⟨first, second⟩ := (isInline_append_cons (by decide)).mp inline
    have absentThere : ('\t' : CodePoint) ∉ decode a := fun member =>
      absent (mem_of_mem_decode first member (by decide))
    rw [spaced_append_cons, spaced_of_notMem absent, decode_append_cons (mayRead_of_isSpaceOrTab (by decide)),
      decode_append_cons (mayRead_of_isSpaceOrTab (by decide)), spaced_append_cons, spaced_of_notMem absentThere,
      ih second]

theorem notMem_of_isSpace (all : ∀ c ∈ t, isSpace c = true) : ampersand ∉ t := fun member =>
  absurd (all _ member) (by decide)

theorem decode_append_of_isSpace (all : ∀ c ∈ b, isSpace c = true) : decode (a ++ b) = decode a ++ b := by
  cases b with
  | nil => rw [List.append_nil, List.append_nil]
  | cons c b =>
    rw [List.forall_mem_cons] at all
    rw [decode_append_cons (mayRead_of_isSpaceOrTab (isSpaceOrTab_of_isSpace all.1)),
      decode_of_notMem (notMem_of_isSpace all.2)]

theorem exists_decode_trimLeft (t : Text) :
    ∃ spaces, (∀ c ∈ spaces, isSpace c = true) ∧ decode t = spaces ++ decode (trimLeft isSpace t) := by
  have all : ∀ c ∈ t.takeWhile isSpace, isSpace c = true := fun c member => List.mem_takeWhile_imp member
  refine ⟨t.takeWhile isSpace, all, ?_⟩
  rw [← decode_append_of_notMem (notMem_of_isSpace all), trimLeft, List.takeWhile_append_dropWhile]

theorem exists_decode_trimRight (t : Text) :
    ∃ spaces, (∀ c ∈ spaces, isSpace c = true) ∧ decode t = decode (trimRight isSpace t) ++ spaces := by
  have all : ∀ c ∈ t.rtakeWhile isSpace, isSpace c = true := fun c member => List.mem_rtakeWhile_imp member
  refine ⟨t.rtakeWhile isSpace, all, ?_⟩
  have whole : trimRight isSpace t ++ t.rtakeWhile isSpace = t := List.rdropWhile_append_rtakeWhile
  rw [← decode_append_of_isSpace all, whole]

/-- Spaces that are trimmed before a line is decoded are trimmed after it as well. -/
theorem trimEnds_decode (first last : Bool) (t : Text) :
    trimEnds first last (decode (trimEnds first last t)) = trimEnds first last (decode t) := by
  obtain ⟨before, allBefore, left⟩ := exists_decode_trimLeft t
  obtain ⟨after, allAfter, right⟩ := exists_decode_trimRight t
  obtain ⟨rest, allRest, both⟩ := exists_decode_trimRight (trimLeft isSpace t)
  cases first <;> cases last
  · show trimBy isSpace (decode (trimBy isSpace t)) = trimBy isSpace (decode t)
    have same : trimBy isSpace (decode t) = trimBy isSpace (decode (trimLeft isSpace t)) := by
      rw [left, trimBy, trimLeft_append_of_all allBefore, trimBy]
    rw [same, both, trimBy_append_of_all allRest]
    rfl
  · show trimLeft isSpace (decode (trimLeft isSpace t)) = trimLeft isSpace (decode t)
    rw [left, trimLeft_append_of_all allBefore]
  · show trimRight isSpace (decode (trimRight isSpace t)) = trimRight isSpace (decode t)
    rw [right, trimRight_append_of_all allAfter]
  · rfl

theorem shown_decode (first last : Bool) (inline : IsInline line) :
    shown first last (decode line) = trimEnds first last (decode (shown first last line)) := by
  rw [shown, ← decode_spaced inline, shown, trimEnds_decode]

/-- A text begins and ends with no space, where spaces are trimmed. -/
def KeepsEnds (first last : Bool) (t : Text) : Prop :=
  (first = false → t.head? ≠ some (' ' : CodePoint)) ∧ (last = false → t.getLast? ≠ some (' ' : CodePoint))

theorem trimLeft_eq_self_iff : trimLeft isSpace t = t ↔ t.head? ≠ some (' ' : CodePoint) := by
  constructor
  · intro same head
    rw [← same] at head
    exact absurd (head?_trimLeft_not head) (by decide)
  · intro other
    exact trimLeft_eq_self fun c head => decide_eq_false fun space => other (by rw [← space]; exact head)

theorem trimRight_eq_self_iff : trimRight isSpace t = t ↔ t.getLast? ≠ some (' ' : CodePoint) := by
  constructor
  · intro same last
    rw [← same] at last
    exact absurd (getLast?_trimRight_not last) (by decide)
  · intro other
    exact trimRight_eq_self fun c last => decide_eq_false fun space => other (by rw [← space]; exact last)

theorem trimEnds_eq_self_iff (first last : Bool) : trimEnds first last t = t ↔ KeepsEnds first last t := by
  cases first <;> cases last
  · have both : trimRight isSpace (trimLeft isSpace t) = t ↔ trimLeft isSpace t = t ∧ trimRight isSpace t = t := by
      constructor
      · intro same
        have right : (trimRight isSpace (trimLeft isSpace t)).Sublist (trimLeft isSpace t) :=
          (List.rdropWhile_prefix isSpace _).sublist
        rw [same] at right
        have left : trimLeft isSpace t = t := (right.antisymm (List.dropWhile_sublist isSpace)).symm
        rw [left] at same
        exact ⟨left, same⟩
      · rintro ⟨left, right⟩
        rw [left, right]
    rw [trimLeft_eq_self_iff, trimRight_eq_self_iff] at both
    exact both.trans ⟨fun ends => ⟨fun _ => ends.1, fun _ => ends.2⟩, fun ends => ⟨ends.1 rfl, ends.2 rfl⟩⟩
  · exact trimLeft_eq_self_iff.trans ⟨fun other => ⟨fun _ => other, nofun⟩, fun ends => ends.1 rfl⟩
  · exact trimRight_eq_self_iff.trans ⟨fun other => ⟨nofun, fun _ => other⟩, fun ends => ends.2 rfl⟩
  · exact iff_of_true rfl ⟨nofun, nofun⟩

/-- A text that is parted into lines, where an empty line may stand within a pair of a carriage return and a line
feed. -/
inductive LooselyParted : Text → List Text → Prop
  | last {line : Text} (unbroken : IsUnbroken line) : LooselyParted line [line]
  | feed {line t : Text} {ls : List Text} (unbroken : IsUnbroken line) (rest : LooselyParted t ls) :
    LooselyParted (line ++ ('\n' : CodePoint) :: t) (line :: ls)
  | pair {line t : Text} {ls : List Text} (unbroken : IsUnbroken line) (rest : LooselyParted t ls) :
    LooselyParted (line ++ ('\r' : CodePoint) :: ('\n' : CodePoint) :: t) (line :: ls)
  | carriage {line t : Text} {ls : List Text} (unbroken : IsUnbroken line) (rest : LooselyParted t ls) :
    LooselyParted (line ++ ('\r' : CodePoint) :: t) (line :: ls)

/-- Lines that differ in empty ones only, which are neither the first nor the last. -/
def Alike (ls ls' : List Text) : Prop :=
  ls = ls' ∨ ∃ first middle middle' last, ls = first :: (middle ++ [last]) ∧ ls' = first :: (middle' ++ [last]) ∧
    middle.filter isFull = middle'.filter isFull

theorem Alike.cons (alike : Alike ls ls') (line : Text) : Alike (line :: ls) (line :: ls') := by
  rcases alike with rfl | ⟨first, middle, middle', last, rfl, rfl, same⟩
  · exact .inl rfl
  · exact .inr ⟨line, first :: middle, first :: middle', last, rfl, rfl, by simp [List.filter_cons, same]⟩

theorem Alike.cons_empty (alike : Alike ls ([] :: ls')) (filled : ls' ≠ []) (line : Text) :
    Alike (line :: ls) (line :: ls') := by
  have empty : isFull [] = false := rfl
  rcases alike with rfl | ⟨first, middle, middle', last, rfl, split, same⟩
  · obtain ⟨middle, last, rfl⟩ := (List.eq_nil_or_concat' ls').resolve_left filled
    exact .inr ⟨line, [] :: middle, middle, last, rfl, rfl, by rw [List.filter_cons_of_neg (by simp [empty])]⟩
  · obtain ⟨rfl, rfl⟩ := List.cons.inj split
    refine .inr ⟨line, [] :: middle, middle', last, rfl, rfl, ?_⟩
    rw [List.filter_cons_of_neg (by simp [empty]), same]

theorem Alike.filter_shownLines (alike : Alike ls ls') : (shownLines ls).filter (fun line => !line.isEmpty)
    = (shownLines ls').filter fun line => !line.isEmpty := by
  rcases alike with rfl | ⟨first, middle, middle', last, rfl, rfl, same⟩
  · rfl
  · rw [filter_shownLines_several, filter_shownLines_several, same]

namespace LooselyParted

theorem alike (parted : LooselyParted t ls) : Alike ls (lines t) := by
  induction parted with
  | last unbroken => exact .inl (Parted.last unbroken).lines_eq.symm
  | @feed line t _ unbroken rest ih =>
    rw [(Parted.feed unbroken (parted_lines t)).lines_eq]
    exact ih.cons line
  | @pair line t _ unbroken rest ih =>
    rw [(Parted.pair unbroken (parted_lines t)).lines_eq]
    exact ih.cons line
  | @carriage line t _ unbroken rest ih =>
    by_cases alone : t.head? = some ('\n' : CodePoint)
    · -- The line feed parts an empty line, which goes with the pair.
      obtain ⟨more, rfl⟩ := List.head?_eq_some_iff.mp alone
      rw [lines_feed] at ih
      rw [(Parted.pair unbroken (parted_lines more)).lines_eq]
      exact ih.cons_empty (parted_lines more).ne_nil line
    · rw [(Parted.carriage unbroken alone (parted_lines t)).lines_eq]
      exact ih.cons line

theorem layOut_eq (parted : LooselyParted t ls) :
    layOut t = join " " ((shownLines ls).filter fun line => !line.isEmpty) := by
  rw [MarkupText.layOut_eq, parted.alike.filter_shownLines]

end LooselyParted

/-- A text is decoded line by line. -/
theorem Parted.decode (parted : Parted t ls) (inline : ∀ line ∈ ls, IsInline line) :
    LooselyParted (decode t) (ls.map decode) := by
  induction parted with
  | last unbroken =>
    rw [List.forall_mem_singleton] at inline
    exact .last (isUnbroken_decode inline unbroken)
  | feed unbroken rest ih =>
    rw [List.forall_mem_cons] at inline
    rw [decode_append_cons mayRead_feed]
    exact .feed (isUnbroken_decode inline.1 unbroken) (ih inline.2)
  | @pair line t ls unbroken rest ih =>
    rw [List.forall_mem_cons] at inline
    have feed : CharacterReference.decode (('\n' : CodePoint) :: t)
        = ('\n' : CodePoint) :: CharacterReference.decode t :=
      decode_append_of_notMem (a := ['\n']) (by decide) t
    rw [decode_append_return, feed]
    exact .pair (isUnbroken_decode inline.1 unbroken) (ih inline.2)
  | carriage unbroken alone rest ih =>
    rw [List.forall_mem_cons] at inline
    rw [decode_append_return]
    exact .carriage (isUnbroken_decode inline.1 unbroken) (ih inline.2)

theorem decode_join (parts : List Text) : decode (join " " parts) = join " " (parts.map decode) := by
  have spelled : Text.ofString " " = [(' ' : CodePoint)] := rfl
  induction parts with
  | nil => exact decode_nil
  | cons part parts ih =>
    cases parts with
    | nil => rfl
    | cons next rest =>
      rw [List.map_cons] at ih
      rw [join_cons_cons, List.map_cons, List.map_cons, join_cons_cons, ← ih, spelled, List.append_assoc,
        List.singleton_append, decode_append_cons (mayRead_of_isSpaceOrTab (by decide)), List.append_assoc,
        List.singleton_append]

theorem length_join (parts : List Text) : (join " " parts).length = parts.flatten.length + (parts.length - 1) := by
  have space : (Text.ofString " ").length = 1 := rfl
  induction parts with
  | nil => rfl
  | cons part parts ih =>
    cases parts with
    | nil => simp [join]
    | cons next rest =>
      rw [join_cons_cons, List.length_append, List.length_append, space, ih]
      simp only [List.flatten_cons, List.length_append, List.length_cons]
      omega

theorem length_flatten_le (shorter : List.Forall₂ List.Sublist ls ls') :
    ls.flatten.length ≤ ls'.flatten.length ∧ (ls.flatten.length = ls'.flatten.length → ls = ls') := by
  induction shorter with
  | nil => exact ⟨Nat.le_refl 0, fun _ => rfl⟩
  | @cons part whole parts wholes sublist _ ih =>
    have le := sublist.length_le
    rw [List.flatten_cons, List.flatten_cons, List.length_append, List.length_append]
    refine ⟨Nat.add_le_add le ih.1, fun same => ?_⟩
    rw [sublist.eq_of_length (by omega), ih.2 (by omega)]

/-- Parts of texts that are joined without the empty ones make what the texts make if nothing is lost, and if no text
among several is empty. -/
theorem join_filter_eq_iff (shorter : List.Forall₂ List.Sublist ls ls') :
    join " " (ls.filter fun part => !part.isEmpty) = join " " ls' ↔
      ls = ls' ∧ (ls'.length ≤ 1 ∨ ∀ part ∈ ls', part ≠ []) := by
  constructor
  · intro same
    have length := congrArg List.length same
    have fewer : (ls.filter fun part => !part.isEmpty).length ≤ ls.length := List.length_filter_le _ _
    have count : ls.length = ls'.length := List.Forall₂.length_eq shorter
    obtain ⟨le, eq⟩ := length_flatten_le shorter
    rw [length_join, length_join, List.flatten_filter_not_isEmpty] at length
    obtain rfl := eq (by omega)
    refine ⟨rfl, ?_⟩
    by_cases few : ls.length ≤ 1
    · exact .inl few
    · have all := List.length_filter_eq_length_iff.mp (show (ls.filter fun part => !part.isEmpty).length = _ by omega)
      exact .inr fun part member => by simpa using all part member
  · rintro ⟨rfl, few | filled⟩
    · rcases ls with _ | ⟨_ | ⟨c, part⟩, _ | ⟨next, rest⟩⟩
      · rfl
      · rfl
      · simp at few
      · rfl
      · simp at few
    · rw [List.filter_eq_self.mpr fun part member => by simpa using filled part member]

/-- What a line of a text with so many lines shows, by its number. -/
def shownAt (count : Nat) (place : Text × Nat) : Text := shown (place.2 = 0) (place.2 + 1 = count) place.1

/-- The lines of a text that show something, with their numbers. -/
def places (t : Text) : List (Text × Nat) :=
  (lines t).zipIdx.filter fun place => !(shownAt (lines t).length place).isEmpty

/-- What is decoded of what a line shows. -/
def decodedAt (t : Text) (place : Text × Nat) : Text := decode (shownAt (lines t).length place)

/-- What a decoded line shows. -/
def trimmedAt (t : Text) (place : Text × Nat) : Text :=
  trimEnds (place.2 = 0) (place.2 + 1 = (lines t).length) (decodedAt t place)

/-- What is decoded of a line begins and ends with no space, where spaces are trimmed. -/
def KeepsEndsAt (t : Text) (place : Text × Nat) : Prop :=
  KeepsEnds (place.2 = 0) (place.2 + 1 = (lines t).length) (decodedAt t place)

/-- No reference stands for a tab or a line break, or for a space where spaces are trimmed, and among several lines that
show something, none is made of references that stand for nothing. -/
structure KeepsContent (raw : Text) : Prop where
  inline : ∀ line ∈ lines raw, IsInline line
  ends : ∀ place ∈ places raw, KeepsEndsAt raw place
  filled : (places raw).length ≤ 1 ∨ ∀ place ∈ places raw, decodedAt raw place ≠ []

instance (t : Text) : Decidable (IsInline t) :=
  inferInstanceAs (Decidable (∀ m ∈ pattern.findAll t, ∀ c ∈ decodeOne m, isTabOrBreak c = false))

instance (first last : Bool) (t : Text) : Decidable (KeepsEnds first last t) :=
  inferInstanceAs (Decidable ((first = false → _) ∧ (last = false → _)))

instance (raw : Text) : Decidable (KeepsContent raw) :=
  decidable_of_iff ((∀ line ∈ lines raw, IsInline line) ∧
      (∀ place ∈ places raw, KeepsEnds (place.2 = 0) (place.2 + 1 = (lines raw).length) (decodedAt raw place)) ∧
      ((places raw).length ≤ 1 ∨ ∀ place ∈ places raw, decodedAt raw place ≠ []))
    ⟨fun ⟨inline, ends, filled⟩ => ⟨inline, ends, filled⟩, fun keeps => ⟨keeps.inline, keeps.ends, keeps.filled⟩⟩

theorem decode_layOut (raw : Text) : decode (layOut raw) = join " " ((places raw).map (decodedAt raw)) := by
  have shownParts : (shownLines (lines raw)).filter (fun line => !line.isEmpty)
      = (places raw).map (shownAt (lines raw).length) := List.filter_map
  rw [layOut_eq, shownParts, decode_join, List.map_map]
  rfl

/-- What is laid out has no tabs and no line breaks, and no reference is lost in it. -/
theorem isInline_of_eq (same : clean raw = decode (layOut raw)) : ∀ line ∈ lines raw, IsInline line := by
  intro line isLine m among c inside
  have kept : m ∈ pattern.findAll (layOut raw) := by
    rw [splitsAtSpaces_findAll.layOut]
    exact List.mem_flatMap.mpr ⟨line, isLine, among⟩
  have member : c ∈ clean raw := same ▸ mem_decode kept inside
  exact isTabOrBreak_of_mem_layOut member

section Inline

variable (inline : ∀ line ∈ lines raw, IsInline line)
include inline

theorem shownLines_decode : shownLines ((lines raw).map decode) = (lines raw).zipIdx.map (trimmedAt raw) := by
  rw [shownLines, shownFrom, List.length_map, List.zipIdx_map, List.map_map]
  refine List.map_congr_left fun place member => ?_
  exact shown_decode _ _ (inline place.1 (List.fst_mem_of_mem_zipIdx member))

theorem clean_eq : clean raw
    = join " " (((places raw).map (trimmedAt raw)).filter fun line => !line.isEmpty) := by
  have decoded : clean raw = join " " ((shownLines ((lines raw).map decode)).filter fun line => !line.isEmpty) :=
    ((parted_lines raw).decode inline).layOut_eq
  rw [decoded, shownLines_decode inline, List.filter_map, List.filter_map, places, List.filter_filter]
  refine congrArg (join " ") (congrArg (List.map _) (List.filter_congr fun place _ => ?_))
  cases nothing : (shownAt (lines raw).length place).isEmpty with
  | false => simp
  | true =>
    have empty : trimmedAt raw place = [] := by
      rw [trimmedAt, decodedAt, List.isEmpty_iff.mp nothing, decode_nil]
      exact List.sublist_nil.mp (trimEnds_sublist _ _ _)
    simp [empty]

theorem clean_eq_iff_of_inline : clean raw = decode (layOut raw) ↔ (∀ place ∈ places raw, KeepsEndsAt raw place) ∧
    ((places raw).length ≤ 1 ∨ ∀ place ∈ places raw, decodedAt raw place ≠ []) := by
  have shorter : List.Forall₂ List.Sublist ((places raw).map (trimmedAt raw)) ((places raw).map (decodedAt raw)) := by
    rw [List.forall₂_map_left_iff, List.forall₂_map_right_iff, List.forall₂_same]
    exact fun place _ => trimEnds_sublist _ _ _
  have ends (place : Text × Nat) : trimmedAt raw place = decodedAt raw place ↔ KeepsEndsAt raw place :=
    trimEnds_eq_self_iff _ _
  rw [clean_eq inline, decode_layOut, join_filter_eq_iff shorter, List.map_inj_left, List.length_map,
    List.forall_mem_map]
  simp only [ends]

end Inline

/-- It is the same whether a text is decoded before it is laid out or after exactly if that keeps all that references
stand for. In any text the same number is the first that is too long to be read. -/
theorem clean_eq_decode_layOut_iff (raw : Text) :
    referenceFailure (layOut raw) = referenceFailure raw ∧
      (clean raw = decode (layOut raw) ↔ KeepsContent raw) := by
  constructor
  · rw [referenceFailure, referenceFailure, overlong?_eq, overlong?_eq, splitsAtBlanks_overlongs.layOut]
  · constructor
    · intro same
      have inline := isInline_of_eq same
      obtain ⟨ends, filled⟩ := (clean_eq_iff_of_inline inline).mp same
      exact ⟨inline, ends, filled⟩
    · intro keeps
      exact (clean_eq_iff_of_inline keeps.inline).mpr ⟨keeps.ends, keeps.filled⟩

/-- A reference may stand for a space, but not where a line ends that is followed by another one. -/
example : KeepsContent "\n Fish&#32;&#38;&#32;chips&#32;" ∧ ¬KeepsContent "Fish&#32;\n&#38; chips" := by
  simp only [Text.ofString_eq rfl]
  decide +kernel

/-- A line break that a reference stands for is taken for one between lines. -/
theorem clean_ne_decode_layOut :
    clean "a&#10;b" = "a b" ∧ decode (layOut "a&#10;b") = "a\nb" ∧ clean "a&#10;b" ≠ decode (layOut "a&#10;b") := by
  simp only [Text.ofString_eq rfl]
  decide +kernel

end LessonService.Script.MarkupText
