import LessonService.Proofs.Markup.Names
import LessonService.Proofs.Text.Prefixes

namespace LessonService.CharacterReference

open Pattern

variable {c : CodePoint} {previous : Option CodePoint} {a b t name found after : Text}

abbrev ampersand : CodePoint := '&'

theorem pattern_isPlain : pattern.isPlain = true := by decide

theorem pattern_alwaysReads : pattern.alwaysReads = true := by decide

theorem charIn_ampersand : charIn "&" c = decide (c = ampersand) := by
  rw [Bool.eq_iff_iff, decide_eq_true_eq, charIn_iff (by decide : "&".toList = ['&'])]
  simp only [List.mem_singleton, exists_eq_left]
  exact eq_comm

theorem not_starts_of_ne (other : c ≠ ampersand) : ¬pattern.Starts previous (c :: t) := by
  refine not_starts_of_mayStart ?_
  simp [pattern, oneIn, mayStart, mayPass, charIn_ampersand, other]

theorem segments_append_of_notMem (absent : ampersand ∉ a) (b : Text) :
    pattern.segments (a ++ b) = a.map .kept ++ pattern.segments b := by
  have passes : pattern.Passes none a b := passes_of_forall fun c member _ _ =>
    not_starts_of_ne (ne_of_mem_of_not_mem member absent)
  rw [segments, segmentsFrom_kept_append passes, segmentsFrom_eq pattern_isPlain]

theorem segments_of_notMem (absent : ampersand ∉ t) : pattern.segments t = t.map .kept := by
  have kept := segments_append_of_notMem absent []
  rwa [List.append_nil, segments, segments, segmentsFrom, List.append_nil] at kept

theorem decode_eq (t : Text) : decode t = (pattern.segments t).flatMap (Segment.changed decodeOne) := replaceAll_eq _ _ _

theorem decode_append_of_notMem (absent : ampersand ∉ a) (b : Text) : decode (a ++ b) = a ++ decode b := by
  rw [decode_eq, segments_append_of_notMem absent, List.flatMap_append, Segment.flatMap_changed_kept, decode_eq]

theorem decode_of_notMem (absent : ampersand ∉ t) : decode t = t := by
  rw [decode_eq, segments_of_notMem absent, Segment.flatMap_changed_kept]

theorem findAll_of_notMem (absent : ampersand ∉ t) : pattern.findAll t = [] := by
  rw [findAll, segments_of_notMem absent, List.filterMap_map]
  exact List.filterMap_eq_nil_iff.mpr fun _ _ => rfl

theorem decode_append_cons (unread : pattern.mayRead c = false) (a b : Text) :
    decode (a ++ c :: b) = decode a ++ c :: decode b := by
  rw [decode_eq, segments_append_cons pattern_isPlain pattern_alwaysReads unread, List.flatMap_append, List.flatMap_cons,
    decode_eq, decode_eq]
  rfl

theorem findAll_append_cons (unread : pattern.mayRead c = false) (a b : Text) :
    pattern.findAll (a ++ c :: b) = pattern.findAll a ++ pattern.findAll b := by
  rw [findAll, segments_append_cons pattern_isPlain pattern_alwaysReads unread, List.filterMap_append, List.filterMap_cons]
  rfl

abbrev isNameCharacter (c : CodePoint) : Bool := pattern.isNameCharacter c

theorem matches_upTo {holds : CodePoint → Bool} {n : Nat} (match_ : (pattern.upTo n holds).Matches previous found after) :
    found.length ≤ n + 1 ∧ ∀ c ∈ found, holds c = true := by
  induction n generalizing previous found with
  | zero =>
    obtain ⟨c, rfl, member⟩ := match_
    exact ⟨Nat.le_refl 1, List.forall_mem_singleton.mpr member⟩
  | succ n ih =>
    obtain ⟨_, rest, rfl, ⟨c, rfl, member⟩, more | empty⟩ := match_
    · obtain ⟨short, all⟩ := ih more
      exact ⟨Nat.succ_le_succ short, List.forall_mem_cons.mpr ⟨member, all⟩⟩
    · rw [show rest = [] from empty]
      exact ⟨by simp, by simpa using member⟩

/-- A text of so many characters of the class is read to its end. -/
theorem end?_upTo {holds : CodePoint → Bool} {n : Nat} (filled : name ≠ []) (short : name.length ≤ n + 1)
    (all : ∀ c ∈ name, holds c = true) :
    ((pattern.upTo n holds).end? ⟨previous, name⟩).map Place.rest = some [] := by
  obtain ⟨c, rest, rfl⟩ := List.exists_cons_of_ne_nil filled
  rw [List.forall_mem_cons] at all
  induction n generalizing previous c rest with
  | zero =>
    have none : rest = [] := by simpa using short
    rw [none, pattern.upTo, end?, ends_one all.1]
    rfl
  | succ n ih =>
    rw [pattern.upTo, end?_both_of_ends (ends_one all.1)]
    cases rest with
    | nil => exact map_rest_end?_nil (by rw [end?_optional]; simp)
    | cons d rest =>
      rw [List.forall_mem_cons] at all
      have later : ((pattern.upTo n holds).end? ⟨some c, d :: rest⟩).map Place.rest = some [] :=
        ih d rest (List.cons_ne_nil _ _) (by simpa using short) all.2
      obtain ⟨e, ends, none⟩ := Option.map_eq_some_iff.mp later
      rw [end?_optional, ends, Option.some_or, Option.map_some, none]

theorem isNameCharacter_ne (member : isNameCharacter c = true) : c ≠ '#' ∧ c ≠ ampersand := by
  refine ⟨?_, ?_⟩
  · rintro rfl
    exact absurd member (by decide)
  · rintro rfl
    exact absurd member (by decide)

/-- A text that is an ampersand and a name is read to its end. -/
theorem end?_of_name (filled : name ≠ []) (short : name.length ≤ 32) (all : ∀ c ∈ name, isNameCharacter c = true) :
    (pattern.end? ⟨previous, ampersand :: name⟩).map Place.rest = some [] := by
  obtain ⟨c, rest, rfl⟩ := List.exists_cons_of_ne_nil filled
  have notMark : charIn "#" c = false := by
    rw [Bool.eq_false_iff]
    intro mark
    obtain ⟨d, among, rfl⟩ := (charIn_iff (by decide : "#".toList = ['#']) c).mp mark
    exact (isNameCharacter_ne (all _ List.mem_cons_self)).1 (by rw [List.mem_singleton.mp among])
  have numbers (q : Pattern) : (both (oneIn "#") q).end? ⟨some ampersand, c :: rest⟩ = none := by
    refine end?_eq_none rfl (not_starts_of_mayStart ?_)
    simp [oneIn, mayStart, mayPass, notMark]
  have only : (oneIn "&").ends ⟨previous, ampersand :: c :: rest⟩ = [⟨some ampersand, c :: rest⟩] := ends_one (by decide)
  have row : pattern.end? ⟨previous, ampersand :: c :: rest⟩
      = (both (pattern.upTo 31 isNameCharacter) (Pattern.optional (oneIn ";"))).end? ⟨some ampersand, c :: rest⟩ := by
    have parts : pattern = both (oneIn "&")
        (either (both (oneIn "#") (seq [most CodePoint.isDigit 1, Pattern.optional (oneIn ";")]))
          (either (both (oneIn "#") (seq [oneIn "xX", most CodePoint.isHexDigit 1, Pattern.optional (oneIn ";")]))
            (both (pattern.upTo 31 isNameCharacter) (Pattern.optional (oneIn ";"))))) := rfl
    rw [parts, end?_both_of_ends only, end?_either, end?_either, numbers, numbers, Option.none_or, Option.none_or]
  have read : ((pattern.upTo 31 isNameCharacter).end? ⟨some ampersand, c :: rest⟩).map Place.rest = some [] := by
    exact end?_upTo filled short all
  obtain ⟨e, ends, none⟩ := Option.map_eq_some_iff.mp read
  have last : (Pattern.optional (oneIn ";")).end? e = some e := by
    obtain ⟨before, rest⟩ := e
    cases none
    rfl
  rw [row, end?_both_of_end? ends last, Option.map_some, none]

theorem decodeOne_of_name (other : c ≠ '#') (t : Text) : decodeOne (ampersand :: c :: t) = ofName (c :: t) := by
  rw [decodeOne, List.drop_one, List.tail_cons]
  exact if_neg other

theorem segments_of_name (short : name.length ≤ 32) (all : ∀ c ∈ name, isNameCharacter c = true) (filled : name ≠ []) :
    pattern.segments (ampersand :: name) = [.found (ampersand :: name)] := by
  have read : (pattern.end? ⟨.none, ampersand :: name⟩).map Place.rest = some [] := by
    exact end?_of_name filled short all
  obtain ⟨e, ends, none⟩ := Option.map_eq_some_iff.mp read
  have whole : pattern.end? ⟨.none, (ampersand :: name) ++ []⟩ = some e := by rwa [List.append_nil]
  have found := segments_of_end? pattern_isPlain (List.cons_ne_nil ampersand name) whole none
  have last : pattern.segments [] = [] := by rw [segments, segmentsFrom]
  rwa [List.append_nil, last] at found

theorem decode_of_name (short : name.length ≤ 32) (all : ∀ c ∈ name, isNameCharacter c = true) (filled : name ≠ []) :
    decode (ampersand :: name) = ofName name := by
  obtain ⟨c, rest, rfl⟩ := List.exists_cons_of_ne_nil filled
  have other : c ≠ '#' := (isNameCharacter_ne (all c List.mem_cons_self)).1
  rw [decode_eq, segments_of_name short all filled, List.flatMap_singleton, Segment.changed, decodeOne_of_name other]

theorem segments_ampersand : pattern.segments [ampersand] = [.kept ampersand] := by decide +kernel

/-- What reads a carriage return is an ampersand and a name. -/
theorem exists_name_of_return (filled : a ≠ [])
    (match_ : pattern.Matches previous (a ++ ('\r' : CodePoint) :: b) after) :
    ∃ name, a = ampersand :: name ∧ name.length ≤ 32 ∧ (∀ c ∈ name, isNameCharacter c = true) ∧ ampersand ∉ b := by
  obtain ⟨_, rest, whole, ⟨c, rfl, mark⟩, parts⟩ := match_
  rw [charIn_ampersand, decide_eq_true_eq] at mark
  obtain ⟨d, name, rfl⟩ := List.exists_cons_of_ne_nil filled
  obtain ⟨rfl, split⟩ := List.cons.inj whole
  refine ⟨name, by rw [mark], ?_⟩
  have isRest : name ++ ('\r' : CodePoint) :: b = rest := split
  have returns : ('\r' : CodePoint) ∈ rest := isRest ▸ List.mem_append_right name List.mem_cons_self
  have numbers {q : Pattern} (unread : q.mayRead '\r' = false) {previous : Option CodePoint}
      (match_ : q.Matches previous rest after) : False := (within_of_mayRead unread).of_matches match_ _ returns rfl
  rcases parts with number | number | ⟨read, semicolon, rfl, isName, last⟩
  · exact (numbers (by decide) number).elim
  · exact (numbers (by decide) number).elim
  · obtain ⟨short, all⟩ := matches_upTo isName
    have noReturn : ('\r' : CodePoint) ∉ semicolon := fun member =>
      (within_of_mayRead (p := Pattern.optional (oneIn ";")) (c := '\r') (by decide)).of_matches last _ member rfl
    have noMark : ampersand ∉ semicolon := fun member =>
      (within_of_mayRead (p := Pattern.optional (oneIn ";")) (c := ampersand) (by decide)).of_matches last _ member rfl
    obtain ⟨more, rfl, rfl⟩ := Text.exists_rest_of_notMem isRest noReturn
    rw [List.forall_mem_append, List.forall_mem_cons] at all
    rw [List.length_append, List.length_cons] at short
    refine ⟨by omega, all.1, ?_⟩
    rw [List.mem_append, not_or]
    exact ⟨fun member => (isNameCharacter_ne (all.2.2 _ member)).2 rfl, noMark⟩

/-- What is made of the segments of two texts with a carriage return between them is what is made of each, if what is
made of a name does not depend on what stands after a carriage return in it. -/
theorem flatMap_segments_return {β : Type} {f : Segment → List β}
    (read : ∀ name second : Text, name.length ≤ 32 → (∀ c ∈ name, isNameCharacter c = true) →
      f (.found (ampersand :: (name ++ ('\r' : CodePoint) :: second)))
        = (pattern.segments (ampersand :: name)).flatMap f ++ ((('\r' : CodePoint) :: second).map .kept).flatMap f)
    (a b : Text) : (pattern.segments (a ++ ('\r' : CodePoint) :: b)).flatMap f
      = (pattern.segments a).flatMap f ++ (f (.kept '\r') ++ (pattern.segments b).flatMap f) := by
  have split (t b : Text) (absent : ampersand ∉ t) : (pattern.segments (t ++ b)).flatMap f
      = (t.map .kept).flatMap f ++ (pattern.segments b).flatMap f := by
    rw [segments_append_of_notMem absent, List.flatMap_append]
  have after : (pattern.segments (('\r' : CodePoint) :: b)).flatMap f = f (.kept '\r') ++ (pattern.segments b).flatMap f := by
    rw [← List.singleton_append, split ['\r'] b (by decide), List.map_singleton, List.flatMap_singleton]
  rw [← after]
  refine flatMap_segments_append pattern_isPlain pattern_alwaysReads (fun first second rest filled across parted match_ => ?_) a
  obtain ⟨c, second, rfl⟩ := List.exists_cons_of_ne_nil across
  obtain ⟨rfl, rfl⟩ := List.cons.inj parted
  obtain ⟨name, rfl, short, all, absent⟩ := exists_name_of_return filled match_
  have later := split (('\r' : CodePoint) :: second) rest (by simpa using absent)
  calc f (.found (ampersand :: (name ++ ('\r' : CodePoint) :: second))) ++ (pattern.segments rest).flatMap f
      = (pattern.segments (ampersand :: name)).flatMap f ++
          (((('\r' : CodePoint) :: second).map .kept).flatMap f ++ (pattern.segments rest).flatMap f) := by
        rw [read name second short all, List.append_assoc]
    _ = _ := by rw [← later]; rfl

theorem decode_append_return (a b : Text) :
    decode (a ++ ('\r' : CodePoint) :: b) = decode a ++ ('\r' : CodePoint) :: decode b := by
  rw [decode_eq, flatMap_segments_return (fun name second short all => ?_), decode_eq, decode_eq]
  · rfl
  · rw [Segment.flatMap_changed_kept, Segment.changed]
    cases name with
    | nil =>
      rw [List.nil_append, decodeOne_of_name (by decide), ofName_of_return, segments_ampersand]
      rfl
    | cons c name =>
      rw [← decode_eq, decode_of_name short all (List.cons_ne_nil c name), List.cons_append,
        decodeOne_of_name (isNameCharacter_ne (all c List.mem_cons_self)).1, ← List.cons_append,
        ofName_return (List.cons_ne_nil c name)]

/-- The length of the number in a reference, if it is too long to be read. -/
def tooLong? : Text → Option Nat
  | _ :: h :: body =>
    if h = '#' then
      let digits := body.takeWhile CodePoint.isDigit
      if digits.length > Decimal.maxDigits then some digits.length else none
    else none
  | _ => none

def tooLongIn : Segment → List Nat
  | .kept _ => []
  | .found m => (tooLong? m).toList

/-- The lengths of all numbers in a text's references that are too long to be read. -/
def overlongs (t : Text) : List Nat := (pattern.segments t).flatMap tooLongIn

theorem overlong?_eq (t : Text) : overlong? t = (overlongs t).head? := by
  have first : overlong? t = (pattern.findAll t).findSome? tooLong? := rfl
  have all : overlongs t = (pattern.findAll t).filterMap tooLong? := by
    rw [findAll, List.filterMap_filterMap, List.filterMap_eq_flatMap_toList, overlongs]
    congr 1
    funext segment
    cases segment <;> rfl
  rw [first, all, List.head?_filterMap]

theorem overlongs_append_cons (unread : pattern.mayRead c = false) (a b : Text) :
    overlongs (a ++ c :: b) = overlongs a ++ overlongs b := by
  rw [overlongs, segments_append_cons pattern_isPlain pattern_alwaysReads unread, List.flatMap_append, List.flatMap_cons]
  rfl

theorem tooLong?_of_name (other : c ≠ '#') (t : Text) : tooLong? (ampersand :: c :: t) = none := if_neg other

theorem overlongs_append_return (a b : Text) : overlongs (a ++ ('\r' : CodePoint) :: b) = overlongs a ++ overlongs b := by
  refine flatMap_segments_return (fun name second short all => ?_) a b
  have kept : ((('\r' : CodePoint) :: second).map .kept).flatMap tooLongIn = [] := by
    rw [List.flatMap_eq_nil_iff, List.forall_mem_map]
    exact fun _ _ => rfl
  rw [kept, List.append_nil, tooLongIn]
  cases name with
  | nil =>
    rw [List.nil_append, tooLong?_of_name (by decide), segments_ampersand]
    rfl
  | cons c name =>
    have other : c ≠ '#' := (isNameCharacter_ne (all c List.mem_cons_self)).1
    rw [segments_of_name short all (List.cons_ne_nil c name), List.cons_append, tooLong?_of_name other,
      List.flatMap_singleton, tooLongIn, tooLong?_of_name other]

theorem overlongs_of_notMem (absent : ampersand ∉ t) : overlongs t = [] := by
  rw [overlongs, segments_of_notMem absent, List.flatMap_eq_nil_iff, List.forall_mem_map]
  exact fun _ _ => rfl

end LessonService.CharacterReference
