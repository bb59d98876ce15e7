import LessonService.Proofs.Store.Constraints
import LessonService.Proofs.Store.Lookup
import LessonService.Web.Service
import Mathlib.Data.List.Lex

namespace LessonService.Store

variable {s : Store} {a b c : Record} {q : ListQuery} {limit : Int}

/-- What the list is asked for, whatever the page. -/
structure Listing where
  limit : Int
  /-- Only lessons of this status. -/
  status : Option Status := none
  key : SortKey := .createdAt
  ascending : Bool := false

def Listing.query (l : Listing) (page : Int) : ListQuery where
  page
  limit := l.limit
  status := l.status.map Status.name
  key := l.key
  ascending := l.ascending

/-- The lessons of a status, or all of them. -/
def ofStatus (s : Store) (status? : Option Status) : List Record :=
  s.records.filter fun r => status?.elim true fun status => r.status = status

/-- How many lessons of a status there are, or how many of all. -/
def Stats.of (stats : Stats) : Option Status → Nat
  | none => stats.total
  | some .generating => stats.generating
  | some .generated => stats.generated
  | some .failed => stats.failed

/-- By time, upwards or downwards, and at the same time by identity. -/
def Precedes (key : SortKey) (ascending : Bool) (a b : Record) : Prop :=
  (if ascending then key.of a < key.of b else key.of b < key.of a) ∨
    key.of a = key.of b ∧ a.lessonId.map CodePoint.value < b.lessonId.map CodePoint.value

theorem matching_query (s : Store) (l : Listing) (page : Int) : s.matching (l.query page) = s.ofStatus l.status := by
  refine List.filter_congr fun r _ => ?_
  cases asked : l.status with
  | none => simp [Listing.query, asked]
  | some status =>
    have named : ∃ c t, status.name = c :: t := by cases status <;> exact ⟨_, _, rfl⟩
    obtain ⟨c, t, name⟩ := named
    simp only [Listing.query, asked, Option.map_some, name, Option.elim_some]
    rw [← name]
    exact decide_eq_decide.mpr Status.name_injective.eq_iff

theorem countP_statuses (records : List Record) :
    records.countP (fun r => r.status = .generating) + records.countP (fun r => r.status = .generated) +
      records.countP (fun r => r.status = .failed) = records.length := by
  induction records with
  | nil => rfl
  | cons r records ih =>
    rw [List.length_cons, ← ih]
    cases status : r.status <;> simp [status] <;> omega

theorem length_ofStatus (s : Store) (status? : Option Status) : (s.ofStatus status?).length = s.stats.of status? := by
  cases status? with
  | none => simp [ofStatus, Stats.of, stats, countP_statuses]
  | some status => cases status <;> exact List.countP_eq_length_filter.symm

theorem comesFirst_iff :
    comesFirst q a b = true ↔
      (if q.ascending then q.key.of a < q.key.of b else q.key.of b < q.key.of a) ∨
        q.key.of a = q.key.of b ∧ a.lessonId.map CodePoint.value ≤ b.lessonId.map CodePoint.value := by
  unfold comesFirst
  dsimp only
  split
  · rename_i same
    simp [same]
  · rename_i other
    cases q.ascending <;> simp [other]

theorem comesFirst_total (q : ListQuery) (a b : Record) : (comesFirst q a b || comesFirst q b a) = true := by
  rw [Bool.or_eq_true, comesFirst_iff, comesFirst_iff]
  rcases Int.lt_trichotomy (q.key.of a) (q.key.of b) with before | same | after
  · cases q.ascending <;> simp [before]
  · rcases le_total (a.lessonId.map CodePoint.value) (b.lessonId.map CodePoint.value) with first | second
    · exact .inl (.inr ⟨same, first⟩)
    · exact .inr (.inr ⟨same.symm, second⟩)
  · cases q.ascending <;> simp [after]

theorem comesFirst_trans (q : ListQuery) (a b c : Record) (first : comesFirst q a b = true)
    (second : comesFirst q b c = true) : comesFirst q a c = true := by
  rw [comesFirst_iff] at first second ⊢
  rcases first with first | ⟨sameFirst, first⟩ <;> rcases second with second | ⟨sameSecond, second⟩
  · left
    cases asc : q.ascending <;> simp only [asc, if_true, Bool.false_eq_true, if_false] at first second ⊢ <;> omega
  · exact .inl (sameSecond ▸ first)
  · exact .inl (sameFirst ▸ second)
  · exact .inr ⟨sameFirst.trans sameSecond, first.trans second⟩

theorem lessonId_ne_iff : a.lessonId.map CodePoint.value ≠ b.lessonId.map CodePoint.value ↔ a.lessonId ≠ b.lessonId := by
  have injective : Function.Injective CodePoint.value := fun c d same => by
    cases c
    cases d
    exact congrArg _ same
  exact injective.list_map.ne_iff

theorem precedes_of_comesFirst {l : Listing} {page : Int} (first : comesFirst (l.query page) a b = true)
    (other : a.lessonId ≠ b.lessonId) : Precedes l.key l.ascending a b := by
  rcases comesFirst_iff.mp first with before | ⟨same, before⟩
  · exact .inl before
  · exact .inr ⟨same, lt_of_le_of_ne before (lessonId_ne_iff.mpr other)⟩

/-- The lessons that are asked for, in the order in which they are listed. -/
def listed (s : Store) (l : Listing) : List Record := (s.ofStatus l.status).mergeSort (comesFirst (l.query 1))

theorem listed_perm (s : Store) (l : Listing) : (s.listed l).Perm (s.ofStatus l.status) := List.mergeSort_perm _ _

theorem length_listed (s : Store) (l : Listing) : (s.listed l).length = s.stats.of l.status := by
  rw [(s.listed_perm l).length_eq, length_ofStatus]

/-- No two lessons share an identity, so that one of any two comes first. -/
theorem HasUniqueIds.listed_pairwise (unique : s.HasUniqueIds) (l : Listing) :
    (s.listed l).Pairwise (Precedes l.key l.ascending) := by
  have sorted : (s.listed l).Pairwise fun a b => comesFirst (l.query 1) a b = true :=
    List.pairwise_mergeSort (comesFirst_trans _) (comesFirst_total _) _
  have distinct : ((s.listed l).map Record.lessonId).Nodup :=
    ((s.listed_perm l).map _).nodup_iff.mpr (unique.sublist (List.filter_sublist.map _))
  rw [List.Nodup, List.pairwise_map] at distinct
  exact (sorted.and distinct).imp fun ⟨first, other⟩ => precedes_of_comesFirst first other

/-- The lessons on a page. -/
def onPage (s : Store) (l : Listing) (page : Int) : List Record :=
  ((s.listed l).drop ((page - 1) * l.limit).toNat).take l.limit.toNat

/-- A page is given if it starts where the database can count to. -/
theorem list_query (s : Store) (l : Listing) (page : Int) (least : 1 ≤ l.limit) (most : l.limit ≤ 100) :
    s.list (l.query page) =
      if fitsDatabase ((page - 1) * l.limit) then .ok ⟨s.onPage l page, s.stats.of l.status, page, l.limit⟩
      else .error .numberTooGreat := by
  have fits : fitsDatabase l.limit = true := by
    simp only [fitsDatabase, Bool.and_eq_true, decide_eq_true_eq]
    omega
  have limited : ¬(l.query page).limit < 0 := by
    change ¬l.limit < 0
    omega
  have counted : (!fitsDatabase (l.query page).limit || !fitsDatabase (l.query page).offset) =
      !fitsDatabase ((page - 1) * l.limit) := by
    change (!fitsDatabase l.limit || _) = _
    rw [fits]
    rfl
  unfold list
  rw [counted, matching_query]
  dsimp only
  rw [if_neg limited, length_ofStatus]
  cases fitsDatabase ((page - 1) * l.limit) <;> rfl

theorem lt_pageCount_iff (total page : Int) (positive : 0 < limit) : page < pageCount total limit ↔ page * limit < total := by
  rw [pageCount, if_neg (Int.ne_of_gt positive), Int.fdiv_eq_ediv_of_nonneg _ (Int.le_of_lt positive),
    ← Int.add_one_le_iff, Int.le_ediv_iff_mul_le positive, Int.add_mul]
  omega

theorem pageCount_nonneg {total : Int} (natural : 0 ≤ total) (positive : 0 < limit) : 0 ≤ pageCount total limit := by
  have before := (lt_pageCount_iff total (-1) positive).mpr (by omega)
  omega

/-- There are no more pages than lessons. -/
theorem pageCount_le {total : Int} (natural : 0 ≤ total) (least : 1 ≤ limit) : pageCount total limit ≤ total := by
  have last := (lt_pageCount_iff total total (show 0 < limit by omega)).not
  have more := Int.mul_le_mul_of_nonneg_left least natural
  exact Int.not_lt.mp (last.mpr (by omega))

theorem onPage_eq_nil_iff (l : Listing) {page : Int} (first : 1 ≤ page) (least : 1 ≤ l.limit) :
    s.onPage l page = [] ↔ pageCount (s.stats.of l.status) l.limit < page := by
  have start : (0 : Int) ≤ (page - 1) * l.limit := Int.mul_nonneg (by omega) (by omega)
  have before := lt_pageCount_iff (s.stats.of l.status) (page - 1) (show 0 < l.limit by omega)
  rw [onPage, List.take_eq_nil_iff, List.drop_eq_nil_iff, length_listed]
  omega

/-- Stretches of one length, one after the other. -/
theorem flatMap_stretches {α : Type} (l : List α) (n m : Nat) :
    ((List.range m).flatMap fun i => (l.drop (i * n)).take n) = l.take (m * n) := by
  induction m with
  | zero => simp
  | succ m ih => rw [List.range_succ, List.flatMap_append, ih, List.flatMap_singleton, Nat.succ_mul, List.take_add]

theorem flatMap_onPage (s : Store) (l : Listing) (least : 1 ≤ l.limit) :
    ((List.range (pageCount (s.stats.of l.status) l.limit).toNat).flatMap fun (i : Nat) => s.onPage l (i + 1)) =
      s.listed l := by
  have stretch (i : Nat) : s.onPage l (i + 1) = ((s.listed l).drop (i * l.limit.toNat)).take l.limit.toNat := by
    have start : ((i : Int) + 1 - 1) * l.limit = ((i * l.limit.toNat : Nat) : Int) := by
      rw [Int.natCast_mul, Int.toNat_of_nonneg (by omega), Int.add_sub_cancel]
    rw [onPage, start, Int.toNat_natCast]
  simp only [stretch]
  rw [flatMap_stretches, List.take_of_length_le]
  -- The last page is not followed by another one, so all lessons stand before its end.
  have last := (lt_pageCount_iff (s.stats.of l.status) (pageCount (s.stats.of l.status) l.limit)
    (show 0 < l.limit by omega)).not.mp (Int.lt_irrefl _)
  have some_ : (0 : Int) ≤ pageCount (s.stats.of l.status) l.limit := pageCount_nonneg (by omega) (by omega)
  rw [length_listed, ← Int.ofNat_le, Int.natCast_mul, Int.toNat_of_nonneg some_, Int.toNat_of_nonneg (by omega)]
  exact Int.not_lt.mp last

theorem of_stats_le (s : Store) (status? : Option Status) : s.stats.of status? ≤ s.records.length := by
  rw [← length_ofStatus]
  exact List.length_filter_le _ _

theorem fitsDatabase_of_le {m n : Int} (natural : 0 ≤ m) (within : m ≤ n) (fits : fitsDatabase n = true) :
    fitsDatabase m = true := by
  simp only [fitsDatabase, Bool.and_eq_true, decide_eq_true_eq] at fits ⊢
  omega

/-- Where the database can count the lessons, it can count to every page that has some. -/
theorem fitsDatabase_offset (l : Listing) {page : Int} (counted : fitsDatabase s.records.length = true)
    (least : 1 ≤ l.limit) (first : 1 ≤ page) (within : page ≤ pageCount (s.stats.of l.status) l.limit) :
    fitsDatabase ((page - 1) * l.limit) = true := by
  have before := (lt_pageCount_iff (s.stats.of l.status) (page - 1) (show 0 < l.limit by omega)).mp (by omega)
  have all := of_stats_le s l.status
  exact fitsDatabase_of_le (Int.mul_nonneg (by omega) (by omega)) (by omega) counted

end LessonService.Store

namespace LessonService.Web

open Store

/-- What an answer tells of its page. -/
def told? (name : Text) : Content → Option Content
  | .record fields =>
    match Content.field? "pagination" fields with
    | some (.record told) => Content.field? name told
    | _ => none
  | _ => none

/-- Whatever the lessons are and however they are asked for, the pages up to the last one hold each of them once, in
order. Every page that the database can count to tells how many lessons and pages there are, as they are counted
elsewhere, and whether the next page holds any; it is empty exactly if it comes after the last one. Pages that are
farther off are refused, and all of them come after the last one. -/
theorem list_partition (s : Store) (l : Listing) (unique : s.HasUniqueIds)
    (counted : fitsDatabase s.records.length = true) (least : 1 ≤ l.limit) (most : l.limit ≤ 100) :
    let total := s.stats.of l.status
    let last := pageCount total l.limit
    (∃ pages : Nat → Page, (∀ i : Nat, i < last → s.list (l.query (i + 1)) = .ok (pages i)) ∧
      ((List.range last.toNat).flatMap fun i => (pages i).items).Perm (s.ofStatus l.status) ∧
      ((List.range last.toNat).flatMap fun i => (pages i).items).Pairwise (Precedes l.key l.ascending)) ∧
    ∀ page, 1 ≤ page →
      (fitsDatabase ((page - 1) * l.limit) = true → ∃ p, s.list (l.query page) = .ok p ∧ p.total = total ∧
        p.count = last ∧ (p.items = [] ↔ last < page) ∧
        told? "total" (pageContent (l.query page) p) = some (.ofInt total) ∧
        ∃ hasNext, told? "has_next" (pageContent (l.query page) p) = some (.flag hasNext) ∧
          (hasNext = true ↔ ∃ next, s.list (l.query (page + 1)) = .ok next ∧ next.items ≠ [])) ∧
      (fitsDatabase ((page - 1) * l.limit) = false →
        s.list (l.query page) = .error .numberTooGreat ∧ last < page) := by
  intro total last
  have given {page : Int} (fits : fitsDatabase ((page - 1) * l.limit) = true) :
      s.list (l.query page) = .ok ⟨s.onPage l page, total, page, l.limit⟩ := by
    rw [list_query s l page least most, if_pos fits]
  have empty {page : Int} (first : 1 ≤ page) : s.onPage l page = [] ↔ last < page := onPage_eq_nil_iff l first least
  refine ⟨⟨fun i => ⟨s.onPage l (i + 1), total, i + 1, l.limit⟩, ?_, ?_, ?_⟩, fun page first => ⟨?_, ?_⟩⟩
  · intro i within
    have reached : (i : Int) + 1 ≤ last := by omega
    exact given (fitsDatabase_offset l counted least (by omega) reached)
  · exact (flatMap_onPage s l least).symm ▸ s.listed_perm l
  · exact (flatMap_onPage s l least).symm ▸ unique.listed_pairwise l
  · intro fits
    refine ⟨_, given fits, rfl, rfl, empty first, rfl, _, rfl, ?_⟩
    rw [decide_eq_true_eq]
    constructor
    · intro (before : page < last)
      have reached : page + 1 ≤ last := by omega
      refine ⟨_, given (fitsDatabase_offset l counted least (by omega) reached), ?_⟩
      exact (empty (by omega)).not.mpr (by omega)
    · rintro ⟨next, listed, filled⟩
      rw [list_query s l _ least most] at listed
      split at listed
      · cases listed
        have within := (empty (by omega)).not.mp filled
        change page < last
        omega
      · cases listed
  · intro beyond
    rw [list_query s l page least most, beyond]
    refine ⟨rfl, Int.not_le.mp fun within => ?_⟩
    cases beyond.symm.trans (fitsDatabase_offset l counted least first within)

/-- Three lessons, of which two are of the same time, on pages of two. -/
theorem list_partition_ties :
    let row (lessonId : Text) (time : Int) : Record := .start ⟨time⟩ lessonId "outline" "title"
    let s : Store := ⟨[row "b" 1, row "a" 1, row "c" 2]⟩
    let l : Listing := { limit := 2 }
    s.HasUniqueIds ∧ fitsDatabase s.records.length = true ∧ 1 ≤ l.limit ∧ l.limit ≤ 100 ∧
      ∃ pages : Nat → Page, s.list (l.query 1) = .ok (pages 0) ∧ s.list (l.query 2) = .ok (pages 1) ∧
        ((pages 0).items ++ (pages 1).items).Perm s.records ∧
        ((pages 0).items ++ (pages 1).items).Pairwise (Precedes .createdAt false) := by
  intro row s l
  have unique : s.HasUniqueIds := by
    change List.Nodup (["b", "a", "c"] : List Text)
    decide
  have counted : fitsDatabase s.records.length = true := by decide
  have two : pageCount (s.stats.of l.status) l.limit = 2 := by decide
  obtain ⟨⟨pages, listed, all, ordered⟩, -⟩ := list_partition s l unique counted (by decide) (by decide)
  rw [two] at listed all ordered
  have concatenated : ((List.range (2 : Int).toNat).flatMap fun i => (pages i).items) =
      (pages 0).items ++ (pages 1).items := by
    simp [List.range_succ]
  rw [concatenated] at all ordered
  exact ⟨unique, counted, by decide, by decide, pages, listed 0 (by decide), listed 1 (by decide), all, ordered⟩

/-- The first page that the database cannot count to is past the last page, and refused all the same. -/
theorem list_refused_beyond :
    let l : Listing := { limit := 1 }
    pageCount (({} : Store).stats.of l.status) l.limit < 9223372036854775809 ∧
      ({} : Store).list (l.query 9223372036854775809) = .error .numberTooGreat :=
  ⟨by decide, rfl⟩

end LessonService.Web
