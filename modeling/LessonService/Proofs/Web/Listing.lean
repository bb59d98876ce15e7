import LessonService.Proofs.Content.Plain
import LessonService.Proofs.Settings.Loading
import LessonService.Proofs.Web.LessonRequests
import LessonService.Proofs.Web.Pages

namespace LessonService.Store

/-- The texts of a record are in an encoding that databases keep. -/
structure Record.IsEncodable (row : Record) : Prop where
  lessonId : row.lessonId.IsEncodable
  title : row.title.IsEncodable
  outline : row.outline.IsEncodable
  content : ∀ t, row.content = some t → t.IsEncodable
  message : ∀ t, row.message = some t → t.IsEncodable

theorem mem_records_of_mem_onPage {s : Store} {l : Listing} {page : Int} {row : Record}
    (member : row ∈ s.onPage l page) : row ∈ s.records := by
  have shown : row ∈ s.ofStatus l.status :=
    (s.listed_perm l).mem_iff.mp (List.mem_of_mem_drop (List.mem_of_mem_take member))
  exact List.mem_of_mem_filter shown

/-- The first lesson of a page is one that a database can count to exactly if its number is small enough. -/
theorem fitsDatabase_iff {n : Int} (natural : 0 ≤ n) : fitsDatabase n = true ↔ n ≤ 9223372036854775807 := by
  simp only [fitsDatabase, Bool.and_eq_true, decide_eq_true_eq]
  omega

end LessonService.Store

namespace LessonService.Web

open Handler Store

variable {σ : Type} {s s' : Service σ} {now : Instant} {r : Request} {query : ListQuery} {t : Text}

theorem bounded_ok {least n : Int} {most : Option Int} (read : Query.bounded least most t = .ok n) :
    least ≤ n ∧ ∀ m, most = some m → n ≤ m := by
  obtain ⟨k, -, checked⟩ := Except.bind_eq_ok read
  cases most with
  | none =>
    dsimp only at checked
    split at checked
    · cases checked
    · rename_i reached
      cases checked
      exact ⟨Int.not_lt.mp reached, nofun⟩
  | some m =>
    dsimp only at checked
    split at checked
    · cases checked
    · rename_i within
      split at checked
      · cases checked
      · rename_i reached
        cases checked
        refine ⟨Int.not_lt.mp reached, fun m' same => ?_⟩
        cases same
        exact Int.not_lt.mp within

theorem named_ok {names : List Text} {name : Text} (read : Query.named names t = .ok name) : name ∈ names := by
  unfold Query.named at read
  split at read
  · rename_i known
    cases read
    exact List.contains_iff_mem.mp known
  · cases read

/-- What holds of the usual value and of every value that can be read holds of the value that is taken. -/
theorem read_holds {α : Type} (holds : α → Prop) {usual : α} {f : Text → Except Request.Fault α}
    (fields : List (Text × Text)) (name : Text) (fits : holds usual) (each : ∀ {t a}, f t = .ok a → holds a) :
    holds (Query.read fields name usual f).value := by
  unfold Query.read
  split
  · exact fits
  · rename_i t _
    cases value : f t with
    | error fault => exact fits
    | ok a => exact each value

theorem page_holds (fields : List (Text × Text)) :
    1 ≤ (Query.read fields "page" 1 (Query.bounded 1 none)).value :=
  read_holds (1 ≤ ·) fields "page" (Int.le_refl 1) fun read => (bounded_ok read).1

theorem limit_holds (fields : List (Text × Text)) :
    let limit := (Query.read fields "limit" 20 (Query.bounded 1 (some Query.maxPageSize))).value
    1 ≤ limit ∧ limit ≤ 100 := by
  refine read_holds (fun limit => 1 ≤ limit ∧ limit ≤ 100) fields "limit" (by decide) fun read => ?_
  obtain ⟨least, most⟩ := bounded_ok read
  exact ⟨least, most Query.maxPageSize rfl⟩

theorem status_holds (fields : List (Text × Text)) :
    ∃ status? : Option Status, status?.map Status.name = (Query.read fields "status" none fun t =>
      (Query.named (Status.all.map Status.name) t).map some).value := by
  refine read_holds (fun name => ∃ status? : Option Status, status?.map Status.name = name) fields "status"
    ⟨none, rfl⟩ fun read => ?_
  obtain ⟨name, known, rfl⟩ := Except.map_eq_ok read
  obtain ⟨status, -, rfl⟩ := List.mem_map.mp (named_ok known)
  exact ⟨some status, rfl⟩

/-- Every query that is accepted asks for a page of some list, of a hundred lessons at most. -/
theorem listQuery_ok (accepted : Query.listQuery t = .ok query) :
    1 ≤ query.page ∧ ∃ l : Listing, query = l.query query.page ∧ 1 ≤ l.limit ∧ l.limit ≤ 100 := by
  unfold Query.listQuery at accepted
  dsimp only at accepted
  split at accepted
  · obtain ⟨status?, named⟩ := status_holds (Percent.fields t)
    rw [← named] at accepted
    cases accepted
    exact ⟨page_holds _, { limit := _, status := status?, key := _, ascending := _ }, rfl, limit_holds _⟩
  · cases accepted

theorem pageContent_isSendable {p : Page} (encodable : ∀ row ∈ p.items, row.IsEncodable)
    (page : Decimal.isWritable query.page = true) (limit : Decimal.isWritable query.limit = true)
    (total : Decimal.isWritable p.total = true) (count : Decimal.isWritable p.count = true) :
    (pageContent query p).IsSendable Content.maxDepth := by
  have lessons : (Content.list (p.items.map lessonContent)).IsSendable 984 := by
    refine Content.list_isSendable fun c member => ?_
    obtain ⟨row, among, rfl⟩ := List.mem_map.mp member
    have sound := encodable row among
    exact lessonContent_isSendable sound.lessonId sound.title sound.outline sound.content sound.message 982
  refine Content.record_isSendable ?_
  simp only [List.forall_mem_cons, Text.ofString_isEncodable, true_and]
  refine ⟨lessons, Content.record_isSendable ?_, fun _ member => absurd member List.not_mem_nil⟩
  simp only [List.forall_mem_cons, Text.ofString_isEncodable, Content.ofInt_isSendable, page, limit, total, count,
    Content.flag_isSendable, true_and]
  exact fun _ member => absurd member List.not_mem_nil

/-- A page is told only if the number of lessons can be written. -/
theorem isWritable_of_render {p : Page} (rendered : (pageContent query p).render = .ok t) :
    Decimal.isWritable p.total = true := by
  obtain ⟨written, wrote, -⟩ := Except.bind_eq_ok rendered
  have all := (Content.isWritable_iff.mp (Content.isWritable_of_written wrote)).2
  have numbers := (Content.isWritable_iff.mp (all _ (by simp [Content.children, pageContent]; exact .inr rfl))).2
  exact (Content.isWritable_iff.mp (numbers (Content.ofInt p.total) (by simp [Content.children]))).1

/-- A request for a list that nothing is held against comes to the database, and to what is made of its page. -/
theorem list_runs_iff {outcome : Except Problem Response} (stored : s.settings.hasStore = true)
    (accepted : Query.listQuery r.query = .ok query) :
    (list r).Runs s outcome s' ↔
      (orElse .unforeseen (s.store.list query) >>= fun page => answerWith [] (pageContent query page)).Runs
        s outcome s' := by
  have held : requireStore.Runs s (.ok ()) s := by
    unfold requireStore
    rw [get_bind_runs, if_pos stored]
    rfl
  have read : (faultless (Query.listQuery r.query)).Runs s (.ok query) s := by
    rw [accepted]
    rfl
  unfold list
  rw [held.bind_iff, read.bind_iff, get_bind_runs]

theorem list_runs_given {p : Page} (stored : s.settings.hasStore = true)
    (accepted : Query.listQuery r.query = .ok query) (given : s.store.list query = .ok p)
    (sendable : (pageContent query p).IsSendable Content.maxDepth) :
    ∃ a : Response, (list r).Runs s (.ok a) s ∧ a.status = 200 ∧ (pageContent query p).render = .ok a.body := by
  obtain ⟨outcome, s', ran⟩ := exists_runs (answerWith [] (pageContent query p)) s
  obtain ⟨rfl, a, rfl, success, told⟩ := answerWith_runs sendable ran
  refine ⟨a, ?_, success, told⟩
  rw [list_runs_iff stored accepted, given]
  exact ran

/-- Nobody has provided for a page that the database does not give, or that cannot be told. -/
theorem list_runs_refused (stored : s.settings.hasStore = true) (accepted : Query.listQuery r.query = .ok query)
    (untold : ∀ p, s.store.list query = .ok p → ∀ t, (pageContent query p).render ≠ .ok t) :
    (list r).Runs s (.error .unforeseen) s := by
  rw [list_runs_iff stored accepted]
  cases listed : s.store.list query with
  | error e => rfl
  | ok p =>
    change (answerWith [] (pageContent query p)).Runs s (.error .unforeseen) s
    unfold answerWith Response.ofContent
    cases rendered : (pageContent query p).render with
    | error e => rfl
    | ok t => exact absurd rendered (untold p listed t)

theorem serve_list_given {p : Page} (now : Instant) (asked : Route.ofRequest r = .found .list)
    (stored : s.settings.hasStore = true) (accepted : Query.listQuery r.query = .ok query)
    (given : s.store.list query = .ok p) (sendable : (pageContent query p).IsSendable Content.maxDepth) :
    let a := (s.serve now r).1
    (s.serve now r).2 = { s with requestsSeen := s.requestsSeen + 1 } ∧ a.status = 200 ∧
      (pageContent query p).render = .ok a.body := by
  obtain ⟨a, ran, success, told⟩ :=
    list_runs_given (s := { s with requestsSeen := s.requestsSeen + 1 }) stored accepted given sendable
  have replied : (atEndpoint now r .list).Runs { s with requestsSeen := s.requestsSeen + 1 } (.ok ⟨a, none⟩)
      { s with requestsSeen := s.requestsSeen + 1 } := ran.bind_iff.mpr (pure_runs.mpr ⟨rfl, rfl⟩)
  rw [serve_found_eq asked replied]
  refine ⟨rfl, (mark_status s.sharing r a).trans success, told.trans ?_⟩
  exact congrArg Except.ok (mark_body s.sharing r a).symm

theorem serve_list_refused (now : Instant) (asked : Route.ofRequest r = .found .list)
    (stored : s.settings.hasStore = true) (accepted : Query.listQuery r.query = .ok query)
    (untold : ∀ p, s.store.list query = .ok p → ∀ t, (pageContent query p).render ≠ .ok t) :
    s.serve now r = (Problem.blankResponse (s.draws.requestId (s.requestsSeen + 1)),
      { s with requestsSeen := s.requestsSeen + 1 }) := by
  have ran := list_runs_refused (s := { s with requestsSeen := s.requestsSeen + 1 }) stored accepted untold
  have stopped : (atEndpoint now r .list).Runs { s with requestsSeen := s.requestsSeen + 1 } (.error .unforeseen)
      { s with requestsSeen := s.requestsSeen + 1 } := bind_runs.mpr (.inl ⟨_, ran, rfl⟩)
  exact serve_found_eq asked stopped

/-- The page of a query that is accepted can be told if the database can count to its start and the number of lessons
can be written. -/
theorem pageContent_query_isSendable (l : Listing) (encodable : ∀ row ∈ s.store.records, row.IsEncodable)
    (first : 1 ≤ query.page) (least : 1 ≤ l.limit) (most : l.limit ≤ 100)
    (fits : (query.page - 1) * l.limit ≤ 9223372036854775807) (limit : query.limit = l.limit)
    (total : Decimal.isWritable (s.store.stats.of l.status) = true) :
    (pageContent query ⟨s.store.onPage l query.page, s.store.stats.of l.status, query.page, l.limit⟩).IsSendable
      Content.maxDepth := by
  have start := Int.mul_le_mul_of_nonneg_left least (show 0 ≤ query.page - 1 by omega)
  have page : query.page ≤ 9223372036854775808 := by omega
  refine pageContent_isSendable (fun row member => encodable row (mem_records_of_mem_onPage member))
    (Decimal.isWritable_of_machine (by omega) page) (Decimal.isWritable_of_machine (by omega) (by omega)) total ?_
  have natural : (0 : Int) ≤ s.store.stats.of l.status := by omega
  exact Decimal.isWritable_of_le (pageCount_nonneg natural (show 0 < l.limit by omega)) (pageCount_le natural least) total

/-- A request for the list of lessons that nothing is held against asks for a page from the first one on, with a hundred
lessons at most, and leaves the lessons as they are. If the database can count to the place where the page starts, the
answer is a success and holds the page, which is empty exactly if it comes after the last one, provided that the number
of lessons has few enough digits to be written. Otherwise the request is answered as one that nobody has provided for,
although the page comes after the last one wherever the database can count the lessons. -/
theorem serve_list (s : Service σ) (now : Instant) (asked : Route.ofRequest r = .found .list)
    (stored : s.settings.hasStore = true) (accepted : Query.listQuery r.query = .ok query)
    (encodable : ∀ row ∈ s.store.records, row.IsEncodable) :
    let a := (s.serve now r).1
    let blank := Problem.blankResponse (s.draws.requestId (s.requestsSeen + 1))
    let start := (query.page - 1) * query.limit
    let total : Int := (s.store.matching query).length
    let last := pageCount total query.limit
    1 ≤ query.page ∧ 1 ≤ query.limit ∧ query.limit ≤ 100 ∧
      (s.serve now r).2 = { s with requestsSeen := s.requestsSeen + 1 } ∧
      (start ≤ 9223372036854775807 → ∃ p, s.store.list query = .ok p ∧ (p.items = [] ↔ last < query.page) ∧
        (Decimal.isWritable total = true → a.status = 200 ∧ (pageContent query p).render = .ok a.body) ∧
        (Decimal.isWritable total = false → a.status = 500 ∧ a = blank)) ∧
      (9223372036854775807 < start → a.status = 500 ∧ a = blank ∧
        (fitsDatabase s.store.records.length = true → last < query.page)) := by
  intro a blank start total last
  obtain ⟨first, l, same, least, most⟩ := listQuery_ok accepted
  have all : (s.store.matching query).length = s.store.stats.of l.status := by
    rw [same, matching_query, length_ofStatus]
  have count : total = s.store.stats.of l.status := congrArg Nat.cast all
  have limit : query.limit = l.limit := congrArg ListQuery.limit same
  have listed := list_query s.store l query.page least most
  rw [← same, ← limit] at listed
  have counts : fitsDatabase start = true ↔ start ≤ 9223372036854775807 :=
    fitsDatabase_iff (Int.mul_nonneg (by omega) (by omega))
  have failed (untold : ∀ p, s.store.list query = .ok p → ∀ t, (pageContent query p).render ≠ .ok t) :
      (s.serve now r).2 = { s with requestsSeen := s.requestsSeen + 1 } ∧ a.status = 500 ∧ a = blank := by
    have served := serve_list_refused now asked stored accepted untold
    have same : a = blank := congrArg Prod.fst served
    exact ⟨congrArg Prod.snd served, same ▸ Problem.blankResponse_status _, same⟩
  by_cases fits : start ≤ 9223372036854775807
  · rw [if_pos (counts.mpr fits)] at listed
    have empty : s.store.onPage l query.page = [] ↔ last < query.page := by
      rw [onPage_eq_nil_iff l first least, ← count, ← limit]
    have beyond (far : 9223372036854775807 < start) : False := absurd fits (Int.not_le.mpr far)
    cases written : Decimal.isWritable total with
    | true =>
      have sendable := pageContent_query_isSendable l encodable first least most (limit ▸ fits) limit (count ▸ written)
      rw [limit] at listed
      obtain ⟨kept, success, told⟩ := serve_list_given now asked stored accepted listed sendable
      exact ⟨first, limit ▸ least, limit ▸ most, kept, fun _ => ⟨_, listed, empty, fun _ => ⟨success, told⟩, nofun⟩,
        fun far => (beyond far).elim⟩
    | false =>
      obtain ⟨kept, answered⟩ := failed fun p given t rendered => by
        rw [listed] at given
        cases given
        have told := isWritable_of_render rendered
        rw [← count, written] at told
        cases told
      exact ⟨first, limit ▸ least, limit ▸ most, kept, fun _ => ⟨_, listed, empty, nofun, fun _ => answered⟩,
        fun far => (beyond far).elim⟩
  · rw [if_neg (counts.not.mpr fits)] at listed
    have past (counted : fitsDatabase s.store.records.length = true) : last < query.page := by
      by_contra within
      have reached : query.page ≤ pageCount (s.store.stats.of l.status) l.limit := by
        rw [← count, ← limit]
        exact Int.not_lt.mp within
      have reachable := fitsDatabase_offset l counted least first reached
      rw [← limit] at reachable
      exact fits (counts.mp reachable)
    obtain ⟨kept, status, same⟩ := failed fun p given => by
      rw [listed] at given
      cases given
    exact ⟨first, limit ▸ least, limit ▸ most, kept, fun within => absurd within fits, fun _ => ⟨status, same, past⟩⟩

/-- Settings of a service with a store can be read. -/
theorem exists_settings_stored :
    ∃ settings, Environment.settings [("LESSONFORGE_ALLOWED_ORIGINS", "http://localhost:3000"),
      ("LESSONFORGE_PG_DSN", "sqlite://")] = .ok settings ∧ settings.hasStore = true := by
  have held : (Environment.settings [("LESSONFORGE_ALLOWED_ORIGINS", "http://localhost:3000"),
      ("LESSONFORGE_PG_DSN", "sqlite://")]).toOption.map Settings.hasStore = some true := by decide +kernel
  cases read : Environment.settings [("LESSONFORGE_ALLOWED_ORIGINS", "http://localhost:3000"),
      ("LESSONFORGE_PG_DSN", "sqlite://")] with
  | error e =>
    rw [read] at held
    cases held
  | ok settings =>
    rw [read] at held
    exact ⟨settings, rfl, Option.some.inj held⟩

/-- The second page of one lesson, in a service with settings that have been read. -/
theorem serve_list_second :
    let row : Record := .start ⟨0⟩ "a" "outline" "title"
    let r : Request := {
      method := "GET", path := "/v1/lessons", query := "page=2&limit=1", headers := [], body := [], peer := none }
    let query : ListQuery := { page := 2, limit := 1 }
    ∃ settings : Settings, Environment.settings [("LESSONFORGE_ALLOWED_ORIGINS", "http://localhost:3000"),
        ("LESSONFORGE_PG_DSN", "sqlite://")] = .ok settings ∧
      let s : Service Unit := { Service.start settings ⟨Text.ofNat, Text.ofNat, [], fun _ => 1⟩ none () with store := ⟨[row]⟩ }
      Route.ofRequest r = .found .list ∧ s.settings.hasStore = true ∧ Query.listQuery r.query = .ok query ∧
        (∀ row ∈ s.store.records, row.IsEncodable) ∧ (s.serve ⟨0⟩ r).1.status = 200 ∧
        ∃ p, (pageContent query p).render = .ok (s.serve ⟨0⟩ r).1.body ∧ p.items = [] := by
  intro row r query
  obtain ⟨settings, read, stored⟩ := exists_settings_stored
  refine ⟨settings, read, ?_⟩
  intro s
  have asked : Route.ofRequest r = .found .list := by decide +kernel
  have accepted : Query.listQuery r.query = .ok query := by with_unfolding_all rfl
  have encodable : ∀ row ∈ s.store.records, row.IsEncodable := by
    intro row' member
    obtain rfl := List.mem_singleton.mp member
    exact ⟨by decide, by decide, by decide, nofun, nofun⟩
  have past : pageCount (s.store.matching query).length query.limit < query.page := show pageCount 1 1 < 2 by decide
  obtain ⟨-, -, -, -, given, -⟩ := serve_list s ⟨0⟩ asked stored accepted encodable
  obtain ⟨p, -, empty, written, -⟩ := given (by decide)
  obtain ⟨success, told⟩ := written (Decimal.isWritable_of_machine (by omega) (show (1 : Int) ≤ _ by decide))
  exact ⟨asked, stored, accepted, encodable, success, p, told, empty.mpr past⟩

/-- A page that may be asked for, from a place on that the database cannot count to: there are no lessons at all, but
the request fails. -/
theorem serve_list_beyond :
    let r : Request := {
      method := "GET", path := "/v1/lessons", query := "page=9223372036854775809&limit=1", headers := [], body := []
      peer := none }
    ∃ settings : Settings, Environment.settings [("LESSONFORGE_ALLOWED_ORIGINS", "http://localhost:3000"),
        ("LESSONFORGE_PG_DSN", "sqlite://")] = .ok settings ∧
      let s : Service Unit := .start settings ⟨Text.ofNat, Text.ofNat, [], fun _ => 1⟩ none ()
      Route.ofRequest r = .found .list ∧ s.settings.hasStore = true ∧ s.store.records = [] ∧
        Query.listQuery r.query = .ok { page := 9223372036854775809, limit := 1 } ∧
        (s.serve ⟨1704067200000000⟩ r).1.status = 500 := by
  intro r
  obtain ⟨settings, read, stored⟩ := exists_settings_stored
  refine ⟨settings, read, ?_⟩
  intro s
  have asked : Route.ofRequest r = .found .list := by decide +kernel
  have accepted : Query.listQuery r.query = .ok { page := 9223372036854775809, limit := 1 } := by with_unfolding_all rfl
  have refused : s.store.list { page := 9223372036854775809, limit := 1 } = .error .numberTooGreat := rfl
  refine ⟨asked, stored, rfl, accepted, ?_⟩
  rw [serve_list_refused ⟨1704067200000000⟩ asked stored accepted fun p given => by rw [refused] at given; cases given]
  exact Problem.blankResponse_status _

end LessonService.Web
