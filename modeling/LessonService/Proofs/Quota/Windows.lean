import LessonService.Quota
import Mathlib.Data.List.Nodup

namespace LessonService.Quota

variable {g : Guard} {v : Visit} {client other : Text} {w : Window}

/-- A request whose window and limit a guard takes. -/
structure Visit.IsPositive (v : Visit) : Prop where
  lasting : 0 < v.windowMillis
  roomy : 0 < v.limit

theorem Visit.isPositive_iff : v.IsPositive ↔ ¬(v.windowMillis ≤ 0 || v.limit ≤ 0) = true := by
  simp only [Bool.or_eq_true, decide_eq_true_eq, not_or, Int.not_le]
  exact ⟨fun positive => ⟨positive.lasting, positive.roomy⟩, fun ⟨lasting, roomy⟩ => ⟨lasting, roomy⟩⟩

/-- Each client has one window at most. -/
def Guard.HasUniqueClients (g : Guard) : Prop := (g.windows.map Prod.fst).Nodup

namespace Guard

theorem setWindow_clients (client : Text) (w : Window) (windows : List (Text × Window)) :
    (setWindow client w windows).map Prod.fst =
      if client ∈ windows.map Prod.fst then windows.map Prod.fst else windows.map Prod.fst ++ [client] := by
  induction windows with
  | nil => rfl
  | cons held rest ih =>
    obtain ⟨c, old⟩ := held
    by_cases same : c = client
    · simp [setWindow, same]
    · have other : client ≠ c := Ne.symm same
      simp only [setWindow, if_neg same, List.map_cons, ih, List.mem_cons, other, false_or]
      split <;> rfl

theorem HasUniqueClients.setWindow (unique : g.HasUniqueClients) (client : Text) (w : Window) :
    ({ g with windows := Guard.setWindow client w g.windows } : Guard).HasUniqueClients := by
  unfold HasUniqueClients at unique ⊢
  rw [setWindow_clients]
  split
  · exact unique
  · rename_i absent
    exact List.nodup_append.mpr ⟨unique, List.nodup_singleton client, by grind⟩

theorem HasUniqueClients.purge (unique : g.HasUniqueClients) (now : Number) : (g.purge now).HasUniqueClients :=
  unique.sublist (List.filter_sublist.map Prod.fst)

theorem find?_setWindow (g : Guard) (client : Text) (w : Window) (other : Text) :
    ({ g with windows := setWindow client w g.windows } : Guard).find? other =
      if client = other then some w else g.find? other := by
  unfold find?
  induction g.windows with
  | nil =>
    by_cases asked : client = other <;> simp [setWindow, asked]
  | cons held rest ih =>
    obtain ⟨c, old⟩ := held
    by_cases same : c = client
    · subst same
      by_cases asked : c = other <;> simp [setWindow, asked]
    · by_cases asked : c = other
      · subst asked
        simp [setWindow, same, Ne.symm same]
      · simpa [setWindow, same, asked] using ih

theorem HasUniqueClients.find?_eq_some_iff (unique : g.HasUniqueClients) :
    g.find? client = some w ↔ (client, w) ∈ g.windows := by
  simp only [find?, Option.map_eq_some_iff, Prod.exists]
  constructor
  · rintro ⟨c, held, found, rfl⟩
    have same : c = client := by simpa using List.find?_some found
    exact same ▸ List.mem_of_find?_eq_some found
  · intro member
    cases found : g.windows.find? fun x => x.1 = client with
    | none => exact absurd member (by simpa using List.find?_eq_none.mp found (client, w))
    | some held =>
      have asked : held.1 = client := by simpa using List.find?_some found
      have same := List.inj_on_of_nodup_map unique (List.mem_of_find?_eq_some found) member asked
      exact ⟨client, w, by rw [same], rfl⟩

theorem HasUniqueClients.find?_purge (unique : g.HasUniqueClients) (now : Number) (client : Text) :
    (g.purge now).find? client = (g.find? client).filter fun w => !w.isOver now := by
  ext w
  rw [Option.filter_eq_some_iff, (unique.purge now).find?_eq_some_iff, unique.find?_eq_some_iff]
  exact List.mem_filter

/-- What a visit leaves of a client's window, after it is counted. -/
def leaves (g : Guard) (v : Visit) (held : Option Window) : Option Window :=
  if v.roll.less g.cleanupProbability then held.filter fun w => !w.isOver v.now else held

theorem HasUniqueClients.keep (unique : g.HasUniqueClients) (v : Visit) (w : Window) :
    (g.keep v w).HasUniqueClients := by
  have counted := unique.setWindow v.client w
  unfold Guard.keep
  split
  · exact counted.purge v.now
  · exact counted

/-- A visit changes the window of its client and no other, except that windows whose time is up may be gone. -/
theorem HasUniqueClients.find?_keep (unique : g.HasUniqueClients) (v : Visit) (w : Window) (client : Text) :
    (g.keep v w).find? client = g.leaves v (if v.client = client then some w else g.find? client) := by
  have counted := unique.setWindow v.client w
  rw [← find?_setWindow]
  unfold Guard.keep leaves
  split
  · exact counted.find?_purge v.now client
  · rfl

theorem admitVisit_of_not_isPositive (g : Guard) (refused : ¬v.IsPositive) : g.admitVisit v = (.error .notPositive, g) := by
  rw [Visit.isPositive_iff, not_not] at refused
  rw [admitVisit, if_pos refused]

theorem admitVisit_of_error {e : Overflow} (positive : v.IsPositive) (failed : g.windowFor v = .error e) :
    g.admitVisit v = (.error (.overflow e), g) := by
  rw [admitVisit, if_neg (Visit.isPositive_iff.mp positive), failed]

theorem admitVisit_of_ok (positive : v.IsPositive) (found : g.windowFor v = .ok w) :
    g.admitVisit v = ((w.counted.decide v).logged, g.keep v w.counted) := by
  rw [admitVisit, if_neg (Visit.isPositive_iff.mp positive), found]

/-- A guard takes a visit: it finds no fault with its window and its limit, and decides on it whenever the end of a
window that opens then can be calculated. -/
structure Takes (g : Guard) (v : Visit) : Prop where
  positive : (g.admitVisit v).1 ≠ .error .notPositive
  decided : ∀ reset, v.now.plus v.windowMillis = .ok reset → ∃ d : Decision, (g.admitVisit v).1 = d.logged

theorem windowFor_eq_ok {reset : Number} (sum : v.now.plus v.windowMillis = .ok reset) : ∃ w, g.windowFor v = .ok w := by
  have opened : v.opening = .ok ⟨0, reset⟩ := by rw [Visit.opening, sum]; rfl
  unfold windowFor
  cases g.find? v.client with
  | none => exact ⟨_, opened⟩
  | some w =>
    dsimp only
    split
    · exact ⟨_, opened⟩
    · exact ⟨w, rfl⟩

theorem takes_of_isPositive (g : Guard) (positive : v.IsPositive) : g.Takes v where
  positive refused := by
    cases found : g.windowFor v with
    | error e =>
      rw [admitVisit_of_error positive found] at refused
      cases refused
    | ok w =>
      rw [admitVisit_of_ok positive found] at refused
      dsimp only [Decision.logged] at refused
      split at refused
      · cases refused
      · split at refused <;> cases refused
  decided reset sum := by
    obtain ⟨w, found⟩ := g.windowFor_eq_ok sum
    exact ⟨w.counted.decide v, by rw [admitVisit_of_ok positive found]⟩

/-- What becomes of visits, one after the other. -/
def admitAll : Guard → List Visit → List (Except Refusal Decision) × Guard
  | g, [] => ([], g)
  | g, v :: visits =>
    let (outcome, after) := g.admitVisit v
    let (outcomes, last) := after.admitAll visits
    (outcome :: outcomes, last)

theorem admitAll_append (g : Guard) (first rest : List Visit) :
    g.admitAll (first ++ rest) =
      ((g.admitAll first).1 ++ ((g.admitAll first).2.admitAll rest).1, ((g.admitAll first).2.admitAll rest).2) := by
  induction first generalizing g with
  | nil => rfl
  | cons v first ih => simp [admitAll, ih]

@[simp] theorem admitAll_length (g : Guard) (visits : List Visit) : (g.admitAll visits).1.length = visits.length := by
  induction visits generalizing g with
  | nil => rfl
  | cons v visits ih => exact congrArg (· + 1) (ih _)

end Guard

end LessonService.Quota
