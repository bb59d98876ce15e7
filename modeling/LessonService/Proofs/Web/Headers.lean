import LessonService.Web.Service

namespace LessonService.Web

namespace Headers

variable {h : Headers} {name other value : Text}

@[simp] theorem get?_nil (name : Text) : get? [] name = none := rfl

theorem get?_cons (name other value : Text) (h : Headers) :
    get? ((other, value) :: h) name = if other = name then some value else h.get? name := by
  unfold get?
  rw [List.find?_cons]
  by_cases same : other = name <;> simp [same]

theorem get?_cons_self (name value : Text) (h : Headers) : get? ((name, value) :: h) name = some value := by
  rw [get?_cons, if_pos rfl]

theorem get?_cons_of_ne (value : Text) (h : Headers) (apart : other ≠ name) :
    get? ((other, value) :: h) name = h.get? name := by
  rw [get?_cons, if_neg apart]

theorem has_eq (h : Headers) (name : Text) : h.has name = (h.get? name).isSome := by
  induction h with
  | nil => rfl
  | cons f h ih =>
    obtain ⟨other, value⟩ := f
    rw [get?_cons]
    change (decide (other = name) || has h name) = _
    rw [ih]
    by_cases same : other = name <;> simp [same]

theorem erase_cons (name other value : Text) (h : Headers) :
    erase ((other, value) :: h) name = if other = name then h.erase name else (other, value) :: h.erase name := by
  unfold erase
  rw [List.filter_cons]
  by_cases same : other = name <;> simp [same]

theorem get?_erase_self (h : Headers) (name : Text) : (h.erase name).get? name = none := by
  induction h with
  | nil => rfl
  | cons f h ih =>
    rw [erase_cons]
    split
    · exact ih
    · rename_i apart
      rw [get?_cons_of_ne _ _ apart, ih]

theorem get?_erase_of_ne (h : Headers) (apart : other ≠ name) : (h.erase other).get? name = h.get? name := by
  induction h with
  | nil => rfl
  | cons f h ih =>
    rw [erase_cons]
    split
    · rename_i same
      rw [ih, get?_cons_of_ne _ _ (same ▸ apart)]
    · rw [get?_cons, get?_cons, ih]

theorem get?_set_of_ne (value : Text) (h : Headers) (apart : other ≠ name) :
    (set other value h).get? name = h.get? name := by
  induction h with
  | nil => exact get?_cons_of_ne _ _ apart
  | cons f h ih =>
    obtain ⟨first, old⟩ := f
    rw [set]
    split
    · rename_i same
      rw [get?_cons_of_ne _ _ (same ▸ apart), get?_cons_of_ne _ _ (same ▸ apart), get?_erase_of_ne h apart]
    · rw [get?_cons, get?_cons, ih]

theorem get?_append (h h' : Headers) (name : Text) : get? (h ++ h') name = (h.get? name).or (get? h' name) := by
  induction h with
  | nil => rfl
  | cons f h ih =>
    rw [List.cons_append, get?_cons, get?_cons, ih]
    split <;> rfl

theorem get?_setIfMissing_self (h : Headers) (name value : Text) :
    (h.setIfMissing name value).get? name = some ((h.get? name).getD value) := by
  unfold setIfMissing
  rw [has_eq]
  cases own : h.get? name with
  | some old => exact own
  | none =>
    change (h ++ [(name, value)]).get? name = some value
    rw [get?_append, own, get?_cons_self]
    rfl

theorem get?_setIfMissing_of_ne (h : Headers) (value : Text) (apart : other ≠ name) :
    (h.setIfMissing other value).get? name = h.get? name := by
  unfold setIfMissing
  split
  · rfl
  · rw [get?_append, get?_cons_of_ne _ _ apart, get?_nil, Option.or_none]

/-- What is said of pages that may read an answer. -/
def sharingNames : List Text := [
  "vary", "access-control-allow-credentials", "access-control-expose-headers", "access-control-allow-origin"]

/-- What tells about the server. -/
def serverNames : List Text := ["server", "x-powered-by"]

theorem get?_mark (sharing : Sharing) (r : Request) (a : Response) (apart : name ∉ sharingNames) :
    (sharing.mark r a).headers.get? name = a.headers.get? name := by
  simp only [sharingNames, List.mem_cons, List.not_mem_nil, or_false, not_or] at apart
  obtain ⟨vary, credentials, exposed, origin⟩ := apart
  have varied : (a.headers.setIfMissing "vary" "Origin").get? name = a.headers.get? name :=
    get?_setIfMissing_of_ne _ _ (Ne.symm vary)
  unfold Sharing.mark
  dsimp only
  split
  · exact varied
  · dsimp only
    split
    · rw [get?_set_of_ne _ _ (Ne.symm origin), get?_set_of_ne _ _ (Ne.symm exposed),
        get?_set_of_ne _ _ (Ne.symm credentials), varied]
    · rw [get?_set_of_ne _ _ (Ne.symm exposed), get?_set_of_ne _ _ (Ne.symm credentials), varied]

theorem get?_secured_of_mem (h : Headers) (fingerprint : name ∈ serverNames) : h.secured.get? name = none := by
  simp only [serverNames, List.mem_cons, List.not_mem_nil, or_false] at fingerprint
  unfold secured
  rcases fingerprint with rfl | rfl
  · rw [get?_setIfMissing_of_ne _ _ (by decide), get?_erase_self]
  · rw [get?_setIfMissing_of_ne _ _ (by decide), get?_erase_of_ne _ (by decide), get?_erase_self]

theorem get?_secured_type (h : Headers) :
    h.secured.get? "x-content-type-options" = some ((h.get? "x-content-type-options").getD "nosniff") := by
  unfold secured
  rw [get?_setIfMissing_self, get?_erase_of_ne _ (by decide), get?_erase_of_ne _ (by decide)]

theorem get?_secured_of_notMem (h : Headers) (plain : name ∉ serverNames) (type : name ≠ "x-content-type-options") :
    h.secured.get? name = h.get? name := by
  simp only [serverNames, List.mem_cons, List.not_mem_nil, or_false, not_or] at plain
  unfold secured
  rw [get?_setIfMissing_of_ne _ _ (Ne.symm type), get?_erase_of_ne _ (Ne.symm plain.1),
    get?_erase_of_ne _ (Ne.symm plain.2)]

end Headers

end LessonService.Web
