import LessonService.Proofs.Number.Spelling
import LessonService.Proofs.Settings.Loading
import LessonService.Proofs.Web.Rendering

namespace LessonService.Content

/-- What a value is made of, one level down. -/
def children : Content → List Content
  | list items | tuple items | set items => items
  | record fields => fields.map Prod.snd
  | _ => []

mutual

/-- A value and everything in it, in order. -/
def parts : Content → List Content
  | list items => list items :: partsOfAll items
  | tuple items => tuple items :: partsOfAll items
  | set members => set members :: partsOfAll members
  | record fields => record fields :: partsOfFields fields
  | other => [other]

def partsOfAll : List Content → List Content
  | [] => []
  | c :: cs => parts c ++ partsOfAll cs

def partsOfFields : List (Text × Content) → List Content
  | [] => []
  | (_, c) :: fs => parts c ++ partsOfFields fs

end

/-- The names of the fields of a record. -/
def ownNames : Content → List Text
  | record fields => fields.map Prod.fst
  | _ => []

/-- The names of all fields in a value. -/
def names (c : Content) : List Text := c.parts.flatMap ownNames

/-- The texts of a value, apart from those of its parts. -/
def ownTexts : Content → List Text
  | text t => [t]
  | failure f => [f.name, f.text]
  | other => other.ownNames

/-- Every text in the value can be sent. -/
def IsEncodable (c : Content) : Prop := ∀ p ∈ c.parts, ∀ t ∈ p.ownTexts, t.IsEncodable

/-- Whether a value is anything but a number without a text. -/
def hasText : Content → Bool
  | number n => n.isWritable
  | _ => true

/-- Every number in the value is finite, and no whole number in it has too many digits. -/
def IsWritable (c : Content) : Prop := ∀ p ∈ c.parts, p.hasText = true

instance (c : Content) : Decidable c.IsEncodable := inferInstanceAs (Decidable (∀ p ∈ c.parts, _))

instance (c : Content) : Decidable c.IsWritable := inferInstanceAs (Decidable (∀ p ∈ c.parts, _))

variable {c d : Content} {t : Text}

theorem sizeOf_lt_of_child (child : d ∈ c.children) : sizeOf d < sizeOf c := by
  cases c with
  | list items | tuple items | set items =>
    have smaller : sizeOf d < sizeOf items := List.sizeOf_lt_of_mem child
    simp only [list.sizeOf_spec, tuple.sizeOf_spec, set.sizeOf_spec]
    omega
  | record fields =>
    obtain ⟨⟨name, value⟩, among, rfl⟩ := List.mem_map.mp child
    have smaller := List.sizeOf_lt_of_mem among
    simp only [Prod.mk.sizeOf_spec, record.sizeOf_spec] at smaller ⊢
    omega
  | _ => cases child

/-- What holds of a value as soon as it holds of what the value is made of holds of every value. -/
theorem induction {motive : Content → Prop} (step : ∀ c, (∀ d ∈ c.children, motive d) → motive c) (c : Content) :
    motive c :=
  step c fun d _ => induction step d
termination_by sizeOf c
decreasing_by exact sizeOf_lt_of_child ‹_›

theorem parts_eq (c : Content) : c.parts = c :: c.children.flatMap parts := by
  have all (items : List Content) : partsOfAll items = items.flatMap parts := by
    induction items with
    | nil => rfl
    | cons d items ih => rw [partsOfAll, ih, List.flatMap_cons]
  have fieldwise (fields : List (Text × Content)) : partsOfFields fields = (fields.map Prod.snd).flatMap parts := by
    induction fields with
    | nil => rfl
    | cons f fields ih => rw [partsOfFields, ih, List.map_cons, List.flatMap_cons]
  cases c <;> simp [parts, children, all, fieldwise]

theorem forall_parts_iff {holds : Content → Prop} :
    (∀ p ∈ c.parts, holds p) ↔ holds c ∧ ∀ d ∈ c.children, ∀ p ∈ d.parts, holds p := by
  rw [parts_eq, List.forall_mem_cons]
  simp only [List.mem_flatMap, forall_exists_index, and_imp]
  exact and_congr_right fun _ => ⟨fun all d child p => all p d child, fun all p d child => all d child p⟩

theorem isEncodable_iff : c.IsEncodable ↔ (∀ t ∈ c.ownTexts, t.IsEncodable) ∧ ∀ d ∈ c.children, d.IsEncodable :=
  forall_parts_iff

theorem isWritable_iff : c.IsWritable ↔ c.hasText = true ∧ ∀ d ∈ c.children, d.IsWritable := forall_parts_iff

/-- A value goes two steps farther down than what it is made of. -/
theorem depth_le_add_two_iff {k : Nat} : c.depth ≤ k + 2 ↔ ∀ d ∈ c.children, d.depth ≤ k := by
  have all (items : List Content) : depthOfAll items ≤ k ↔ ∀ d ∈ items, d.depth ≤ k := by
    induction items with
    | nil => simp [depthOfAll]
    | cons d items ih => rw [depthOfAll, Nat.max_le, ih, List.forall_mem_cons]
  have fieldwise (fields : List (Text × Content)) : depthOfFields fields ≤ k ↔ ∀ d ∈ fields.map Prod.snd, d.depth ≤ k := by
    induction fields with
    | nil => simp [depthOfFields]
    | cons f fields ih => rw [depthOfFields, Nat.max_le, ih, List.map_cons, List.forall_mem_cons]
  cases c with
  | list items | tuple items | set items => rw [depth, Nat.add_le_add_iff_right, all, children]
  | record fields => rw [depth, Nat.add_le_add_iff_right, fieldwise, children]
  | _ => simp [depth, children]

theorem plainItems_eq (items : List Content) : plainItems items = items.map plain := by
  induction items with
  | nil => rfl
  | cons d items ih => rw [plainItems, ih, List.map_cons]

theorem plainFields_eq (fields : List (Text × Content)) : plainFields fields = fields.map fun f => (f.1, f.2.plain) := by
  induction fields with
  | nil => rfl
  | cons f fields ih => rw [plainFields, ih, List.map_cons]

theorem children_plain (c : Content) : c.plain.children = c.children.map plain := by
  cases c <;> simp [plain, children, plainItems_eq, plainFields_eq]

/-- A value keeps its parts, each of them with what JSON knows in its place. -/
theorem parts_plain (c : Content) : c.plain.parts = c.parts.map plain := by
  induction c using induction with
  | step c ih =>
    rw [parts_eq, parts_eq c, children_plain, List.map_cons, List.flatMap_map, List.map_flatMap]
    exact congrArg _ (List.flatMap_congr ih)

theorem ownNames_plain (c : Content) : c.plain.ownNames = c.ownNames := by
  cases c <;> simp [plain, ownNames, plainFields_eq, Function.comp_def]

/-- A value keeps the names of its fields, however deep they are. -/
theorem names_plain (c : Content) : c.plain.names = c.names := by
  rw [names, names, parts_plain, List.flatMap_map]
  exact List.flatMap_congr fun p _ => ownNames_plain p

theorem hasText_plain (c : Content) : c.plain.hasText = c.hasText := by
  cases c <;> simp [plain, hasText]

theorem isWritable_plain_iff : c.plain.IsWritable ↔ c.IsWritable := by
  simp [IsWritable, parts_plain, hasText_plain]

theorem plain?_eq_some_iff : c.plain? = some d ↔ c.depth ≤ maxDepth ∧ c.plain = d := by
  rw [plain?, Option.ite_none_left_eq_some, Option.some_inj, Nat.not_lt]

theorem exists_written_of_items {levels : Nat} {items : List Content} {texts : List Text}
    (wrote : writtenItems levels items = .ok texts) : ∀ d ∈ items, ∃ levels t, d.written levels = .ok t := by
  induction items generalizing texts with
  | nil => exact List.forall_mem_nil _
  | cons d items ih =>
    rw [writtenItems] at wrote
    obtain ⟨t, first, wrote⟩ := Except.bind_eq_ok wrote
    obtain ⟨rest, later, -⟩ := Except.bind_eq_ok wrote
    exact List.forall_mem_cons.mpr ⟨⟨levels, t, first⟩, ih later⟩

theorem exists_written_of_fields {levels : Nat} {fields : List (Text × Content)} {texts : List Text}
    (wrote : writtenFields levels fields = .ok texts) : ∀ f ∈ fields, ∃ levels t, f.2.written levels = .ok t := by
  induction fields generalizing texts with
  | nil => exact List.forall_mem_nil _
  | cons f fields ih =>
    rw [writtenFields] at wrote
    obtain ⟨t, first, wrote⟩ := Except.bind_eq_ok wrote
    obtain ⟨rest, later, -⟩ := Except.bind_eq_ok wrote
    exact List.forall_mem_cons.mpr ⟨⟨levels, t, first⟩, ih later⟩

/-- A value is written only if everything in it is. -/
theorem exists_written_of_child {levels : Nat} (wrote : c.written levels = .ok t) (child : d ∈ c.children) :
    ∃ levels s, d.written levels = .ok s := by
  cases c with
  | list items | tuple items =>
    rw [written] at wrote
    obtain ⟨_, -, wrote⟩ := Except.bind_eq_ok wrote
    obtain ⟨_, all, -⟩ := Except.bind_eq_ok wrote
    exact exists_written_of_items all d child
  | set members =>
    rw [written] at wrote
    obtain ⟨_, -, wrote⟩ := Except.bind_eq_ok wrote
    split at wrote
    · cases wrote
    · obtain ⟨_, -, wrote⟩ := Except.bind_eq_ok wrote
      obtain ⟨_, all, -⟩ := Except.bind_eq_ok wrote
      exact exists_written_of_items all d child
  | record fields =>
    rw [written] at wrote
    obtain ⟨_, -, wrote⟩ := Except.bind_eq_ok wrote
    obtain ⟨_, all, -⟩ := Except.bind_eq_ok wrote
    obtain ⟨f, among, rfl⟩ := List.mem_map.mp child
    exact exists_written_of_fields all f among
  | _ => cases child

/-- There is a text for every number in what is written. -/
theorem isWritable_of_written {levels : Nat} (wrote : c.written levels = .ok t) : c.IsWritable := by
  induction c using induction generalizing levels t with
  | step c ih =>
    refine isWritable_iff.mpr ⟨?_, fun d child => ?_⟩
    · cases c with
      | number n =>
        rw [written] at wrote
        exact (numberText_eq_ok_iff.mp wrote).1
      | _ => rfl
    · obtain ⟨levels, s, here⟩ := exists_written_of_child wrote child
      exact ih d child here

/-- What a value is made of lies a level below it. -/
theorem exists_levels {levels : Nat} (shallow : c.depth ≤ 2 * levels + 1) (large : 2 ≤ c.depth) :
    ∃ below, levels = below + 1 ∧ ∀ d ∈ c.children, d.depth ≤ 2 * below + 1 := by
  obtain ⟨below, rfl⟩ := Nat.exists_eq_add_of_le' (show 1 ≤ levels by omega)
  exact ⟨below, rfl, depth_le_add_two_iff.mp (by omega)⟩

/-- A plain value can be written and sent on half as many levels as it goes down, if there is a text for each number in
it and its texts can be sent. -/
theorem plain_isSendable {levels : Nat} (encodable : c.IsEncodable) (writable : c.IsWritable)
    (shallow : c.depth ≤ 2 * levels + 1) : c.plain.IsSendable levels := by
  induction c using induction generalizing levels with
  | step c ih =>
    obtain ⟨own, below⟩ := isEncodable_iff.mp encodable
    obtain ⟨value, numbers⟩ := isWritable_iff.mp writable
    cases c with
    | null => exact null_isSendable
    | flag b => exact flag_isSendable b
    | number n => exact number_isSendable value
    | text t => exact text_isSendable (own t (List.mem_singleton_self t))
    | list items | tuple items | set items =>
      obtain ⟨lower, rfl, small⟩ := exists_levels shallow (by simp [depth])
      rw [plain, plainItems_eq]
      exact list_isSendable (List.forall_mem_map.mpr fun d child =>
        ih d child (below d child) (numbers d child) (small d child))
    | record fields =>
      obtain ⟨lower, rfl, small⟩ := exists_levels shallow (by simp [depth])
      rw [plain, plainFields_eq]
      refine record_isSendable (List.forall_mem_map.mpr fun f member => ⟨?_, ?_⟩)
      · exact own f.1 (List.mem_map_of_mem member)
      · have child : f.2 ∈ (record fields).children := List.mem_map_of_mem member
        exact ih f.2 child (below f.2 child) (numbers f.2 child) (small f.2 child)
    | date d => exact text_isSendable d.toText_isEncodable
    | time t => exact text_isSendable (t.toText_isEncodable (Text.ofString_isEncodable _))
    | failure f =>
      have name : f.name.IsEncodable := own f.name (by simp [ownTexts])
      have text : f.text.IsEncodable := own f.text (by simp [ownTexts])
      exact text_isSendable (Text.isEncodable_ite name (by simp [name, text]))

end LessonService.Content
