import LessonService.Proofs.Review.Scopes
import LessonService.Proofs.Script.Elements
import LessonService.Proofs.Text.Occurrence
import LessonService.Review.Rule

namespace LessonService.Review

open Tsx Script

/-- What is reported once. -/
def EarlyUse.key (e : EarlyUse) : Text × Nat := (e.name, e.line)

section FirstOfEachLine

variable {e : EarlyUse} {kept es : List EarlyUse}

theorem any_key :
    (kept.any fun k => k.name = e.name && k.line = e.line) = true ↔ e.key ∈ kept.map EarlyUse.key := by
  simp [EarlyUse.key, Prod.ext_iff]

theorem mem_of_mem_firstOfEachLine (member : e ∈ firstOfEachLine kept es) : e ∈ kept ∨ e ∈ es := by
  induction es generalizing kept with
  | nil => exact .inl member
  | cons f es ih =>
    rw [firstOfEachLine] at member
    split at member
    · exact (ih member).imp_right (List.mem_cons_of_mem f)
    · rcases ih member with known | later
      · rcases List.mem_append.mp known with before | last
        · exact .inl before
        · exact .inr (List.mem_cons.mpr (.inl (List.mem_singleton.mp last)))
      · exact .inr (List.mem_cons_of_mem f later)

theorem mem_keys_firstOfEachLine {k : Text × Nat} : k ∈ (firstOfEachLine kept es).map EarlyUse.key ↔
    k ∈ kept.map EarlyUse.key ∨ k ∈ es.map EarlyUse.key := by
  induction es generalizing kept with
  | nil => simp [firstOfEachLine]
  | cons e es ih =>
    rw [firstOfEachLine, List.map_cons, List.mem_cons]
    split
    · rename_i known
      -- What is dropped has a name and a line that are kept already.
      have here : k = e.key → k ∈ kept.map EarlyUse.key := fun same => same ▸ any_key.mp known
      rw [ih, ← or_assoc, or_iff_left_of_imp here]
    · rw [ih, List.map_append, List.mem_append, or_assoc]
      simp

theorem nodup_keys_firstOfEachLine (distinct : (kept.map EarlyUse.key).Nodup) :
    ((firstOfEachLine kept es).map EarlyUse.key).Nodup := by
  induction es generalizing kept with
  | nil => exact distinct
  | cons e es ih =>
    rw [firstOfEachLine]
    split
    · exact ih distinct
    · rename_i unknown
      rw [any_key] at unknown
      refine ih ?_
      rw [List.map_append, List.map_singleton, ← List.concat_eq_append, List.nodup_concat]
      exact ⟨unknown, distinct⟩

end FirstOfEachLine

/-- A declarator of a source that declares a collection by its name. -/
structure Declaration.IsIn (p : ParsedSource) (d : Declaration) : Prop where
  place : d.declarator ∈ locate [] p.root
  kind : d.declarator.node.kind = "variable_declarator"
  named : d.declarator.node.child? "name" = some d.nameNode
  identifier : d.nameNode.kind = "identifier"
  text : textOf p.characters d.nameNode = d.name
  collection : d.name ∈ collectionNames

/-- A place of a source at which a name stands for a variable, or for a property and a variable in one. -/
structure IsReference (p : ParsedSource) (name : Text) (r : Located) : Prop where
  place : r ∈ locate [] p.root
  kind : r.node.kind = "identifier" ∨ r.node.kind = "shorthand_property_identifier"
  text : textOf p.characters r.node = name

variable {p : ParsedSource} {d : Declaration} {r : Located} {cs : Characters}

theorem declaration?_eq_some_iff {l : Located} : declaration? cs l = some d ↔
    d.declarator = l ∧ l.node.kind = "variable_declarator" ∧ l.node.child? "name" = some d.nameNode ∧
      d.nameNode.kind = "identifier" ∧ textOf cs d.nameNode = d.name ∧ d.name ∈ collectionNames := by
  obtain ⟨declarator, nameNode, name⟩ := d
  rw [declaration?]
  constructor
  · intro declared
    split at declared
    · rename_i kind
      split at declared
      · rename_i n named
        split at declared
        · rename_i fits
          cases declared
          simp only [Bool.and_eq_true, decide_eq_true_eq, List.contains_iff_mem] at fits
          exact ⟨rfl, kind, named, fits.1, rfl, fits.2⟩
        · cases declared
      · cases declared
    · cases declared
  · dsimp only
    rintro ⟨rfl, kind, named, identifier, rfl, collection⟩
    simp [kind, named, identifier, collection]

def declarations (p : ParsedSource) : List Declaration := (locate [] p.root).filterMap (declaration? p.characters)

theorem mem_declarations : d ∈ declarations p ↔ d.IsIn p := by
  rw [declarations, List.mem_filterMap]
  constructor
  · rintro ⟨l, place, declared⟩
    obtain ⟨rfl, kind, named, identifier, text, collection⟩ := declaration?_eq_some_iff.mp declared
    exact ⟨place, kind, named, identifier, text, collection⟩
  · intro ⟨place, kind, named, identifier, text, collection⟩
    exact ⟨d.declarator, place, declaration?_eq_some_iff.mpr ⟨rfl, kind, named, identifier, text, collection⟩⟩

def uses (p : ParsedSource) : List Use := (locate [] p.root).filterMap (use? p.characters)

theorem mem_uses {u : Use} : u ∈ uses p ↔ IsReference p u.name u.located ∧ u.name ∈ collectionNames := by
  obtain ⟨l, name⟩ := u
  rw [uses, List.mem_filterMap]
  constructor
  · rintro ⟨l, place, used⟩
    rw [use?] at used
    split at used
    · rename_i kind
      split at used
      · rename_i collection
        cases used
        exact ⟨⟨place, by simpa using kind, rfl⟩, List.contains_iff_mem.mp collection⟩
      · cases used
    · cases used
  · dsimp only
    rintro ⟨⟨place, kind, rfl⟩, collection⟩
    exact ⟨l, place, by simpa [use?, kind] using collection⟩

/-- What is reported of a reference that reads a declaration. -/
def earlyUse (p : ParsedSource) (d : Declaration) (r : Located) : EarlyUse :=
  ⟨d.name, lineOf p.characters r.node.start, lineOf p.characters d.nameNode.start⟩

/-- The early uses before those that repeat a name and a line are dropped. -/
def crossed (p : ParsedSource) : List EarlyUse :=
  (declarations p).flatMap fun d => ((uses p).filter (d.isAfter p.characters)).map fun u => earlyUse p d u.located

theorem earlyUses_eq (p : ParsedSource) : earlyUses p = firstOfEachLine [] (crossed p) := rfl

theorem mem_crossed {e : EarlyUse} : e ∈ crossed p ↔ ∃ d r, d.IsIn p ∧ IsReference p d.name r ∧
    d.isAfter p.characters ⟨r, d.name⟩ = true ∧ earlyUse p d r = e := by
  simp only [crossed, List.mem_flatMap, List.mem_map, List.mem_filter, mem_declarations, mem_uses]
  constructor
  · rintro ⟨d, declared, ⟨r, name⟩, ⟨⟨reference, -⟩, early⟩, rfl⟩
    obtain rfl : name = d.name := by
      simp only [Declaration.isAfter, Bool.and_eq_true, decide_eq_true_eq] at early
      exact early.1.1.1.1
    exact ⟨d, r, declared, reference, early, rfl⟩
  · rintro ⟨d, r, declared, reference, early, rfl⟩
    exact ⟨d, declared, ⟨r, d.name⟩, ⟨⟨reference, declared.collection⟩, early⟩, rfl⟩

/-- Every early use that is reported is one that the declarations and uses have. -/
theorem exists_of_mem_earlyUses {e : EarlyUse} (member : e ∈ earlyUses p) : ∃ d r, d.IsIn p ∧ IsReference p d.name r ∧
    d.isAfter p.characters ⟨r, d.name⟩ = true ∧ earlyUse p d r = e :=
  mem_crossed.mp ((mem_of_mem_firstOfEachLine member).resolve_left List.not_mem_nil)

/-- Every early use that the declarations and uses have is reported by its name and line. -/
theorem mem_keys_earlyUses {k : Text × Nat} : k ∈ (earlyUses p).map EarlyUse.key ↔ ∃ d r, d.IsIn p ∧
    IsReference p d.name r ∧ d.isAfter p.characters ⟨r, d.name⟩ = true ∧ (earlyUse p d r).key = k := by
  rw [earlyUses_eq, mem_keys_firstOfEachLine, List.map_nil, or_iff_right List.not_mem_nil, List.mem_map]
  constructor
  · rintro ⟨e, member, same⟩
    obtain ⟨d, r, declared, reference, early, rfl⟩ := mem_crossed.mp member
    exact ⟨d, r, declared, reference, early, same⟩
  · rintro ⟨d, r, declared, reference, early, same⟩
    exact ⟨earlyUse p d r, mem_crossed.mpr ⟨d, r, declared, reference, early, rfl⟩, same⟩

theorem exists_isIn_of_length (one : (declarations p).length = 1) :
    ∃ d : Declaration, d.IsIn p ∧ ∀ e : Declaration, e.IsIn p → e = d := by
  obtain ⟨d, only⟩ := List.length_eq_one_iff.mp one
  refine ⟨d, mem_declarations.mp (only ▸ List.mem_singleton_self d), fun e other => ?_⟩
  exact List.mem_singleton.mp (only ▸ mem_declarations.mpr other)

theorem ne_nil_of_mem_collectionNames : ∀ name ∈ collectionNames, name ≠ [] := by
  decide +kernel

/-- The place of the name that a declarator declares. -/
def Declaration.nameAt (d : Declaration) : Located := ⟨d.nameNode, d.declarator.path⟩

namespace Declaration.IsIn

variable (declared : d.IsIn p)
include declared

theorem nameAt_mem : d.nameAt ∈ locate [] p.root :=
  child_mem_locate declared.place (List.mem_of_find?_eq_some declared.named)

theorem owner?_nameAt (cs : Characters) : owner? cs d.nameAt.around = owner? cs d.declarator.around :=
  owner?_cons_of_kind (by rw [declared.kind]; decide)

theorem scope_nameAt (cs : Characters) : scope cs d.nameAt.around = scope cs d.declarator.around :=
  scope_cons_of_kind (by rw [declared.kind]; decide)

end Declaration.IsIn

/-- A reference to the name of a declaration, apart from the name that is declared there, in the block of the
declaration and before the end of its statement, where both belong to one function or to the program. -/
structure ReadsEarly (p : ParsedSource) (d : Declaration) (r : Located) : Prop where
  declared : d.IsIn p
  reference : IsReference p d.name r
  apart : ¬r.IsWithin d.nameAt ∧ ¬d.nameAt.IsWithin r
  inBlock : d.block.start ≤ r.node.start
  beforeStop : r.node.start < d.statement.stop
  together : owner? p.characters r.around = owner? p.characters d.declarator.around

theorem isAfter_iff : d.isAfter cs ⟨r, d.name⟩ = true ↔ r.node.start ≠ d.nameNode.start ∧
    d.block.start ≤ r.node.start ∧ r.node.start < d.statement.stop ∧
      scope cs r.around = scope cs d.declarator.around := by
  simp only [Declaration.isAfter, Bool.and_eq_true, decide_eq_true_eq, ne_eq]
  tauto

section OneName

variable (laid : p.root.IsLaidOut) (declared : d.IsIn p) (reference : IsReference p d.name r)
include declared reference

theorem IsReference.text_eq : textOf p.characters r.node = textOf p.characters d.nameAt.node :=
  reference.text.trans declared.text.symm

theorem IsReference.text_ne_nil : textOf p.characters r.node ≠ [] :=
  reference.text ▸ ne_nil_of_mem_collectionNames d.name declared.collection

include laid

/-- That neither the reference nor the declared name lies within the other shows in where they start. -/
theorem readsEarly_iff : ReadsEarly p d r ↔ r.node.start ≠ d.nameNode.start ∧ d.block.start ≤ r.node.start ∧
    r.node.start < d.statement.stop ∧ owner? p.characters r.around = owner? p.characters d.declarator.around := by
  have apart : r.node.start ≠ d.nameNode.start ↔ _ := start_ne_iff laid reference.place declared.nameAt_mem
    (reference.text_ne_nil declared) (reference.text_eq declared)
  rw [apart]
  exact ⟨fun ⟨_, _, separate, inBlock, beforeStop, together⟩ => ⟨separate, inBlock, beforeStop, together⟩,
    fun ⟨separate, inBlock, beforeStop, together⟩ => ⟨declared, reference, separate, inBlock, beforeStop, together⟩⟩

/-- What the rule tells by spans and by the texts of calls is told by the tree. -/
theorem isAfter_iff_readsEarly (distinct : HasDistinctFunctions p.root) (plain : HasPlainCalls p.characters p.root) :
    d.isAfter p.characters ⟨r, d.name⟩ = true ↔ ReadsEarly p d r := by
  rw [isAfter_iff, readsEarly_iff laid declared reference]
  refine and_congr_right fun separate => ?_
  have owners := scope_eq_scope_iff laid distinct plain reference.place declared.nameAt_mem
    (reference.text_ne_nil declared) (reference.text_eq declared) separate
  -- A declarator is no function, so that the name in it has its scope and its owner.
  rw [declared.scope_nameAt, declared.owner?_nameAt] at owners
  rw [owners]

end OneName

/-- The rule reports every name and line at most once, and those where some reference of the name on the line reads
some declaration early; each message names the lines of two that do. What lies in a function that no eager hook is
given reads no declaration early that lies outside of the function. -/
theorem declarationOrder_exact {source : Text} (written : Text.isBlank source = false) (laid : p.root.IsLaidOut)
    (distinct : HasDistinctFunctions p.root) (plain : HasPlainCalls p.characters p.root) :
    Rule.declarationOrder.violations source p = (earlyUses p).map EarlyUse.message ∧
      ((earlyUses p).map EarlyUse.key).Nodup ∧
      (∀ name line, (name, line) ∈ (earlyUses p).map EarlyUse.key ↔
        ∃ d r, ReadsEarly p d r ∧ d.name = name ∧ lineOf p.characters r.node.start = line) ∧
      (∀ e ∈ earlyUses p, ∃ d r, ReadsEarly p d r ∧ earlyUse p d r = e) ∧
      ∀ d r f, f.isDeferred p.characters = true → f.path <:+ r.around → ¬d.declarator.IsWithin f →
        ¬ReadsEarly p d r := by
  refine ⟨by rw [Rule.violations, written, if_neg Bool.false_ne_true],
    nodup_keys_firstOfEachLine List.nodup_nil, ?_, ?_, ?_⟩
  · intro name line
    rw [mem_keys_earlyUses]
    constructor
    · rintro ⟨d, r, declared, reference, early, same⟩
      exact ⟨d, r, (isAfter_iff_readsEarly laid declared reference distinct plain).mp early, Prod.mk.inj same⟩
    · rintro ⟨d, r, early, rfl, rfl⟩
      exact ⟨d, r, early.declared, early.reference,
        (isAfter_iff_readsEarly laid early.declared early.reference distinct plain).mpr early, rfl⟩
  · intro e member
    obtain ⟨d, r, declared, reference, early, same⟩ := exists_of_mem_earlyUses member
    exact ⟨d, r, (isAfter_iff_readsEarly laid declared reference distinct plain).mp early, same⟩
  · intro d r f deferred inside outside early
    exact owner?_ne_of_isDeferred deferred inside outside early.together

/-- The tree of `const total = ...(() => items.length, []);`, with what is called there, and `const items = [1];`, on a line each. -/
def memoised (callee : Node) : Node :=
  let a := callee.stop
  plainNode "program" true 0 (a + 45) [
    plainNode "lexical_declaration" true 0 (a + 25) [
      plainNode "const" false 0 5 [],
      plainNode "variable_declarator" true 6 (a + 24) [
        partNode "name" "identifier" 6 11 [], plainNode "=" false 12 13 [],
        partNode "value" "call_expression" 14 (a + 24) [
          callee,
          plainNode "arguments" true a (a + 24) [
            plainNode "(" false a (a + 1) [],
            plainNode "arrow_function" true (a + 1) (a + 19) [
              plainNode "formal_parameters" true (a + 1) (a + 3) [
                plainNode "(" false (a + 1) (a + 2) [], plainNode ")" false (a + 2) (a + 3) []],
              plainNode "=>" false (a + 4) (a + 6) [],
              partNode "body" "member_expression" (a + 7) (a + 19) [
                plainNode "identifier" true (a + 7) (a + 12) [], plainNode "." false (a + 12) (a + 13) [],
                plainNode "property_identifier" true (a + 13) (a + 19) []]],
            plainNode "," false (a + 19) (a + 20) [],
            plainNode "array" true (a + 21) (a + 23) [
              plainNode "[" false (a + 21) (a + 22) [], plainNode "]" false (a + 22) (a + 23) []],
            plainNode ")" false (a + 23) (a + 24) []]]],
      plainNode ";" false (a + 24) (a + 25) []],
    plainNode "lexical_declaration" true (a + 26) (a + 44) [
      plainNode "const" false (a + 26) (a + 31) [],
      plainNode "variable_declarator" true (a + 32) (a + 43) [
        partNode "name" "identifier" (a + 32) (a + 37) [], plainNode "=" false (a + 38) (a + 39) [],
        partNode "value" "array" (a + 40) (a + 43) [
          plainNode "[" false (a + 40) (a + 41) [], plainNode "number" true (a + 41) (a + 42) [],
          plainNode "]" false (a + 42) (a + 43) []]],
      plainNode ";" false (a + 43) (a + 44) []]]

def memoSource : Text := "const total = React.useMemo(() => items.length, []);\nconst items = [1];\n"

def memo : ParsedSource := ⟨memoSource.toArray, memoised (partNode "function" "member_expression" 14 27 [
  plainNode "identifier" true 14 19 [], plainNode "." false 19 20 [], plainNode "property_identifier" true 20 27 []])⟩

theorem declarationOrder_exact_memo :
    Text.isBlank memoSource = false ∧ memo.root.IsLaidOut ∧ HasDistinctFunctions memo.root ∧
      HasPlainCalls memo.characters memo.root ∧
      Rule.declarationOrder.violations memoSource memo
        = ["\"items\" is used at line 1 before it is declared at line 2"] ∧
      ∃ d r, ReadsEarly memo d r ∧ d.name = "items" ∧ lineOf memo.characters r.node.start = 1 := by
  have facts : Text.isBlank memoSource = false ∧ HasPlainCalls memo.characters memo.root ∧
      (earlyUses memo).map EarlyUse.message = ["\"items\" is used at line 1 before it is declared at line 2"] ∧
      (Text.ofString "items", 1) ∈ (earlyUses memo).map EarlyUse.key := by
    simp only [memo, memoSource, Text.ofString_eq rfl]
    decide +kernel
  have shape : memo.root.IsLaidOut ∧ HasDistinctFunctions memo.root := by decide +kernel
  obtain ⟨written, plain, message, key⟩ := facts
  obtain ⟨messages, -, exact, -⟩ := declarationOrder_exact written shape.1 shape.2 plain
  exact ⟨written, shape.1, shape.2, plain, messages.trans message, (exact _ 1).mp key⟩

def notedSource : Text :=
  "const total = React./* since v16.8 */useMemo(() => items.length, []);\nconst items = [1];\n"

/-- The same, where a comment stands before the name of the hook. -/
def noted : ParsedSource := ⟨notedSource.toArray, memoised (partNode "function" "member_expression" 14 44 [
  plainNode "identifier" true 14 19 [], plainNode "." false 19 20 [], plainNode "comment" true 20 37 [],
  plainNode "property_identifier" true 37 44 []])⟩

/-- A comment with a dot in it hides the hook that a function is given, so that what the function reads early is not
reported. -/
theorem readsEarly_unreported :
    Text.isBlank notedSource = false ∧ noted.root.IsLaidOut ∧ HasDistinctFunctions noted.root ∧
      (∃ d r, ReadsEarly noted d r ∧ d.name = "items" ∧ lineOf noted.characters r.node.start = 1) ∧
      Rule.declarationOrder.violations notedSource noted = [] := by
  have shape : noted.root.IsLaidOut ∧ HasDistinctFunctions noted.root := by decide +kernel
  have early : ∃ d ∈ declarations noted,
      ∃ u ∈ uses noted,
        u.name = d.name ∧ (d.name = "items" ∧ lineOf noted.characters u.located.node.start = 1) ∧
          u.located.node.start ≠ d.nameNode.start ∧ d.block.start ≤ u.located.node.start ∧
          u.located.node.start < d.statement.stop ∧ (owner? noted.characters u.located.around).isNone ∧
          (owner? noted.characters d.declarator.around).isNone := by
    simp only [noted, notedSource, Text.ofString_eq rfl]
    decide +kernel
  obtain ⟨d, declared, ⟨r, name⟩, used, rfl, here, separate, inBlock, beforeStop, free, alsoFree⟩ := early
  have together : owner? noted.characters r.around = owner? noted.characters d.declarator.around :=
    (Option.isNone_iff_eq_none.mp free).trans (Option.isNone_iff_eq_none.mp alsoFree).symm
  have early := (readsEarly_iff shape.1 (mem_declarations.mp declared) (mem_uses.mp used).1).mpr
    ⟨separate, inBlock, beforeStop, together⟩
  have reported : Text.isBlank notedSource = false ∧ Rule.declarationOrder.violations notedSource noted = [] := by
    simp only [noted, notedSource, Text.ofString_eq rfl]
    decide +kernel
  exact ⟨reported.1, shape.1, shape.2, ⟨d, r, early, here⟩, reported.2⟩

section Single

variable (declared : d.IsIn p) (single : ∀ e : Declaration, e.IsIn p → e.name = d.name → e = d)
include declared single

theorem mem_keys_earlyUses_of_single (line : Nat) : (d.name, line) ∈ (earlyUses p).map EarlyUse.key ↔
    ∃ r, IsReference p d.name r ∧ lineOf p.characters r.node.start = line ∧ r.node.start ≠ d.nameNode.start ∧
      d.block.start ≤ r.node.start ∧ r.node.start < d.statement.stop ∧
        scope p.characters r.around = scope p.characters d.declarator.around := by
  rw [mem_keys_earlyUses]
  constructor
  · rintro ⟨e, r, other, reference, early, same⟩
    obtain ⟨name, here⟩ := Prod.mk.inj same
    obtain rfl := single e other name
    exact ⟨r, reference, here, isAfter_iff.mp early⟩
  · rintro ⟨r, reference, rfl, early⟩
    exact ⟨d, r, declared, reference, isAfter_iff.mpr early, rfl⟩

/-- Where a collection has a single declarator, a name and a line are reported exactly if some reference on the line, in
the scope and the block of the declaration, starts before the end of its statement: also behind the declarator, in the
rest of the statement. No reference that starts at the end of the statement or after it is the reason of a report. -/
theorem reported_before_statement_stop (source : Text) :
    Rule.declarationOrder.violations source p ⊆ (earlyUses p).map EarlyUse.message ∧
      (∀ line, (d.name, line) ∈ (earlyUses p).map EarlyUse.key ↔ ∃ r, IsReference p d.name r ∧
        lineOf p.characters r.node.start = line ∧ r.node.start ≠ d.nameNode.start ∧ d.block.start ≤ r.node.start ∧
          r.node.start < d.statement.stop ∧ scope p.characters r.around = scope p.characters d.declarator.around) ∧
      ∀ line, (∀ r, IsReference p d.name r → lineOf p.characters r.node.start = line →
        d.statement.stop ≤ r.node.start) → (d.name, line) ∉ (earlyUses p).map EarlyUse.key := by
  refine ⟨?_, mem_keys_earlyUses_of_single declared single, fun line late member => ?_⟩
  · rw [Rule.violations]
    split
    · exact List.nil_subset _
    · exact List.Subset.refl _
  · obtain ⟨r, reference, here, -, -, beforeStop, -⟩ := (mem_keys_earlyUses_of_single declared single line).mp member
    exact absurd beforeStop (Nat.not_lt.mpr (late r reference here))

end Single

/-- The tree of `const items = [1], first = items[0];` from a position. -/
def itemsStatement (a : Nat) : Node := plainNode "lexical_declaration" true a (a + 36) [
  plainNode "const" false a (a + 5) [],
  plainNode "variable_declarator" true (a + 6) (a + 17) [
    partNode "name" "identifier" (a + 6) (a + 11) [], plainNode "=" false (a + 12) (a + 13) [],
    partNode "value" "array" (a + 14) (a + 17) [
      plainNode "[" false (a + 14) (a + 15) [], plainNode "number" true (a + 15) (a + 16) [],
      plainNode "]" false (a + 16) (a + 17) []]],
  plainNode "," false (a + 17) (a + 18) [],
  plainNode "variable_declarator" true (a + 19) (a + 35) [
    partNode "name" "identifier" (a + 19) (a + 24) [], plainNode "=" false (a + 25) (a + 26) [],
    partNode "value" "subscript_expression" (a + 27) (a + 35) [
      plainNode "identifier" true (a + 27) (a + 32) [], plainNode "[" false (a + 32) (a + 33) [],
      plainNode "number" true (a + 33) (a + 34) [], plainNode "]" false (a + 34) (a + 35) []]],
  plainNode ";" false (a + 35) (a + 36) []]

/-- The tree of `show(items);` from a position. -/
def showStatement (a : Nat) : Node := plainNode "expression_statement" true a (a + 12) [
  plainNode "call_expression" true a (a + 11) [
    partNode "function" "identifier" a (a + 4) [],
    plainNode "arguments" true (a + 4) (a + 11) [
      plainNode "(" false (a + 4) (a + 5) [], plainNode "identifier" true (a + 5) (a + 10) [],
      plainNode ")" false (a + 10) (a + 11) []]],
  plainNode ";" false (a + 11) (a + 12) []]

def shownSource : Text := "show(items);\nconst items = [1], first = items[0];\nshow(items);\n"

/-- The tree of a source that uses a collection before, in and after the statement that declares it. -/
def shown : ParsedSource :=
  ⟨shownSource.toArray, plainNode "program" true 0 63 [showStatement 0, itemsStatement 13, showStatement 50]⟩

/-- Before the statement and in it the collection is used too early, and after it no longer. -/
theorem reported_before_statement_stop_shown :
    ∃ d : Declaration, d.IsIn shown ∧ (∀ e : Declaration, e.IsIn shown → e.name = d.name → e = d) ∧ d.name = "items" ∧
      d.statement.stop = 49 ∧ (d.name, 3) ∉ (earlyUses shown).map EarlyUse.key ∧
      Rule.declarationOrder.violations shownSource shown
        = ["\"items\" is used at line 1 before it is declared at line 2",
          "\"items\" is used at line 2 before it is declared at line 2"] := by
  have facts : (declarations shown).length = 1 ∧
      (∀ d ∈ declarations shown, d.name = "items" ∧ d.statement.stop = 49) ∧
      (∀ u ∈ uses shown, lineOf shown.characters u.located.node.start = 3 → 49 ≤ u.located.node.start) ∧
      Rule.declarationOrder.violations shownSource shown
        = ["\"items\" is used at line 1 before it is declared at line 2",
          "\"items\" is used at line 2 before it is declared at line 2"] := by
    simp only [shown, shownSource, Text.ofString_eq rfl]
    decide +kernel
  obtain ⟨one, declaration, last, reported⟩ := facts
  obtain ⟨d, declared, single⟩ := exists_isIn_of_length one
  obtain ⟨name, stop⟩ := declaration d (mem_declarations.mpr declared)
  have late (r : Located) (reference : IsReference shown d.name r)
      (here : lineOf shown.characters r.node.start = 3) : d.statement.stop ≤ r.node.start := by
    rw [stop]
    exact last ⟨r, d.name⟩ (mem_uses.mpr ⟨reference, declared.collection⟩) here
  have sole (e : Declaration) (other : e.IsIn shown) (_ : e.name = d.name) : e = d := single e other
  obtain ⟨-, -, unreported⟩ := reported_before_statement_stop declared sole shownSource
  exact ⟨d, declared, sole, name, stop, unreported 3 late, reported⟩

def headSource : Text := "const items = [1], first = items[0];\n"

/-- The tree of a single statement. -/
def head : ParsedSource := ⟨headSource.toArray, plainNode "program" true 0 37 [itemsStatement 0]⟩

/-- Uses that start after the only declarator of their name are reported, where its statement goes on. -/
theorem reported_after_declarator :
    (∃ d : Declaration, d.IsIn head ∧ (∀ e : Declaration, e.IsIn head → e = d) ∧ d.name = "items" ∧
      ∀ r, IsReference head d.name r → r.node.start = d.nameNode.start ∨ d.declarator.node.stop ≤ r.node.start) ∧
      Rule.declarationOrder.violations headSource head
        = ["\"items\" is used at line 1 before it is declared at line 1"] := by
  have facts : (declarations head).length = 1 ∧
      (∀ d ∈ declarations head, d.name = "items" ∧ ∀ u ∈ uses head,
        u.located.node.start = d.nameNode.start ∨ d.declarator.node.stop ≤ u.located.node.start) ∧
      Rule.declarationOrder.violations headSource head
        = ["\"items\" is used at line 1 before it is declared at line 1"] := by
    simp only [head, headSource, Text.ofString_eq rfl]
    decide +kernel
  obtain ⟨one, declaration, reported⟩ := facts
  obtain ⟨d, declared, single⟩ := exists_isIn_of_length one
  obtain ⟨name, starts⟩ := declaration d (mem_declarations.mpr declared)
  have later (r : Located) (reference : IsReference head d.name r) :
      r.node.start = d.nameNode.start ∨ d.declarator.node.stop ≤ r.node.start :=
    starts ⟨r, d.name⟩ (mem_uses.mpr ⟨reference, declared.collection⟩)
  exact ⟨⟨d, declared, single, name, later⟩, reported⟩

end LessonService.Review
