import LessonService.Proofs.Script.Imports
import LessonService.Proofs.Text.Finds

namespace LessonService.Script

open Pattern

variable {source : Text} {r : Reference} {previous : Option CodePoint} {found after : Text}

/-- A module that a source asks for, and where the word for it starts. -/
structure Reference where
  position : Nat
  target : Text
  deriving DecidableEq

def Reference.isForeign (r : Reference) : Bool := r.target ≠ providedModule

/-- The word of an import comes after the blanks at the start of what is found. -/
def importReference (f : Find) : Reference :=
  ⟨f.start + (f.text.takeWhile CodePoint.isBlank).length, importTarget f.text⟩

def loadReference (f : Find) : Reference := ⟨f.start, loaderTarget f.text⟩

def imports (source : Text) : List Reference := (staticImport.finds source).map importReference

def loads (source : Text) : List Reference := (loaderCall.finds source).map loadReference

/-- The foreign modules, in the order in which they are told. -/
def foreignReferences (source : Text) : List Reference := (imports source ++ loads source).filter Reference.isForeign

theorem foreignTargets_eq (source : Text) : foreignTargets source = (foreignReferences source).map Reference.target := by
  have imported : (imports source).map Reference.target = (staticImport.findAll source).map importTarget := by
    rw [imports, ← map_text_finds, List.map_map, List.map_map]
    rfl
  have loaded : (loads source).map Reference.target = (loaderCall.findAll source).map loaderTarget := by
    rw [loads, ← map_text_finds, List.map_map, List.map_map]
    rfl
  rw [foreignTargets, targets, ← imported, ← loaded, ← List.map_append, List.filter_map]
  rfl

/-- An import of a module stands at a position, after blanks at the start of a line. -/
structure ImportedAt (source : Text) (r : Reference) where
  before : Text
  indent : Text
  clause : Text
  opening : CodePoint
  closing : CodePoint
  after : Text
  source_eq : source = before ++ indent ++ ("import" ++ (clause ++ opening :: (r.target ++ closing :: after)))
  position_eq : r.position = (before ++ indent).length
  start : IsLineStart before.getLast?
  indent_blank : ∀ c ∈ indent, c.isBlank = true
  clause_characters : ∀ c ∈ clause, isClauseCharacter c = true
  opens : isQuote opening = true
  target_ne_nil : r.target ≠ []
  quoteless : Quoteless r.target
  closes : isQuote closing = true

/-- What may stand right before the word of a call. -/
def IsBoundary (previous : Option CodePoint) : Prop := ∀ c ∈ previous, c.isWord = false ∧ c ≠ '$' ∧ c ≠ '.'

/-- A call that loads a module stands at a position. -/
structure LoadedAt (source : Text) (r : Reference) where
  before : Text
  word : Text
  gap : Text
  space : Text
  opening : CodePoint
  after : Text
  source_eq : source = before ++ (word ++ (gap ++ ('(' : CodePoint) :: (space ++ opening :: (r.target ++ after))))
  position_eq : r.position = before.length
  boundary : IsBoundary before.getLast?
  isLoader : word = "import" ∨ word = "require"
  gap_blank : ∀ c ∈ gap, c.isBlank = true
  space_blank : ∀ c ∈ space, c.isBlank = true
  opens : isAnyQuote opening = true
  quoteless : ∀ c ∈ r.target, isAnyQuote c = false

theorem isClauseCharacter_of_isBlank {c : CodePoint} (blank : c.isBlank = true) : isClauseCharacter c = true := by
  rw [isClauseCharacter, blank, Bool.or_true, Bool.true_or]

/-- An import has nothing but the characters of its clause between its word and its quotes. -/
theorem exists_clause_of_matches (match_ : staticImport.Matches previous found after) :
    ∃ indent clause opening name closing, found = indent ++ (("import" : Text) ++ (clause ++ opening :: (name ++ [closing]))) ∧
      IsLineStart previous ∧ (∀ c ∈ indent, c.isBlank = true) ∧ (∀ c ∈ clause, isClauseCharacter c = true) ∧
      isQuote opening = true ∧ name ≠ [] ∧ Quoteless name ∧ isQuote closing = true := by
  obtain ⟨lead, _, rfl, leads, quotes⟩ := matches_staticImport.mp match_
  obtain ⟨opening, name, closing, rfl, opens, filled, plain, closes⟩ := matches_quoted.mp quotes
  obtain ⟨_, _, rfl, ⟨rfl, start⟩, leads⟩ := (matches_seq_cons _ _ _).mp leads
  obtain ⟨indent, _, rfl, ⟨-, indentBlank⟩, leads⟩ := (matches_seq_cons _ _ _).mp leads
  obtain ⟨word, clause, rfl, spelled, clauses⟩ := (matches_seq_cons _ _ _).mp leads
  have blank : ∀ c : CodePoint, c.isBlank = true → isClauseCharacter c = true := fun c => isClauseCharacter_of_isBlank
  have within : (seq [someBlanks, optional (both (exactly "type") someBlanks),
      optional (seq [fewest isClauseCharacter 1, someBlanks, exactly "from", someBlanks])]).Within
      fun c => isClauseCharacter c = true :=
    ⟨blank, ⟨⟨within_exactly (by decide +kernel), blank⟩, trivial⟩,
      ⟨fun _ member => member, blank, within_exactly (by decide +kernel), blank⟩, trivial⟩
  refine ⟨indent, clause, opening, name, closing, ?_, isLineStart_iff.mpr start, indentBlank,
    within.of_matches clauses, opens, filled, plain, closes⟩
  rw [(matches_exactly _).mp spelled]
  simp

theorem exists_call_of_matches (match_ : loaderCall.Matches previous found after) :
    ∃ word gap space opening name,
      found = word ++ (gap ++ ('(' : CodePoint) :: (space ++ opening :: name)) ∧ IsBoundary previous ∧
      (word = "import" ∨ word = "require") ∧ (∀ c ∈ gap, c.isBlank = true) ∧ (∀ c ∈ space, c.isBlank = true) ∧
      isAnyQuote opening = true ∧ ∀ c ∈ name, isAnyQuote c = false := by
  obtain ⟨_, _, rfl, ⟨rfl, boundary⟩, match_⟩ := (matches_seq_cons _ _ _).mp match_
  obtain ⟨word, _, rfl, spelled, match_⟩ := (matches_seq_cons _ _ _).mp match_
  obtain ⟨gap, _, rfl, ⟨-, gapBlank⟩, match_⟩ := (matches_seq_cons _ _ _).mp match_
  obtain ⟨_, _, rfl, ⟨bracket, rfl, isBracket⟩, match_⟩ := (matches_seq_cons _ _ _).mp match_
  obtain ⟨space, _, rfl, ⟨-, spaceBlank⟩, match_⟩ := (matches_seq_cons _ _ _).mp match_
  obtain ⟨_, name, rfl, ⟨opening, rfl, opens⟩, -, plain⟩ := (matches_seq_cons _ _ _).mp match_
  have isOpen : bracket = '(' := by
    have marks : "(".toList = ['('] := by decide
    rw [charIn_iff marks] at isBracket
    simpa [eq_comm] using isBracket
  refine ⟨word, gap, space, opening, name, by simp [isOpen], ?_, ?_, gapBlank, spaceBlank, opens, by simpa using plain⟩
  · rintro c ⟨⟩
    obtain ⟨noWord, noMark⟩ := Bool.or_eq_false_iff.mp (Bool.not_eq_true' _ |>.mp boundary)
    refine ⟨noWord, ?_, ?_⟩ <;>
    · rintro rfl
      exact absurd noMark (by decide)
  · exact spelled.imp (matches_exactly _).mp (matches_exactly _).mp

theorem staticImport_filled (previous : Option CodePoint) (after : Text) : ¬staticImport.Matches previous [] after := by
  intro match_
  obtain ⟨indent, _, _, _, _, empty, -⟩ := exists_clause_of_matches match_
  exact absurd empty.symm (List.append_ne_nil_of_right_ne_nil indent (List.cons_ne_nil _ _))

theorem loaderCall_filled (previous : Option CodePoint) (after : Text) : ¬loaderCall.Matches previous [] after := by
  intro match_
  obtain ⟨word, gap, _, _, _, empty, -⟩ := exists_call_of_matches match_
  exact absurd empty.symm
    (List.append_ne_nil_of_right_ne_nil word (List.append_ne_nil_of_right_ne_nil gap (List.cons_ne_nil _ _)))

theorem takeWhile_isBlank_import {indent : Text} (blank : ∀ c ∈ indent, c.isBlank = true) (rest : Text) :
    (indent ++ (("import" : Text) ++ rest)).takeWhile CodePoint.isBlank = indent := by
  rw [List.takeWhile_append_of_pos blank]
  exact List.append_nil indent

theorem nonempty_importedAt (member : r ∈ imports source) : Nonempty (ImportedAt source r) := by
  obtain ⟨f, inFinds, rfl⟩ := List.mem_map.mp member
  obtain ⟨before, after, text, start, match_⟩ := (isScan_finds staticImport_filled source).stands f inFinds
  obtain ⟨indent, clause, opening, name, closing, found, lineStart, indentBlank, characters, opens, filled, plain,
    closes⟩ := exists_clause_of_matches match_
  have position : (importReference f).position = (before ++ indent).length := by
    rw [importReference, found, takeWhile_isBlank_import indentBlank, List.length_append, start]
  have named : (importReference f).target = name := by
    rw [importReference, found, ← List.append_assoc, ← List.append_assoc]
    exact importTarget_eq opens plain
  exact ⟨{ before, indent, clause, opening, closing, after
           source_eq := by rw [text, found, named]; simp
           position_eq := position, start := lineStart, indent_blank := indentBlank, clause_characters := characters
           opens, target_ne_nil := named ▸ filled, quoteless := named ▸ plain, closes }⟩

theorem nonempty_loadedAt (member : r ∈ loads source) : Nonempty (LoadedAt source r) := by
  obtain ⟨f, inFinds, rfl⟩ := List.mem_map.mp member
  obtain ⟨before, after, text, start, match_⟩ := (isScan_finds loaderCall_filled source).stands f inFinds
  obtain ⟨word, gap, space, opening, name, found, boundary, isLoader, gapBlank, spaceBlank, opens, plain⟩ :=
    exists_call_of_matches match_
  have named : (loadReference f).target = name := by
    have reversed : ∀ c ∈ name.reverse, (!isAnyQuote c) = true := by simpa using plain
    have shape : f.text = (word ++ (gap ++ ('(' : CodePoint) :: space)) ++ opening :: name := by simp [found]
    rw [loadReference, loaderTarget, ending, shape, List.reverse_append, List.reverse_cons, List.append_assoc,
      List.takeWhile_append_of_pos reversed]
    simp [opens]
  exact ⟨{ before, word, gap, space, opening, after
           source_eq := by rw [text, found, named]; simp
           position_eq := start.symm, boundary, isLoader, gap_blank := gapBlank, space_blank := spaceBlank, opens
           quoteless := named ▸ plain }⟩

/-- The word of an import is followed by its clause and a quote, the word of a call by a bracket. -/
theorem ImportedAt.position_ne {r' : Reference} (i : ImportedAt source r) (l : LoadedAt source r') :
    r.position ≠ r'.position := by
  intro same
  rw [i.position_eq, l.position_eq] at same
  have tails := (List.append_inj (i.source_eq.symm.trans l.source_eq) same).2
  rcases l.isLoader with word | word
  · rw [word] at tails
    have stops := congrArg (fun t => (t.dropWhile isClauseCharacter).head?) (List.append_cancel_left tails)
    have quote : isClauseCharacter i.opening = false := by
      refine Bool.eq_false_iff.mpr fun inClause => ?_
      exact absurd (i.opens.symm.trans (isQuote_of_isClauseCharacter inClause)) nofun
    have bracket : isClauseCharacter '(' = false := by decide +kernel
    have gap : ∀ c ∈ l.gap, isClauseCharacter c = true := fun c member =>
      isClauseCharacter_of_isBlank (l.gap_blank c member)
    simp only [List.dropWhile_append_of_pos i.clause_characters, List.dropWhile_append_of_pos gap,
      List.dropWhile_cons, quote, bracket, Bool.false_eq_true, if_false, List.head?_cons, Option.some.injEq] at stops
    exact absurd (stops ▸ i.opens) (by decide)
  · rw [word] at tails
    exact absurd (List.cons.inj tails).1 (by decide)

theorem imports_ordered (source : Text) : (imports source).Pairwise fun a b => a.position < b.position := by
  have scan := isScan_finds staticImport_filled source
  refine List.pairwise_map.mpr (scan.apart.imp_of_mem fun {f g} inFinds _ apart => ?_)
  obtain ⟨before, after, -, -, match_⟩ := scan.stands f inFinds
  obtain ⟨indent, clause, opening, name, closing, found, -, blank, -⟩ := exists_clause_of_matches match_
  have word : (importReference f).position < f.stop := by
    refine Nat.add_lt_add_left ?_ _
    rw [found, takeWhile_isBlank_import blank, List.length_append]
    exact Nat.lt_add_of_pos_right (List.length_pos_iff.mpr (List.cons_ne_nil _ _))
  exact (word.trans_le apart).trans_le (Nat.le_add_right _ _)

theorem loads_ordered (source : Text) : (loads source).Pairwise fun a b => a.position < b.position := by
  have scan := isScan_finds loaderCall_filled source
  refine List.pairwise_map.mpr (scan.apart.imp_of_mem fun {f g} inFinds _ apart => ?_)
  obtain ⟨before, after, -, -, match_⟩ := scan.stands f inFinds
  have filled : f.text ≠ [] := fun empty => loaderCall_filled _ _ (empty ▸ match_)
  exact (Nat.lt_add_of_pos_right (List.length_pos_iff.mpr filled)).trans_le apart

theorem foreignReferences_eq (source : Text) : foreignReferences source =
    (imports source).filter Reference.isForeign ++ (loads source).filter Reference.isForeign :=
  List.filter_append _ _

theorem mem_foreignReferences :
    r ∈ foreignReferences source ↔ (r ∈ imports source ∨ r ∈ loads source) ∧ r.target ≠ providedModule := by
  rw [foreignReferences, List.mem_filter, List.mem_append, Reference.isForeign, decide_eq_true_iff]

/-- No position is told twice. -/
theorem nodup_positions (source : Text) : ((foreignReferences source).map Reference.position).Nodup := by
  rw [foreignReferences_eq, List.map_append, List.nodup_append]
  refine ⟨?_, ?_, ?_⟩
  · exact List.pairwise_map.mpr (((imports_ordered source).filter _).imp Nat.ne_of_lt)
  · exact List.pairwise_map.mpr (((loads_ordered source).filter _).imp Nat.ne_of_lt)
  · intro _ first _ second
    obtain ⟨i, inImports, rfl⟩ := List.mem_map.mp first
    obtain ⟨l, inLoads, rfl⟩ := List.mem_map.mp second
    obtain ⟨imported⟩ := nonempty_importedAt (List.mem_of_mem_filter inImports)
    obtain ⟨loaded⟩ := nonempty_loadedAt (List.mem_of_mem_filter inLoads)
    exact imported.position_ne loaded

/-- No call for a foreign module comes before an import of one. -/
def CallsComeLast (source : Text) : Prop :=
  ∀ i ∈ imports source, ∀ l ∈ loads source, i.target ≠ providedModule → l.target ≠ providedModule →
    i.position < l.position

theorem foreignReferences_ordered_iff (source : Text) :
    (foreignReferences source).Pairwise (fun a b => a.position < b.position) ↔ CallsComeLast source := by
  rw [foreignReferences_eq, List.pairwise_append]
  simp only [(imports_ordered source).filter, (loads_ordered source).filter, true_and, List.mem_filter,
    Reference.isForeign, decide_eq_true_iff, and_imp]
  constructor
  · exact fun ordered i inImports l inLoads foreign other => ordered i inImports foreign l inLoads other
  · exact fun ordered i inImports foreign l inLoads other => ordered i inImports l inLoads foreign other

/-- The foreign modules are told as they come in the source. -/
def IsToldInOrder (source : Text) : Prop :=
  ∃ ordered : List Reference, ordered.Perm (foreignReferences source) ∧
    ordered.Pairwise (fun a b => a.position < b.position) ∧ foreignTargets source = ordered.map Reference.target

/-- A module that is loaded before another one is imported. -/
def invertedSource : Text := "const a = require(\"a\");\nimport b from \"b\";"

theorem not_isToldInOrder_inverted : ¬IsToldInOrder invertedSource := by
  have references : foreignReferences invertedSource = [⟨24, "b"⟩, ⟨10, "a"⟩] := by
    simp only [invertedSource, Text.ofString_eq rfl]
    decide +kernel
  rintro ⟨ordered, perm, sorted, told⟩
  rw [foreignTargets_eq, references] at told
  rw [references] at perm
  obtain ⟨first, second, rfl⟩ := List.length_eq_two.mp perm.length_eq
  have inFirst := perm.mem_iff.mp (List.mem_cons_self : first ∈ [first, second])
  have inSecond := perm.mem_iff.mp (List.mem_cons_of_mem first List.mem_cons_self : second ∈ [first, second])
  have before : first.position < second.position := List.rel_of_pairwise_cons sorted List.mem_cons_self
  simp only [List.map_cons, List.map_nil, List.cons.injEq] at told
  simp only [List.mem_cons, List.not_mem_nil, or_false] at inFirst inSecond
  rcases inFirst with rfl | rfl
  · rcases inSecond with rfl | rfl
    · exact absurd before (by decide)
    · exact absurd before (by decide)
  · exact absurd told.1 (by decide)

/-- Each import and each call that is found stands in the source, and each of a foreign module is told once. The
imports are told in order, and after them the calls; so all are told in order exactly if no call comes before an
import. -/
theorem foreignTargets_ordered_iff (source : Text) :
    staticImport.IsScan source (staticImport.finds source) ∧ loaderCall.IsScan source (loaderCall.finds source) ∧
      (∀ r ∈ imports source, Nonempty (ImportedAt source r)) ∧ (∀ r ∈ loads source, Nonempty (LoadedAt source r)) ∧
      foreignTargets source = (foreignReferences source).map Reference.target ∧
      (∀ r, r ∈ foreignReferences source ↔ (r ∈ imports source ∨ r ∈ loads source) ∧ r.target ≠ providedModule) ∧
      ((foreignReferences source).map Reference.position).Nodup ∧
      (imports source).Pairwise (fun a b => a.position < b.position) ∧
      (loads source).Pairwise (fun a b => a.position < b.position) ∧
      ((foreignReferences source).Pairwise (fun a b => a.position < b.position) ↔ CallsComeLast source) ∧
      (CallsComeLast source → IsToldInOrder source) := by
  have ordered := foreignReferences_ordered_iff source
  refine ⟨isScan_finds staticImport_filled source, isScan_finds loaderCall_filled source,
    fun _ => nonempty_importedAt, fun _ => nonempty_loadedAt, foreignTargets_eq source,
    fun _ => mem_foreignReferences, nodup_positions source, imports_ordered source, loads_ordered source, ordered,
    fun last => ?_⟩
  exact ⟨foreignReferences source, .refl _, ordered.mpr last, foreignTargets_eq source⟩

end LessonService.Script
