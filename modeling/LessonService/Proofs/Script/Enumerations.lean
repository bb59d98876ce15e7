import LessonService.Proofs.Script.Elements

namespace LessonService.Script

open Tsx

/-- Whether a member is given a value. -/
def isGiven (m : Node) : Bool := m.kind = "enum_assignment"

def membersOf (n : Node) : List Node := (n.child? "body").elim [] partsOf

def enumName (cs : Characters) (n : Node) : Text := (n.child? "name").elim (Text.ofString "Enum") (textOf cs)

def memberName (cs : Characters) (m : Node) : Text :=
  if isGiven m then ((m.child? "name").or m.namedChildren.head?).elim [] (textOf cs) else textOf cs m

def initialiser? (m : Node) : Option Node :=
  if isGiven m then (m.child? "value").or m.namedChildren.getLast? else none

/-- The number that a member is given, if it is written as a row of digits. -/
def numberOf? (cs : Characters) (m : Node) : Option Nat :=
  (initialiser? m).bind fun v =>
    if v.kind = "number" && isNumeral (script cs v) then some (natOfDigits (script cs v)) else none

/-- The number of a member without a value, by the members before it: the number of the nearest one that has a value,
and how many there are from that one on. -/
def countAfter (cs : Characters) (before : List Node) : Option Nat :=
  match before.reverse.dropWhile fun m => !isGiven m with
  | [] => some before.length
  | m :: _ => (numberOf? cs m).map fun k => k + (before.reverse.takeWhile fun m => !isGiven m).length + 1

def memberValue (cs : Characters) (before : List Node) (m : Node) : Text :=
  if isGiven m then (initialiser? m).elim [] (script cs)
  else (countAfter cs before).elim (Text.ofString "undefined") Text.ofNat

/-- The members of an object for members of an enumeration that follow others. -/
def memberTexts (cs : Characters) (before : List Node) : List Node → List Text
  | [] => []
  | m :: ms => (memberName cs m ++ ": " ++ memberValue cs before m) :: memberTexts cs (before ++ [m]) ms

section Counting

variable {cs : Characters} {before : List Node} {m : Node} {k : Nat}

theorem countAfter_nil (cs : Characters) : countAfter cs [] = some 0 := rfl

theorem countAfter_concat_given (cs : Characters) (before : List Node) (given : isGiven m = true) :
    countAfter cs (before ++ [m]) = (numberOf? cs m).map (· + 1) := by
  simp [countAfter, given]

theorem countAfter_concat_bare (cs : Characters) (before : List Node) (bare : isGiven m = false) :
    countAfter cs (before ++ [m]) = (countAfter cs before).map (· + 1) := by
  rw [countAfter, countAfter, List.reverse_append, List.reverse_singleton, List.singleton_append,
    List.dropWhile_cons_of_pos (by simp [bare]), List.takeWhile_cons_of_pos (by simp [bare])]
  cases before.reverse.dropWhile fun m => !isGiven m with
  | nil => simp
  | cons g _ => simp [Function.comp_def, Nat.add_assoc]

/-- An enumeration counts past a number by at most the members in between. -/
theorem le_of_countAfter {bound : Nat} (numbers : ∀ m ∈ before, ∀ k, numberOf? cs m = some k → k ≤ bound)
    (counted : countAfter cs before = some k) : k ≤ bound + before.length := by
  induction before using List.reverseRecOn generalizing k with
  | nil =>
    cases counted
    exact Nat.zero_le _
  | append_singleton before m ih =>
    rw [List.forall_mem_append, List.forall_mem_singleton] at numbers
    rw [List.length_append, List.length_singleton]
    cases given : isGiven m with
    | true =>
      rw [countAfter_concat_given cs before given, Option.map_eq_some_iff] at counted
      obtain ⟨j, number, rfl⟩ := counted
      have := numbers.2 j number
      omega
    | false =>
      rw [countAfter_concat_bare cs before given, Option.map_eq_some_iff] at counted
      obtain ⟨j, earlier, rfl⟩ := counted
      have := ih numbers.1 earlier
      omega

end Counting

section Members

variable {cs : Characters} {m n v : Node} {next : Option Nat}

theorem memberName_eq (m : Node) (given : isGiven m = true) :
    (((emitTree cs m).child? "name").or (emitTree cs m).namedChildren.head?).elim [] (fun k => textOf cs k.node)
      = memberName cs m := by
  have w := isWriting_emitTree cs m
  rw [w.child?, w.namedChildren, List.head?_map, ← Option.map_or, Option.elim_map, memberName, if_pos given]
  simp only [Function.comp_def, emitTree_node]

theorem valueOf_emitTree (m : Node) (given : isGiven m = true) :
    valueOf (emitTree cs m) = (initialiser? m).map (emitTree cs) := by
  have w := isWriting_emitTree cs m
  rw [valueOf, w.child?, w.namedChildren, List.getLast?_map, ← Option.map_or, initialiser?, if_pos given]

theorem isNumbered_emitTree (m : Node) (given : isGiven m = true) :
    (if isNumbered (emitTree cs m) then some (natOfDigits (writtenValue (emitTree cs m)).code + 1) else none)
      = (numberOf? cs m).map (· + 1) := by
  rw [isNumbered, writtenValue, valueOf_emitTree m given, numberOf?]
  cases initialiser? m with
  | none => rfl
  | some v =>
    simp only [Option.map_some, Option.elim_some, (isWriting_emitTree cs v).kind, Option.bind_some]
    change (if decide (v.kind = "number") && isNumeral (script cs v) then _ else _) = _
    by_cases numeral : (decide (v.kind = "number") && isNumeral (script cs v)) = true
    · rw [if_pos numeral, if_pos numeral]
      rfl
    · rw [if_neg numeral, if_neg numeral]
      rfl

theorem writtenValue_emitTree (m : Node) (given : isGiven m = true) :
    writtenValue (emitTree cs m)
      = (initialiser? m).elim (Fragment.ofText []) fun v => (emitTree cs v).fragment := by
  rw [writtenValue, valueOf_emitTree m given, Option.elim_map]
  rfl

theorem code_assigned (m : Node) (given : isGiven m = true) :
    (assigned cs (emitTree cs m)).code = memberName cs m ++ ": " ++ (initialiser? m).elim [] (script cs) := by
  rw [assigned, Fragment.code_append, Fragment.code_ofText, memberName_eq m given, writtenValue_emitTree m given]
  cases initialiser? m <;> rfl

theorem enumMembers_bare (cs : Characters) (next : Option Nat) (m : Node) (es : List Emitted)
    (bare : isGiven m = false) :
    enumMembers cs next (emitTree cs m :: es)
      = { code := memberName cs m ++ ": " ++ next.elim (Text.ofString "undefined") Text.ofNat
          failure := next.bind writeFailure } :: enumMembers cs (next.map (· + 1)) es := by
  have kind : ¬(emitTree cs m).kind = "enum_assignment" := by
    rw [(isWriting_emitTree cs m).kind]
    exact of_decide_eq_false bare
  rw [enumMembers, if_neg kind, emitTree_node, memberName, if_neg (by simp [bare])]

theorem enumMembers_given (cs : Characters) (next : Option Nat) (m : Node) (es : List Emitted)
    (given : isGiven m = true) :
    enumMembers cs next (emitTree cs m :: es)
      = assigned cs (emitTree cs m) :: enumMembers cs ((numberOf? cs m).map (· + 1)) es := by
  have kind : (emitTree cs m).kind = "enum_assignment" := by
    rw [(isWriting_emitTree cs m).kind]
    exact of_decide_eq_true given
  rw [enumMembers_assignment cs next es kind, isNumbered_emitTree m given]

/-- What the counter of an enumeration stands at is the number after the members before. -/
theorem code_enumMembers (cs : Characters) (before ms : List Node) :
    (enumMembers cs (countAfter cs before) (ms.map (emitTree cs))).map Fragment.code = memberTexts cs before ms := by
  induction ms generalizing before with
  | nil => rfl
  | cons m ms ih =>
    rw [List.map_cons, memberTexts, memberValue, ← ih (before ++ [m])]
    cases given : isGiven m with
    | true =>
      rw [enumMembers_given cs _ m _ given, ← countAfter_concat_given cs before given, List.map_cons,
        code_assigned m given, if_pos rfl]
    | false =>
      rw [enumMembers_bare cs _ m _ given, ← countAfter_concat_bare cs before given, List.map_cons,
        if_neg Bool.false_ne_true]

end Members

/-- A whole number in base ten, of fewer digits than there may be. -/
structure IsNumber (cs : Characters) (v : Node) : Prop where
  kind : v.kind = "number"
  leaf : v.children = []
  digits : isNumeral (textOf cs v) = true
  short : (textOf cs v).length < Decimal.maxDigits

/-- A whole number in base ten, with or without a minus sign. -/
inductive IsLiteral (cs : Characters) : Node → Prop
  | plain {v : Node} (number : IsNumber cs v) : IsLiteral cs v
  | negated {i : NodeInfo} {sign v : Node} {comments : List Node} (kind : i.kind = "unary_expression")
    (laid : Node.IsLaidOut (.mk i (sign :: (comments ++ [v])))) (isSign : sign.kind = "-" ∧ sign.children = [])
    (areComments : ∀ c ∈ comments, c.kind = "comment" ∧ c.children = []) (number : IsNumber cs v) :
    IsLiteral cs (.mk i (sign :: (comments ++ [v])))

/-- A member is given a literal. -/
structure IsInitialised (cs : Characters) (m v : Node) : Prop where
  kind : m.kind = "enum_assignment"
  name : (m.child? "name").isSome
  value : m.child? "value" = some v
  literal : IsLiteral cs v

section Literals

variable {cs : Characters} {m n v : Node}

/-- A tree that loses nothing is written as it stands. -/
theorem isRemaining_whole (laid : n.IsLaidOut) (copied : ∀ m ∈ n.preorder, m.kind ∉ rewrittenKinds)
    (whole : ∀ m ∈ n.preorder, isWhole m) : script cs n = textOf cs n ∧ (emitTree cs n).fragment.failure = none := by
  have written : IsRemaining cs (isLost n) n.start n.stop (emitTree cs n).fragment := isRemaining_emitTree laid copied
  exact ⟨written.code.trans (remaining_eq_slice fun p _ _ => isLost_of_isWhole whole), written.failure⟩

theorem fragment_of_number (kind : v.kind = "number") (leaf : v.children = []) :
    script cs v = textOf cs v ∧ (emitTree cs v).fragment.failure = none := by
  refine ⟨code_of_number kind leaf, ?_⟩
  obtain ⟨i, below⟩ := v
  cases (show below = [] from leaf)
  have here : i.kind = "number" := kind
  simp [emitTree, emitTrees, Emitted.fragment, fragmentOf, here, erasedKinds, unwrappedKinds, noted, unsupportedNote?,
    copy]

theorem eq_of_mem_preorder_leaf (leaf : n.children = []) (member : m ∈ n.preorder) : m = n := by
  obtain ⟨i, below⟩ := n
  cases (show below = [] from leaf)
  simpa [Node.preorder, Node.preorderAll] using member

theorem isWhole_of_leaf {kind : String} (is : n.kind = kind) (leaf : n.children = [])
    (kept : !erasedKinds.contains kind && !unwrappedKinds.contains kind) : isWhole n = true := by
  rw [isWhole, is, kept, leaf]
  rfl

theorem IsLiteral.written (literal : IsLiteral cs v) :
    script cs v = textOf cs v ∧ (emitTree cs v).fragment.failure = none := by
  cases literal with
  | plain number => exact fragment_of_number number.kind number.leaf
  | @negated i sign w comments kind laid isSign areComments number =>
    have nodes : ∀ m ∈ Node.preorder (.mk i (sign :: (comments ++ [w]))),
        m = .mk i (sign :: (comments ++ [w])) ∨ m.children = [] ∧ m.kind ∈ ["-", "comment", "number"] := by
      intro m member
      rcases Node.mem_preorder.mp member with rfl | ⟨c, child, member⟩
      · exact .inl rfl
      · have leaf : c.children = [] ∧ c.kind ∈ ["-", "comment", "number"] := by
          rw [List.mem_cons, List.mem_append, List.mem_singleton] at child
          rcases child with rfl | comment | rfl
          · simp [isSign]
          · simp [areComments c comment]
          · simp [number.kind, number.leaf]
        exact .inr (eq_of_mem_preorder_leaf leaf.1 member ▸ leaf)
    have kindHere : (Node.mk i (sign :: (comments ++ [w]))).kind = "unary_expression" := kind
    have plainKinds : ∀ kind ∈ ["-", "comment", "number"],
        kind ∉ rewrittenKinds ∧ (!erasedKinds.contains kind && !unwrappedKinds.contains kind) = true := by decide
    refine isRemaining_whole laid (fun m member => ?_) fun m member => ?_
    · rcases nodes m member with rfl | ⟨-, among⟩
      · rw [kindHere]
        decide
      · exact (plainKinds _ among).1
    · rcases nodes m member with rfl | ⟨leaf, among⟩
      · simp [isWhole, kindHere, erasedKinds, unwrappedKinds, isErasedToken, erasedTokens]
      · exact isWhole_of_leaf rfl leaf (plainKinds _ among).2

theorem IsInitialised.initialiser? (initialised : IsInitialised cs m v) : initialiser? m = some v := by
  have given : isGiven m = true := decide_eq_true initialised.kind
  rw [Script.initialiser?, if_pos given, initialised.value]
  rfl

/-- A number that is given leaves room for those that are counted from it. -/
theorem IsInitialised.short (initialised : IsInitialised cs m v) {k : Nat} (number : numberOf? cs m = some k) :
    10 * k < firstUnwritten ∧ (script cs v).length < Decimal.maxDigits := by
  simp only [numberOf?, initialised.initialiser?, Option.bind_some, Option.ite_none_right_eq_some, Bool.and_eq_true,
    decide_eq_true_eq, Option.some.injEq] at number
  obtain ⟨⟨kind, -⟩, rfl⟩ := number
  cases initialised.literal with
  | plain number =>
    rw [(fragment_of_number number.kind number.leaf).1]
    have digits := number.digits
    simp only [isNumeral, Bool.and_eq_true, List.all_eq_true] at digits
    refine ⟨?_, number.short⟩
    unfold firstUnwritten
    exact ten_mul_natOfDigits_lt digits.2 number.short
  | @negated i sign w comments unary _ _ _ _ => exact absurd (unary.symm.trans kind) (by decide)

theorem failure_assigned (initialised : IsInitialised cs m v) : (assigned cs (emitTree cs m)).failure = none := by
  have given : isGiven m = true := decide_eq_true initialised.kind
  have w := isWriting_emitTree cs m
  obtain ⟨key, name⟩ := Option.isSome_iff_exists.mp initialised.name
  have number := @isNumbered_emitTree cs m given
  have value : valueOf (emitTree cs m) = some (emitTree cs v) := by
    rw [valueOf_emitTree m given, initialised.initialiser?, Option.map_some]
  have written : writtenValue (emitTree cs m) = (emitTree cs v).fragment := by
    rw [writtenValue, value, Option.elim_some]
  rw [assigned, Fragment.failure_append_eq_none_iff, w.child?, name, value, written]
  refine ⟨rfl, ?_⟩
  rw [written] at number
  simp only [Option.map_some, Option.some_or, Option.isNone_some, Bool.or_self, Bool.false_eq_true, if_false,
    Option.none_or, initialised.literal.written.2]
  split
  · rename_i counted
    rw [if_pos counted, eq_comm, Option.map_eq_some_iff] at number
    obtain ⟨k, number, -⟩ := number
    exact if_neg (Nat.not_lt.mpr (Nat.le_of_lt (initialised.short number).2))
  · rfl

theorem writeFailure_of_lt {k : Nat} (small : k < firstUnwritten) : writeFailure k = none := by
  unfold writeFailure
  unfold firstUnwritten at small
  rw [if_neg (Nat.not_le.mpr small)]

/-- Nothing fails as long as the numbers that are counted leave room for the members to come. -/
theorem failure_enumMembers {before ms : List Node} {bound : Nat}
    (initialised : ∀ m ∈ ms, isGiven m = true → ∃ v, IsInitialised cs m v)
    (numbers : ∀ m ∈ before ++ ms, ∀ k, numberOf? cs m = some k → k ≤ bound)
    (few : bound + (before ++ ms).length ≤ firstUnwritten) :
    ∀ f ∈ enumMembers cs (countAfter cs before) (ms.map (emitTree cs)), f.failure = none := by
  induction ms generalizing before with
  | nil => exact List.forall_mem_nil _
  | cons m ms ih =>
    rw [List.forall_mem_cons] at initialised
    have later : ∀ f ∈ enumMembers cs (countAfter cs (before ++ [m])) (ms.map (emitTree cs)), f.failure = none :=
      ih initialised.2 (by simpa using numbers) (by simpa using few)
    rw [List.map_cons]
    cases given : isGiven m with
    | true =>
      obtain ⟨v, here⟩ := initialised.1 given
      rw [enumMembers_given cs _ m _ given, ← countAfter_concat_given cs before given, List.forall_mem_cons]
      exact ⟨failure_assigned here, later⟩
    | false =>
      rw [enumMembers_bare cs _ m _ given, ← countAfter_concat_bare cs before given, List.forall_mem_cons]
      refine ⟨?_, later⟩
      cases counted : countAfter cs before with
      | none => rfl
      | some k =>
        have small : k ≤ bound + before.length :=
          le_of_countAfter (fun m member => numbers m (List.mem_append_left _ member)) counted
        rw [List.length_append, List.length_cons] at few
        have room : k < firstUnwritten := by omega
        dsimp only
        rw [Option.bind_some, writeFailure_of_lt room]

end Literals

section Enumeration

variable {cs : Characters} {n : Node}

theorem fragment_enumeration (isEnumeration : n.kind = "enum_declaration") :
    (emitTree cs n).fragment = Fragment.ofText ("const " ++ enumName cs n ++ " = Object.freeze(\x7b ")
      ++ Fragment.join ", " (enumMembers cs (countAfter cs []) ((membersOf n).map (emitTree cs)))
      ++ Fragment.ofText " \x7d);" := by
  obtain ⟨i, below⟩ := n
  have w := isWriting_mk cs i below (Fragment.ofText [])
  have kind : i.kind = "enum_declaration" := isEnumeration
  have written : fragmentOf cs i below (emitTrees cs below)
      = enumeration cs ((Emitted.mk (.mk i below) (Fragment.ofText []) (emitTrees cs below)).child? "name")
        ((Emitted.mk (.mk i below) (Fragment.ofText []) (emitTrees cs below)).child? "body") := by
    simp [fragmentOf, kind, erasedKinds, unwrappedKinds]
  have name : ((Node.mk i below).child? "name").elim (Text.ofString "Enum") (fun n => textOf cs (emitTree cs n).node)
      = enumName cs (.mk i below) := by
    simp only [emitTree_node, enumName]
  have members : (((Node.mk i below).child? "body").map (emitTree cs)).elim [] Emitted.parts
      = (membersOf (.mk i below)).map (emitTree cs) := by
    rw [membersOf]
    cases (Node.mk i below).child? "body" with
    | none => rfl
    | some body => exact (isWriting_emitTree cs body).parts
  rw [emitTree, Emitted.fragment, written, enumeration, w.child?, w.child?, Option.elim_map, members, countAfter_nil]
  simp only [Function.comp_def, name]

/-- An enumeration becomes an object with its members in source order. A member without a value gets the number of the
nearest member before it that is given one as a row of digits, and one more for every member from there on; members
before all values count from zero, and after a value that is no row of digits they are undefined. If all values are
whole numbers in base ten, with or without a minus sign, the object is written, and its values are those of the
source. -/
theorem enumeration_numbered (cs : Characters) (isEnumeration : n.kind = "enum_declaration") :
    script cs n = "const " ++ enumName cs n ++ " = Object.freeze(\x7b "
        ++ Text.join ", " (memberTexts cs [] (membersOf n)) ++ " \x7d);" ∧
      ((∀ m ∈ membersOf n, isGiven m = true → ∃ v, IsInitialised cs m v) →
        10 * (membersOf n).length ≤ firstUnwritten →
          (emitTree cs n).fragment.failure = none ∧
            ∀ m ∈ membersOf n, ∀ v, initialiser? m = some v → script cs v = textOf cs v) := by
  constructor
  · rw [script, fragment_enumeration isEnumeration, Fragment.code_append, Fragment.code_append, Fragment.code_join,
      code_enumMembers]
    rfl
  · intro initialised few
    constructor
    · have numbers : ∀ m ∈ [] ++ membersOf n, ∀ k, numberOf? cs m = some k → k ≤ firstUnwritten / 10 := by
        intro m member k number
        obtain ⟨v, given⟩ : ∃ v, IsInitialised cs m v := by
          refine initialised m member ?_
          cases given : isGiven m with
          | true => rfl
          | false => simp [numberOf?, initialiser?, given] at number
        have := (given.short number).1
        generalize firstUnwritten = bound at *
        omega
      rw [fragment_enumeration isEnumeration, Fragment.failure_append_eq_none_iff, Fragment.failure_append_eq_none_iff,
        Fragment.failure_join_eq_none_iff]
      refine ⟨⟨rfl, failure_enumMembers initialised numbers ?_⟩, rfl⟩
      rw [List.nil_append]
      generalize firstUnwritten = bound at *
      omega
    · intro m member v value
      have given : isGiven m = true := by
        cases given : isGiven m with
        | true => rfl
        | false => simp [initialiser?, given] at value
      obtain ⟨w, here⟩ := initialised m member given
      cases here.initialiser?.symm.trans value
      exact here.literal.written.1

end Enumeration

/-- The tree of `enum Level` with some members, from the start of a source. -/
def levels (stop : Nat) (members : List Node) : Node := plainNode "enum_declaration" true 0 stop [
  plainNode "enum" false 0 4 [], partNode "name" "identifier" 5 10 [],
  partNode "body" "enum_body" 11 stop (
    plainNode "\x7b" false 11 12 [] :: members ++ [plainNode "\x7d" false (stop - 1) stop []])]

def bareMember (start stop : Nat) : Node := partNode "name" "property_identifier" start stop []

def givenMember (start middle : Nat) (value : Node) : Node := plainNode "enum_assignment" true start value.stop [
  partNode "name" "property_identifier" start middle [], plainNode "=" false (middle + 1) (middle + 2) [], value]

/-- The tree of a number of one digit. -/
def digitNode (start : Nat) : Node := partNode "value" "number" start (start + 1) []

/-- The tree of a negative number of one digit. -/
def negativeNode (start : Nat) : Node := partNode "value" "unary_expression" start (start + 2) [
  plainNode "-" false start (start + 1) [], plainNode "number" true (start + 1) (start + 2) []]

def comma (start : Nat) : Node := plainNode "," false start (start + 1) []

def gradesSource : Characters :=
  (Text.ofString "enum Level \x7b Easy, Hard = 5, Expert, Low = -1, Next \x7d").toArray

def grades : Node := levels 53 [
  bareMember 13 17, comma 17, givenMember 19 23 (digitNode 26), comma 27, bareMember 29 35, comma 35,
  givenMember 37 40 (negativeNode 43), comma 45, bareMember 47 51]

theorem enumeration_numbered_grades :
    grades.kind = "enum_declaration" ∧
      (∀ m ∈ membersOf grades, isGiven m = true → ∃ v, IsInitialised gradesSource m v) ∧
      10 * (membersOf grades).length ≤ firstUnwritten ∧ (emitTree gradesSource grades).fragment.failure = none ∧
      script gradesSource grades = "const Level = Object.freeze(\x7b " ++
        "Easy: 0, Hard: 5, Expert: 6, Low: -1, Next: undefined \x7d);" := by
  have initialised : ∀ m ∈ membersOf grades, isGiven m = true → ∃ v, IsInitialised gradesSource m v := by
    have members : membersOf grades = [bareMember 13 17, givenMember 19 23 (digitNode 26), bareMember 29 35,
      givenMember 37 40 (negativeNode 43), bareMember 47 51] := rfl
    have digit (v : Node) (kind : v.kind = "number") (leaf : v.children = []) (one : (textOf gradesSource v).length = 1)
        (numeral : isNumeral (textOf gradesSource v) = true) : IsNumber gradesSource v :=
      ⟨kind, leaf, numeral, by rw [one]; decide⟩
    rw [members]
    simp only [List.forall_mem_cons]
    refine ⟨nofun, fun _ => ⟨digitNode 26, rfl, rfl, rfl, .plain ?_⟩, nofun,
      fun _ => ⟨negativeNode 43, rfl, rfl, rfl, @IsLiteral.negated _ _ _ _ [] rfl ?_ ⟨rfl, rfl⟩ (List.forall_mem_nil _) ?_⟩,
      nofun, List.forall_mem_nil _⟩
    · simp only [gradesSource, Text.ofString_eq rfl] at *
      exact digit _ rfl rfl (by decide +kernel) (by decide +kernel)
    · decide +kernel
    · simp only [gradesSource, Text.ofString_eq rfl] at *
      exact digit _ rfl rfl (by decide +kernel) (by decide +kernel)
  have few : 10 * (membersOf grades).length ≤ firstUnwritten := by decide +kernel
  obtain ⟨code, written⟩ := enumeration_numbered gradesSource (n := grades) rfl
  refine ⟨rfl, initialised, few, (written initialised few).1, code.trans ?_⟩
  simp only [gradesSource, Text.ofString_eq rfl]
  decide +kernel

def signedSource : Characters := (Text.ofString "enum Level \x7b Low = -1, Next \x7d").toArray

/-- The member after a negative number is undefined, and not zero. -/
theorem script_signed :
    script signedSource (levels 29 [givenMember 13 16 (negativeNode 19), comma 21, bareMember 23 27])
      = "const Level = Object.freeze(\x7b Low: -1, Next: undefined \x7d);" ∧
    script signedSource (levels 29 [givenMember 13 16 (negativeNode 19), comma 21, bareMember 23 27])
      ≠ "const Level = Object.freeze(\x7b Low: -1, Next: 0 \x7d);" := by
  simp only [signedSource, Text.ofString_eq rfl]
  decide +kernel

end LessonService.Script
