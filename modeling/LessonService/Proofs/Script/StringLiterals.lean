import LessonService.Json.Read
import LessonService.Proofs.Sandbox.Escaping
import LessonService.Proofs.Text.Encoding
import LessonService.Script.Emission

namespace LessonService.Script.StringLiteral

variable {t u after : Text} {c : CodePoint}

/-- The units of 16 bits that a character is in a script. -/
def units (c : CodePoint) : List Nat :=
  if c.value < 0x10000 then [c.value]
  else [0xD800 + (c.value - 0x10000) / 0x400, 0xDC00 + (c.value - 0x10000) % 0x400]

/-- The text of units, in which two halves are one character. -/
def joined : List Nat → Text
  | [] => []
  | [n] => [⟨n⟩]
  | high :: low :: rest =>
    if Json.isHighHalf high && Json.isLowHalf low then ⟨Json.joinHalves high low⟩ :: joined rest
    else ⟨high⟩ :: joined (low :: rest)

/-- How far a literal has been read. -/
inductive Reading where
  | between
  /-- After a backslash. -/
  | escape
  /-- After a backslash and a carriage return, which go together with a line feed. -/
  | lineEnd
  /-- After a zero that a backslash stands before. -/
  | zero
  /-- After the letter of an escape that may have braces. -/
  | opening
  /-- In an escape with so many digits to come, after those of a number. -/
  | digits (left value : Nat)
  /-- In an escape in braces, after the digits of a number. -/
  | braced (value : Option Nat)
deriving DecidableEq

/-- What comes of a character in a literal: nothing if it must not stand there, the end of the literal, or the
units that are complete with it. -/
inductive Step where
  | refused
  | closed
  | read (units : List Nat) (next : Reading)
deriving DecidableEq

/-- The value of a digit in base sixteen. -/
def digit? (c : CodePoint) : Option Nat :=
  if c.isDigit then some (c.value - 0x30)
  else if c.isBetween 0x41 0x46 then some (c.value - 0x37)
  else if c.isBetween 0x61 0x66 then some (c.value - 0x57)
  else none

/-- A character that no backslash stands before. Lines must not end in a literal. -/
def plainStep (c : CodePoint) : Step :=
  if c = '"' then .closed
  else if c = '\\' then .read [] .escape
  else if c = '\n' || c = '\r' then .refused
  else .read (units c) .between

/-- A character after a backslash: a letter with a meaning of its own, the end of a line that goes on, or else
itself. There are no escapes in base eight. -/
def escapeStep (c : CodePoint) : Step :=
  if c = 'b' then .read [8] .between
  else if c = 't' then .read [9] .between
  else if c = 'n' then .read [10] .between
  else if c = 'v' then .read [11] .between
  else if c = 'f' then .read [12] .between
  else if c = 'r' then .read [13] .between
  else if c = 'x' then .read [] (.digits 1 0)
  else if c = 'u' then .read [] .opening
  else if c = '0' then .read [0] .zero
  else if c.isDigit then .refused
  else if c = '\r' then .read [] .lineEnd
  else if c = '\n' || c.value = 0x2028 || c.value = 0x2029 then .read [] .between
  else .read (units c) .between

/-- A digit of an escape with so many more to come. -/
def digitStep (left value : Nat) (c : CodePoint) : Step :=
  match digit? c with
  | none => .refused
  | some d =>
    match left with
    | 0 => .read [value * 16 + d] .between
    | left + 1 => .read [] (.digits left (value * 16 + d))

def step : Reading → CodePoint → Step
  | .between, c => plainStep c
  | .escape, c => escapeStep c
  | .lineEnd, c => if c = '\n' then .read [] .between else plainStep c
  | .zero, c => if c.isDigit then .refused else plainStep c
  | .opening, c => if c = '\x7b' then .read [] (.braced none) else digitStep 3 0 c
  | .digits left value, c => digitStep left value c
  | .braced value, c =>
    match digit? c, value with
    | some d, _ => .read [] (.braced (some (value.getD 0 * 16 + d)))
    | none, some n => if c = '\x7d' && n ≤ 0x10FFFF then .read (units ⟨n⟩) .between else .refused
    | none, none => .refused

/-- The units of a literal from some place in it on, and what follows its end. -/
def readFrom : Reading → Text → Option (List Nat × Text)
  | _, [] => none
  | reading, c :: t =>
    match step reading c with
    | .refused => none
    | .closed => some ([], t)
    | .read complete next => (readFrom next t).map fun (rest, after) => (complete ++ rest, after)

/-- The text that a literal in double quotes stands for, if the whole of a text is one. -/
def value? : Text → Option Text
  | [] => none
  | c :: t =>
    if c = '"' then
      ((readFrom .between t).filter fun (_, after) => after.isEmpty).map fun (read, _) => joined read
    else none

/-- A backslash that means nothing, and a number in braces. -/
example : (value? "\"<\\/p>\\u\x7b1f600\x7d\"").map (·.map CodePoint.value) = some [0x3C, 0x2F, 0x70, 0x3E, 0x1F600] := by decide +kernel

theorem readFrom_of_refused {reading : Reading} (stepped : step reading c = .refused) (t : Text) :
    readFrom reading (c :: t) = none := by
  rw [readFrom, stepped]

theorem readFrom_of_closed {reading : Reading} (stepped : step reading c = .closed) (t : Text) :
    readFrom reading (c :: t) = some ([], t) := by
  rw [readFrom, stepped]

theorem readFrom_of_read {reading next : Reading} {complete : List Nat} (stepped : step reading c = .read complete next)
    (t : Text) : readFrom reading (c :: t) = (readFrom next t).map (Prod.map (complete ++ ·) id) := by
  rw [readFrom, stepped]
  rfl

theorem readFrom_of_silent {reading next : Reading} (stepped : step reading c = .read [] next) (t : Text) :
    readFrom reading (c :: t) = readFrom next t := by
  rw [readFrom_of_read stepped]
  exact Option.map_id_apply

theorem readFrom_backslash (t : Text) : readFrom .between (('\\' : CodePoint) :: t) = readFrom .escape t :=
  readFrom_of_silent rfl t

theorem readFrom_suffix {reading : Reading} {read : List Nat} (ended : readFrom reading t = some (read, after)) :
    after <:+ t := by
  induction t generalizing reading read with
  | nil => cases ended
  | cons c t ih =>
    cases stepped : step reading c with
    | refused =>
      rw [readFrom_of_refused stepped] at ended
      cases ended
    | closed =>
      rw [readFrom_of_closed stepped] at ended
      cases ended
      exact List.suffix_cons c _
    | read complete next =>
      rw [readFrom_of_read stepped, Option.map_eq_some_iff] at ended
      obtain ⟨⟨rest, _⟩, later, ⟨⟩⟩ := ended
      exact (ih later).trans (List.suffix_cons c t)

/-- What changes a text after its first character alone changes what follows a literal in it, if it does so
wherever the reading goes on. -/
theorem readFrom_cons_of_changed {change : Text → Text} (changed : change t = u)
    (later : ∀ next, readFrom next u = (readFrom next t).map (Prod.map id change)) (reading : Reading) :
    readFrom reading (c :: u) = (readFrom reading (c :: t)).map (Prod.map id change) := by
  cases stepped : step reading c with
  | refused => rw [readFrom_of_refused stepped, readFrom_of_refused stepped, Option.map_none]
  | closed => rw [readFrom_of_closed stepped, readFrom_of_closed stepped, Option.map_some, ← changed, Prod.map_apply, id]
  | read complete next =>
    rw [readFrom_of_read stepped, readFrom_of_read stepped, later, Option.map_map, Option.map_map]
    rfl

theorem step_tag (reading : Reading) :
    step reading '<' = .refused ∨ ∃ complete, step reading '<' = .read complete .between := by
  cases reading with
  | digits | opening => exact .inl rfl
  | braced value => cases value <;> exact .inl rfl
  | _ => exact .inr ⟨_, rfl⟩

/-- A backslash may stand before what breaks up a tag or a comment: it is read as nothing. -/
theorem readFrom_tag (breaks : c = '/' ∨ c = '!') (reading : Reading) (t : Text) :
    readFrom reading (('<' : CodePoint) :: '\\' :: c :: t) = readFrom reading (('<' : CodePoint) :: c :: t) := by
  have escaped : step .escape c = step .between c := by
    rcases breaks with rfl | rfl <;> rfl
  have plain : step .between c = .read (units c) .between := by
    rcases breaks with rfl | rfl <;> rfl
  have inserted : readFrom .between (('\\' : CodePoint) :: c :: t) = readFrom .between (c :: t) := by
    rw [readFrom_backslash, readFrom_of_read (escaped.trans plain), readFrom_of_read plain]
  rcases step_tag reading with stepped | ⟨complete, stepped⟩
  · rw [readFrom_of_refused stepped, readFrom_of_refused stepped]
  · rw [readFrom_of_read stepped, readFrom_of_read stepped, inserted]

theorem readFrom_breakTags (reading : Reading) (t : Text) :
    readFrom reading (Sandbox.breakTags t) = (readFrom reading t).map (Prod.map id Sandbox.breakTags) := by
  fun_induction Sandbox.breakTags t generalizing reading with
  | case1 => rfl
  | case2 c =>
    have nothing (next : Reading) : readFrom next [] = (readFrom next []).map (Prod.map id Sandbox.breakTags) := rfl
    have empty : Sandbox.breakTags [] = [] := rfl
    exact readFrom_cons_of_changed empty nothing reading
  | case3 c d t tag ih =>
    simp only [Bool.and_eq_true, decide_eq_true_eq] at tag
    obtain ⟨rfl, rfl⟩ := tag
    rw [readFrom_tag (.inl rfl)]
    exact readFrom_cons_of_changed (Sandbox.breakTags_cons (by decide) t) (readFrom_cons_of_changed rfl ih) reading
  | case4 c d t plain ih => exact readFrom_cons_of_changed rfl ih reading

theorem readFrom_breakComments (reading : Reading) (t : Text) :
    readFrom reading (Sandbox.breakComments t) = (readFrom reading t).map (Prod.map id Sandbox.breakComments) := by
  fun_induction Sandbox.breakComments t generalizing reading with
  | case1 c d e f t comment ih =>
    simp only [Bool.and_eq_true, decide_eq_true_eq] at comment
    obtain ⟨⟨⟨rfl, rfl⟩, rfl⟩, rfl⟩ := comment
    rw [readFrom_tag (.inr rfl)]
    refine readFrom_cons_of_changed ?_ (readFrom_cons_of_changed ?_ (readFrom_cons_of_changed ?_
      (readFrom_cons_of_changed rfl ih))) reading
    all_goals
      iterate rw [Sandbox.breakComments_cons (by decide)]
  | case2 c d e f t plain ih => exact readFrom_cons_of_changed rfl ih reading
  | case3 t short =>
    have few := Sandbox.length_lt_of_short short
    cases ended : readFrom reading t with
    | none => rfl
    | some x =>
      have kept : Sandbox.breakComments x.2 = x.2 :=
        Sandbox.breakComments_of_short ((readFrom_suffix ended).length_le.trans_lt few)
      rw [Option.map_some, Prod.map, kept]
      rfl

/-- Whatever a literal holds and wherever it ends: in the page it is read as it was before, and what follows it is
what the page makes of what followed it. -/
theorem readFrom_scriptBody (reading : Reading) (t : Text) :
    readFrom reading (Sandbox.scriptBody t) = (readFrom reading t).map (Prod.map id Sandbox.scriptBody) := by
  rw [Sandbox.scriptBody, readFrom_breakComments, readFrom_breakTags, Option.map_map]
  rfl

theorem head?_scriptBody (t : Text) : (Sandbox.scriptBody t).head? = t.head? := by
  rw [Sandbox.scriptBody, Sandbox.head?_breakComments, Sandbox.head?_breakTags]

theorem isEmpty_scriptBody (t : Text) : (Sandbox.scriptBody t).isEmpty = t.isEmpty := by
  rw [Bool.eq_iff_iff, List.isEmpty_iff, List.isEmpty_iff, ← List.head?_eq_none_iff, head?_scriptBody,
    List.head?_eq_none_iff]

/-- A text is the same literal in the page as before. -/
theorem value?_scriptBody (t : Text) : value? (Sandbox.scriptBody t) = value? t := by
  cases t with
  | nil => rfl
  | cons c t =>
    by_cases quote : c = '"'
    · subst quote
      have opened : Sandbox.scriptBody (('"' : CodePoint) :: t) = ('"' : CodePoint) :: Sandbox.scriptBody t := by
        rw [Sandbox.scriptBody, Sandbox.breakTags_cons (by decide), Sandbox.breakComments_cons (by decide)]
        rfl
      rw [opened, value?, value?, if_pos rfl, if_pos rfl, readFrom_scriptBody, Option.filter_map, Option.map_map]
      simp [Function.comp_def, isEmpty_scriptBody]
    · obtain ⟨rest, changed⟩ := List.head?_eq_some_iff.mp (head?_scriptBody (c :: t))
      rw [changed, value?, value?, if_neg quote, if_neg quote]

theorem digit?_hexDigit : ∀ n < 16, digit? (Quoted.hexDigit n) = some n := by decide

theorem hexDigit_ne_brace : ∀ n < 16, Quoted.hexDigit n ≠ '\x7b' := by decide

theorem step_digits {n : Nat} (small : n < 16) (left value : Nat) :
    step (.digits (left + 1) value) (Quoted.hexDigit n) = .read [] (.digits left (value * 16 + n)) := by
  simp only [step, digitStep, digit?_hexDigit n small]

theorem step_lastDigit {n : Nat} (small : n < 16) (value : Nat) :
    step (.digits 0 value) (Quoted.hexDigit n) = .read [value * 16 + n] .between := by
  simp only [step, digitStep, digit?_hexDigit n small]

theorem step_firstDigit {n : Nat} (small : n < 16) : step .opening (Quoted.hexDigit n) = .read [] (.digits 2 n) := by
  simp only [step, if_neg (hexDigit_ne_brace n small), digitStep, digit?_hexDigit n small, Nat.zero_mul, Nat.zero_add]

theorem readFrom_unit {n : Nat} (small : n < 0x10000) (t : Text) :
    readFrom .between (Quoted.unit n ++ t) = (readFrom .between t).map (Prod.map ([n] ++ ·) id) := by
  have digit (m : Nat) : m % 16 < 16 := Nat.mod_lt m (by decide)
  have whole : ((n / 4096 % 16 * 16 + n / 256 % 16) * 16 + n / 16 % 16) * 16 + n % 16 = n := by omega
  rw [Quoted.unit]
  simp only [List.cons_append, List.nil_append]
  have opened (t : Text) : readFrom .escape (('u' : CodePoint) :: t) = readFrom .opening t := readFrom_of_silent rfl t
  rw [readFrom_backslash, opened, readFrom_of_silent (step_firstDigit (digit _)),
    readFrom_of_silent (step_digits (digit _) _ _), readFrom_of_silent (step_digits (digit _) _ _),
    readFrom_of_read (step_lastDigit (digit _) _), whole]
  rfl

theorem readFrom_letter {letter : CodePoint} {n : Nat} (stepped : step .escape letter = .read [n] .between) (t : Text) :
    readFrom .between (('\\' : CodePoint) :: letter :: t) = (readFrom .between t).map (Prod.map ([n] ++ ·) id) := by
  rw [readFrom_backslash, readFrom_of_read stepped]

theorem step_plain (quote : c ≠ '"') (backslash : c ≠ '\\') (lineFeed : c ≠ '\n') (carriageReturn : c ≠ '\r') :
    step .between c = .read (units c) .between := by
  rw [step, plainStep, if_neg quote, if_neg backslash, if_neg]
  rw [Bool.or_eq_true, decide_eq_true_eq, decide_eq_true_eq, not_or]
  exact ⟨lineFeed, carriageReturn⟩

/-- A character that is written in quotes is read as its units. -/
theorem readFrom_escape (c : CodePoint) (t : Text) :
    readFrom .between (Quoted.escape false c ++ t) = (readFrom .between t).map (Prod.map (units c ++ ·) id) := by
  obtain ⟨n⟩ := c
  unfold Quoted.escape
  iterate 7
    split
    · rename_i short
      cases short
      exact readFrom_letter rfl t
  split
  · rename_i control
    have small : n < 0x10000 := Nat.lt_trans control (by decide)
    rw [units, if_pos small]
    exact readFrom_unit small t
  · rename_i quote backslash lineFeed carriageReturn _ _ _ _
    exact readFrom_of_read (step_plain quote backslash lineFeed carriageReturn) t

/-- What is written in quotes is read up to the last quote, whatever follows it. -/
theorem readFrom_escaped (t after : Text) :
    readFrom .between (t.flatMap (Quoted.escape false) ++ ('"' : CodePoint) :: after) = some (t.flatMap units, after) := by
  induction t with
  | nil => rfl
  | cons c t ih =>
    rw [List.flatMap_cons, List.append_assoc, readFrom_escape, ih]
    rfl

theorem joined_units_append (paired : c.isUnpaired = false) (small : c.value < 0x110000) (rest : List Nat) :
    joined (units c ++ rest) = c :: joined rest := by
  simp only [CodePoint.isUnpaired, Bool.and_eq_false_iff, decide_eq_false_iff_not] at paired
  unfold units
  split
  · have whole : Json.isHighHalf c.value = false := by
      simp only [Json.isHighHalf, Bool.and_eq_false_iff, decide_eq_false_iff_not]
      omega
    cases rest with
    | nil => rfl
    | cons low rest => simp [joined, whole]
  · have high : Json.isHighHalf (0xD800 + (c.value - 0x10000) / 0x400) = true := by
      simp only [Json.isHighHalf, Bool.and_eq_true, decide_eq_true_eq]
      omega
    have low : Json.isLowHalf (0xDC00 + (c.value - 0x10000) % 0x400) = true := by
      simp only [Json.isLowHalf, Bool.and_eq_true, decide_eq_true_eq]
      omega
    have same : Json.joinHalves (0xD800 + (c.value - 0x10000) / 0x400) (0xDC00 + (c.value - 0x10000) % 0x400) =
        c.value := by
      unfold Json.joinHalves
      omega
    simp [joined, high, low, same]

/-- Characters are what their units say. -/
theorem joined_units (s : String) : joined ((Text.ofString s).flatMap units) = Text.ofString s := by
  unfold Text.ofString
  induction s.toList with
  | nil => rfl
  | cons c cs ih =>
    rw [List.map_cons, List.flatMap_cons, joined_units_append (CodePoint.isUnpaired_ofChar c) (CodePoint.value_ofChar_lt c),
      ih]

theorem value?_encode (s : String) : value? (Quoted.encode false s) = some (Text.ofString s) := by
  rw [Quoted.encode, value?, if_pos rfl, readFrom_escaped]
  exact congrArg some (joined_units s)

/-- The places of the quotes that no backslash escapes, in a text that starts at some place and may come after a
backslash. -/
def bareQuotes : Nat → Bool → Text → List Nat
  | _, _, [] => []
  | place, true, _ :: t => bareQuotes (place + 1) false t
  | place, false, c :: t =>
    if c = '"' then place :: bareQuotes (place + 1) false t else bareQuotes (place + 1) (c = '\\') t

theorem bareQuotes_of_plain (quote : c ≠ '"') (backslash : c ≠ '\\') (place : Nat) (t : Text) :
    bareQuotes place false (c :: t) = bareQuotes (place + 1) false t := by
  rw [bareQuotes, if_neg quote, decide_eq_false backslash]

theorem bareQuotes_unit (n place : Nat) (t : Text) :
    bareQuotes place false (Quoted.unit n ++ t) = bareQuotes (place + 6) false t := by
  have digit (m : Nat) : ∀ special ∈ ("\"\\" : Text), Quoted.hexDigit (m % 16) ≠ special := by
    have small : ∀ d < 16, ∀ special ∈ ("\"\\" : Text), Quoted.hexDigit d ≠ special := by decide
    exact small _ (Nat.mod_lt m (by decide))
  have passed (m place : Nat) (t : Text) :
      bareQuotes place false (Quoted.hexDigit (m % 16) :: t) = bareQuotes (place + 1) false t :=
    bareQuotes_of_plain (digit m _ (by decide)) (digit m _ (by decide)) place t
  rw [Quoted.unit]
  simp only [List.cons_append, List.nil_append]
  change bareQuotes (place + 2) false _ = _
  rw [passed, passed, passed, passed]

/-- No quote is bare in what is written for a character. -/
theorem bareQuotes_escape (c : CodePoint) (place : Nat) (t : Text) :
    bareQuotes place false (Quoted.escape false c ++ t) = bareQuotes (place + (Quoted.escape false c).length) false t := by
  unfold Quoted.escape
  iterate 7
    split
    · rfl
  split
  · exact bareQuotes_unit c.value place t
  · rename_i quote backslash _ _ _ _ _ _
    exact bareQuotes_of_plain quote backslash place t

theorem bareQuotes_escaped (t after : Text) (place : Nat) :
    bareQuotes place false (t.flatMap (Quoted.escape false) ++ after) =
      bareQuotes (place + (t.flatMap (Quoted.escape false)).length) false after := by
  induction t generalizing place with
  | nil => rfl
  | cons c t ih =>
    rw [List.flatMap_cons, List.append_assoc, bareQuotes_escape, ih, List.length_append, Nat.add_assoc]

theorem bareQuotes_encode (t : Text) :
    bareQuotes 0 false (Quoted.encode false t) = [0, (Quoted.encode false t).length - 1] := by
  have last : (Quoted.encode false t).length - 1 = 0 + 1 + (t.flatMap (Quoted.escape false)).length := by
    rw [Quoted.encode, List.length_cons, List.length_append, List.length_singleton]
    omega
  rw [last, Quoted.encode, bareQuotes, if_pos rfl, bareQuotes_escaped]
  rfl

theorem unit_visible (n : Nat) : ∀ c ∈ Quoted.unit n, 0x20 ≤ c.value := by
  have digit (m : Nat) : 0x20 ≤ (Quoted.hexDigit (m % 16)).value := by
    have small : ∀ d < 16, 0x20 ≤ (Quoted.hexDigit d).value := by decide
    exact small _ (Nat.mod_lt m (by decide))
  simp only [Quoted.unit, List.forall_mem_cons, digit, true_and]
  exact ⟨by decide, by decide, fun _ member => absurd member List.not_mem_nil⟩

theorem escape_visible (c : CodePoint) : ∀ d ∈ Quoted.escape false c, 0x20 ≤ d.value := by
  unfold Quoted.escape
  iterate 7
    split
    · decide
  split
  · exact unit_visible c.value
  · rename_i visible
    intro d member
    rw [if_neg (by simp), List.mem_singleton] at member
    exact member ▸ Nat.le_of_not_lt visible

/-- No control character stands in quotes. -/
theorem encode_visible (t : Text) : ∀ c ∈ Quoted.encode false t, 0x20 ≤ c.value := by
  intro c member
  rw [Quoted.encode, List.mem_cons, List.mem_append, List.mem_singleton, List.mem_flatMap] at member
  rcases member with rfl | ⟨d, -, inside⟩ | rfl
  · decide
  · exact escape_visible d c inside
  · decide

theorem code_of_text {cs : Tsx.Characters} {start stop : Nat} {f : Fragment}
    (emitted : contentArgument? cs (.text start stop) = some f) :
    f.code = Quoted.encode false (MarkupText.clean (slice cs start stop)) := by
  unfold contentArgument? at emitted
  dsimp only at emitted
  split at emitted
  · cases emitted
  · split at emitted <;> cases emitted
    rfl

theorem code_of_string {cs : Tsx.Characters} {given key value : Emitted} {rest : List Emitted}
    (parts : given.parts = key :: value :: rest) (string : value.kind = "string") :
    ∃ name : Text, (property cs given).code =
      name ++ ": " ++ Quoted.encode false (CharacterReference.decode ((textOf cs value.node).drop 1).dropLast) := by
  unfold property
  rw [parts]
  dsimp only
  rw [if_pos string]
  exact ⟨_, rfl⟩

/-- A text that is emitted in quotes, from between the tags of an element or from an attribute, stands for itself in
the code: no control character stands in it, its only bare quotes are the first and the last of its characters, and
it is read as the text. In the page, where it neither closes an element nor starts a comment, it is read as the same
text, and what is around it is what the page makes of the code around it. -/
theorem encode_survives_page (s : String) :
    let literal := Quoted.encode false s
    let inPage := Sandbox.scriptBody literal
    (∀ cs start stop f, contentArgument? cs (.text start stop) = some f →
        MarkupText.clean (slice cs start stop) = Text.ofString s → f.code = literal) ∧
      (∀ cs given key value rest, given.parts = key :: value :: rest → value.kind = "string" →
        CharacterReference.decode ((textOf cs value.node).drop 1).dropLast = Text.ofString s →
        ∃ name : Text, (property cs given).code = name ++ ": " ++ literal) ∧
      (∀ c ∈ literal, 0x20 ≤ c.value) ∧ bareQuotes 0 false literal = [0, literal.length - 1] ∧
      value? literal = some (Text.ofString s) ∧
      Text.contains "</" inPage = false ∧ Text.contains "<!--" inPage = false ∧
      value? inPage = some (Text.ofString s) ∧
      ∀ before after, Sandbox.scriptBody (before ++ literal ++ after) =
        Sandbox.scriptBody before ++ inPage ++ Sandbox.scriptBody after := by
  intro literal inPage
  have plain := Sandbox.scriptBody_contains literal
  have read : value? literal = some (Text.ofString s) := value?_encode s
  refine ⟨?_, ?_, encode_visible s, bareQuotes_encode s, read, plain.1, plain.2,
    (value?_scriptBody literal).trans read, fun before after => ?_⟩
  · intro cs start stop f emitted cleaned
    rw [code_of_text emitted, cleaned]
  · intro cs given key value rest parts string decoded
    obtain ⟨name, code⟩ := code_of_string parts string
    exact ⟨name, by rw [code, decoded]⟩
  · -- The quotes at its ends keep what the page does to the literal apart from what it does around it.
    have split (t u : Text) : Sandbox.scriptBody (t ++ ('"' : CodePoint) :: u) =
        Sandbox.scriptBody t ++ ('"' : CodePoint) :: Sandbox.scriptBody u := Sandbox.scriptBody_append_cons (by decide) t u
    have whole : inPage = ('"' : CodePoint) :: (Sandbox.scriptBody ((Text.ofString s).flatMap (Quoted.escape false)) ++
        ('"' : CodePoint) :: Sandbox.scriptBody []) := by
      rw [← split]
      exact split [] _
    rw [whole, List.append_assoc]
    change Sandbox.scriptBody (before ++ ('"' : CodePoint) :: (_ ++ [('"' : CodePoint)] ++ after)) = _
    rw [split, List.append_assoc, List.singleton_append, split]
    simp [Sandbox.scriptBody, Sandbox.breakTags, Sandbox.breakComments]

end LessonService.Script.StringLiteral
