import LessonService.Proofs.Address.Reading
import LessonService.Proofs.Settings.Loading
import LessonService.Proofs.Text.Occurrence
import LessonService.Proofs.Text.Runs
import LessonService.Sandbox

namespace LessonService.Sandbox

variable {c : CodePoint} {t nonce : Text} {parts ts : List Text}

section Grammar

/-- The blanks of the grammar of policies: tab, line feed, form feed, carriage return and space. -/
def isPolicyBlank (c : CodePoint) : Bool := ([0x09, 0x0A, 0x0C, 0x0D, 0x20] : List Nat).contains c.value

def tokens (t : Text) : List Text := Text.runs (fun c => !isPolicyBlank c) t

/-- A name with its values. -/
def directive? (part : Text) : Option (Text × List Text) :=
  match tokens part with
  | [] => none
  | name :: values => some (name, values)

def directives (policy : Text) : List (Text × List Text) := (Text.splitOn ';' policy).filterMap directive?

theorem tokens_append_cons (a b : Text) (blank : isPolicyBlank c = true) :
    tokens (a ++ c :: b) = tokens a ++ tokens b :=
  Text.runs_append_cons a b (by simp [blank])

theorem tokens_of_forall (filled : t ≠ []) (solid : ∀ c ∈ t, isPolicyBlank c = false) : tokens t = [t] :=
  Text.runs_of_forall filled fun c member => by simp [solid c member]

theorem isPolicyBlank_of_mem_tokens {token : Text} (member : token ∈ tokens t) : ∀ c ∈ token, isPolicyBlank c = false :=
  fun c inside => by simpa using Text.holds_of_mem_runs member c inside

/-- The tokens of texts with spaces between them are the tokens of each. -/
theorem tokens_join (ts : List Text) : tokens (Text.join " " ts) = ts.flatMap tokens := by
  induction ts with
  | nil => rfl
  | cons t ts ih =>
    cases ts with
    | nil => simp [Text.join]
    | cons u us =>
      rw [Text.join_cons_cons, show (" " : Text) = [(' ' : CodePoint)] from rfl, List.append_assoc,
        List.singleton_append, tokens_append_cons t _ (by decide), List.flatMap_cons]
      exact congrArg (tokens t ++ ·) ih

theorem directive?_cons (t : Text) (blank : isPolicyBlank c = true) : directive? (c :: t) = directive? t := by
  rw [directive?, directive?, ← List.nil_append (c :: t), tokens_append_cons [] t blank]
  rfl

theorem directives_space (t : Text) : directives ((' ' : CodePoint) :: t) = directives t := by
  obtain ⟨part, parts, split⟩ := List.exists_cons_of_ne_nil (Text.splitOn_ne_nil ';' t)
  rw [directives, directives, Text.splitOn, if_neg (by decide), split]
  dsimp only
  rw [List.filterMap_cons, List.filterMap_cons, directive?_cons part (by decide)]

/-- Directives with semicolons between them are read one by one. -/
theorem directives_join (free : ∀ part ∈ parts, (';' : CodePoint) ∉ part) :
    directives (Text.join "; " parts) = parts.filterMap directive? := by
  induction parts with
  | nil => rfl
  | cons part parts ih =>
    rw [List.forall_mem_cons] at free
    cases parts with
    | nil => rw [Text.join, directives, Text.splitOn_of_notMem free.1]
    | cons next parts =>
      have separated : Text.join "; " (part :: next :: parts) =
          part ++ (';' : CodePoint) :: (' ' : CodePoint) :: Text.join "; " (next :: parts) := by
        rw [Text.join_cons_cons, show ("; " : Text) = [(';' : CodePoint), (' ' : CodePoint)] from rfl]
        simp
      have rest := ih free.2
      rw [← directives_space] at rest
      rw [separated, directives, Text.splitOn_append_cons free.1, List.filterMap_cons, List.filterMap_cons, ← rest]
      rfl

end Grammar

/-- A blank of policies that ends a source and is none of the characters that addresses are searched for. -/
def formFeed : CodePoint := ⟨0x0C⟩

section Directives

/-- Whether a character can be in a nonce. -/
def isUrlSafe (c : CodePoint) : Bool := c.isLetter || c.isDigit || c = '-' || c = '_'

def nonceSource (nonce : Text) : Text := "'nonce-" ++ nonce ++ "'"

/-- What a page may do whose scripts are those with the nonce and those of some sources. -/
def allowed (nonce : Text) (sources : List Text) : List (Text × List Text) := [
  ("default-src", ["'none'"]), ("script-src", nonceSource nonce :: sources), ("style-src", ["'unsafe-inline'"]),
  ("img-src", ["data:", "https:"]), ("font-src", ["data:", "https:"]), ("media-src", ["data:", "https:"]),
  ("connect-src", ["'none'"]), ("base-uri", ["'none'"]), ("form-action", ["'none'"])]

theorem plain_of_isUrlSafe (safe : isUrlSafe c = true) : isPolicyBlank c = false ∧ c ≠ ';' := by
  have all : ∀ n < 0x80, isUrlSafe ⟨n⟩ = true → isPolicyBlank ⟨n⟩ = false ∧ (⟨n⟩ : CodePoint) ≠ ';' := by decide
  have small : c.value < 0x80 := by
    simp only [isUrlSafe, CodePoint.isLetter, CodePoint.isLowerLetter, CodePoint.isUpperLetter, CodePoint.isDigit,
      CodePoint.isBetween, Bool.or_eq_true, Bool.and_eq_true, decide_eq_true_eq] at safe
    rcases safe with ((letter | digit) | rfl) | rfl
    · omega
    · omega
    · decide
    · decide
  exact all c.value small safe

theorem nonceSource_plain (urlSafe : ∀ c ∈ nonce, isUrlSafe c = true) :
    ∀ c ∈ nonceSource nonce, isPolicyBlank c = false ∧ c ≠ ';' := by
  rw [nonceSource, List.forall_mem_append, List.forall_mem_append]
  exact ⟨⟨by decide, fun c member => plain_of_isUrlSafe (urlSafe c member)⟩, by decide⟩

theorem directive?_scripts (urlSafe : ∀ c ∈ nonce, isUrlSafe c = true) (sources : List Text) :
    directive? ("script-src " ++ Text.join " " (nonceSource nonce :: sources)) =
      some (("script-src" : Text), nonceSource nonce :: sources.flatMap tokens) := by
  have one : tokens (nonceSource nonce) = [nonceSource nonce] :=
    tokens_of_forall (List.append_ne_nil_of_right_ne_nil _ (by decide)) fun c member =>
      (nonceSource_plain urlSafe c member).1
  have named : tokens ("script-src " ++ Text.join " " (nonceSource nonce :: sources)) =
      ("script-src" : Text) :: nonceSource nonce :: sources.flatMap tokens := by
    rw [show ("script-src " : Text) = ("script-src" : Text) ++ [(' ' : CodePoint)] from rfl, List.append_assoc,
      List.singleton_append, tokens_append_cons _ _ (by decide), tokens_join, List.flatMap_cons, one]
    rfl
  rw [directive?, named]

/-- A policy is read as the nine directives it was put together from. -/
theorem directives_policy (r : Runtime) (free : ∀ s ∈ r.sources, (';' : CodePoint) ∉ s)
    (urlSafe : ∀ c ∈ nonce, isUrlSafe c = true) :
    directives (r.policy nonce) = allowed nonce (r.sources.flatMap tokens) := by
  let scripts : Text := "script-src " ++ Text.join " " (nonceSource nonce :: r.sources)
  let parts : List Text := [
    "default-src 'none'", scripts, "style-src 'unsafe-inline'", "img-src data: https:", "font-src data: https:",
    "media-src data: https:", "connect-src 'none'", "base-uri 'none'", "form-action 'none'"]
  have parted : r.policy nonce = Text.join "; " parts := rfl
  have scriptsFree : (';' : CodePoint) ∉ scripts := by
    intro member
    rcases List.mem_append.mp member with inName | inList
    · exact absurd inName (by decide)
    · rcases Text.mem_join inList with inBlank | ⟨s, among, inside⟩
      · exact absurd inBlank (by decide)
      · rcases List.mem_cons.mp among with rfl | source
        · exact (nonceSource_plain urlSafe _ inside).2 rfl
        · exact free s source inside
  have partsFree : ∀ part ∈ parts, (';' : CodePoint) ∉ part := by
    simp only [parts, List.forall_mem_cons]
    exact ⟨by decide, scriptsFree, by decide⟩
  have first : directive? "default-src 'none'" = some (("default-src" : Text), [("'none'" : Text)]) := by decide
  rw [parted, directives_join partsFree, List.filterMap_cons_some first,
    List.filterMap_cons_some (directive?_scripts urlSafe r.sources)]
  rfl

end Directives

section Distinct

/-- Texts in the order of their first places in a list, each once. -/
structure AreFirsts (firsts all : List Text) : Prop where
  mem : ∀ t, t ∈ firsts ↔ t ∈ all
  ordered : firsts.Pairwise fun s t => all.idxOf s < all.idxOf t

theorem distinct_append_singleton (ts : List Text) (t : Text) :
    distinct (ts ++ [t]) = if (distinct ts).contains t then distinct ts else distinct ts ++ [t] := by
  rw [distinct, List.foldl_append]
  rfl

/-- The induction is on the list from its end: a text behind it leaves the first places of the others as they are. -/
theorem distinct_areFirsts (ts : List Text) : AreFirsts (distinct ts) ts := by
  induction ts using List.reverseRecOn with
  | nil => exact ⟨fun _ => Iff.rfl, .nil⟩
  | append_singleton ts t ih =>
    have kept : (distinct ts).Pairwise fun s u => (ts ++ [t]).idxOf s < (ts ++ [t]).idxOf u := by
      refine ih.ordered.imp_of_mem fun inS inU less => ?_
      rwa [List.idxOf_append_of_mem ((ih.mem _).mp inS), List.idxOf_append_of_mem ((ih.mem _).mp inU)]
    rw [distinct_append_singleton]
    split
    next known =>
      have old : t ∈ ts := (ih.mem t).mp (by simpa using known)
      refine ⟨fun s => ?_, kept⟩
      rw [ih.mem, List.mem_append, List.mem_singleton]
      exact ⟨.inl, fun either => either.elim id fun same => same ▸ old⟩
    next unknown =>
      have new : t ∉ ts := fun old => unknown (by simpa using (ih.mem t).mpr old)
      refine ⟨fun s => by rw [List.mem_append, List.mem_append, ih.mem], ?_⟩
      rw [List.pairwise_append]
      refine ⟨kept, List.pairwise_singleton _ _, fun s inS u inU => ?_⟩
      have before := (ih.mem s).mp inS
      rw [List.mem_singleton.mp inU, List.idxOf_append_of_mem before, List.idxOf_append_of_notMem new]
      exact Nat.lt_add_right _ (List.idxOf_lt_length_iff.mpr before)

end Distinct

section Sources

variable {raw s : Text}

/-- What a source has of the address it was made from. -/
structure IsFileOf (s raw : Text) : Prop where
  filled : s ≠ []
  address : ∃ a, Address.read raw = .ok a ∧ Address.read s = .ok a
  last : s.getLast? ≠ some ('/' : CodePoint)
  kept : ∀ c ∈ s, endsSource c = false ∧ c ≠ '\r' ∧ (c = formFeed → c ∈ raw)

/-- The address of one file. -/
structure IsFileAddress (a : Address) : Prop where
  scheme : a.scheme ∈ (["https", "http"] : List Text)
  authority : a.authority ≠ []
  query : a.query = []
  fragment : a.fragment = []
  filled : a.path ≠ []
  last : a.path.getLast? ≠ some ('/' : CodePoint)

theorem isFileAddress_of_namesFile {a : Address} (scheme : a.scheme ∈ (["https", "http"] : List Text))
    (authority : a.authority ≠ []) (file : namesFile a = true) : IsFileAddress a := by
  simp only [namesFile, Bool.and_eq_true, List.isEmpty_iff, decide_eq_true_eq] at file
  obtain ⟨⟨⟨query, fragment⟩, named⟩, last⟩ := file
  refine ⟨scheme, authority, query, fragment, ?_, last⟩
  rintro none
  simp [none] at named

theorem source_eq_ok (made : source raw = .ok s) :
    ∃ a, Address.read raw = .ok a ∧ IsFileAddress a ∧ (∀ c ∈ raw, endsSource c = false) ∧
      s = a.scheme ++ "://" ++ a.authority ++ a.path := by
  unfold source at made
  cases reads : Address.read raw with
  | error e =>
    rw [reads] at made
    cases made
  | ok a =>
    rw [reads] at made
    dsimp only at made
    split at made
    next => cases made
    next absolute =>
      split at made
      next => cases made
      next oneFile =>
        simp only [Bool.or_eq_true, Bool.not_eq_true', not_or, Bool.not_eq_false, List.contains_iff_mem,
          List.isEmpty_iff] at absolute
        simp only [Bool.or_eq_true, Bool.not_eq_true', not_or, Bool.not_eq_false, List.any_eq_true, not_exists,
          not_and, Bool.not_eq_true] at oneFile
        exact ⟨a, rfl, isFileAddress_of_namesFile absolute.1 absolute.2 oneFile.1, oneFile.2,
          (Except.ok.inj made).symm⟩

/-- A source is the address itself, without what is not read of it, and nothing in it ends a source but a form
feed. -/
theorem source_isFileOf (made : source raw = .ok s) : IsFileOf s raw := by
  obtain ⟨a, reads, file, whole, shape⟩ := source_eq_ok made
  have schemes : ∀ t ∈ (["https", "http"] : List Text), t ≠ [] ∧ Address.isScheme t = true ∧
      t.map CodePoint.lower = t ∧ ∀ c ∈ t ++ "://", endsSource c = false ∧ c ≠ '\r' ∧ c ≠ formFeed := by decide
  obtain ⟨named, valid, lowered, start⟩ := schemes a.scheme file.scheme
  have origin := Address.isReadFrom reads named file.authority
  have inRaw : ∀ c ∈ Address.cleaned raw, endsSource c = false ∧ c ≠ '\r' ∧ (c = formFeed → c ∈ raw) := by
    intro c member
    have inside := Address.mem_of_mem_cleaned member
    refine ⟨whole c inside, ?_, fun _ => inside⟩
    rintro rfl
    exact absurd (Address.isIgnored_of_mem_cleaned member) (by decide)
  constructor
  · rw [shape]
    exact List.append_ne_nil_of_right_ne_nil _ file.filled
  · have written := Address.read_text reads file.authority valid lowered file.query file.fragment
    rw [← List.append_assoc, ← shape] at written
    exact ⟨a, reads, written⟩
  · rw [shape, List.getLast?_append_of_ne_nil _ file.filled]
    exact file.last
  · rw [shape]
    simp only [List.forall_mem_append]
    refine ⟨⟨?_, fun c member => inRaw c (origin.authority c member).2⟩,
      fun c member => inRaw c (origin.path c member).2.2⟩
    rw [← List.forall_mem_append]
    exact fun c member => ⟨(start c member).1, (start c member).2.1, fun feed => absurd feed (start c member).2.2⟩

theorem isPolicyBlank_eq_false (notEnd : endsSource c = false) (notReturn : c ≠ '\r') (notFeed : c ≠ formFeed) :
    isPolicyBlank c = false := by
  rw [Bool.eq_false_iff]
  intro blank
  obtain ⟨n⟩ := c
  simp only [isPolicyBlank, List.contains_iff_mem, List.mem_cons, List.not_mem_nil, or_false] at blank
  rcases blank with rfl | rfl | rfl | rfl | rfl
  · exact absurd notEnd (by decide)
  · exact absurd notEnd (by decide)
  · exact notFeed rfl
  · exact notReturn rfl
  · exact absurd notEnd (by decide)

/-- A source is one token unless a form feed parts it. -/
theorem IsFileOf.tokens_eq (file : IsFileOf s raw) (unbroken : formFeed ∉ s) : tokens s = [s] := by
  refine tokens_of_forall file.filled fun c member => ?_
  obtain ⟨notEnd, notReturn, -⟩ := file.kept c member
  have notFeed : c ≠ formFeed := fun same => unbroken (same ▸ member)
  exact isPolicyBlank_eq_false notEnd notReturn notFeed

/-- An address whose host stands for more than one. -/
def IsWild (t : Text) : Prop := ∃ a, Address.read t = .ok a ∧ ('*' : CodePoint) ∈ a.host

theorem IsFileOf.isWild_iff (file : IsFileOf s raw) : IsWild s ↔ IsWild raw := by
  obtain ⟨a, readsRaw, readsSource⟩ := file.address
  rw [IsWild, IsWild, readsRaw, readsSource]

end Sources

section Policy

variable {r : Runtime} {react reactDom tailwind : Text}

theorem Runtime.exists_sources (accepted : Runtime.ofAddresses react reactDom tailwind = .ok r) :
    ∃ first second third, source react = .ok first ∧ source reactDom = .ok second ∧ source tailwind = .ok third ∧
      r.sources = distinct [first, second, third] := by
  obtain ⟨sources, made, same⟩ := Except.bind_eq_ok accepted
  cases same
  simp only [List.mapM_cons, List.mapM_nil] at made
  obtain ⟨first, madeFirst, made⟩ := Except.bind_eq_ok made
  obtain ⟨others, madeOthers, made⟩ := Except.bind_eq_ok made
  obtain ⟨second, madeSecond, madeOthers⟩ := Except.bind_eq_ok madeOthers
  obtain ⟨last, madeLast, madeOthers⟩ := Except.bind_eq_ok madeOthers
  obtain ⟨third, madeThird, madeLast⟩ := Except.bind_eq_ok madeLast
  cases madeLast
  cases madeOthers
  cases made
  exact ⟨first, second, third, madeFirst, madeSecond, madeThird, rfl⟩

/-- Each source was made from one of the addresses, and from each address a source was made. -/
theorem Runtime.sources_made (accepted : Runtime.ofAddresses react reactDom tailwind = .ok r) :
    (∀ s ∈ r.sources, ∃ raw ∈ [react, reactDom, tailwind], source raw = .ok s) ∧
      ∀ raw ∈ [react, reactDom, tailwind], ∃ s ∈ r.sources, source raw = .ok s := by
  obtain ⟨first, second, third, madeFirst, madeSecond, madeThird, sources⟩ := exists_sources accepted
  have among (s : Text) : s ∈ r.sources ↔ s ∈ [first, second, third] := by
    rw [sources]
    exact (distinct_areFirsts _).mem s
  constructor
  · intro s member
    rw [among] at member
    simp only [List.mem_cons, List.not_mem_nil, or_false] at member
    rcases member with rfl | rfl | rfl
    · exact ⟨react, by simp, madeFirst⟩
    · exact ⟨reactDom, by simp, madeSecond⟩
    · exact ⟨tailwind, by simp, madeThird⟩
  · simp only [List.forall_mem_cons]
    exact ⟨⟨first, (among _).mpr (by simp), madeFirst⟩, ⟨second, (among _).mpr (by simp), madeSecond⟩,
      ⟨third, (among _).mpr (by simp), madeThird⟩, List.forall_mem_nil _⟩

/-- The tokens of sources are the sources, unless a form feed parts one of them. -/
theorem flatMap_tokens_eq_iff {sources : List Text} (files : ∀ s ∈ sources, ∃ raw, IsFileOf s raw) :
    sources.flatMap tokens = sources ↔ ∀ s ∈ sources, formFeed ∉ s := by
  constructor
  · intro same s member feed
    rw [← same, List.mem_flatMap] at member
    obtain ⟨whole, -, token⟩ := member
    exact absurd (isPolicyBlank_of_mem_tokens token formFeed feed) (by decide)
  · intro unbroken
    induction sources with
    | nil => rfl
    | cons s sources ih =>
      rw [List.forall_mem_cons] at files unbroken
      obtain ⟨raw, file⟩ := files.1
      rw [List.flatMap_cons, file.tokens_eq unbroken.1, ih files.2 unbroken.2]
      rfl

/-- For addresses that are accepted, a browser reads the nine directives of the policy, and its scripts are the
nonce and the tokens of the sources. These are the sources themselves if there is no form feed in them. The sources
are those of the three addresses in the order of their first places, and each is read as the address of the file it
was made from; so one that stands for many hosts was made from an address that does. -/
theorem policy_names_files (accepted : Runtime.ofAddresses react reactDom tailwind = .ok r)
    (urlSafe : ∀ c ∈ nonce, isUrlSafe c = true) :
    directives (r.policy nonce) = allowed nonce (r.sources.flatMap tokens) ∧
    (directives (r.policy nonce) = allowed nonce r.sources ↔ ∀ s ∈ r.sources, formFeed ∉ s) ∧
    (∃ first second third, source react = .ok first ∧ source reactDom = .ok second ∧ source tailwind = .ok third ∧
      AreFirsts r.sources [first, second, third]) ∧
    (∀ s ∈ r.sources, ∃ raw ∈ [react, reactDom, tailwind], source raw = .ok s ∧ IsFileOf s raw) ∧
    ((∃ s ∈ r.sources, IsWild s) ↔ ∃ raw ∈ [react, reactDom, tailwind], IsWild raw) := by
  have ⟨origin, made⟩ := Runtime.sources_made accepted
  have files : ∀ s ∈ r.sources, ∃ raw ∈ [react, reactDom, tailwind], source raw = .ok s ∧ IsFileOf s raw := by
    intro s member
    obtain ⟨raw, among, fromRaw⟩ := origin s member
    exact ⟨raw, among, fromRaw, source_isFileOf fromRaw⟩
  have free : ∀ s ∈ r.sources, (';' : CodePoint) ∉ s := by
    intro s member inside
    obtain ⟨raw, -, -, file⟩ := files s member
    exact absurd (file.kept _ inside).1 (by decide)
  have parsed := directives_policy r free urlSafe
  refine ⟨parsed, ?_, ?_, files, ?_, ?_⟩
  · have one := flatMap_tokens_eq_iff fun s member =>
      have ⟨raw, _, _, file⟩ := files s member
      ⟨raw, file⟩
    rw [parsed, ← one]
    exact ⟨fun same => by simpa [allowed] using same, congrArg (allowed nonce)⟩
  · obtain ⟨first, second, third, madeFirst, madeSecond, madeThird, sources⟩ := Runtime.exists_sources accepted
    exact ⟨first, second, third, madeFirst, madeSecond, madeThird, sources ▸ distinct_areFirsts _⟩
  · rintro ⟨s, member, wild⟩
    obtain ⟨raw, among, -, file⟩ := files s member
    exact ⟨raw, among, file.isWild_iff.mp wild⟩
  · rintro ⟨raw, among, wild⟩
    obtain ⟨s, member, fromRaw⟩ := made raw among
    exact ⟨s, member, (source_isFileOf fromRaw).isWild_iff.mpr wild⟩

/-- Two addresses of which one is given twice. -/
theorem policy_names_files_twice :
    ∃ r, Runtime.ofAddresses "https://unpkg.com/react.js" "HTTPS://cdn.example.com:8443/dom.js"
        "https://unpkg.com/react.js" = .ok r ∧
      directives (r.policy "a-Z_9") =
        allowed "a-Z_9" ["https://unpkg.com/react.js", "https://cdn.example.com:8443/dom.js"] := by
  let r : Runtime := ⟨"https://unpkg.com/react.js", "HTTPS://cdn.example.com:8443/dom.js", "https://unpkg.com/react.js",
    ["https://unpkg.com/react.js", "https://cdn.example.com:8443/dom.js"]⟩
  have accepted : Runtime.ofAddresses "https://unpkg.com/react.js" "HTTPS://cdn.example.com:8443/dom.js"
      "https://unpkg.com/react.js" = .ok r := by rfl
  have urlSafe : ∀ c ∈ ("a-Z_9" : Text), isUrlSafe c = true := by decide
  have ⟨_, whole, _⟩ := policy_names_files accepted urlSafe
  exact ⟨r, accepted, whole.mpr (by decide)⟩

/-- Two addresses that are accepted: one with a form feed, behind which another source begins, and one with a host
that stands for many. -/
theorem policy_widened :
    (∃ r, Runtime.ofAddresses "https://unpkg.com/react.js\x0c*" "https://unpkg.com/dom.js"
        "https://unpkg.com/css.js" = .ok r ∧
      directives (r.policy "abc") = allowed "abc" ["https://unpkg.com/react.js", "*", "https://unpkg.com/dom.js",
        "https://unpkg.com/css.js"]) ∧
    ∃ r, Runtime.ofAddresses "https://*.example.com/react.js" "https://unpkg.com/dom.js"
        "https://unpkg.com/css.js" = .ok r ∧ ∃ s ∈ r.sources, IsWild s := by
  constructor
  · let r : Runtime := ⟨"https://unpkg.com/react.js\x0c*", "https://unpkg.com/dom.js", "https://unpkg.com/css.js",
      ["https://unpkg.com/react.js\x0c*", "https://unpkg.com/dom.js", "https://unpkg.com/css.js"]⟩
    refine ⟨r, rfl, (directives_policy r (by decide) (by decide)).trans (congrArg (allowed "abc") ?_)⟩
    decide +kernel
  · refine ⟨⟨"https://*.example.com/react.js", "https://unpkg.com/dom.js", "https://unpkg.com/css.js",
      ["https://*.example.com/react.js", "https://unpkg.com/dom.js", "https://unpkg.com/css.js"]⟩, rfl,
      "https://*.example.com/react.js", List.mem_cons_self, ?_⟩
    exact ⟨⟨"https", "*.example.com", "/react.js", [], []⟩, rfl, by decide⟩

end Policy

end LessonService.Sandbox
