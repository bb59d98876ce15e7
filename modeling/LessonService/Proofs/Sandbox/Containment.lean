import LessonService.Proofs.Sandbox.Escaping

namespace LessonService.Sandbox

variable {a b t : Text} {pieces : List Piece}

/-- The places at which elements are closed. -/
def closings (t : Text) : List Nat := Text.occurrences "</" t

theorem closings_eq_nil_iff : closings t = [] ↔ Text.contains "</" t = false :=
  Text.occurrences_eq_nil_iff (by decide)

/-- Elements are closed in each of two texts alone, unless a tag starts in one and goes on in the other. -/
theorem closings_append (seam : a.getLast? = some ('<' : CodePoint) → b.head? ≠ some ('/' : CodePoint)) :
    closings (a ++ b) = closings a ++ (closings b).map (a.length + ·) := by
  apply Text.occurrences_append
  intro i within here
  rw [show ("</" : Text) = [('<' : CodePoint), ('/' : CodePoint)] from rfl] at here ⊢
  have last : (a.drop i).getLast? = a.getLast? := by
    rw [List.getLast?_drop, if_neg (Nat.not_le.mpr within)]
  match rest : a.drop i with
  | [] => exact absurd (List.drop_eq_nil_iff.mp rest) (Nat.not_le.mpr within)
  | [c] =>
    rw [rest, List.cons_append, List.nil_append, List.cons_prefix_cons] at here
    obtain ⟨rfl, after, rfl⟩ := here
    rw [rest] at last
    exact absurd rfl (seam last.symm)
  | c :: d :: rest' =>
    rw [rest] at here
    simpa [List.cons_prefix_cons] using here

/-- The text of a piece, given the values. -/
def Piece.text (values : Place → Text) : Piece → Text
  | fixed t => t
  | place p => values p

theorem fill_cons (values : Place → Text) (piece : Piece) (pieces : List Piece) :
    fill values (piece :: pieces) = piece.text values ++ fill values pieces := by
  cases piece <;> rfl

/-- The closing tags in the fixed text of a piece. -/
def Piece.closings : Piece → List Nat
  | fixed t => Sandbox.closings t
  | place _ => []

/-- Where the fixed text of pieces closes elements: in which piece, and where in it. -/
def fixedClosings : List Piece → List (Nat × Nat)
  | [] => []
  | piece :: rest => piece.closings.map (0, ·) ++ (fixedClosings rest).map fun x => (x.1 + 1, x.2)

/-- Whether no closing tag can start in a piece and go on in the next one, whatever the values are. -/
def Piece.isApart : Piece → List Piece → Bool
  | fixed t, _ => t.getLast? ≠ some ('<' : CodePoint)
  | place _, fixed (c :: _) :: _ => c ≠ ('/' : CodePoint)
  | place _, _ => false

def isFramed : List Piece → Bool
  | [] => true
  | piece :: rest => piece.isApart rest && isFramed rest

theorem page_isFramed : isFramed page = true := by
  simp only [page, Text.ofLines, List.map_cons, List.map_nil, Text.ofString_eq rfl]
  decide +kernel

theorem Piece.seam {values : Place → Text} {piece : Piece} {rest : List Piece} (apart : piece.isApart rest = true)
    (ends : (piece.text values).getLast? = some ('<' : CodePoint)) :
    (fill values rest).head? ≠ some ('/' : CodePoint) := by
  match piece, rest with
  | .fixed t, _ => exact absurd ends (of_decide_eq_true apart)
  | .place _, .fixed (c :: t) :: rest =>
    rw [fill_cons]
    exact fun head => of_decide_eq_true apart (Option.some.inj head)
  | .place _, [] | .place _, .fixed [] :: _ | .place _, .place _ :: _ => cases apart

/-- The place in a filled page of a place in one of its pieces. -/
def placeIn (values : Place → Text) (pieces : List Piece) (x : Nat × Nat) : Nat :=
  (fill values (pieces.take x.1)).length + x.2

theorem placeIn_zero (values : Place → Text) (pieces : List Piece) (i : Nat) : placeIn values pieces (0, i) = i := by
  simp [placeIn, fill]

theorem placeIn_succ (values : Place → Text) (piece : Piece) (pieces : List Piece) (x : Nat × Nat) :
    placeIn values (piece :: pieces) (x.1 + 1, x.2) = (piece.text values).length + placeIn values pieces x := by
  simp [placeIn, fill_cons, Nat.add_assoc]

/-- Where values close nothing, elements are closed where the fixed text closes them. -/
theorem closings_fill (values : Place → Text) (closed : ∀ p, closings (values p) = []) (framed : isFramed pieces = true) :
    closings (fill values pieces) = (fixedClosings pieces).map (placeIn values pieces) := by
  induction pieces with
  | nil => rfl
  | cons piece rest ih =>
    rw [isFramed, Bool.and_eq_true] at framed
    have own : closings (piece.text values) = piece.closings := by
      cases piece with
      | fixed => rfl
      | place p => exact closed p
    rw [fill_cons, closings_append (Piece.seam framed.1), own, ih framed.2, fixedClosings, List.map_append, List.map_map,
      List.map_map, List.map_map]
    congr 1
    · exact (List.map_id'' (placeIn_zero values _) _).symm
    · exact List.map_congr_left fun x _ => (placeIn_succ values piece rest x).symm

theorem contains_eq_false_of_notMem {part : Text} {c : CodePoint} (inPart : c ∈ part) (absent : c ∉ t) :
    Text.contains part t = false :=
  (Text.contains_eq_false_iff part t).mpr fun here => absent (here.subset inPart)

theorem entryPoint_plain : ('<' : CodePoint) ∉ Script.entryPoint := by
  rw [Script.entryPoint, Text.ofString_eq rfl]
  decide +kernel

theorem closings_values (r : Runtime) (nonce title code : Text) (p : Place) : closings (values r nonce title code p) = [] := by
  rw [closings_eq_nil_iff]
  cases p with
  | code => exact (scriptBody_contains code).1
  | entryPoint => exact contains_eq_false_of_notMem (by decide) entryPoint_plain
  | _ => exact contains_eq_false_of_notMem (by decide) (notMem_escape _)

/-- A fixed piece of the page. -/
def fixedText (i : Nat) : Text :=
  match page[i]? with
  | some (.fixed t) => t
  | _ => []

theorem page_split : page = page.take 18 ++ [.fixed (fixedText 18), .place .nonce, .fixed (fixedText 20), .place .code,
    .fixed (fixedText 22), .place .entryPoint, .fixed (fixedText 24)] := rfl

def notTag (c : CodePoint) : Bool := c ≠ '<'

/-- What the page has before the code in the script of a lesson. -/
def scriptLead : Text := (fixedText 20).drop 2

/-- What the page has after the code in the script of a lesson. -/
def scriptTrail : Text := fixedText 22 ++ (Script.entryPoint ++ (fixedText 24).takeWhile notTag)

/-- What ends the script of a lesson, and the page. -/
def pageEnd : Text := Text.ofLines ["</script>", "  </body>", "</html>"]

theorem script_text : ("<script nonce=\"" : Text) <:+ fixedText 18 ∧ fixedText 20 = "\">" ++ scriptLead ∧
    (fixedText 24).dropWhile notTag = pageEnd := by
  simp only [scriptLead, pageEnd, fixedText, page, Text.ofLines, List.map_cons, List.map_nil, Text.ofString_eq rfl]
  decide +kernel

theorem script_plain : ('<' : CodePoint) ∉ scriptLead ∧ ('<' : CodePoint) ∉ scriptTrail ∧
    scriptLead.getLast? = some ('\n' : CodePoint) ∧ scriptTrail.head? = some ('\n' : CodePoint) := by
  simp only [scriptLead, scriptTrail, Script.entryPoint, fixedText, page, Text.ofLines, List.map_cons, List.map_nil,
    Text.ofString_eq rfl]
  decide +kernel

/-- The script of a lesson in the page. -/
theorem fill_page (r : Runtime) (nonce title code : Text) :
    ∃ head, fill (values r nonce title code) page =
      head ++ "<script nonce=\"" ++ escape nonce ++ "\">" ++ (scriptLead ++ scriptBody code ++ scriptTrail) ++ pageEnd := by
  obtain ⟨⟨head, opening⟩, start, stop⟩ := script_text
  have finish : fixedText 24 = (fixedText 24).takeWhile notTag ++ pageEnd := by
    rw [← stop, List.takeWhile_append_dropWhile]
  have parts : fill (values r nonce title code) page = fill (values r nonce title code) (page.take 18) ++
      (fixedText 18 ++ (escape nonce ++ (fixedText 20 ++ (scriptBody code ++
        (fixedText 22 ++ (Script.entryPoint ++ (fixedText 24 ++ []))))))) :=
    (congrArg _ page_split).trans List.flatMap_append
  refine ⟨fill (values r nonce title code) (page.take 18) ++ head, ?_⟩
  rw [parts, ← opening, start, finish]
  simp [scriptTrail]

/-- What holds no tag around code adds none to it. -/
theorem contains_script {part : Text} (tag : ('<' : CodePoint) ∈ part) (within : ('\n' : CodePoint) ∉ part)
    (absent : Text.contains part t = false) : Text.contains part (scriptLead ++ t ++ scriptTrail) = false := by
  obtain ⟨leadPlain, trailPlain, leadLast, trailHead⟩ := script_plain
  obtain ⟨lead, leadSplit⟩ := List.getLast?_eq_some_iff.mp leadLast
  obtain ⟨trail, trailSplit⟩ := List.head?_eq_some_iff.mp trailHead
  rw [leadSplit] at leadPlain ⊢
  rw [trailSplit] at trailPlain ⊢
  rw [Text.contains_eq_false_iff, Text.infix_append_cons_iff within, List.append_assoc, List.singleton_append,
    Text.infix_append_cons_iff within]
  rintro ((inLead | inText) | inTrail)
  · exact leadPlain (List.mem_append_left _ (inLead.subset tag))
  · exact (Text.contains_eq_false_iff part t).mp absent inText
  · exact trailPlain (List.mem_cons_of_mem _ (inTrail.subset tag))

theorem within_scriptBody (code : Text) : Script.Hazard.within (scriptBody code) = Script.Hazard.within code := by
  apply List.filter_congr
  intro h _
  rw [Bool.eq_iff_iff]
  exact ((breakComments_broken _).occursIn_iff h).trans ((breakTags_broken code).occursIn_iff h)

/-- Whatever the addresses, the nonce, the title and the code are, a page is its fixed text with values in it that
stay where they are: the title holds no tag, the code neither closes an element nor starts a comment, elements are
closed by the fixed text alone and at its own places, the script of the lesson goes on to the end that the page
has for it, and the code has the hazards that it had. -/
theorem build_contained (r : Runtime) (nonce title code : Text) :
    let html := (build r nonce title code).html
    let inserted := values r nonce title code
    html = fill inserted page ∧ inserted .title = escape title ∧ inserted .code = scriptBody code ∧
      ('<' : CodePoint) ∉ escape title ∧
      Text.contains "</" (scriptBody code) = false ∧ Text.contains "<!--" (scriptBody code) = false ∧
      closings html = (fixedClosings page).map (placeIn inserted page) ∧
      (∃ head, html = head ++ "<script nonce=\"" ++ escape nonce ++ "\">" ++
        (scriptLead ++ scriptBody code ++ scriptTrail) ++ pageEnd) ∧
      Text.contains "</" (scriptLead ++ scriptBody code ++ scriptTrail) = false ∧
      Text.contains "<!--" (scriptLead ++ scriptBody code ++ scriptTrail) = false ∧
      Script.Hazard.within (scriptBody code) = Script.Hazard.within code := by
  intro html inserted
  have plain := scriptBody_contains code
  refine ⟨rfl, rfl, rfl, notMem_escape title, plain.1, plain.2, ?_, fill_page r nonce title code, ?_, ?_, ?_⟩
  · exact closings_fill inserted (closings_values r nonce title code) page_isFramed
  · exact contains_script (by decide) (by decide) plain.1
  · exact contains_script (by decide) (by decide) plain.2
  · exact within_scriptBody code

end LessonService.Sandbox
