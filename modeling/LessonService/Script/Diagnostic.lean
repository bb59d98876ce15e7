import LessonService.Tsx.Parse
import LessonService.Text.Blank

namespace LessonService.Script

open Tsx

/-- A place in a source that its reader should look at. Lines and columns count from one, columns in bytes. -/
structure Diagnostic where
  line : Nat
  column : Nat
  message : Text

def Diagnostic.render (d : Diagnostic) : Text := "Line " ++ Text.ofNat d.line ++ ": " ++ d.message

/-- The line of a position. -/
def lineOf (cs : Characters) (position : Nat) : Nat :=
  ((cs.extract 0 position).filter fun c => c.value = 0x0A).size + 1

/-- The column of a position. -/
def columnOf (cs : Characters) (position : Nat) : Nat :=
  Text.byteCount ((cs.extract 0 position).toList.reverse.takeWhile fun c => c.value ≠ 0x0A) + 1

def Diagnostic.at (cs : Characters) (position : Nat) (message : Text) : Diagnostic :=
  ⟨lineOf cs position, columnOf cs position, message⟩

def slice (cs : Characters) (start stop : Nat) : Text := (cs.extract start stop).toList

/-- The source that a node covers. -/
def textOf (cs : Characters) (n : Node) : Text := slice cs n.start n.stop

/-- How much of unexpected text is shown. -/
def snippetLength : Nat := 40

def unexpected (t : Text) : Text :=
  let near := ((Text.lines (Text.trim t)).headD []).take snippetLength
  if near.isEmpty then "Unexpected syntax" else "Unexpected syntax near '" ++ near ++ "'"

/-- An error or a missing token. -/
def isProblem (n : Node) : Bool := n.isMissing || n.isError

/-- The children of a node that are marked as problems or as nodes around one. -/
def suspects (n : Node) : List Node := n.children.filter fun c => c.hasError || c.isMissing

theorem length_preorderAll_append (ns ms : List Node) :
    (Node.preorderAll (ns ++ ms)).length = (Node.preorderAll ns).length + (Node.preorderAll ms).length := by
  induction ns with
  | nil => simp [Node.preorderAll]
  | cons n ns ih => simp [Node.preorderAll, ih, Nat.add_assoc]

theorem length_preorderAll_filter_le (holds : Node → Bool) (ns : List Node) :
    (Node.preorderAll (ns.filter holds)).length ≤ (Node.preorderAll ns).length := by
  induction ns with
  | nil => exact Nat.le_refl _
  | cons n ns ih =>
    rw [List.filter_cons]
    split <;> simp only [Node.preorderAll, List.length_append] <;> omega

theorem length_preorderAll_lt_cons (n : Node) (stack : List Node) :
    (Node.preorderAll stack).length < (Node.preorderAll (n :: stack)).length := by
  cases n with
  | mk i cs =>
    rw [Node.preorderAll, Node.preorder, List.length_append, List.length_cons]
    omega

theorem length_suspects_lt (n : Node) (stack : List Node) :
    (Node.preorderAll (suspects n ++ stack)).length < (Node.preorderAll (n :: stack)).length := by
  cases n with
  | mk i cs =>
    have fewer := length_preorderAll_filter_le (fun c => c.hasError || c.isMissing) cs
    rw [length_preorderAll_append, suspects, Node.children, Node.preorderAll, Node.preorder, List.length_append,
      List.length_cons]
    omega

/-- At most so many problems in the trees on a stack, the tree on top first. What lies inside a problem is not looked
at. -/
def search : Nat → List Node → List Node
  | 0, _ => []
  | _ + 1, [] => []
  | limit + 1, n :: stack =>
    if isProblem n then n :: search limit stack else search (limit + 1) (suspects n ++ stack)
termination_by _ stack => (Node.preorderAll stack).length
decreasing_by
  · exact length_preorderAll_lt_cons n stack
  · exact length_suspects_lt n stack

def diagnose (cs : Characters) (n : Node) : Diagnostic :=
  Diagnostic.at cs n.start <|
    if n.isMissing then "Missing '" ++ Text.ofString n.kind ++ "'" else unexpected (textOf cs n)

/-- At most so many problems are reported. -/
def maxDiagnostics : Nat := 10

/-- The first problems of a source, in source order. -/
def syntaxDiagnostics (p : ParsedSource) : List Diagnostic :=
  if p.root.hasError then (search maxDiagnostics [p.root]).map (diagnose p.characters) else []

end LessonService.Script
