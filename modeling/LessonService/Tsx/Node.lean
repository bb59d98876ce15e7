import LessonService.Grammar.Subtree
import LessonService.Tsx.Characters

namespace LessonService.Tsx

structure NodeInfo where
  kind : String
  named : Bool
  /-- The part it plays in its parent. -/
  field : Option String
  /-- The span in characters. -/
  start : Nat
  stop : Nat
  isError : Bool
  isMissing : Bool
  /-- Whether the node or one below it is an error or missing. -/
  hasError : Bool

/-- A node of a syntax tree. Named nodes are constructs, the others are tokens. Text that fits nowhere is an error node,
and a token that the parser had to put in is missing. -/
inductive Node where
  | mk (info : NodeInfo) (children : List Node)

namespace Node

def info : Node → NodeInfo
  | mk i _ => i

def children : Node → List Node
  | mk _ cs => cs

def kind (n : Node) : String := n.info.kind

def isNamed (n : Node) : Bool := n.info.named

def start (n : Node) : Nat := n.info.start

def stop (n : Node) : Nat := n.info.stop

def isError (n : Node) : Bool := n.info.isError

def isMissing (n : Node) : Bool := n.info.isMissing

def hasError (n : Node) : Bool := n.info.hasError

def namedChildren (n : Node) : List Node := n.children.filter isNamed

/-- The first child that plays a part. -/
def child? (n : Node) (field : String) : Option Node :=
  n.children.find? fun c => c.info.field = some field

mutual

/-- A node and all below it, in source order. -/
def preorder : Node → List Node
  | mk i cs => mk i cs :: preorderAll cs

def preorderAll : List Node → List Node
  | [] => []
  | n :: ns => preorder n ++ preorderAll ns

end

mutual

/-- The number of nodes on the longest way down. -/
def depth : Node → Nat
  | mk _ cs => depthOfAll cs + 1

def depthOfAll : List Node → Nat
  | [] => 0
  | n :: ns => max (depth n) (depthOfAll ns)

end

end Node

end LessonService.Tsx
