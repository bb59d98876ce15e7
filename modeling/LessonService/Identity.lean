import LessonService.Text.Literal

namespace LessonService

/-- Sixteen bytes, each below 256. -/
structure Identity where
  bytes : List Nat

namespace Identity

/-- The version of identities that are drawn at random. -/
def randomVersion : Nat := 4

/-- The identity that random bytes give: the version and the variant replace six of their bits. -/
def ofRandom (bytes : List Nat) : Identity :=
  ⟨bytes.zipIdx.map fun (b, i) =>
    if i = 6 then randomVersion * 16 + b % 16 else if i = 8 then 0x80 + b % 64 else b % 256⟩

def version (i : Identity) : Nat := ((i.bytes[6]?).getD 0) / 16

/-- The bytes in base sixteen. -/
def compactText (i : Identity) : Text := i.bytes.flatMap (Literal.hexDigits 2)

/-- The bytes in base sixteen, in groups. -/
def groupedText (i : Identity) : Text :=
  let t := i.compactText
  let cut (from_ count : Nat) : Text := (t.drop from_).take count
  Text.join "-" [cut 0 8, cut 8 4, cut 12 4, cut 16 4, cut 20 12]

end Identity

end LessonService
