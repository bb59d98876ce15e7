import LessonService.Text.Basic

namespace LessonService.Utf8

/-- The bytes of a character. -/
def encodeOne (c : CodePoint) : List Nat :=
  let n := c.value
  if n < 0x80 then [n]
  else if n < 0x800 then [0xC0 + n / 64, 0x80 + n % 64]
  else if n < 0x10000 then [0xE0 + n / 4096, 0x80 + n / 64 % 64, 0x80 + n % 64]
  else [0xF0 + n / 262144, 0x80 + n / 4096 % 64, 0x80 + n / 64 % 64, 0x80 + n % 64]

def encode (t : Text) : List Nat := t.flatMap encodeOne

/-- What a first byte announces: how many bytes follow, between which bounds the first of them lies,
and what the byte itself contributes. -/
structure Lead where
  following : Nat
  low : Nat
  high : Nat
  part : Nat

def lead? (b : Nat) : Option Lead :=
  if 0xC2 ≤ b && b ≤ 0xDF then some ⟨1, 0x80, 0xBF, b - 0xC0⟩
  else if b = 0xE0 then some ⟨2, 0xA0, 0xBF, 0⟩
  else if b = 0xED then some ⟨2, 0x80, 0x9F, 13⟩
  else if 0xE1 ≤ b && b ≤ 0xEF then some ⟨2, 0x80, 0xBF, b - 0xE0⟩
  else if b = 0xF0 then some ⟨3, 0x90, 0xBF, 0⟩
  else if 0xF1 ≤ b && b ≤ 0xF3 then some ⟨3, 0x80, 0xBF, b - 0xF0⟩
  else if b = 0xF4 then some ⟨3, 0x80, 0x8F, 4⟩
  else none

def replacement : CodePoint := ⟨0xFFFD⟩

/-- The character whose first bytes have been read, and how many bytes it takes besides. -/
def continued : Lead → List Nat → CodePoint × Nat
  | ⟨0, _, _, part⟩, _ => (⟨part⟩, 0)
  | _, [] => (replacement, 0)
  | ⟨n + 1, low, high, part⟩, b :: rest =>
    if low ≤ b && b ≤ high then
      let (c, taken) := continued ⟨n, 0x80, 0xBF, part * 64 + (b - 0x80)⟩ rest
      (c, taken + 1)
    else (replacement, 0)

/-- Reading never fails: what is no character, as far as it could have become one, is read as a replacement character. -/
def decode (bytes : List Nat) : Text :=
  match bytes with
  | [] => []
  | b :: rest =>
    if b < 0x80 then ⟨b⟩ :: decode rest
    else
      match lead? b with
      | none => replacement :: decode rest
      | some l =>
        let (c, taken) := continued l rest
        c :: decode (rest.drop taken)
termination_by bytes.length
decreasing_by all_goals simp_wf; try omega

end LessonService.Utf8
