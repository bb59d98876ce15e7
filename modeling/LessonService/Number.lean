import LessonService.Number.Decimal

namespace LessonService

/-- A number as clocks and requests give it: whole, or of double precision. Whole numbers are exact; a calculation
with a number of the other kind rounds. -/
inductive Number where
  | whole (n : Int)
  | real (x : Double)
deriving DecidableEq

namespace Number

instance : Coe Int Number := ⟨whole⟩

instance (n : Nat) : OfNat Number n := ⟨whole n⟩

def toDouble : Number → Except Overflow Double
  | whole n => Double.ofInt n
  | real x => .ok x

/-- The exact value, if there is one. -/
def value? : Number → Option Rat
  | whole n => some n
  | real x => x.value?

def less (a b : Number) : Bool :=
  match a, b with
  | real x, real y => x.less y
  | whole m, whole n => m < n
  | whole m, real y => y.value?.elim (Double.less (.finite 0) y) fun q => (m : Rat) < q
  | real x, whole n => x.value?.elim (x.less (.finite 0)) fun q => q < (n : Rat)

/-- Whether there is a text for the number: it is finite, and no whole number with too many digits. -/
def isWritable : Number → Bool
  | whole n => Decimal.isWritable n
  | real x => x.value?.isSome

/-- The sum of a number and a whole number. -/
def plus (a : Number) (n : Int) : Except Overflow Number :=
  match a with
  | whole m => .ok (whole (m + n))
  | real x => do return real (x.plus (← Double.ofInt n))

def minus (a b : Number) : Except Overflow Number :=
  match a, b with
  | whole m, whole n => .ok (whole (m - n))
  | _, _ => do return real ((← a.toDouble).minus (← b.toDouble))

/-- The number over a thousand, of double precision. -/
def thousandth : Number → Except Overflow Double
  | whole n => Double.quotient n 1000
  | real (.finite q) => .ok (Double.round (q / 1000))
  | real x => .ok x

/-- The whole part, towards zero. -/
def truncated : Number → Except Overflow Int
  | whole n => .ok n
  | real x => x.truncated

def toText : Number → Text
  | whole n => Text.ofInt n
  | real x => Decimal.ofDouble x

end Number

end LessonService
