namespace LessonService

/-- A number of double precision. A finite one is its exact value, so that sums and quotients are those of the
rational numbers, rounded once. -/
inductive Double where
  | finite (value : Rat)
  | negativeZero
  | infinite (negative : Bool)
  /-- The result of a calculation that has none. -/
  | undefined
deriving DecidableEq

/-- Why there is no result of a calculation, or no text for it. -/
inductive Overflow where
  /-- A whole number is too large for double precision. -/
  | conversion
  /-- A quotient of whole numbers is. -/
  | quotient
  /-- There is no whole number next to what is infinite. -/
  | infinite
  | undefined
  /-- A whole number has too many digits to be written. -/
  | digits
deriving DecidableEq

namespace Double

/-- The whole number nearest to a quotient, the even one of two that are equally near. -/
def roundQuotient (n d : Nat) : Nat :=
  let q := n / d
  let r := n % d
  if 2 * r < d then q
  else if 2 * r > d then q + 1
  else if q % 2 = 0 then q else q + 1

/-- The whole number nearest to a value, the even one of two that are equally near. -/
def nearestWhole (q : Rat) : Int :=
  let n : Int := roundQuotient q.num.natAbs q.den
  if q.num < 0 then -n else n

def twoTo (e : Int) : Rat :=
  if e < 0 then 1 / ((Nat.pow 2 e.natAbs : Nat) : Rat) else ((Nat.pow 2 e.toNat : Nat) : Rat)

/-- The greatest power of two that is at most a positive value. -/
def binaryOrder (q : Rat) : Int :=
  let k : Int := (q.num.natAbs.log2 : Int) - q.den.log2
  if q < twoTo k then k - 1 else k

/-- The exponent of the last binary place kept of a positive value. -/
def lastPlace (q : Rat) : Int := max (-1074) (binaryOrder q - 52)

/-- The number that is nearest to a value. -/
def round (q : Rat) : Double :=
  if q = 0 then finite 0
  else
    let size := if q < 0 then -q else q
    let unit := twoTo (lastPlace size)
    let kept : Rat := (nearestWhole (size / unit) : Rat) * unit
    if kept ≥ twoTo 1024 then infinite (q < 0)
    else if kept = 0 then (if q < 0 then negativeZero else finite 0)
    else finite (if q < 0 then -kept else kept)

/-- The value, if there is one. -/
def value? : Double → Option Rat
  | finite q => some q
  | negativeZero => some 0
  | infinite _ => none
  | undefined => none

/-- Whether one number is less than another. Nothing is less or greater than what is undefined. -/
def less (a b : Double) : Bool :=
  match a, b with
  | undefined, _ => false
  | _, undefined => false
  | infinite s, infinite t => s && !t
  | infinite s, _ => s
  | _, infinite t => !t
  | _, _ => a.value?.getD 0 < b.value?.getD 0

/-- The number of the other sign. -/
def negated : Double → Double
  | finite q => if q = 0 then negativeZero else finite (-q)
  | negativeZero => finite 0
  | infinite negative => infinite !negative
  | undefined => undefined

def plus (x y : Double) : Double :=
  match x.value?, y.value? with
  | some p, some q => if x = negativeZero && y = negativeZero then negativeZero else round (p + q)
  | none, some _ => x
  | some _, none => y
  | none, none => if x = y then x else undefined

def minus (x y : Double) : Double := x.plus y.negated

/-- The number nearest to a value that is calculated with whole numbers, unless it is too large. -/
def near (e : Overflow) (q : Rat) : Except Overflow Double :=
  let x := round q
  if x.value?.isSome then .ok x else .error e

def ofInt (n : Int) : Except Overflow Double := near .conversion n

/-- The quotient of whole numbers. -/
def quotient (n : Int) (d : Nat) : Except Overflow Double := near .quotient (n / d)

/-- The value, where a whole number next to it is asked for. -/
def exact : Double → Except Overflow Rat
  | finite q => .ok q
  | negativeZero => .ok 0
  | infinite _ => .error .infinite
  | undefined => .error .undefined

/-- The least whole number that is not less. -/
def ceil (x : Double) : Except Overflow Int := x.exact.map Rat.ceil

/-- The whole part, towards zero. -/
def truncated (x : Double) : Except Overflow Int := x.exact.map fun q => if q < 0 then q.ceil else q.floor

end Double

end LessonService
