import LessonService.Request.Fault
import LessonService.Store
import LessonService.Web.Percent

namespace LessonService.Web.Query

open LessonService.Request (Fault PlacedFault)

/-- Blanks as they may stand around a number: without the separators of ASCII. -/
def isGap (c : CodePoint) : Bool := c.isBlank && !c.isBetween 0x1C 0x1F

/-- A number without the zeros in front of it, which may hold underscores. A zero before a point
stays. -/
def withoutZeros (t : Text) : Option Text :=
  match t with
  | [] => none
  | c :: rest =>
    if c = '0' then
      match rest.dropWhile fun (d : CodePoint) => d = '0' || d = '_' with
      | [] => some ((c :: rest).drop rest.length)
      | d :: more =>
        if d.isDigit then some (d :: more)
        else if d = '.' then some ((c :: rest).drop (rest.length - more.length - 1))
        else none
    else if c.isDigit || c = '-' then some (c :: rest)
    else none

/-- A number without a fraction of zeros. -/
def withoutFraction (t : Text) : Text :=
  let whole := t.takeWhile fun (c : CodePoint) => c ≠ '.'
  if (t.drop (whole.length + 1)).all fun c => c = '0' then whole else t

/-- A number without single underscores between its parts. -/
def withoutUnderscores (t : Text) : Text :=
  if t.head? = some ('_' : CodePoint) || t.getLast? = some ('_' : CodePoint) || Text.contains "__" t then t
  else t.filter fun (c : CodePoint) => c ≠ '_'

/-- A number in its plain form. -/
def plainNumber (t : Text) : Option Text :=
  let t := Text.trimBy isGap t
  let unsigned := if t.head? = some ('+' : CodePoint) then t.drop 1 else t
  if unsigned.length < t.length && unsigned.head? = some ('-' : CodePoint) then none
  else (withoutZeros unsigned).map fun t => withoutUnderscores (withoutFraction t)

/-- A whole number. -/
def whole (t : Text) : Except Fault Int :=
  match plainNumber t with
  | none => .error .notWhole
  | some plain =>
    let isNegative : Bool := plain.head? = some ('-' : CodePoint)
    let digits := if isNegative then plain.drop 1 else plain
    if digits.isEmpty || !digits.all CodePoint.isDigit || (digits.length > 1 && digits.head? = some ('0' : CodePoint)) then
      .error .notWhole
    else if digits.length > Decimal.maxDigits then .error .tooManyDigits
    else
      let n : Int := Decimal.ofDigits (digits.map fun c => c.value - 0x30)
      .ok (if isNegative then -n else n)

/-- A whole number between two bounds, of which the upper one may be missing. -/
def bounded (least : Int) (most : Option Int) (t : Text) : Except Fault Int := do
  let n ← whole t
  match most with
  | some m => if n > m then .error (.above m) else if n < least then .error (.below least) else return n
  | none => if n < least then .error (.below least) else return n

def named (names : List Text) (t : Text) : Except Fault Text :=
  if names.contains t then .ok t else .error (.notNamed names)

/-- A value that has been read, with the faults found so far. -/
structure Checked (α : Type) where
  value : α
  faults : List PlacedFault

/-- Reads the value of a name, or takes the standard one. -/
def read (fields : List (Text × Text)) (name : Text) (standard : α) (f : Text → Except Fault α) : Checked α :=
  match fields.reverse.find? fun field => field.1 = name with
  | none => ⟨standard, []⟩
  | some (_, t) =>
    match f t with
    | .ok a => ⟨a, []⟩
    | .error fault => ⟨standard, [⟨[.ofString "query", .text name], fault⟩]⟩

def maxPageSize : Int := 100

/-- The page that a query asks for, or all that is wrong with the query. -/
def listQuery (query : Text) : Except (List PlacedFault) Store.ListQuery :=
  let fields := Percent.fields query
  let page := read fields "page" 1 (bounded 1 none)
  let limit := read fields "limit" 20 (bounded 1 (some maxPageSize))
  let status := read fields "status" none fun t => (named (Store.Status.all.map Store.Status.name) t).map some
  let sortBy := read fields "sort_by" (Text.ofString "created_at") (named ["created_at", "updated_at"])
  let sortOrder := read fields "sort_order" (Text.ofString "desc") (named ["asc", "desc"])
  let faults := page.faults ++ limit.faults ++ status.faults ++ sortBy.faults ++ sortOrder.faults
  if faults.isEmpty then
    .ok ⟨page.value, limit.value, status.value, Store.SortKey.ofName sortBy.value, sortOrder.value = ("asc" : Text)⟩
  else .error faults

end LessonService.Web.Query
