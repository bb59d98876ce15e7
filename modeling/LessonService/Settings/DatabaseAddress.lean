import LessonService.Address
import LessonService.Settings

namespace LessonService.DatabaseAddress

/-- The address to open. A plain address of PostgreSQL names the driver as well. -/
def toOpen (s : DatabaseSettings) : Option Text :=
  s.dsn.map fun dsn =>
    match Text.dropStart? "postgresql://" dsn with
    | some rest => "postgresql+asyncpg://" ++ rest
    | none => dsn

/-- An address without its password. -/
def redact (dsn : Option Text) : Except Address.Fault Text :=
  match dsn with
  | none | some [] => .ok "<unset>"
  | some raw => do
    let a ← Address.read raw
    if a.scheme.isEmpty then return "<invalid>"
    else
      let number ← a.portNumber?
      let number : Text := number.elim [] fun n => if n = 0 then [] else ":" ++ Text.ofNat n
      let place := a.host ++ number
      let place := if a.user.isEmpty then place else a.user ++ "@" ++ place
      let database := Text.trimLeft (fun c => c = '/') a.path
      return a.scheme ++ "://" ++ place ++ (if database.isEmpty then ([] : Text) else '/' :: database)

end LessonService.DatabaseAddress
