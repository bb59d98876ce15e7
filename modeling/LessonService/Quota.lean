import LessonService.Number

namespace LessonService.Quota

/-- The requests of a client until its time is up. It opens with the first one, and the next request after its end
opens another. -/
structure Window where
  count : Nat
  resetAt : Number
deriving DecidableEq

/-- What becomes of a request. -/
structure Decision where
  isAllowed : Bool
  limit : Int
  remaining : Int
  resetAt : Number
  now : Number
deriving DecidableEq

/-- Why nothing is decided on a request. -/
inductive Refusal where
  | notPositive
  | overflow (e : Overflow)
deriving DecidableEq

def Refusal.name : Refusal → Text
  | notPositive => "ValueError"
  | overflow e => e.name

def Refusal.message : Refusal → Text
  | notPositive => "window_ms and max_requests must be positive."
  | overflow e => e.message

/-- A number of seconds that is large enough to wait for, rounded up. -/
def Decision.retryAfter (d : Decision) : Except Overflow Int := do
  let wait ← d.resetAt.minus d.now
  return max 0 (← (← wait.thousandth).ceil)

/-- What a client is told about its window. -/
def Decision.headers (d : Decision) : Except Overflow (List (Text × Text)) := do
  let window : List (Text × Text) := [
    ("X-RateLimit-Limit", ← Decimal.written d.limit), ("X-RateLimit-Remaining", ← Decimal.written d.remaining),
    ("X-RateLimit-Reset", ← Decimal.written (← d.resetAt.truncated))]
  if d.isAllowed then return window
  else
    let wait : List (Text × Text) := [("Retry-After", ← Decimal.written (← d.retryAfter))]
    return window ++ wait

/-- The decision, once it has been logged: a request that is turned away is logged with its delay. -/
def Decision.logged (d : Decision) : Except Refusal Decision :=
  if d.isAllowed then .ok d
  else
    match d.retryAfter with
    | .ok _ => .ok d
    | .error e => .error (.overflow e)

/-- The windows of all clients, each client once. Windows whose time is up may be dropped at any request. -/
structure Guard where
  cleanupProbability : Number
  windows : List (Text × Window) := []

/-- A request: who makes it, how long windows last, and how many requests one may hold. -/
structure Visit where
  client : Text
  windowMillis : Int
  limit : Int
  now : Number
  /-- A random number from 0 to 1 that decides whether old windows are dropped. -/
  roll : Number

/-- A window that opens with a request. -/
def Visit.opening (v : Visit) : Except Overflow Window := do return ⟨0, ← v.now.plus v.windowMillis⟩

def Window.isOver (w : Window) (now : Number) : Bool := w.resetAt.less now

/-- The window after one more request. -/
def Window.counted (w : Window) : Window := { w with count := w.count + 1 }

/-- What becomes of a request that a window has counted. -/
def Window.decide (w : Window) (v : Visit) : Decision :=
  ⟨w.count ≤ v.limit, v.limit, max 0 (v.limit - w.count), w.resetAt, v.now⟩

namespace Guard

def find? (g : Guard) (client : Text) : Option Window :=
  (g.windows.find? fun w => w.1 = client).map Prod.snd

def setWindow (client : Text) (w : Window) : List (Text × Window) → List (Text × Window)
  | [] => [(client, w)]
  | (c, old) :: rest => if c = client then (c, w) :: rest else (c, old) :: setWindow client w rest

/-- Drops the windows whose time is up. -/
def purge (g : Guard) (now : Number) : Guard := { g with windows := g.windows.filter fun w => !w.2.isOver now }

/-- The window that a request falls into. -/
def windowFor (g : Guard) (v : Visit) : Except Overflow Window :=
  match g.find? v.client with
  | some w => if w.isOver v.now then v.opening else .ok w
  | none => v.opening

/-- The guard once a window has counted a request. -/
def keep (g : Guard) (v : Visit) (w : Window) : Guard :=
  let counted := { g with windows := setWindow v.client w g.windows }
  if v.roll.less g.cleanupProbability then counted.purge v.now else counted

/-- Counts a request and decides on it, if the window and the limit are positive. -/
def admitVisit (g : Guard) (v : Visit) : Except Refusal Decision × Guard :=
  if v.windowMillis ≤ 0 || v.limit ≤ 0 then (.error .notPositive, g)
  else
    match g.windowFor v with
    | .error e => (.error (.overflow e), g)
    | .ok w => ((w.counted.decide v).logged, g.keep v w.counted)

end Guard

/-- Who a request counts for: the first in the chain that forwarded it, or else the address that a
proxy names, or else the other end of the connection. -/
def clientKey (header : Text → Option Text) (peer : Option Text) : Text :=
  let first := Text.trim (((Text.splitOn ',' ((header "x-forwarded-for").getD [])).head?).getD [])
  let real := Text.trim ((header "x-real-ip").getD [])
  if !first.isEmpty then first
  else if !real.isEmpty then real
  else
    match peer with
    | some (c :: p) => c :: p
    | _ => "127.0.0.1"

def counted (n : Int) (unit : Text) : Except Overflow Text := do
  return (← Decimal.written n) ++ " " ++ unit ++ (if n = 1 then ([] : Text) else "s")

/-- A delay as it is told to people: in seconds, or rounded up to minutes. -/
def delayText (seconds : Int) : Except Overflow Text :=
  if seconds < 60 then counted seconds "second"
  else do counted (← (← Double.quotient seconds 60).ceil) "minute"

end LessonService.Quota
