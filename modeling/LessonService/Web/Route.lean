import LessonService.Web.Percent
import LessonService.Web.Message

namespace LessonService.Web

inductive Endpoint where
  | health
  | generate
  | list
  | stats
  | lesson (id : Text)
  | lessonStatus (id : Text)
  | sandbox (id : Text)
  | compile
deriving DecidableEq

namespace Endpoint

def method : Endpoint → Text
  | generate | compile => "POST"
  | _ => "GET"

/-- A part of a path, which at the end of the path may be followed by a line break. -/
def isLast (name part : Text) : Bool := part = name || part = name ++ "\n"

/-- The endpoints that a path without its first slash names, in the order in which they are tried. -/
def atParts : List Text → List Endpoint
  | [a] => if isLast "health" a then [health] else []
  | [a, b] =>
    if a ≠ ("v1" : Text) then []
    else (if isLast "lessons" b then [list] else []) ++ (if isLast "compile" b then [compile] else [])
  | [a, b, c] =>
    if a ≠ ("v1" : Text) || b ≠ ("lessons" : Text) then []
    else (if isLast "generate" c then [generate] else []) ++ (if isLast "stats" c then [stats] else [])
      ++ (if c.isEmpty then [] else [lesson c])
  | [a, b, c, d] =>
    if a ≠ ("v1" : Text) || b ≠ ("lessons" : Text) || c.isEmpty then []
    else (if isLast "status" d then [lessonStatus c] else []) ++ (if isLast "sandbox" d then [sandbox c] else [])
  | _ => []

def atPath (path : Text) : List Endpoint :=
  match Text.splitOn '/' path with
  | [] :: parts => atParts parts
  | _ => []

end Endpoint

/-- Where a request goes. -/
inductive Route where
  | found (e : Endpoint)
  /-- The path is known, but not with this method. -/
  | otherMethod (allowed : Text)
  /-- The path is known with one slash more or less at its end. -/
  | moved (location : Text)
  | unknown
deriving DecidableEq

namespace Route

/-- The path with a slash at its end, or without those that it has there. -/
def withOtherEnd (path : Text) : Text :=
  if path.getLast? = some ('/' : CodePoint) then Text.trimRight (fun c => c = '/') path else path ++ "/"

def ofRequest (r : Request) : Route :=
  let path := Percent.decode r.path
  let endpoints := Endpoint.atPath path
  match endpoints.find? fun e => e.method = r.method, endpoints with
  | some e, _ => found e
  | none, e :: _ => otherMethod e.method
  | none, [] =>
    let other := withOtherEnd path
    if path = ("/" : Text) || (Endpoint.atPath other).isEmpty then unknown
    else
      let host := (r.headers.get? "host").getD []
      moved (Percent.encode ("http://" ++ host ++ address other r.query))

end Route

end LessonService.Web
