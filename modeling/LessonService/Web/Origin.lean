import LessonService.Web.Message

namespace LessonService.Web

/-- What pages of other origins may do. -/
structure Sharing where
  origins : List Text
  methods : List Text
  /-- Headers that may be sent besides those that are always allowed. -/
  headers : List Text
  /-- Headers of answers that may be read. -/
  exposed : List Text

namespace Sharing

def standardHeaders : List Text := ["Accept", "Accept-Language", "Content-Language", "Content-Type"]

/-- All headers that may be sent, in order. -/
def allowedHeaders (s : Sharing) : List Text :=
  Text.sorted (standardHeaders ++ s.headers.filter fun h => !standardHeaders.contains h)

def allowsHeader (s : Sharing) (header : Text) : Bool :=
  (s.allowedHeaders.map Text.lower).contains (Text.trim (Text.lower header))

/-- The headers of every answer to a question beforehand. -/
def askedHeaders (s : Sharing) : Headers := [
  ("vary", "Origin, Access-Control-Request-Method, Access-Control-Request-Headers, Access-Control-Request-Private-Network"),
  ("access-control-allow-methods", Text.join ", " s.methods), ("access-control-max-age", "600"),
  ("access-control-allow-headers", Text.join ", " s.allowedHeaders), ("access-control-allow-credentials", "true")]

/-- What is held against a request that a page would like to send. -/
def objections (s : Sharing) (origin method : Text) (h : Headers) : List Text :=
  let origin := if s.origins.contains origin then [] else [Text.ofString "origin"]
  let method := if s.methods.contains method then [] else [Text.ofString "method"]
  let headers :=
    match h.get? "access-control-request-headers" with
    | some names => if (Text.splitOn ',' names).all s.allowsHeader then [] else [Text.ofString "headers"]
    | none => []
  let network := if h.has "access-control-request-private-network" then [Text.ofString "private-network"] else []
  origin ++ method ++ headers ++ network

/-- The answer to a question beforehand. -/
def answer (s : Sharing) (origin method : Text) (h : Headers) : Response :=
  let headers := s.askedHeaders
    ++ if s.origins.contains origin then [(Text.ofString "access-control-allow-origin", origin)] else []
  match s.objections origin method h with
  | [] => .ofPlain 200 headers "OK"
  | objections => .ofPlain 400 headers ("Disallowed CORS " ++ Text.join ", " objections)

/-- Whether a request asks beforehand, and what for: the origin and the method. -/
def question? (r : Request) : Option (Text × Text) :=
  match r.headers.get? "origin", r.headers.get? "access-control-request-method" with
  | some origin, some method => if r.method = ("OPTIONS" : Text) then some (origin, method) else none
  | _, _ => none

/-- Says which page may read an answer. -/
def mark (s : Sharing) (r : Request) (answer : Response) : Response :=
  let vary := answer.headers.setIfMissing "vary" "Origin"
  match r.headers.get? "origin" with
  | none => { answer with headers := vary }
  | some origin =>
    let always := Headers.set "access-control-allow-credentials" "true" vary
    let readable := Headers.set "access-control-expose-headers" (Text.join ", " s.exposed) always
    { answer with headers :=
        if s.origins.contains origin then Headers.set "access-control-allow-origin" origin readable else readable }

end Sharing

end LessonService.Web
