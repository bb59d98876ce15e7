import LessonService.Text.Letters

namespace LessonService.Web

/-- Names and values in the order in which they are sent. -/
abbrev Headers := List (Text × Text)

namespace Headers

/-- Names of headers that are looked for are in lowercase. -/
def get? (h : Headers) (name : Text) : Option Text := (h.find? fun f => f.1 = name).map Prod.snd

def has (h : Headers) (name : Text) : Bool := h.any fun f => f.1 = name

def erase (h : Headers) (name : Text) : Headers := h.filter fun f => f.1 ≠ name

/-- Gives a header a value, in its first place if it is there already. -/
def set (name value : Text) : Headers → Headers
  | [] => [(name, value)]
  | (n, v) :: rest => if n = name then (n, value) :: erase rest name else (n, v) :: set name value rest

/-- Gives a header a value unless it has one. -/
def setIfMissing (h : Headers) (name value : Text) : Headers := if h.has name then h else h ++ [(name, value)]

/-- The headers with their names in lowercase. -/
def lowered (h : Headers) : Headers := h.map fun (n, v) => (Text.lower n, v)

/-- Each name in lowercase with its last value. -/
def merged (h : Headers) : Headers := h.lowered.foldl (fun all (n, v) => set n v all) []

/-- Tags an answer with the identity of its request. -/
def tagged (h : Headers) (requestId : Text) : Headers := h.setIfMissing "x-request-id" requestId

/-- Drops what tells about the server, and keeps clients from guessing the type of an answer. -/
def secured (h : Headers) : Headers :=
  ((h.erase "x-powered-by").erase "server").setIfMissing "x-content-type-options" "nosniff"

end Headers

end LessonService.Web
