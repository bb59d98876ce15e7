import LessonService.Content.Render
import LessonService.Web.Headers

namespace LessonService.Web

/-- A path with the query that follows it. -/
def address (path query : Text) : Text := if query.isEmpty then path else path ++ "?" ++ query

structure Request where
  method : Text
  /-- The path as it stands in the address. -/
  path : Text
  query : Text
  /-- All names are in lowercase. -/
  headers : Headers
  body : Text
  /-- The address at the other end of the connection. -/
  peer : Option Text

structure Response where
  status : Int
  headers : Headers
  body : Text

namespace Response

def jsonType : Text := "application/json"

/-- An answer in JSON, with some headers of its own. -/
def ofContent (status : Int) (headers : Headers) (c : Content) : Except Content.RenderError Response :=
  c.render.map fun body => ⟨status, headers.lowered.setIfMissing "content-type" jsonType, body⟩

def ofPage (headers : Headers) (html : Text) : Response :=
  ⟨200, headers.lowered.setIfMissing "content-type" "text/html; charset=utf-8", html⟩

def ofPlain (status : Int) (headers : Headers) (t : Text) : Response :=
  ⟨status, headers.lowered.setIfMissing "content-type" "text/plain; charset=utf-8", t⟩

end Response

end LessonService.Web
