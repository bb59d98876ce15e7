import LessonService.Json.Read
import LessonService.Json.Write
import LessonService.Store

namespace LessonService.Store

namespace Record

def toJson (r : Record) : Json :=
  let fields : List (Text × Json) := [
    ("lesson_id", .text r.lessonId), ("title", .text r.title), ("outline", .text r.outline),
    ("status", .text r.status.name), ("generated_content", Json.ofOption .text r.content),
    ("error_message", Json.ofOption .text r.message), ("created_at", .text r.createdAt.toText),
    ("updated_at", .text r.updatedAt.toText)]
  .record fields

def ofJson? (j : Json) : Option Record := do
  let field (name : String) : Option Text := (j.field? (Text.ofString name)).bind Json.text?
  return {
    lessonId := ← field "lesson_id"
    title := ← field "title"
    outline := ← field "outline"
    status := ← (field "status").bind Status.ofName?
    content := field "generated_content"
    message := field "error_message"
    createdAt := ← (field "created_at").bind Instant.ofText?
    updatedAt := ← (field "updated_at").bind Instant.ofText? }

end Record

/-- The lessons, one in each line. -/
def toLines (s : Store) : List Text := s.records.map fun r => r.toJson.write true

/-- The store whose lessons are in lines, if all of them are lessons. -/
def ofLines? (lines : List Text) : Option Store :=
  (lines.mapM fun line =>
    match Json.read line with
    | .ok j => Record.ofJson? j
    | .error _ => none).map Store.mk

end LessonService.Store
