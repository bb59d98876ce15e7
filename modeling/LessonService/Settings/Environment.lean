import LessonService.Text.Blank

namespace LessonService

/-- Variables with their values; no name twice. -/
abbrev Environment := List (Text × Text)

namespace Environment

def get? (e : Environment) (name : Text) : Option Text := (e.find? fun v => v.1 = name).map Prod.snd

def isSet (e : Environment) (name : Text) : Bool := (e.get? name).isSome

/-- The value, or nothing if it is empty. -/
def filled? (e : Environment) (name : Text) : Option Text :=
  (e.get? name).bind fun v => if v.isEmpty then none else some v

def insert (e : Environment) (name value : Text) : Environment :=
  if e.isSet name then e.map fun v => if v.1 = name then (name, value) else v else e ++ [(name, value)]

def erase (e : Environment) (name : Text) : Environment := e.filter fun v => v.1 ≠ name

def ownStart : Text := "LESSONFORGE_"

/-- The variables of this service whose names have no common start. -/
def ownNames : List Text := ["GEMINI_API_KEY", "OPENROUTER_API_KEY", "DATABASE_URL"]

def isOwn (name : Text) : Bool := ownStart.isPrefixOf name || ownNames.contains name

def isQuote (c : CodePoint) : Bool := c = '"' || c = '\''

/-- A value without the pair of equal quotes around it. -/
def unquoted (value : Text) : Text :=
  match value.head?, value.getLast? with
  | some a, some b => if value.length ≥ 2 && a = b && isQuote a then (value.drop 1).dropLast else value
  | _, _ => value

/-- The variable that a line of a file sets. -/
def ofLine? (line : Text) : Option (Text × Text) :=
  let line := Text.trim line
  let line := Text.trim ((Text.dropStart? "export " line).getD line)
  if line.isEmpty || line.head? = some ('#' : CodePoint) || ('=' : CodePoint) ∉ line then none
  else
    let name := Text.trim (line.takeWhile fun (c : CodePoint) => c ≠ '=')
    let value := Text.trim ((line.dropWhile fun (c : CodePoint) => c ≠ '=').drop 1)
    some (name, unquoted value)

/-- An environment with the names that a file has added to it, in the order of its lines. -/
structure Loaded where
  environment : Environment
  added : List Text := []

def Loaded.readLine (l : Loaded) (line : Text) : Loaded :=
  match ofLine? line with
  | none => l
  | some (name, value) =>
    if !isOwn name || l.environment.isSet name then l
    else ⟨l.environment ++ [(name, value)], l.added ++ [name]⟩

/-- Adds what a file holds. -/
def load (e : Environment) (content : Text) : Loaded := (Text.lines content).foldl Loaded.readLine ⟨e, []⟩

/-- A path without empty parts and parts that stay in place. A path may start with two slashes. -/
def plainPath (path : Text) : Text :=
  let slashes := (path.takeWhile fun (c : CodePoint) => c = '/').length
  let parts := (Text.splitOn '/' path).filter fun p => !p.isEmpty && p ≠ ("." : Text)
  let root : Text := if slashes = 0 then "" else if slashes = 2 then "//" else "/"
  let all := root ++ Text.join "/" parts
  if all.isEmpty then "." else all

/-- Where the file is that adds to the environment. -/
def filePath (e : Environment) : Text :=
  match e.filled? "LESSONFORGE_ENV_FILE" with
  | some path => plainPath path
  | none => ".env"

end Environment

end LessonService
