import LessonService.Address
import LessonService.Sandbox.Page
import LessonService.Script.Plain

namespace LessonService.Sandbox

/-- Why files cannot be loaded from an address. -/
inductive RuntimeError where
  | unreadable (fault : Address.Fault)
  | notAbsolute (address : Text)
  | notOneFile (address : Text)
deriving DecidableEq

def RuntimeError.message : RuntimeError → Text
  | unreadable fault => fault.message
  | notAbsolute address => "Sandbox runtime URL must be absolute http(s): " ++ address
  | notOneFile address => "Sandbox runtime URL must name a single file: " ++ address

/-- Characters that would end a source in a policy. -/
def endsSource (c : CodePoint) : Bool :=
  c = ' ' || c = ';' || c = ',' || c = '\'' || c = '"' || c = '\t' || c = '\n'

/-- Whether an address has a file and no more after its authority. -/
def namesFile (a : Address) : Bool :=
  a.query.isEmpty && a.fragment.isEmpty && a.path.any (fun c => c ≠ '/') && a.path.getLast? ≠ some ('/' : CodePoint)

/-- The source of a policy that allows exactly one file. -/
def source (raw : Text) : Except RuntimeError Text :=
  match Address.read raw with
  | .error e => .error (.unreadable e)
  | .ok a =>
    if !(["https", "http"] : List Text).contains a.scheme || a.authority.isEmpty then .error (.notAbsolute raw)
    else if !namesFile a || raw.any endsSource then .error (.notOneFile raw)
    else .ok (a.scheme ++ "://" ++ a.authority ++ a.path)

/-- The three files that a lesson needs, as addresses and as sources of a policy. -/
structure Runtime where
  react : Text
  reactDom : Text
  tailwind : Text
  sources : List Text

/-- The members of a list, each in its first place only. -/
def distinct (ts : List Text) : List Text :=
  ts.foldl (fun all t => if all.contains t then all else all ++ [t]) []

def Runtime.ofAddresses (react reactDom tailwind : Text) : Except RuntimeError Runtime := do
  let sources ← [react, reactDom, tailwind].mapM source
  return ⟨react, reactDom, tailwind, distinct sources⟩

/-- What the page may do: run the scripts with its nonce and those of its sources. -/
def Runtime.policy (r : Runtime) (nonce : Text) : Text :=
  let nonceSource : Text := "'nonce-" ++ nonce ++ "'"
  Text.join "; " [
    "default-src 'none'", "script-src " ++ Text.join " " (nonceSource :: r.sources), "style-src 'unsafe-inline'",
    "img-src data: https:", "font-src data: https:", "media-src data: https:", "connect-src 'none'",
    "base-uri 'none'", "form-action 'none'"]

/-- Breaks up what would end a script. -/
def breakTags : Text → Text
  | [] => []
  | [c] => [c]
  | c :: d :: t => if c = '<' && d = '/' then '<' :: '\\' :: '/' :: breakTags t else c :: breakTags (d :: t)

/-- Breaks up what would start a comment. -/
def breakComments : Text → Text
  | c :: d :: e :: f :: t =>
    if c = '<' && d = '!' && e = '-' && f = '-' then '<' :: '\\' :: '!' :: '-' :: '-' :: breakComments t
    else c :: breakComments (d :: e :: f :: t)
  | t => t

/-- Code that can stand inside a script. -/
def scriptBody (code : Text) : Text := breakComments (breakTags code)

def escapeCharacter (c : CodePoint) : Text :=
  if c = '&' then "&amp;"
  else if c = '<' then "&lt;"
  else if c = '>' then "&gt;"
  else if c = '\'' then "&#39;"
  else if c = '"' then "&#34;"
  else [c]

/-- A text that shows as itself in a page. -/
def escape (t : Text) : Text := t.flatMap escapeCharacter

def values (r : Runtime) (nonce title code : Text) : Place → Text
  | .policy => escape (r.policy nonce)
  | .title => escape title
  | .nonce => escape nonce
  | .react => escape r.react
  | .reactDom => escape r.reactDom
  | .tailwind => escape r.tailwind
  | .code => scriptBody code
  | .entryPoint => Script.entryPoint

/-- A page with the policy it is to be served under. -/
structure Document where
  html : Text
  policy : Text

def build (r : Runtime) (nonce title code : Text) : Document :=
  ⟨fill (values r nonce title code) page, r.policy nonce⟩

/-- What the frame around the page allows it: scripts only. -/
def frameRights : Text := "allow-scripts"

def Document.headers (d : Document) : List (Text × Text) := [
  ("Content-Security-Policy", d.policy ++ "; sandbox " ++ frameRights), ("X-Content-Type-Options", "nosniff"),
  ("Referrer-Policy", "no-referrer"), ("Cache-Control", "no-store"), ("X-Frame-Options", "SAMEORIGIN")]

/-- What a lesson tells the page around it in order to be left. -/
def navigationSignal : Text := "navigateToHome"

end LessonService.Sandbox
