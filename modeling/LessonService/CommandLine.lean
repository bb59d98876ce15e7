import LessonService.Number.Decimal
import LessonService.Text.Literal

namespace LessonService.CommandLine

/-- What a command line asks for. -/
inductive Command where
  | help
  | sweep (retentionDays : Option Int)
deriving DecidableEq

inductive UsageError where
  | ambiguous (word : Text)
  | valueUnexpected (value : Text)
  | valueMissing
  | notWhole (value : Text)
  | unrecognized (words : List Text)
deriving DecidableEq

def UsageError.message : UsageError → Text
  | ambiguous word => "ambiguous option: " ++ word ++ " could match --help, --retention-days"
  | valueUnexpected value => "argument -h/--help: ignored explicit argument " ++ Literal.encode value
  | valueMissing => "argument --retention-days: expected one argument"
  | notWhole value => "argument --retention-days: invalid int value: " ++ Literal.encode value
  | unrecognized words => "unrecognized arguments: " ++ Text.join " " words

/-- What a word means where it stands. -/
inductive Word where
  | help
  /-- Help is given something that it does not take. -/
  | helpWith (value : Text)
  | retentionDays (value : Option Text)
  | plain (t : Text)
  | unknown (t : Text)

def helpOption : Text := "--help"

def retentionOption : Text := "--retention-days"

/-- A negative number is no option. A line may end after it. -/
def isNegativeNumber (t : Text) : Bool :=
  let isDigits (ds : Text) : Bool := ds.all fun c => c.digit?.isSome
  let size := t.drop 1
  let size := if size.getLast? = some ('\n' : CodePoint) then size.dropLast else size
  match size.dropWhile fun (c : CodePoint) => c ≠ '.' with
  | [] => !size.isEmpty && isDigits size
  | _ :: fraction => isDigits (size.takeWhile fun (c : CodePoint) => c ≠ '.') && !fraction.isEmpty && isDigits fraction

/-- A word that starts like an option and is none. With a space in it, it is plain. -/
def otherWord (t : Text) : Word := if isNegativeNumber t || (' ' : CodePoint) ∈ t then .plain t else .unknown t

/-- A word that starts with two hyphens. An option may be cut short as long as only one is meant. -/
def longWord (t : Text) : Except UsageError Word :=
  let name := t.takeWhile fun (c : CodePoint) => c ≠ '='
  let value : Option Text := if name.length < t.length then some (t.drop (name.length + 1)) else none
  match name.isPrefixOf helpOption, name.isPrefixOf retentionOption with
  | true, true => .error (.ambiguous t)
  | true, false => .ok (value.elim .help .helpWith)
  | false, true => .ok (.retentionDays value)
  | false, false => .ok (otherWord t)

/-- A word that starts with one hyphen. Help may be asked for several times in it. -/
def shortWord (t : Text) : Word :=
  let asked := (t.drop 1).takeWhile fun (c : CodePoint) => c = 'h'
  match asked, t.drop (1 + asked.length) with
  | [], _ => otherWord t
  | _, c :: rest => if c = '=' || c = '-' then .helpWith (c :: rest) else .help
  | _, [] => .help

def wordOf (t : Text) : Except UsageError Word :=
  match t with
  | [] => .ok (.plain [])
  | [_] => .ok (.plain t)
  | a :: b :: _ => if a ≠ '-' then .ok (.plain t) else if b = '-' then longWord t else .ok (shortWord t)

/-- The meaning of words. After two hyphens there are no options. -/
def wordsOf : List Text → Except UsageError (List Word)
  | [] => .ok []
  | t :: ts =>
    if t = ("--" : Text) then .ok (.unknown t :: ts.map .plain)
    else do return (← wordOf t) :: (← wordsOf ts)

def days (value : Text) : Except UsageError Int := (Decimal.whole value).mapError fun _ => .notWhole value

/-- Follows words, with the days that have been given and the words that nothing could be done with. -/
def follow (given : Option Int) (others : List Text) : List Word → Except UsageError Command
  | [] => if others.isEmpty then .ok (.sweep given) else .error (.unrecognized others)
  | .help :: _ => .ok .help
  | .helpWith value :: _ => .error (.valueUnexpected value)
  | .retentionDays (some value) :: ws => do follow (some (← days value)) others ws
  | .retentionDays none :: .plain value :: ws => do follow (some (← days value)) others ws
  | .retentionDays none :: _ => .error .valueMissing
  | .plain t :: ws => follow given (others ++ [t]) ws
  | .unknown t :: ws => follow given (others ++ [t]) ws

/-- The command that words make. A name which could mean either option is refused before anything else is looked at. -/
def read (words : List Text) : Except UsageError Command := do follow none [] (← wordsOf words)

def usage : Text := "usage: sweep [-h] [--retention-days RETENTION_DAYS]"

def helpText : Text := Text.ofLines [
  "usage: sweep [-h] [--retention-days RETENTION_DAYS]", "",
  "Fail abandoned generations and purge old failed lessons.", "",
  "options:",
  "  -h, --help            show this help message and exit",
  "  --retention-days RETENTION_DAYS",
  "                        Override LESSONFORGE_FAILED_RETENTION_DAYS for this run."]

end LessonService.CommandLine
