import LessonService.Number.Decimal
import LessonService.Text.Literal

namespace LessonService

/-- The parts of an address. The path is without the parameters of its last part. -/
structure Address where
  scheme : Text
  authority : Text
  path : Text
  query : Text
  fragment : Text

namespace Address

inductive Fault where
  | unclosedBracket
  | notAnAddress (host : Text)
  | futureVersion
  | bracketedFour
  | badPort (digits : Text)
  | portTooGreat
  | foldedSeparator (authority : Text)
  | longPort (digits : Nat)
deriving DecidableEq

def Fault.message : Fault → Text
  | unclosedBracket => "Invalid IPv6 URL"
  | notAnAddress host => Literal.encode host ++ " does not appear to be an IPv4 or IPv6 address"
  | futureVersion => "IPvFuture address is invalid"
  | bracketedFour => "An IPv4 address cannot be in brackets"
  | badPort digits => "Port could not be cast to integer value as " ++ Literal.encode digits
  | portTooGreat => "Port out of range 0-65535"
  | foldedSeparator authority =>
    "netloc '" ++ authority ++ "' contains invalid characters under NFKC normalization"
  | longPort digits => Decimal.longText digits

def isSchemeCharacter (c : CodePoint) : Bool := c.isLetter || c.isDigit || c = '+' || c = '-' || c = '.'

/-- What lies before the first of a character, and what lies after it if it occurs. -/
def cut (at_ : CodePoint) (t : Text) : Text × Option Text :=
  match t.dropWhile (· ≠ at_) with
  | [] => (t, none)
  | _ :: rest => (t.takeWhile (· ≠ at_), some rest)

/-- What lies before the last of a character, if it occurs, and what lies after it. -/
def cutLast (at_ : CodePoint) (t : Text) : Option Text × Text :=
  let (after, before) := cut at_ t.reverse
  (before.map List.reverse, after.reverse)

/-- The scheme of an address in lowercase, or nothing, and the rest. -/
def schemeAndRest (t : Text) : Text × Text :=
  match cut ':' t with
  | (start, some rest) =>
    if (start.head?.elim false CodePoint.isLetter) && start.all isSchemeCharacter then
      (start.map CodePoint.lower, rest)
    else ([], t)
  | _ => ([], t)

/-- The authority of an address, after two slashes, and the rest. -/
def authorityAndRest (t : Text) : Text × Text :=
  match Text.dropStart? "//" t with
  | none => ([], t)
  | some rest =>
    let inside (c : CodePoint) : Bool := c ≠ '/' && c ≠ '?' && c ≠ '#'
    (rest.takeWhile inside, rest.dropWhile inside)

/-- A part of an address of four bytes. -/
def isByte (t : Text) : Bool :=
  !t.isEmpty && t.all CodePoint.isDigit && t.length ≤ 3
    && (t.length = 1 || t.head? ≠ some ('0' : CodePoint))
    && Decimal.ofDigits (t.map fun c => c.value - 0x30) ≤ 255

def isFourBytes (t : Text) : Bool :=
  let parts := Text.splitOn '.' t
  parts.length = 4 && parts.all isByte

/-- A part of an address of sixteen bytes. -/
def isPair (t : Text) : Bool := t.length ≤ 4 && t.all CodePoint.isHexDigit

/-- Parts of an address of sixteen bytes, with at most one gap that stands for zeros. -/
def arePairs (parts : List Text) : Bool :=
  let inner := (parts.drop 1).dropLast
  if parts.length < 3 || parts.length > 9 then false
  else
    match inner.findIdx? List.isEmpty with
    | none => parts.length = 8 && parts.all fun p => !p.isEmpty && isPair p
    | some i =>
      let before := parts.take (i + 1)
      let after := parts.drop (i + 2)
      let before := if before.head? = some [] then before.drop 1 else before
      let after := if after.getLast? = some [] then after.dropLast else after
      let opensWithGap := (parts.head? = some []) && !before.isEmpty
      let endsWithGap := (parts.getLast? = some []) && !after.isEmpty
      (inner.countP List.isEmpty = 1) && !opensWithGap && !endsWithGap && before.length + after.length ≤ 7
        && (before ++ after).all fun p => !p.isEmpty && isPair p

def isSixteenBytes (t : Text) : Bool :=
  let (address, zone) := cut '%' t
  let zoneFits := zone.elim true fun (z : Text) => !z.isEmpty && ('%' : CodePoint) ∉ z
  let parts := Text.splitOn ':' address
  let last := (parts.getLast?).getD []
  let parts :=
    if ('.' : CodePoint) ∈ last then
      if isFourBytes last then parts.dropLast ++ [Text.ofString "0", Text.ofString "0"] else []
    else parts
  zoneFits && arePairs parts

/-- A host of a version to come: its number in base sixteen, a point and something else. -/
def isFuture (t : Text) : Bool :=
  match cut '.' (t.drop 1) with
  | (version, some rest) =>
    !version.isEmpty && version.all CodePoint.isHexDigit && !rest.isEmpty && rest.all fun c => c.value ≠ 0x0A
  | _ => false

/-- What is wrong with the host in the brackets of an authority. -/
def bracketFault? (authority : Text) : Option Fault :=
  let opened := ('[' : CodePoint) ∈ authority
  let closed := (']' : CodePoint) ∈ authority
  if opened != closed then some .unclosedBracket
  else if !opened then none
  else
    let host := (cut ']' ((cut '[' authority).2.getD [])).1
    if host.head? = some ('v' : CodePoint) then (if isFuture host then none else some .futureVersion)
    else if isFourBytes host then some .bracketedFour
    else if isSixteenBytes host then none
    else some (.notAnAddress host)

/-- Characters that become a separator of addresses when they are folded to their plain form. -/
def foldsToSeparator (c : CodePoint) : Bool :=
  ([0x2047, 0x2048, 0x2049, 0x2100, 0x2101, 0x2105, 0x2106, 0x2A74, 0xFE13, 0xFE16, 0xFE55, 0xFE56, 0xFE5F,
    0xFE6B, 0xFF03, 0xFF0F, 0xFF1A, 0xFF1F, 0xFF20] : List Nat).contains c.value

/-- Schemes whose last part may have parameters after a semicolon. -/
def withParameters : List Text := [
  [], "ftp", "hdl", "prospero", "http", "imap", "https", "shttp", "rtsp", "rtsps", "rtspu", "sip", "sips", "mms",
  "sftp", "tel"]

def pathOf (scheme path : Text) : Text :=
  if withParameters.contains scheme then
    let (start, last) := cutLast '/' path
    (start.elim [] fun s => s ++ Text.ofString "/") ++ (cut ';' last).1
  else path

def isIgnored (c : CodePoint) : Bool := c = '\t' || c = '\r' || c = '\n'

/-- Takes an address apart. -/
def read (raw : Text) : Except Fault Address :=
  let t := (raw.dropWhile fun c => c.value ≤ 0x20).filter fun c => !isIgnored c
  let (scheme, rest) := schemeAndRest t
  let (authority, rest) := authorityAndRest rest
  match bracketFault? authority with
  | some e => .error e
  | none =>
    if authority.any foldsToSeparator then .error (.foldedSeparator authority)
    else
      let (rest, fragment) := cut '#' rest
      let (path, query) := cut '?' rest
      .ok ⟨scheme, authority, pathOf scheme path, query.getD [], fragment.getD []⟩

/-- The name in front of the host. -/
def user (a : Address) : Text := (cutLast '@' a.authority).1.elim [] fun account => (cut ':' account).1

/-- The host as it is written, and the number behind it if there is one. -/
def hostAndPort (a : Address) : Text × Option Text :=
  let place := (cutLast '@' a.authority).2
  let (host, number) :=
    match cut '[' place with
    | (_, some bracketed) =>
      let (host, after) := cut ']' bracketed
      (host, (cut ':' (after.getD [])).2)
    | _ => cut ':' place
  (host, number.bind fun p => if p.isEmpty then none else some p)

/-- The host in lowercase. The name of a zone keeps its case. -/
def host (a : Address) : Text :=
  let host := a.hostAndPort.1
  let name := host.takeWhile fun (c : CodePoint) => c ≠ '%'
  Text.lower name ++ host.drop name.length

def readPortNumber (digits : Text) : Except Fault Nat :=
  if !digits.all CodePoint.isDigit then .error (.badPort digits)
  else if digits.length > Decimal.maxDigits then .error (.longPort digits.length)
  else
    let n := Decimal.ofDigits (digits.map fun c => c.value - 0x30)
    if n > 65535 then .error .portTooGreat else .ok n

def portNumber? (a : Address) : Except Fault (Option Nat) := a.hostAndPort.2.mapM readPortNumber

end Address

end LessonService
