import RecordShape.Format.HostAddress
import RecordShape.Format.HostName

/-!
# Absolute addresses

An address has a scheme. Only its host and the number behind it can be wrong, so the parts after
them are not looked at. The special schemes ask for a host that is a name or a numeric address;
other schemes take nearly any host, and only after two slashes.
-/

namespace RecordShape.Url
attribute [local instance (high)] instPowNat

inductive SchemeKind where
  | file
  /-- A scheme that needs a host. -/
  | special
  | other
  deriving DecidableEq

def schemeKind (scheme : String) : SchemeKind :=
  if scheme = "file" then .file
  else if ["http", "https", "ws", "wss", "ftp"].contains scheme then .special
  else .other

def isLetter (c : Char) : Bool := ('a' ≤ c && c ≤ 'z') || ('A' ≤ c && c ≤ 'Z')

def isDigit (c : Char) : Bool := '0' ≤ c && c ≤ '9'

def lowerCase (c : Char) : Char := if 'A' ≤ c ∧ c ≤ 'Z' then Char.ofNat (c.toNat + 32) else c

/-- The rest of a scheme, up to its colon. -/
def schemeRest? (seen : List Char) : List Char → Option (String × List Char)
  | [] => none
  | c :: rest =>
    if c = ':' then some (String.ofList seen.reverse, rest)
    else if isLetter c || isDigit c || c = '+' || c = '-' || c = '.' then
      schemeRest? (lowerCase c :: seen) rest
    else none

/-- The scheme, and what follows its colon. -/
def scheme? : List Char → Option (String × List Char)
  | c :: rest => if isLetter c then schemeRest? [lowerCase c] rest else none
  | [] => none

/-- Ends the part of an address that names the host. -/
def endsAuthority (kind : SchemeKind) (c : Char) : Bool :=
  c = '/' || c = '?' || c = '#' || (c = '\\' && kind ≠ .other)

/-- The user before the last sign `@`, and what follows that sign. -/
def splitUser (authority : List Char) : Option (List Char) × List Char :=
  let host := (authority.reverse.takeWhile (· ≠ '@')).reverse
  if host.length = authority.length then (none, authority)
  else (some (authority.take (authority.length - host.length - 1)), host)

/-- The host up to a colon that is not in brackets, and what follows. -/
def splitHost (bracketed : Bool) : List Char → List Char × List Char
  | [] => ([], [])
  | c :: rest =>
    if c = ':' && !bracketed then ([], c :: rest)
    else
      let (host, number) := splitHost (c = '[' || (bracketed && c ≠ ']')) rest
      (c :: host, number)

/-- A colon and a number below `2 ^ 16`, or only the colon, or nothing. A backslash ends it. -/
def isHostNumber : List Char → Bool
  | [] => true
  | _ :: number =>
    let digits := number.takeWhile (· ≠ '\\')
    let n := digits.foldl (fun n c => n * 10 + (c.toNat - '0'.toNat)) 0
    digits.all isDigit && n < 2 ^ (16 : Nat)

/-- A host in brackets: an address of eight groups. -/
def isBracketed (rest : List Char) : Bool :=
  rest.getLast? = some ']' && HostAddress.isEightGroups rest.dropLast

/-- The bytes of a text, in which `%` and two digits spell one byte. -/
def percentDecoded : List Char → List UInt8
  | '%' :: a :: b :: rest =>
    match HostAddress.hexDigit? a, HostAddress.hexDigit? b with
    | some a, some b => UInt8.ofNat (a * 16 + b) :: percentDecoded rest
    | _, _ => '%'.toString.toUTF8.toList ++ percentDecoded (a :: b :: rest)
  | c :: rest => c.toString.toUTF8.toList ++ percentDecoded rest
  | [] => []

/-- The host of a special scheme: a bracketed address, a name or a numeric address. -/
def isSpecialHost : List Char → Bool
  | '[' :: rest => isBracketed rest
  | host =>
    match String.fromUTF8? (ByteArray.mk (percentDecoded host).toArray) with
    | none => false
    | some text =>
      match HostName.plain? text.toList with
      | none => false
      | some name =>
        !name.isEmpty && (!HostAddress.endsInNumber name || HostAddress.isFourBytes name)

/-- The host of any other scheme. -/
def isOpaqueHost : List Char → Bool
  | '[' :: rest => isBracketed rest
  | host => !host.any fun c => c = '\x00' || " \t\n\r#/:<>?@[\\]^|".toList.contains c

/-- What follows the slashes: perhaps a user, a host, perhaps a number. -/
def isAuthority (kind : SchemeKind) (s : List Char) : Bool :=
  let authority := s.takeWhile fun c => !endsAuthority kind c
  let (user, afterUser) := splitUser authority
  let (host, number) := splitHost false afterUser
  let hasUser := user.any fun u => !u.isEmpty && u ≠ [':']
  let cutShort := user = some [] && afterUser.isEmpty && authority.length < s.length
  !cutShort && isHostNumber number &&
    if host.isEmpty then kind = .other && !hasUser && number.isEmpty
    else if kind = .other then isOpaqueHost host
    else isSpecialHost host

/-- A letter and a colon or bar: a drive, not a host. -/
def isDrive : List Char → Bool
  | [c, d] => isLetter c && (d = ':' || d = '|')
  | _ => false

/-- What follows the scheme of a file. -/
def isFileRest : List Char → Bool
  | a :: b :: rest =>
    if (a = '/' || a = '\\') && (b = '/' || b = '\\') then
      let host := rest.takeWhile fun c => !endsAuthority .file c
      host.isEmpty || isDrive host || isSpecialHost host
    else true
  | _ => true

/-- The text without blanks and controls around it, and without tabs and line ends. -/
def cleaned (s : List Char) : List Char :=
  let blank (c : Char) : Bool := c.toNat ≤ 0x20
  ((s.dropWhile blank).reverse.dropWhile blank).reverse.filter fun c =>
    c ≠ '\t' && c ≠ '\n' && c ≠ '\r'

def isUrl (s : String) : Bool :=
  match scheme? (cleaned s.toList) with
  | none => false
  | some (scheme, rest) =>
    match schemeKind scheme with
    | .file => isFileRest rest
    | .special => isAuthority .special (rest.dropWhile fun c => c = '/' || c = '\\')
    | .other =>
      match rest with
      | '/' :: '/' :: rest => isAuthority .other rest
      | _ => true

end RecordShape.Url
