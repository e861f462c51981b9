import PromptTree.Text.Quoted
import PromptTree.Text.Split
import PromptTree.Text.Blank
import PromptTree.Text.Letter
import PromptTree.Text.Digit
import PromptTree.Text.Ranges

/-!
Addresses of services: their parts, and the user and password that may stand in them.
-/

namespace PromptTree

/-- An address in parts. -/
structure Uri where
  scheme : String
  /-- The user, the host and the number after it. -/
  authority : String
  path : String
  query : String
  fragment : String
deriving DecidableEq, Repr

namespace Uri

inductive Fault where
  | unpairedBracket
  | futureHost
  | plainHostInBrackets
  | unknownHost (host : String)
  /-- The authority holds letters that stand for marks of an address. -/
  | ambiguousAuthority (authority : String)
  | portNotNumber (text : String)
  | portTooLarge
deriving DecidableEq, Repr

def Fault.message : Fault → String
  | unpairedBracket => "Invalid IPv6 URL"
  | futureHost => "IPvFuture address is invalid"
  | plainHostInBrackets => "An IPv4 address cannot be in brackets"
  | unknownHost host => s!"{Text.quoted host} does not appear to be an IPv4 or IPv6 address"
  | ambiguousAuthority authority =>
    s!"netloc '{authority}' contains invalid characters under NFKC normalization"
  | portNotNumber text => s!"Port could not be cast to integer value as {Text.quoted text}"
  | portTooLarge => "Port out of range 0-65535"

/-! ### Hosts in brackets -/

def isHexDigit (c : Char) : Bool :=
  c.isDigit || ('a' ≤ c && c ≤ 'f') || ('A' ≤ c && c ≤ 'F')

def isByte (cs : List Char) : Bool :=
  !cs.isEmpty && cs.length ≤ 3 && cs.all Char.isDigit && (cs.length = 1 || cs.head? ≠ some '0') &&
    Text.numberOfDigits 10 (cs.map fun c => c.toNat - 48) ≤ 255

def isFourBytes (cs : List Char) : Bool :=
  let parts := Text.splitOn '.' cs
  parts.length = 4 && parts.all isByte

def isGroup (cs : List Char) : Bool :=
  !cs.isEmpty && cs.length ≤ 4 && cs.all isHexDigit

/-- The text is an address of eight groups; an empty group may stand for groups of zeros, and the last
two groups may be an address of four numbers. -/
def isEightGroups (cs : List Char) : Bool :=
  let parts := Text.splitOn ':' cs
  let last := parts.getLast?.getD []
  let mapped := '.' ∈ last
  let parts := if mapped then parts.dropLast ++ [['0'], ['0']] else parts
  let first := parts.head?.getD []
  let last' := parts.getLast?.getD []
  let inner := (parts.drop 1).dropLast
  let gaps := inner.filter (·.isEmpty)
  let low := parts.length - 1 - (inner.findIdx (·.isEmpty) + 1)
  let high := inner.findIdx (·.isEmpty) + 1
  (!mapped || isFourBytes last) && (if mapped then 4 else 3) ≤ parts.length && parts.length ≤ 9 &&
    match gaps.length with
    | 0 => parts.length = 8 && parts.all isGroup
    | 1 =>
      (!first.isEmpty || high = 1) && (!last'.isEmpty || low = 1) &&
        (parts.filter (!·.isEmpty)).length < 8 && (parts.filter (!·.isEmpty)).all isGroup
    | _ => false

/-- The text is an address of eight groups, with the name of a zone or without. -/
def isZonedHost (cs : List Char) : Bool :=
  match Text.cutAt '%' cs with
  | (host, none) => isEightGroups host
  | (host, some zone) => !zone.isEmpty && '%' ∉ zone && isEightGroups host

def checkHost (host : List Char) : Except Fault Unit :=
  match host with
  | 'v' :: rest =>
    match Text.cutAt '.' rest with
    | (digits, some more) =>
      if !digits.isEmpty && digits.all isHexDigit && !more.isEmpty && '\n' ∉ more then .ok ()
      else .error .futureHost
    | (_, none) => .error .futureHost
  | host =>
    if isFourBytes host then .error .plainHostInBrackets
    else if '/' ∉ host && isZonedHost host then .ok ()
    else .error (.unknownHost (.ofList host))

/-! ### Reading and writing -/

/-- Letters that stand for marks of an address, or for texts with one. -/
def ambiguous : List (Nat × Nat) :=
  [(0x2047, 0x2049), (0x2100, 0x2101), (0x2105, 0x2106), (0x2A74, 0x2A74), (0xFE13, 0xFE13),
   (0xFE16, 0xFE16), (0xFE55, 0xFE56), (0xFE5F, 0xFE5F), (0xFE6B, 0xFE6B), (0xFF03, 0xFF03),
   (0xFF0F, 0xFF0F), (0xFF1A, 0xFF1A), (0xFF1F, 0xFF20)]

/-- What stands before the last `@` of an authority, and what stands after it. -/
def cutUser (authority : List Char) : Option (List Char) × List Char :=
  match Text.cutAt '@' authority.reverse with
  | (place, some user) => (some user.reverse, place.reverse)
  | (place, none) => (none, place.reverse)

/-- The host of an authority that has brackets somewhere. Those of the host have nothing before them, and
at most a number behind them. -/
def bracketedHost (place : List Char) : Except Fault (List Char) :=
  match Text.cutAt '[' place with
  | (lead, some bracketed) =>
    let (name, rest) := Text.cutAt ']' bracketed
    if lead.isEmpty && (rest.getD []).head?.all (· = ':') then .ok name else .error .unpairedBracket
  | (_, none) => .ok (Text.cutAt ':' place).1

def checkAuthority (authority : List Char) : Except Fault Unit := do
  if ('[' ∈ authority) != (']' ∈ authority) then throw .unpairedBracket
  if '[' ∈ authority then checkHost (← bracketedHost (cutUser authority).2)
  if authority.any (Text.inRanges ambiguous) then throw (.ambiguousAuthority (.ofList authority))

def isSchemeChar (c : Char) : Bool := c.isAlphanum || c = '+' || c = '-' || c = '.'

/-- The scheme before the first colon, if there is one, and the rest. -/
def cutScheme (cs : List Char) : List Char × List Char :=
  match Text.cutAt ':' cs with
  | (scheme, some rest) =>
    if scheme.head?.any Char.isAlpha && scheme.all isSchemeChar then (scheme.map Char.toLower, rest)
    else ([], cs)
  | (_, none) => ([], cs)

/-- Blanks and control characters before an address and line ends and tabs in it are left out. -/
def clean (cs : List Char) : List Char :=
  (cs.dropWhile fun c => c.toNat ≤ 0x20).filter fun c => c ≠ '\t' && c ≠ '\r' && c ≠ '\n'

def read (text : String) : Except Fault Uri := do
  let (scheme, rest) := cutScheme (clean text.toList)
  let isHostChar (c : Char) : Bool := c ≠ '/' && c ≠ '?' && c ≠ '#'
  let (authority, rest) := match rest with
    | '/' :: '/' :: rest => (rest.takeWhile isHostChar, rest.dropWhile isHostChar)
    | rest => ([], rest)
  checkAuthority authority
  let (rest, fragment) := Text.cutAt '#' rest
  let (path, query) := Text.cutAt '?' rest
  return ⟨.ofList scheme, .ofList authority, .ofList path, .ofList (query.getD []),
    .ofList (fragment.getD [])⟩

def schemesWithAuthority : List String :=
  ["ftp", "http", "gopher", "nntp", "telnet", "imap", "wais", "file", "mms", "https", "shttp", "snews",
   "prospero", "rtsp", "rtsps", "rtspu", "rsync", "svn", "svn+ssh", "sftp", "nfs", "git", "git+ssh", "ws", "wss"]

def text (u : Uri) : String :=
  let path :=
    if !u.authority.isEmpty || schemesWithAuthority.contains u.scheme || u.path.startsWith "//" then
      "//" ++ u.authority ++
        (if !u.path.isEmpty && !u.path.startsWith "/" then "/" ++ u.path else u.path)
    else u.path
  (if u.scheme.isEmpty then "" else u.scheme ++ ":") ++ path ++
    (if u.query.isEmpty then "" else "?" ++ u.query) ++
    (if u.fragment.isEmpty then "" else "#" ++ u.fragment)

/-! ### Parts of the authority -/

def userAndHost (u : Uri) : Option (List Char) × List Char :=
  cutUser u.authority.toList

def credentials? (u : Uri) : Option (String × String) :=
  match u.userAndHost.1.map (Text.cutAt ':') with
  | some (user, some password) =>
    if user.isEmpty || password.isEmpty then none else some (.ofList user, .ofList password)
  | _ => none

def hostAndPort (u : Uri) : List Char × List Char :=
  let host := u.userAndHost.2
  match Text.cutAt '[' host with
  | (_, some bracketed) =>
    let (name, rest) := Text.cutAt ']' bracketed
    (name, ((Text.cutAt ':' (rest.getD [])).2).getD [])
  | (_, none) =>
    let (name, number) := Text.cutAt ':' host
    (name, number.getD [])

def host (u : Uri) : String :=
  match Text.cutAt '%' u.hostAndPort.1 with
  | (name, some zone) => Text.lower (.ofList name) ++ "%" ++ .ofList zone
  | (name, none) => Text.lower (.ofList name)

def portNumber (u : Uri) : Except Fault (Option Nat) :=
  let digits := u.hostAndPort.2
  if digits.isEmpty then .ok none
  else if digits.all Char.isDigit then
    let n := Text.numberOfDigits 10 (digits.map fun c => c.toNat - 48)
    if n ≤ 65535 then .ok (some n) else .error .portTooLarge
  else .error (.portNotNumber (.ofList digits))

/-- An address without user and password, and the two if it had both. Otherwise the text stays as it
is. -/
def splitCredentials (text : String) : Except Fault (String × Option (String × String)) := do
  let u ← read text
  match u.credentials? with
  | none => return (text, none)
  | some credentials =>
    -- The host stands here without its brackets, and the number 0 is taken for none.
    let authority := match ← u.portNumber with
      | some n => if n = 0 then u.host else s!"{u.host}:{n}"
      | none => u.host
    return ({ u with authority }.text, some credentials)

end Uri

end PromptTree
