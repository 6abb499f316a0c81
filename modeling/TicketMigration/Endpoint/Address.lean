import TicketMigration.Endpoint.Host
import TicketMigration.Endpoint.Percent
import TicketMigration.Text.Blank
import TicketMigration.Text.Quoted
import TicketMigration.Text.Ranges
import TicketMigration.Text.Scan

/-!
# Addresses

An address has a scheme, an authority, which names the host, and a path.  The remote procedures of
a tracker are found below its own address; with credentials, below another path, and with the
credentials in front of the host.

## Main definitions

* `Address` is an address in its parts, `Address.parse` takes it apart, `Address.text` puts it
  together.
* `procedureUrl` is the address of the remote procedures.
* `isWebScheme` says which schemes they can be reached by.
-/

namespace TicketMigration.Endpoint

open Text

/-- An address in its parts.  What follows the path is of no use here. -/
structure Address where
  /-- The scheme, in small letters. -/
  scheme : List Char
  /-- The host, with what stands before and behind it. -/
  authority : List Char
  /-- The path. -/
  path : List Char
  deriving DecidableEq, Repr

/-- Why a text is no address. -/
inductive AddressFault
  /-- One of the two brackets of a host is missing, or something stands next to them. -/
  | strayBrackets
  /-- A host in brackets that begins with a `v` is not of the form that is kept for it. -/
  | badFutureHost
  /-- A number with points is in brackets. -/
  | bracketedIPv4
  /-- A host in brackets is no number. -/
  | badHost (host : List Char)
  /-- The authority has a character that some readers take for one that ends it. -/
  | lookalike (authority : List Char)
  deriving DecidableEq, Repr

/-- The text of a fault. -/
def AddressFault.message : AddressFault → String
  | strayBrackets => "Invalid IPv6 URL"
  | badFutureHost => "IPvFuture address is invalid"
  | bracketedIPv4 => "An IPv4 address cannot be in brackets"
  | badHost host =>
    String.ofList (quoted host) ++ " does not appear to be an IPv4 or IPv6 address"
  | lookalike authority =>
    "netloc '" ++ String.ofList authority ++
      "' contains invalid characters under NFKC normalization"

/-- Whether the character may follow the first letter of a scheme. -/
def isSchemeChar (c : Char) : Bool :=
  c.isAlphanum || c == '+' || c == '-' || c == '.'

/-- Whether the character is a control or a space. -/
def isControlOrSpace (c : Char) : Bool :=
  c.toNat ≤ 32

/-- Whether the character ends an authority. -/
def endsAuthority (c : Char) : Bool :=
  c == '/' || c == '?' || c == '#'

/-- The code points that are not ASCII and are equivalent to a text with one of the characters
that divide an address. -/
def lookalikeRanges : List (Nat × Nat) :=
  [(8263, 8265), (8448, 8449), (8453, 8454), (10868, 10868), (65043, 65043), (65046, 65046),
    (65109, 65110), (65119, 65119), (65131, 65131), (65283, 65283), (65295, 65295),
    (65306, 65306), (65311, 65312)]

/-- Drops controls and spaces in front, and tabs and line ends everywhere. -/
def cleaned (s : List Char) : List Char :=
  (s.dropWhile isControlOrSpace).filter fun c => c != '\t' && c != '\r' && c != '\n'

/-- The scheme in front of a text, in small letters, and what follows its colon.  A text without a
scheme is all rest. -/
def splitScheme (s : List Char) : List Char × List Char :=
  match s with
  | [] => ([], [])
  | c :: _ =>
    match s.dropWhile isSchemeChar with
    | ':' :: rest =>
      if c.isAlpha then ((s.takeWhile isSchemeChar).map Char.toLower, rest) else ([], s)
    | _ => ([], s)

/-- What an authority says behind the user and the password. -/
def location (authority : List Char) : List Char :=
  ((splitOn '@' authority).getLast?).getD []

/-- The host of a location.  Brackets around it have nothing before them, and nothing but a port
behind them. -/
def hostOf (location : List Char) : Except AddressFault (List Char) :=
  match location.dropWhile (· != '[') with
  | _ :: inside =>
    let port := (inside.dropWhile (· != ']')).drop 1
    if location.head? != some '[' || !(port.isEmpty || port.head? == some ':') then
      .error .strayBrackets
    else .ok (inside.takeWhile (· != ']'))
  | [] => .ok (location.takeWhile (· != ':'))

/-- Checks that a host may be in brackets. -/
def checkHost (host : List Char) : Except AddressFault Unit :=
  if host.head? = some 'v' then
    if isFutureHost host then .ok () else .error .badFutureHost
  else if isIPv4 host then .error .bracketedIPv4
  else if isIPv6 host then .ok ()
  else .error (.badHost host)

/-- Checks the host of an authority that has brackets anywhere. -/
def checkBrackets (authority : List Char) : Except AddressFault Unit :=
  match authority.contains '[', authority.contains ']' with
  | false, false => .ok ()
  | true, true => hostOf (location authority) >>= checkHost
  | _, _ => .error .strayBrackets

/-- Checks that no character of an authority is equivalent to one that would end it. -/
def checkLookalikes (authority : List Char) : Except AddressFault Unit :=
  if authority.any fun c => within lookalikeRanges c.toNat then .error (.lookalike authority)
  else .ok ()

namespace Address

/-- Takes an address apart. -/
def parse (s : List Char) : Except AddressFault Address :=
  let (scheme, rest) := splitScheme (cleaned s)
  let (authority, rest) :=
    match after? ['/', '/'] rest with
    | some tail => (tail.takeWhile (!endsAuthority ·), tail.dropWhile (!endsAuthority ·))
    | none => ([], rest)
  match checkBrackets authority, checkLookalikes authority with
  | .error fault, _ => .error fault
  | .ok _, .error fault => .error fault
  | .ok _, .ok _ =>
    .ok { scheme, authority, path := rest.takeWhile fun c => c != '?' && c != '#' }

/-- Puts an address with an authority together.  Its path begins with a slash. -/
def text (address : Address) : List Char :=
  (if address.scheme.isEmpty then [] else address.scheme ++ [':']) ++
    '/' :: '/' :: address.authority ++
      (if address.path.head? = some '/' then address.path else '/' :: address.path)

end Address

/-- The address of the remote procedures of the tracker at an address.  With a user name, the user
and the password go in front of the host, encoded so that they cannot be taken for a part of it. -/
def procedureUrl (url : String) (username password : Option String) : Except AddressFault String :=
  let base := (dropTrailing '/' url).toList
  match username.filter fun name => !name.isEmpty with
  | none => .ok (String.ofList (base ++ "/xmlrpc".toList))
  | some username =>
    (Address.parse base).map fun address =>
      String.ofList
        { address with
          authority :=
            encodeComponent username ++ ':' :: encodeComponent (password.getD "") ++
              '@' :: address.authority
          path := address.path ++ "/login/xmlrpc".toList : Address }.text

/-- Whether remote procedures can be called by way of the scheme. -/
def isWebScheme (scheme : List Char) : Bool :=
  scheme == "http".toList || scheme == "https".toList

end TicketMigration.Endpoint
