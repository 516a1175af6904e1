/-!
# Server addresses

What the address of a server has to look like before it is connected to, and which host and port it
names. Only the part between the two slashes and the next one matters; what stands before an `@` in it
is no part of the host.
-/

namespace RecipientCallout.Ldap

/-- Why an address names no server. -/
inductive UrlError where
  | emptyHost
  | invalidIpv6
  | invalidCharacter
  | invalidPort
  deriving DecidableEq, Repr

/-- The wording of an address error. -/
def UrlError.message : UrlError → String
  | .emptyHost => "empty host"
  | .invalidIpv6 => "invalid IPv6 address"
  | .invalidCharacter => "invalid domain character"
  | .invalidPort => "invalid port number"

/-- The server that an address names; parts that are left out take a default. -/
structure Target where
  host : String
  port : Option Nat
  deriving DecidableEq, Repr

namespace Target

/-- The host that is connected to: an address that names none means this machine. -/
def hostName (t : Target) : String := if t.host = "" then "localhost" else t.host

/-- Characters that end the authority of an address. -/
def endsAuthority (c : Char) : Bool := c = '/' || c = '?' || c = '#'

/-- Characters that no host name may hold. -/
def isForbidden (c : Char) : Bool :=
  "\x00\t\n\r #/:<>?@[\\]^|".toList.contains c

/-- Reads a decimal number of at most 255 without leading zeros. -/
def readOctet? : Option Nat → List Char → Option (List Char)
  | none, [] => none
  | some _, [] => some []
  | value, c :: cs =>
    if c.isDigit then
      let digit := c.toNat - 48
      match value with
      | none => readOctet? (some digit) cs
      | some 0 => none
      | some n => if 10 * n + digit ≤ 255 then readOctet? (some (10 * n + digit)) cs else none
    else value.map fun _ => c :: cs

/-- Whether a text is `count` dotted decimal numbers. -/
def isDotted : Nat → List Char → Bool
  | 0, _ => false
  | 1, cs => readOctet? none cs == some []
  | count + 1, cs =>
    match readOctet? none cs with
    | some ('.' :: rest) => isDotted count rest
    | _ => false

/-- Whether `cs` completes a numeric address of which `pieces` of eight are there, some of them left
out if `compressed`. The last two pieces may be written in dotted decimal. -/
def isIpv6From : Nat → Nat → Bool → List Char → Bool
  | 0, _, _, _ => false
  | fuel + 1, pieces, compressed, cs =>
    match cs with
    | [] => compressed || pieces == 8
    | c :: rest =>
      if pieces = 8 then false
      else if c = ':' then !compressed && isIpv6From fuel (pieces + 1) true rest
      else
        let digits := (cs.take 4).takeWhile fun c =>
          c.isDigit || ('a' ≤ c && c ≤ 'f') || ('A' ≤ c && c ≤ 'F')
        match cs.drop digits.length with
        | [] => isIpv6From fuel (pieces + 1) compressed []
        | '.' :: _ =>
          digits != [] && decide (pieces ≤ 6) && isDotted 4 cs &&
            isIpv6From fuel (pieces + 2) compressed []
        | ':' :: [] => false
        | ':' :: rest => isIpv6From fuel (pieces + 1) compressed rest
        | _ => false

/-- Whether a text is a numeric address of the sixth version. -/
def isIpv6 : List Char → Bool
  | ':' :: ':' :: rest => isIpv6From (rest.length + 2) 1 true rest
  | ':' :: _ => false
  | cs => isIpv6From (cs.length + 2) 0 false cs

/-- The host at the start of an authority and what follows it; a colon inside brackets belongs to the
host. -/
def splitHost (inside : Bool) : List Char → List Char × List Char
  | [] => ([], [])
  | c :: cs =>
    if (c = ':' && !inside) || endsAuthority c then ([], c :: cs)
    else
      let inside := if c = '[' then true else if c = ']' then false else inside
      let (host, rest) := splitHost inside cs
      (c :: host, rest)

/-- Checks a host. -/
def checkHost (host : List Char) : Except UrlError Unit :=
  match host with
  | '[' :: address =>
    if address.getLast? = some ']' ∧ isIpv6 address.dropLast then .ok () else .error .invalidIpv6
  | host => if host.any isForbidden then .error .invalidCharacter else .ok ()

/-- Reads a port onto the digits before it. -/
def readPort : Option Nat → List Char → Except UrlError (Option Nat)
  | port, [] => .ok port
  | port, c :: cs =>
    if c.isDigit then
      let port := 10 * port.getD 0 + (c.toNat - 48)
      if port ≤ 65535 then readPort (some port) cs else .error .invalidPort
    else if endsAuthority c || c = '\\' then .ok port
    else .error .invalidPort

/-- Takes what stands before the last `@` of an authority off it; tells whether that was a name or a
password. -/
def dropUser (authority : List Char) : Bool × List Char :=
  match authority.reverse.dropWhile (· ≠ '@') with
  | [] => (false, authority)
  | _ :: user =>
    (user ≠ [] && user ≠ [':'], (authority.reverse.takeWhile (· ≠ '@')).reverse)

/-- The server that the text behind the scheme and the two slashes of an address names. -/
def parse (text : List Char) : Except UrlError Target :=
  let text := text.filter fun c => c ≠ '\t' ∧ c ≠ '\n' ∧ c ≠ '\r'
  let authority := text.takeWhile (!endsAuthority ·)
  let rest := text.dropWhile (!endsAuthority ·)
  let (named, server) := dropUser authority
  if authority = ['@'] ∧ rest ≠ [] then .error .emptyHost
  else
    let (host, afterHost) := splitHost false (server ++ rest)
    match checkHost host with
    | .error e => .error e
    | .ok () =>
      if host = [] ∧ (afterHost.head? = some ':' ∨ named) then .error .emptyHost
      else
        match afterHost with
        | ':' :: digits => (readPort none digits).map (⟨String.ofList host, ·⟩)
        | _ => .ok ⟨String.ofList host, none⟩

end Target
end RecipientCallout.Ldap
