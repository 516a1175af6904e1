/-!
# Directory settings

What is needed to reach one directory server, and the names of the server that messages show.
-/

namespace RecipientCallout.Directory

/-- How the connection to the directory is protected. -/
inductive Transport where
  /-- Encrypted from the first octet. -/
  | ldaps
  /-- Begun in the clear and encrypted before anything else is sent. -/
  | startTls
  /-- Not protected at all. -/
  | plain
  deriving DecidableEq, Repr

/-- Encryption from the first octet is the default. -/
instance : Inhabited Transport := ⟨.ldaps⟩

/-- The port that servers listen on by convention. -/
def Transport.defaultPort : Transport → UInt16
  | .ldaps => 636
  | .startTls | .plain => 389

/-- Where a directory server is and how to talk to it. -/
structure Settings where
  host : String
  port : UInt16
  transport : Transport
  allowInvalidCerts : Bool
  timeoutSeconds : Nat
  deriving DecidableEq, Repr

namespace Settings

/-- A host name as it stands before a port: numeric addresses with colons go into brackets. -/
def bracketed (host : List Char) : List Char :=
  if ':' ∈ host ∧ host.head? ≠ some '[' then '[' :: host ++ [']'] else host

/-- Host and port of the server. -/
def endpoint (s : Settings) : String :=
  String.ofList (bracketed s.host.toList ++ ':' :: Nat.toDigits 10 s.port.toNat)

/-- The scheme of the server's address. -/
def scheme (s : Settings) : String :=
  match s.transport with
  | .ldaps => "ldaps"
  | .startTls | .plain => "ldap"

/-- The address of the server. -/
def url (s : Settings) : String := s.scheme ++ "://" ++ s.endpoint

end Settings
end RecipientCallout.Directory
