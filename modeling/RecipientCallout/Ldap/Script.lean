import RecipientCallout.Directory.Entry
import RecipientCallout.Filter.Tree

/-!
# Conversations with a directory server

The requests that a server receives and the replies that it gives. A server is described by the script
of its replies: each request takes the next one.
-/

namespace RecipientCallout.Ldap
open RecipientCallout.Directory

/-- A request as the server receives it. -/
inductive Request where
  | bind (version : Nat) (dn password : String)
  | search (base : String) (scope sizeLimit timeLimit : Nat) (filter : Filter UInt8)
      (attributes : List String)
  | extended (oid : String)
  | unbind
  deriving Repr

/-- The version of the protocol. -/
def protocolVersion : Nat := 3

/-- The scope of a search that takes in everything below its base. -/
def subtreeScope : Nat := 2

/-- The name of the request to encrypt the connection. -/
def startTlsOid : String := "1.3.6.1.4.1.1466.20037"

/-- The outcome of an operation as the server reports it. -/
structure Outcome where
  code : Nat
  matched : String
  text : String
  deriving DecidableEq, Repr

/-- The name of a result code. -/
def codeName (code : Nat) : String :=
  match code with
  | 0 => "success"
  | 1 => "operationsError"
  | 2 => "protocolError"
  | 3 => "timeLimitExceeded"
  | 4 => "sizeLimitExceeded"
  | 5 => "compareFalse"
  | 6 => "compareTrue"
  | 7 => "authMethodNotSupported"
  | 8 => "strongerAuthRequired"
  | 10 => "referral"
  | 11 => "adminLimitExceeded"
  | 12 => "unavailableCriticalExtension"
  | 13 => "confidentialityRequired"
  | 14 => "saslBindInProgress"
  | 16 => "noSuchAttribute"
  | 17 => "undefinedAttributeType"
  | 18 => "inappropriateMatching"
  | 19 => "constraintViolation"
  | 20 => "attributeOrValueExists"
  | 21 => "invalidAttributeSyntax"
  | 32 => "noSuchObject"
  | 33 => "aliasProblem"
  | 34 => "invalidDNSyntax"
  | 36 => "aliasDereferencingProblem"
  | 48 => "inappropriateAuthentication"
  | 49 => "invalidCredentials"
  | 50 => "insufficientAccessRights"
  | 51 => "busy"
  | 52 => "unavailable"
  | 53 => "unwillingToPerform"
  | 54 => "loopDetect"
  | 64 => "namingViolation"
  | 65 => "objectClassViolation"
  | 66 => "notAllowedOnNonLeaf"
  | 67 => "notAllowedOnRDN"
  | 68 => "entryAlreadyExists"
  | 69 => "objectClassModsProhibited"
  | 71 => "affectsMultipleDSAs"
  | 80 => "other"
  | 88 => "abandoned"
  | 122 => "assertionFailed"
  | _ => "unknown"

/-- The wording of an outcome. -/
def Outcome.message (o : Outcome) : String :=
  "LDAP operation result: rc=" ++ toString o.code ++ " (" ++ codeName o.code ++ "), dn: \"" ++
    o.matched ++ "\", text: \"" ++ o.text ++ "\""

/-- An entry as it is sent: values are octets, and a name may occur twice. -/
structure SentEntry where
  dn : String
  attributes : List (String × List ByteArray)

/-- The texts of values, if all of them are text. -/
def textValues? (values : List ByteArray) : Option (List String) :=
  values.mapM String.fromUTF8?

/-- The entry that a client gathers from a sent one: attributes with values that are not text are left
out, and of two with one name the later stands. -/
def SentEntry.gathered (e : SentEntry) : Entry :=
  e.attributes.foldl
    (fun entry (name, values) =>
      match textValues? values with
      | some texts => entry.replace name texts
      | none => entry)
    (Entry.new e.dn)

/-- The entry that a client has of a sent one, with the attributes in an order of its own. -/
def SentEntry.received (arrangement : Arrangement) (e : SentEntry) : Entry :=
  e.gathered.arranged arrangement

/-- How the reply to a search ends. -/
inductive Ending where
  /-- With the outcome. -/
  | outcome
  /-- The server closes the connection instead. -/
  | closed
  /-- Nothing more comes. -/
  | silent
  deriving DecidableEq, Repr

/-- The reply to a request. -/
inductive Reply where
  /-- The entries found (none but for a search), and the outcome unless the reply ends early. -/
  | answer (entries : List SentEntry) (outcome : Outcome) (ending : Ending)
  /-- The server closes the connection. -/
  | close
  /-- The server never answers. -/
  | silent

/-- The reply of a server whose script has ended: success, with nothing found. -/
def Reply.success : Reply := .answer [] ⟨0, "", ""⟩ .outcome

end RecipientCallout.Ldap
