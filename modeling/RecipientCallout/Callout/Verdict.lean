import RecipientCallout.Directory.Failure
import RecipientCallout.Domain.Match
import RecipientCallout.Recipient

/-!
# Verdicts

What the relay may ask, what a lookup may find, and the verdict that follows. A lookup is made only for
a recipient whose address splits and whose domain is accepted, so that version queries and malformed
addresses never reach a directory.
-/

namespace RecipientCallout

/-- What the relay asks for. -/
inductive Invocation where
  | version
  /-- A recipient address, and further fields that the relay adds. -/
  | verify (address : String) (context : List String)
  deriving DecidableEq, Repr

/-- What a lookup of a recipient comes to. -/
inductive Lookup where
  | found (mailbox : String)
  | notFound
  | failed (failure : Directory.Failure)
  deriving DecidableEq, Repr

/-- The answer to an invocation. -/
inductive Verdict where
  | accepted (mailbox : String)
  | malformed (address : String)
  | unknownMailbox (address : String)
  | temporaryFailure (reason : String)
  | versionQuery
  | usageError (reason : String)
  deriving DecidableEq, Repr

/-- Whether the relay should try again later rather than reject the recipient. -/
def Verdict.isTemporary : Verdict → Bool
  | .temporaryFailure _ | .usageError _ => true
  | _ => false

/-- The verdict on an address that was looked up. -/
def Verdict.ofLookup (address : String) : Lookup → Verdict
  | .found mailbox => .accepted mailbox
  | .notFound => .unknownMailbox address
  | .failed failure => .temporaryFailure failure.message

/-- The domain that recipients must belong to. -/
structure AcceptedDomain where
  name : String
  comparison : Domain.Comparison
  deriving DecidableEq, Repr

namespace AcceptedDomain

/-- The recipient that an address stands for, if it belongs to the domain. -/
def recipient? (domain : AcceptedDomain) (address : String) : Option Recipient :=
  match Recipient.parse address with
  | .error _ => none
  | .ok recipient =>
    if Domain.isMatch domain.comparison recipient.domain domain.name then some recipient else none

/-- The verdict on an invocation. The lookup runs on a state, which nothing else changes. -/
def decide {σ : Type} (domain : AcceptedDomain) (lookup : Recipient → σ → Lookup × σ)
    (invocation : Invocation) (state : σ) : Verdict × σ :=
  match invocation with
  | .version => (.versionQuery, state)
  | .verify address _ =>
    match domain.recipient? address with
    | none => (.malformed address, state)
    | some recipient =>
      let (result, state) := lookup recipient state
      (.ofLookup address result, state)

end AcceptedDomain
end RecipientCallout
