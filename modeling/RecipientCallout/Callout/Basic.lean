import RecipientCallout.Callout.Response
import RecipientCallout.Config.Decode
import RecipientCallout.Directory.Service

/-!
# The callout

A callout is a valid configuration with its password at hand. It looks a recipient up by opening a
session, authenticating, searching the users and, unless exactly one was found, the public folders; the
session is ended whatever happened in it.
-/

namespace RecipientCallout
open RecipientCallout.Directory (Service Entry Failure)

/-- A callout that is ready to verify recipients. -/
structure Callout where
  domain : AcceptedDomain
  settings : Directory.Settings
  bindDn : String
  bindPassword : String
  userSearchBase : String
  folderSearchBase : String
  userTemplate : Filter.Template
  folderTemplate : Filter.Template
  proxyPrefix : String
  mailAttribute : String
  acceptMode : AcceptMode

namespace Callout

/-- The callout of a configuration. -/
def ofConfig (store : Files.Store) (c : Config) : Except Config.Fault Callout := do
  c.validate
  let bindPassword ← c.password store
  let userTemplate ← c.userTemplate
  let folderTemplate ← c.folderTemplate
  pure
    { domain := ⟨c.acceptedDomain, c.domainMatch⟩
      settings := c.directorySettings
      bindDn := c.bindDn
      userSearchBase := c.userSearchBase
      folderSearchBase := c.folderSearchBase
      proxyPrefix := c.proxyPrefix
      mailAttribute := c.mailAttribute
      acceptMode := c.acceptMode
      bindPassword, userTemplate, folderTemplate }

variable {σ : Type}

/-- The mailbox of the only entry of a search result: the first value of the mail attribute, or else
the address that was asked for. -/
def mailbox? (callout : Callout) (recipient : Recipient) : List Entry → Option String
  | [entry] => some ((entry.firstValue? callout.mailAttribute).getD recipient.address)
  | _ => none

/-- The value that entries are searched by. -/
def proxyAddress (callout : Callout) (recipient : Recipient) : String :=
  callout.proxyPrefix ++ recipient.address

/-- Searches the users in an open session, and then the folders. -/
def search (callout : Callout) (service : Service σ) (recipient : Recipient) (state : σ) :
    Except Failure (Option String) × σ :=
  let value := callout.proxyAddress recipient
  let attributes := [callout.mailAttribute]
  match service.search callout.userSearchBase (callout.userTemplate.fill value) attributes state with
  | (.error failure, state) => (.error failure, state)
  | (.ok users, state) =>
    match callout.mailbox? recipient users with
    | some mailbox => (.ok (some mailbox), state)
    | none =>
      match service.search callout.folderSearchBase (callout.folderTemplate.fill value) attributes
          state with
      | (.error failure, state) => (.error failure, state)
      | (.ok folders, state) => (.ok (callout.mailbox? recipient folders), state)

/-- Authenticates in an open session and searches. -/
def find (callout : Callout) (service : Service σ) (recipient : Recipient) (state : σ) :
    Except Failure (Option String) × σ :=
  match service.bind callout.bindDn callout.bindPassword state with
  | (.error failure, state) => (.error failure, state)
  | (.ok (), state) => callout.search service recipient state

/-- Looks a recipient up in a session of its own. Whether the session ends well makes no difference. -/
def lookup (callout : Callout) (service : Service σ) (recipient : Recipient) (state : σ) :
    Lookup × σ :=
  match service.connect callout.settings state with
  | (.error failure, state) => (.failed failure, state)
  | (.ok (), state) =>
    let (result, state) := callout.find service recipient state
    let (_, state) := service.unbind state
    match result with
    | .error failure => (.failed failure, state)
    | .ok none => (.notFound, state)
    | .ok (some mailbox) => (.found mailbox, state)

/-- The verdict on an invocation. -/
def run (callout : Callout) (service : Service σ) (invocation : Invocation) (state : σ) :
    Verdict × σ :=
  callout.domain.decide (callout.lookup service) invocation state

/-- The response to an invocation. -/
def respond (callout : Callout) (service : Service σ) (invocation : Invocation) (state : σ) :
    Response × σ :=
  let (verdict, state) := callout.run service invocation state
  (.ofVerdict callout.acceptMode verdict, state)

end Callout
end RecipientCallout
