import RecipientCallout.Directory.Service
import RecipientCallout.Ldap.Script
import RecipientCallout.Ldap.Url

/-!
# The directory client

The directory service over a connection to a server that follows a script. Each request that is sent
takes the next reply; a connection that the server has closed stays lost, and nothing is sent on it. A
server that stays silent lets the client time out, after which the session goes on.

Which hosts lead to the server is up to the network, and in which order the attributes of an entry are
kept is up to the client. Both are left open: a link has any of them.
-/

namespace RecipientCallout.Ldap
open RecipientCallout.Directory

/-- What an attempt to reach a host at a port leads to. -/
inductive Reach where
  /-- A connection to the server. -/
  | server
  /-- No connection, for a reason. -/
  | failed (reason : String)
  /-- Nothing in time. -/
  | silent
  deriving DecidableEq, Repr

/-- What hosts and ports lead to. That a host may have to be looked up by its name is part of it. -/
abbrev Network := (host : String) → (port : Nat) → Reach

/-- The reason where nothing listens at a port. -/
def refused : String := "I/O error: Connection refused (os error 111)"

/-- A network where nothing listens anywhere. -/
def Network.deserted : Network := fun _ _ => .failed refused

/-- A network where nothing listens but the server, at one port of the client's own machine. Hosts are told
from that machine by its two usual names, so it stands in where these are used. -/
def Network.loopback (port : Nat) : Network := fun host asked =>
  if (host = "127.0.0.1" ∨ host = "localhost") ∧ asked = port then .server else .failed refused

/-- A server, what it has received, and the client's connection to it. -/
structure Link where
  /-- What hosts and ports lead to. -/
  network : Network
  /-- The order in which the client keeps attributes. -/
  arrangement : Arrangement
  /-- The replies that the server has still to give. -/
  replies : List Reply
  /-- The requests that the server has received. -/
  received : List Request
  /-- The name of the server that the connection was opened to. -/
  endpoint : String
  /-- Whether the connection is lost. -/
  lost : Bool

namespace Link

/-- A server with a script, not yet connected to. -/
def serving (network : Network) (arrangement : Arrangement) (replies : List Reply) : Link :=
  ⟨network, arrangement, replies, [], "", true⟩

/-- No server at all. -/
def unreachable : Link := serving .deserted .asSet []

/-- Sends a request and takes the next reply. -/
def exchange (link : Link) (request : Request) : Reply × Link :=
  (link.replies.headD .success,
    { link with replies := link.replies.tail, received := link.received ++ [request] })

/-- The link after the server has closed the connection. -/
def lose (link : Link) : Link := { link with lost := true }

/-- What an attempt to reach the server at an address leads to. -/
def reach (link : Link) (target : Target) (defaultPort : Nat) : Reach :=
  link.network target.hostName (target.port.getD defaultPort)

end Link

/-- The reason where the connection cannot be encrypted. -/
def unencrypted : String := "TLS handshake failed"

/-- The reason where a request cannot be sent on a lost connection. -/
def sendFailed : String := "op send error: channel closed"

/-- The reason where the connection is lost before the reply. -/
def receiveFailed : String := "result recv error: channel closed"

/-- The reason where the connection is lost before a search has ended. -/
def searchCut : String := "premature end of search stream"

/-- The reason where a filter cannot be read. -/
def filterInvalid : String := "filter parse error"

/-- Asks for encryption on a new connection. -/
def startTls (endpoint : String) (link : Link) : Result Link Unit :=
  match link.exchange (.extended startTlsOid) with
  | (.answer _ outcome _, link) =>
    (.error (.connection endpoint (if outcome.code = 0 then unencrypted else outcome.message)),
      link.lose)
  | (.close, link) => (.error (.timeout .connect), link.lose)
  | (.silent, link) => (.error (.timeout .connect), link.lose)

/-- Opens a connection to the server. -/
def connect (settings : Settings) (link : Link) : Result Link Unit :=
  match Target.parse settings.endpoint.toList with
  | .error e => (.error (.connection settings.endpoint ("url parse error: " ++ e.message)), link)
  | .ok target =>
    match link.reach target settings.transport.defaultPort.toNat with
    | .failed reason => (.error (.connection settings.endpoint reason), link)
    | .silent => (.error (.timeout .connect), link)
    | .server =>
      match settings.transport with
      | .plain => (.ok (), { link with endpoint := settings.endpoint, lost := false })
      | .startTls => startTls settings.endpoint link
      | .ldaps => (.error (.connection settings.endpoint unencrypted), link)

/-- Authenticates with a name and a password. -/
def bind (dn password : String) (link : Link) : Result Link Unit :=
  if link.lost then (.error (.connection dn sendFailed), link)
  else
    match link.exchange (.bind protocolVersion dn password) with
    | (.answer _ outcome _, link) =>
      if outcome.code = 0 then (.ok (), link) else (.error (.auth dn outcome.message), link)
    | (.close, link) => (.error (.connection dn receiveFailed), link.lose)
    | (.silent, link) => (.error (.timeout .bind), link)

/-- Searches below a base. A filter that cannot be read is not sent. -/
def search (base filter : String) (attributes : List String) (link : Link) :
    Result Link (List Entry) :=
  match Filter.parse? filter with
  | none => (.error (.query base filterInvalid), link)
  | some filter =>
    if link.lost then (.error (.connection base sendFailed), link)
    else
      match link.exchange (.search base subtreeScope 0 0 filter attributes) with
      | (.answer entries outcome .outcome, link) =>
        if outcome.code = 0 then (.ok (entries.map (SentEntry.received link.arrangement)), link)
        else (.error (.query base outcome.message), link)
      | (.answer _ _ .closed, link) | (.close, link) =>
        (.error (.connection base searchCut), link.lose)
      | (.answer _ _ .silent, link) | (.silent, link) => (.error (.timeout .search), link)

/-- Ends the session; the server is told and does not reply. -/
def unbind (link : Link) : Result Link Unit :=
  if link.lost then (.error (.connection link.endpoint sendFailed), link)
  else (.ok (), { link with received := link.received ++ [.unbind], lost := true })

/-- The directory service over links. -/
def service : Service Link where
  connect := connect
  bind := bind
  search := search
  unbind := unbind

end RecipientCallout.Ldap
