import Mathlib.Tactic.Lemma
import RecipientCallout.Ldap.Client
import RecipientCallout.Proofs.Callout.Configured
import RecipientCallout.Proofs.Callout.Session

/-!
# Conversations of a callout with a server

What a run over an unprotected connection makes of the replies of a server. A reply is reduced to what
counts of it: whether it grants an authentication, and the entries of a search that has ended well. Each
operation of the client has two lemmas, one for a reply that will do and one for any other.

The headline `run_conversation` gives the verdict and the requests of a run by its first three replies:
no time-out, lost connection, failed operation or broken list of entries leads to an acceptance or to a
rejection.
-/

namespace RecipientCallout.Ldap
open RecipientCallout.Directory (Entry Failure Settings)

namespace Reply

/-- What a reply makes of an authentication. -/
def bound (dn : String) : Reply → Except Failure Unit
  | .answer _ outcome _ =>
    if outcome.code = 0 then .ok () else .error (.auth dn outcome.message)
  | .close => .error (.connection dn receiveFailed)
  | .silent => .error (.timeout .bind)

/-- What a reply makes of a search. -/
def searched (base : String) : Reply → Except Failure (List SentEntry)
  | .answer entries outcome .outcome =>
    if outcome.code = 0 then .ok entries else .error (.query base outcome.message)
  | .answer _ _ .closed | .close => .error (.connection base searchCut)
  | .answer _ _ .silent | .silent => .error (.timeout .search)

/-- Whether a reply grants an authentication: its outcome is success. -/
def grants : Reply → Bool
  | .answer _ outcome _ => outcome.code = 0
  | .close | .silent => false

/-- The entries of a search that ended with success. What came before any other end does not count. -/
def found? : Reply → Option (List SentEntry)
  | .answer entries outcome .outcome => if outcome.code = 0 then some entries else none
  | .answer _ _ .closed | .answer _ _ .silent | .close | .silent => none

/-- The number of entries of a search that ended with success. -/
def count? (reply : Reply) : Option Nat := reply.found?.map List.length

/-- Whether the connection is lost while an authentication waits for its reply. -/
def cutsBind : Reply → Bool
  | .close => true
  | .answer _ _ _ | .silent => false

/-- Whether the connection is lost while a search waits for its reply. -/
def cutsSearch : Reply → Bool
  | .close | .answer _ _ .closed => true
  | .answer _ _ _ | .silent => false

/-- An authentication succeeds exactly if the reply grants it. -/
lemma bound_eq_ok {reply : Reply} (dn : String) : reply.bound dn = .ok () ↔ reply.grants = true := by
  cases reply with
  | answer _ outcome _ => by_cases success : outcome.code = 0 <;> simp [bound, grants, success]
  | close => simp [bound, grants]
  | silent => simp [bound, grants]

/-- A search succeeds exactly if the reply ends with success. -/
lemma toOption_searched (reply : Reply) (base : String) :
    (reply.searched base).toOption = reply.found? := by
  match reply with
  | .answer _ outcome .outcome =>
    by_cases success : outcome.code = 0 <;> simp [searched, found?, success, Except.toOption]
  | .answer _ _ .closed => rfl
  | .answer _ _ .silent => rfl
  | .close => rfl
  | .silent => rfl

/-- The number of entries of a search that succeeds. -/
lemma count?_of_searched {reply : Reply} {base : String} {entries}
    (searched : reply.searched base = .ok entries) : reply.count? = some entries.length := by
  rw [count?, ← toOption_searched reply base, searched]
  rfl

/-- A search that fails has no number of entries. -/
lemma count?_of_failed {reply : Reply} {base : String} {failure}
    (failed : reply.searched base = .error failure) : reply.count? = none := by
  rw [count?, ← toOption_searched reply base, failed]
  rfl

/-- An authentication that is granted does not lose the connection. -/
lemma cutsBind_of_grants {reply : Reply} (granted : reply.grants = true) : reply.cutsBind = false := by
  match reply, granted with
  | .answer _ _ _, _ => rfl

/-- A search that succeeds does not lose the connection. -/
lemma cutsSearch_of_searched {reply : Reply} {base : String} {entries}
    (searched : reply.searched base = .ok entries) : reply.cutsSearch = false := by
  match reply, searched with
  | .answer _ _ .outcome, _ => rfl

end Reply

namespace Link

/-- The reply to the request that comes behind `n` others. -/
def reply (link : Link) (n : Nat) : Reply := link.replies.getD n .success

/-- The link after a request and its reply. -/
def sent (link : Link) (request : Request) (lost : Bool) : Link :=
  { link with replies := link.replies.tail, received := link.received ++ [request], lost }

/-- The link on which a connection has been opened. -/
def opened (link : Link) (endpoint : String) : Link := { link with endpoint, lost := false }

/-- Whether settings lead to the server of a link. -/
def Serves (link : Link) (settings : Settings) : Prop :=
  ∃ target, Target.parse settings.endpoint.toList = .ok target ∧
    link.reach target settings.transport.defaultPort.toNat = .server

/-- The next reply is taken from the front of the script. -/
lemma headD_replies (link : Link) : link.replies.headD .success = link.reply 0 := by
  cases h : link.replies <;> simp [reply, h]

/-- A request uses up a reply. -/
lemma reply_sent (link : Link) (request : Request) (lost : Bool) (n : Nat) :
    (link.sent request lost).reply n = link.reply (n + 1) := by
  cases h : link.replies <;> simp [reply, sent, h]

/-- A request leaves the order of attributes to the client. -/
lemma arrangement_sent (link : Link) (request : Request) (lost : Bool) :
    (link.sent request lost).arrangement = link.arrangement :=
  rfl

end Link

variable {link : Link} {settings : Settings}

/-- An unprotected connection to the server is opened where the settings lead to it, with no request. -/
lemma connect_served (plain : settings.transport = .plain) (served : link.Serves settings) :
    service.connect settings link = (.ok (), link.opened settings.endpoint) := by
  obtain ⟨target, parsed, reached⟩ := served
  rw [plain] at reached
  simp only [service, connect, parsed, plain, reached]
  rfl

/-- A failure to connect: in a time-out, or under the name of the server that the settings name. -/
def IsConnectFailure (settings : Settings) (failure : Failure) : Prop :=
  failure = .timeout .connect ∨ ∃ reason, failure = .connection settings.endpoint reason

/-- Where the settings do not lead to the server, there is no connection, and no request either. -/
lemma connect_elsewhere (unserved : ¬ link.Serves settings) :
    ∃ failure, service.connect settings link = (.error failure, link) ∧
      IsConnectFailure settings failure := by
  simp only [service, connect]
  cases parsed : Target.parse settings.endpoint.toList with
  | error e => exact ⟨_, rfl, .inr ⟨_, rfl⟩⟩
  | ok target =>
    cases reached : link.reach target settings.transport.defaultPort.toNat with
    | failed reason => exact ⟨_, by simp only [reached], .inr ⟨reason, rfl⟩⟩
    | silent => exact ⟨_, by simp only [reached], .inl rfl⟩
    | server => exact absurd ⟨target, parsed, reached⟩ unserved

/-- Connecting opens the link or fails. -/
lemma connect_cases (settings : Settings) (server : Link) :
    service.connect settings server = (.ok (), server.opened settings.endpoint) ∨
      ∃ failure next, service.connect settings server = (.error failure, next) ∧
        IsConnectFailure settings failure := by
  by_cases served : server.Serves settings
  case neg =>
    obtain ⟨failure, failed, why⟩ := connect_elsewhere served
    exact .inr ⟨failure, server, failed, why⟩
  case pos =>
    obtain ⟨target, parsed, reached⟩ := served
    simp only [service, connect, parsed, reached]
    cases settings.transport with
    | plain => exact .inl rfl
    | ldaps => exact .inr ⟨_, _, rfl, .inr ⟨_, rfl⟩⟩
    | startTls =>
      simp only [startTls]
      split
      case h_1 => exact .inr ⟨_, _, rfl, .inr ⟨_, rfl⟩⟩
      case h_2 => exact .inr ⟨_, _, rfl, .inl rfl⟩
      case h_3 => exact .inr ⟨_, _, rfl, .inl rfl⟩

/-- An open connection is the link that was opened. -/
lemma eq_opened_of_connect {server : Link} (opened : service.connect settings server = (.ok (), link)) :
    link = server.opened settings.endpoint := by
  obtain opened' | ⟨_, _, failed, -⟩ := connect_cases settings server
  · cases opened'.symm.trans opened
    rfl
  · cases failed.symm.trans opened

/-- On a lost connection an authentication is not sent. -/
lemma bind_lost (lost : link.lost = true) (dn password : String) :
    bind dn password link = (.error (.connection dn sendFailed), link) := by
  rw [bind, if_pos lost]

/-- On a live connection an authentication comes to what the next reply makes of it. -/
lemma bind_live (live : link.lost = false) (dn password : String) :
    bind dn password link =
      ((link.reply 0).bound dn, link.sent (.bind protocolVersion dn password) (link.reply 0).cutsBind) := by
  simp only [bind, Link.exchange, live, Link.headD_replies]
  match reply : link.reply 0 with
  | .answer _ outcome _ =>
    by_cases success : outcome.code = 0 <;>
      simp [success, Link.sent, Reply.bound, Reply.cutsBind]
  | .close => simp [Link.sent, Link.lose, Reply.bound, Reply.cutsBind]
  | .silent => simp [Link.sent, Reply.bound, Reply.cutsBind]

/-- The request of a search below a base. -/
def searchRequest (base : String) (filter : Filter UInt8) (attributes : List String) : Request :=
  .search base subtreeScope 0 0 filter attributes

section
variable {text : String} {filter : Filter UInt8}

/-- A search with a filter that cannot be read is not sent. -/
lemma search_unreadable (unreadable : Filter.parse? text = none) (base : String)
    (attributes : List String) (link : Link) :
    search base text attributes link = (.error (.query base filterInvalid), link) := by
  simp only [search, unreadable]

/-- On a lost connection a search is not sent. -/
lemma search_lost (lost : link.lost = true) (read : Filter.parse? text = some filter) (base : String)
    (attributes : List String) :
    search base text attributes link = (.error (.connection base sendFailed), link) := by
  simp only [search, read, if_pos lost]

/-- On a live connection a search comes to what the next reply makes of it. -/
lemma search_live (live : link.lost = false) (read : Filter.parse? text = some filter) (base : String)
    (attributes : List String) :
    search base text attributes link =
      (((link.reply 0).searched base).map (List.map (SentEntry.received link.arrangement)),
        link.sent (searchRequest base filter attributes) (link.reply 0).cutsSearch) := by
  simp only [search, read, Link.exchange, live, Link.headD_replies]
  match reply : link.reply 0 with
  | .answer _ outcome .outcome =>
    by_cases success : outcome.code = 0 <;>
      simp [success, Link.sent, searchRequest, Reply.searched, Reply.cutsSearch, Except.map]
  | .answer _ _ .closed =>
    simp [Link.sent, Link.lose, searchRequest, Reply.searched, Reply.cutsSearch, Except.map]
  | .answer _ _ .silent =>
    simp [Link.sent, searchRequest, Reply.searched, Reply.cutsSearch, Except.map]
  | .close =>
    simp [Link.sent, Link.lose, searchRequest, Reply.searched, Reply.cutsSearch, Except.map]
  | .silent => simp [Link.sent, searchRequest, Reply.searched, Reply.cutsSearch, Except.map]

end

/-- A server is told of the end of a session unless the connection is lost. -/
lemma unbind_received (link : Link) :
    (unbind link).2.received = link.received ++ if link.lost then [] else [.unbind] := by
  unfold unbind
  split
  case isTrue lost => simp
  case isFalse live => simp

/-- What a server hears at the end of a session: nothing on a lost connection. -/
def farewell (lost : Bool) : List Request := if lost then [] else [.unbind]

end RecipientCallout.Ldap

namespace RecipientCallout.Callout
open RecipientCallout.Ldap

/-- The filters of the two searches for a recipient. -/
structure Filters where
  users : Filter UInt8
  folders : Filter UInt8

/-- Whether the filters are those that the templates of a callout make for a recipient. -/
structure Filters.For (filters : Filters) (callout : Callout) (recipient : Recipient) : Prop where
  users : Filter.parse? (callout.userTemplate.fill (callout.proxyAddress recipient)) = some filters.users
  folders : Filter.parse? (callout.folderTemplate.fill (callout.proxyAddress recipient)) =
    some filters.folders

/-- The request of the search for users. -/
def usersRequest (callout : Callout) (filters : Filters) : Request :=
  searchRequest callout.userSearchBase filters.users [callout.mailAttribute]

/-- The request of the search for folders. -/
def foldersRequest (callout : Callout) (filters : Filters) : Request :=
  searchRequest callout.folderSearchBase filters.folders [callout.mailAttribute]

/-- The requests that follow an authentication, by the replies to the two searches. -/
def searchRequests (callout : Callout) (filters : Filters) (users folders : Reply) : List Request :=
  callout.usersRequest filters ::
    match users.count? with
    | none => farewell users.cutsSearch
    | some 1 => farewell false
    | some _ => callout.foldersRequest filters :: farewell folders.cutsSearch

/-- The requests of a session, by the replies to the authentication and to the two searches. -/
def requests (callout : Callout) (filters : Filters) (bind users folders : Reply) : List Request :=
  .bind protocolVersion callout.bindDn callout.bindPassword ::
    if bind.grants then callout.searchRequests filters users folders else farewell bind.cutsBind

variable {callout : Callout} {recipient : Recipient} {filters : Filters} {link : Link}

/-- What becomes of the searches of a session, by the replies to them. -/
lemma search_conversation {users folders : Reply} (live : link.lost = false)
    (first : link.reply 0 = users) (second : link.reply 1 = folders)
    (readable : filters.For callout recipient) :
    let done := callout.search service recipient link
    ((∃ mailbox, done.1 = .ok (some mailbox)) ↔
      users.count? = some 1 ∨
        (∃ n, users.count? = some n ∧ n ≠ 1) ∧ folders.count? = some 1) ∧
    (done.1 = .ok none ↔
      (∃ n, users.count? = some n ∧ n ≠ 1) ∧ ∃ n, folders.count? = some n ∧ n ≠ 1) ∧
    (unbind done.2).2.received = link.received ++ callout.searchRequests filters users folders := by
  intro done
  have usersDone := search_live live readable.users callout.userSearchBase [callout.mailAttribute]
  rw [first, ← usersRequest] at usersDone
  -- a case for each point at which the searches can stop
  cases usersSearched : users.searched callout.userSearchBase with
  | error failure =>
    have e : done = (.error failure, link.sent (callout.usersRequest filters) users.cutsSearch) := by
      simp only [done, search, service, usersDone, usersSearched, Except.map]
    have none := Reply.count?_of_failed usersSearched
    simp [e, none, unbind_received, searchRequests, farewell, Link.sent]
  | ok entries =>
    have count := Reply.count?_of_searched usersSearched
    rw [usersSearched, Reply.cutsSearch_of_searched usersSearched] at usersDone
    cases mailbox : callout.mailbox? recipient (entries.map (SentEntry.received link.arrangement)) with
    | some found =>
      have e : done = (.ok (some found), link.sent (callout.usersRequest filters) false) := by
        simp only [done, search, service, usersDone, mailbox, Except.map]
      have sole : entries.length = 1 := by
        obtain ⟨entry, only, -⟩ := mailbox?_eq_some mailbox
        simpa using congrArg List.length only
      simp [e, count, sole, unbind_received, searchRequests, farewell, Link.sent]
    | none =>
      have others : entries.length ≠ 1 := by simpa using mailbox?_eq_none.mp mailbox
      -- a complete answer leaves the connection open, so that the folders can be asked for
      have live' : (link.sent (callout.usersRequest filters) false).lost = false := rfl
      have foldersDone :=
        search_live live' readable.folders callout.folderSearchBase [callout.mailAttribute]
      rw [Link.reply_sent, second, ← foldersRequest, Link.arrangement_sent] at foldersDone
      have searchesFolders : callout.searchRequests filters users folders =
          callout.usersRequest filters :: callout.foldersRequest filters ::
            farewell folders.cutsSearch := by
        simp only [searchRequests, count]
      cases foldersSearched : folders.searched callout.folderSearchBase with
      | error failure =>
        have e : done = (.error failure, (link.sent (callout.usersRequest filters) false).sent
            (callout.foldersRequest filters) folders.cutsSearch) := by
          simp only [done, search, service, usersDone, mailbox, foldersDone, foldersSearched,
            Except.map]
        have none := Reply.count?_of_failed foldersSearched
        simp [e, count, others, none, unbind_received, searchesFolders, farewell, Link.sent]
      | ok entries' =>
        have e : done =
            (.ok (callout.mailbox? recipient (entries'.map (SentEntry.received link.arrangement))),
              (link.sent (callout.usersRequest filters) false).sent (callout.foldersRequest filters)
                folders.cutsSearch) := by
          simp only [done, search, service, usersDone, mailbox, foldersDone, foldersSearched,
            Except.map]
        have count' := Reply.count?_of_searched foldersSearched
        have found :
            callout.mailbox? recipient (entries'.map (SentEntry.received link.arrangement)) = none ↔
              entries'.length ≠ 1 := by
          rw [mailbox?_eq_none, List.length_map]
        have found' :
            (∃ mailbox, callout.mailbox? recipient (entries'.map (SentEntry.received link.arrangement)) =
              some mailbox) ↔ entries'.length = 1 := by
          rw [← Option.ne_none_iff_exists', Ne, found, Classical.not_not]
        refine ⟨?_, ?_, ?_⟩
        · simp [e, count, others, count', found']
        · simp [e, count, others, count', found]
        · simp [e, unbind_received, searchesFolders, farewell, Link.sent]

/-- What becomes of a session on an open connection, by the replies to its requests. -/
lemma find_conversation {bind users folders : Reply} (live : link.lost = false)
    (first : link.reply 0 = bind) (second : link.reply 1 = users) (third : link.reply 2 = folders)
    (readable : filters.For callout recipient) :
    let done := callout.find service recipient link
    ((∃ mailbox, done.1 = .ok (some mailbox)) ↔
      bind.grants = true ∧
        (users.count? = some 1 ∨
          (∃ n, users.count? = some n ∧ n ≠ 1) ∧ folders.count? = some 1)) ∧
    (done.1 = .ok none ↔
      bind.grants = true ∧
        (∃ n, users.count? = some n ∧ n ≠ 1) ∧ ∃ n, folders.count? = some n ∧ n ≠ 1) ∧
    (unbind done.2).2.received = link.received ++ callout.requests filters bind users folders := by
  intro done
  have bindDone := bind_live live callout.bindDn callout.bindPassword
  rw [first] at bindDone
  cases bound : bind.bound callout.bindDn with
  | error failure =>
    have denied : bind.grants = false := by
      rw [← Bool.not_eq_true, ← Reply.bound_eq_ok callout.bindDn, bound]
      nofun
    have e : done = (.error failure, link.sent (.bind protocolVersion callout.bindDn
        callout.bindPassword) bind.cutsBind) := by
      simp only [done, find, service, bindDone, bound]
    simp [e, denied, unbind_received, requests, farewell, Link.sent]
  | ok _ =>
    have granted : bind.grants = true := (Reply.bound_eq_ok callout.bindDn).mp bound
    rw [bound, Reply.cutsBind_of_grants granted] at bindDone
    have live' : (link.sent (.bind protocolVersion callout.bindDn callout.bindPassword) false).lost =
        false := rfl
    -- the searches take the replies behind the first one
    obtain ⟨accepts, rejects, received⟩ := search_conversation live'
      ((Link.reply_sent ..).trans second) ((Link.reply_sent ..).trans third) readable
    have e : done = callout.search service recipient
        (link.sent (.bind protocolVersion callout.bindDn callout.bindPassword) false) := by
      simp only [done, find, service, bindDone]
    rw [e]
    refine ⟨by simpa [granted] using accepts, by simpa [granted] using rejects, ?_⟩
    rw [received]
    simp [requests, granted, Link.sent]

/-- **Conversations.** The verdict on an address that is looked up over an unprotected connection, and
the requests that the server receives, by the server's replies to the authentication and to the two
searches. Without its server a callout asks nothing, and the failure is temporary. -/
theorem run_conversation {store : Files.Store} {config : Config}
    (made : ofConfig store config = .ok callout) (plain : config.transport = .plain) {address : String}
    (parsed : Recipient.parse address = .ok recipient)
    (isMatch : Domain.isMatch callout.domain.comparison recipient.domain callout.domain.name = true)
    (readable : filters.For callout recipient)
    (context : List String) (network : Network) (arrangement : Directory.Arrangement)
    (replies : List Reply) :
    let link := Link.serving network arrangement replies
    let bind := link.reply 0
    let users := link.reply 1
    let folders := link.reply 2
    let accepts := bind.grants = true ∧
      (users.count? = some 1 ∨ (∃ n, users.count? = some n ∧ n ≠ 1) ∧ folders.count? = some 1)
    let rejects := bind.grants = true ∧
      (∃ n, users.count? = some n ∧ n ≠ 1) ∧ ∃ n, folders.count? = some n ∧ n ≠ 1
    let done := callout.run service (.verify address context) link
    (link.Serves callout.settings →
      ((∃ mailbox, done.1 = .accepted mailbox) ↔ accepts) ∧
      (done.1 = .unknownMailbox address ↔ rejects) ∧
      ((∃ reason, done.1 = .temporaryFailure reason) ↔ ¬ accepts ∧ ¬ rejects) ∧
      done.2.received = callout.requests filters bind users folders) ∧
    (¬ link.Serves callout.settings →
      (∃ reason, done.1 = .temporaryFailure reason) ∧ done.2.received = []) := by
  intro link bind users folders accepts rejects done
  have plain' : callout.settings.transport = .plain := by
    rw [settings_of_ofConfig made]
    exact plain
  have reached := AcceptedDomain.recipient?_eq_some.mpr ⟨parsed, isMatch⟩
  refine ⟨fun served => ?_, fun unserved => ?_⟩
  -- connecting takes no reply, so the script begins with that to the authentication
  · have live : (link.opened callout.settings.endpoint).lost = false := rfl
    obtain ⟨accepted, rejected, received⟩ :=
      find_conversation live (show _ = bind from rfl) (show _ = users from rfl)
        (show _ = folders from rfl) readable
    change _ ↔ accepts at accepted
    change _ ↔ rejects at rejected
    have e := run_of_connect reached (connect_served plain' served) context
    simp only [done, e, verdictOf_eq_accepted, verdictOf_eq_unknownMailbox,
      verdictOf_eq_temporaryFailure, accepted, rejected, true_and]
    exact received
  · obtain ⟨failure, failed, -⟩ := connect_elsewhere unserved
    have e : done = (.temporaryFailure failure.message, link) := by
      simp only [done, run, AcceptedDomain.decide, reached, lookup, failed, Verdict.ofLookup]
    rw [e]
    exact ⟨⟨_, rfl⟩, rfl⟩

/-- The configuration of the sample callout. -/
def sampleConfig : Config where
  host := "127.0.0.1"
  port := none
  bindDn := "cn=b"
  bindPassword := some "secret"
  bindPasswordFile := none
  userSearchBase := "ou=u"
  folderSearchBase := "ou=f"
  acceptedDomain := "d.example"
  networkTimeoutSeconds := 5
  transport := .plain
  allowInvalidCerts := false
  domainMatch := .exact
  userFilter := "(u=?)"
  folderFilter := "(f=?)"
  proxyPrefix := "smtp:"
  mailAttribute := "mail"
  acceptMode := .here

/-- The filters of the sample callout for one recipient. -/
def sampleFilters : Filters where
  users := .equal "u" "smtp:jane@d.example".toUTF8.data.toList
  folders := .equal "f" "smtp:jane@d.example".toUTF8.data.toList

/-- Nobody among the users, and a connection that is lost behind the first entry of the folders. -/
theorem run_conversation_cut_short :
    let none := Reply.success
    let cut := Reply.answer [⟨"cn=f", []⟩] ⟨0, "", ""⟩ .closed
    let link := Link.serving (.loopback 389) .asSet [.success, none, cut]
    let done := sample.run service (.verify "jane@d.example" []) link
    ofConfig (fun _ => .error .missing) sampleConfig = .ok sample ∧
    (∃ reason, done.1 = .temporaryFailure reason) ∧
    done.2.received =
      [.bind 3 "cn=b" "secret", .search "ou=u" 2 0 0 sampleFilters.users ["mail"],
        .search "ou=f" 2 0 0 sampleFilters.folders ["mail"]] := by
  intro none cut link done
  have made : ofConfig (fun _ => .error .missing) sampleConfig = .ok sample := by rfl
  have parsed : Recipient.parse "jane@d.example" = .ok ⟨"jane@d.example", "jane", "d.example"⟩ := by
    rfl
  have readable : sampleFilters.For sample ⟨"jane@d.example", "jane", "d.example"⟩ :=
    ⟨by rfl, by rfl⟩
  have served : link.Serves sample.settings := ⟨⟨"127.0.0.1", some 389⟩, by rfl, by decide +kernel⟩
  obtain ⟨-, -, temporary, received⟩ :=
    (run_conversation made rfl parsed (by decide +kernel) readable [] (.loopback 389) .asSet
      [.success, none, cut]).1 served
  have notOne : ¬ (link.reply 1).count? = some 1 := by decide +kernel
  have broken : (link.reply 2).count? = Option.none := by rfl
  refine ⟨made, temporary.mpr ⟨?_, ?_⟩, received.trans rfl⟩
  · rintro ⟨-, one | ⟨-, one⟩⟩
    · exact notOne one
    · rw [broken] at one
      cases one
  · rintro ⟨-, -, n, ended, -⟩
    rw [broken] at ended
    cases ended

end RecipientCallout.Callout
