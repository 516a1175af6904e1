import Mathlib.Data.List.Forall2
import RecipientCallout.Proofs.Ldap.Conversation
import RecipientCallout.Proofs.Ldap.Entries

/-!
# Operations of a session

What becomes of any sequence of authentications and searches on one open connection. An operation that is
sent takes the next reply and comes to what that reply says (`Operation.perform_sent`); all others leave
the link as it is (`Operation.perform_unsent`). From these two, the replies that are left and the loss of
the connection follow by induction on the sequence.

The headline `session_operations` tells the result of each operation by its own reply; of a search that
succeeds, the entries are shown one by one as the reply has them.
-/

namespace RecipientCallout.Ldap
open RecipientCallout.Directory (Arrangement Entry Failure Result Settings Stage)

/-! ## Single operations -/

/-- An operation on an open session. -/
inductive Operation where
  | bind (dn password : String)
  | search (base filter : String) (attributes : List String)

/-- How a reply ends an operation. -/
inductive ReplyEnd where
  | outcome (code : Nat)
  | closed
  | silent
  deriving DecidableEq

namespace Operation

/-- What an operation finds, if it succeeds; an authentication finds nothing. -/
def perform (link : Link) : Operation → Result Link (List Entry)
  | .bind dn password => ((service.bind dn password link).1.map fun _ => [], (service.bind dn password link).2)
  | .search base filter attributes => service.search base filter attributes link

/-- The request that an operation is sent as; there is none for a search whose filter cannot be read. -/
def request? : Operation → Option Request
  | .bind dn password => some (.bind protocolVersion dn password)
  | .search base filter attributes => (Filter.parse? filter).map (searchRequest base · attributes)

/-- The step of asking a directory that an operation is. -/
def stage : Operation → Stage
  | .bind _ _ => .bind
  | .search _ _ _ => .search

/-- Whether an operation can be put into a request: the filter of a search has to be readable. -/
def Readable (op : Operation) : Prop := op.request?.isSome

/-- How a reply ends an operation; entries and early ends are replies to searches alone. -/
def ended : Operation → Reply → ReplyEnd
  | .bind _ _, .answer _ outcome _ => .outcome outcome.code
  | .search _ _ _, .answer _ outcome .outcome => .outcome outcome.code
  | .search _ _ _, .answer _ _ .closed => .closed
  | .search _ _ _, .answer _ _ .silent => .silent
  | _, .close => .closed
  | _, .silent => .silent

/-- The entries of the reply to an operation. -/
def entries : Operation → Reply → List SentEntry
  | .search _ _ _, .answer entries _ _ => entries
  | _, _ => []

/-- What an operation comes to by its reply. -/
def answered (arrangement : Arrangement) : Operation → Reply → Except Failure (List Entry)
  | .bind dn _, reply => (reply.bound dn).map fun _ => []
  | .search base _ _, reply => (reply.searched base).map (List.map (SentEntry.received arrangement))

/-- Whether an operation reaches the server. -/
def Sent (op : Operation) (link : Link) : Prop := op.Readable ∧ link.lost = false

variable {op : Operation} {link : Link}

/-- An operation that is sent takes the next reply. -/
lemma perform_sent {request : Request} (readable : op.request? = some request) (live : link.lost = false) :
    op.perform link =
      (op.answered link.arrangement (link.reply 0),
        link.sent request (decide (op.ended (link.reply 0) = .closed))) := by
  cases op with
  | bind dn password =>
    cases readable
    have cuts (reply : Reply) :
        reply.cutsBind = decide ((Operation.bind dn password).ended reply = .closed) := by
      cases reply <;> rfl
    simp only [perform, service, bind_live live, cuts]
    rfl
  | search base text attributes =>
    obtain ⟨filter, read, rfl⟩ := Option.map_eq_some_iff.mp readable
    have cuts (reply : Reply) :
        reply.cutsSearch = decide ((search base text attributes).ended reply = .closed) := by
      cases reply with
      | answer _ _ ending => cases ending <;> rfl
      | close => rfl
      | silent => rfl
    simp only [perform, service, search_live live read, cuts]
    rfl

/-- An operation that cannot be put into a request is a search, and fails for its filter. -/
lemma perform_unreadable (unreadable : ¬ op.Readable) (link : Link) :
    ∃ base filter attributes, op = .search base filter attributes ∧
      op.perform link = (.error (.query base filterInvalid), link) := by
  cases op with
  | bind => exact absurd rfl unreadable
  | search base text attributes =>
    have none : Filter.parse? text = none := by simpa [Readable, request?] using unreadable
    exact ⟨base, text, attributes, rfl, search_unreadable none base attributes link⟩

/-- On a lost connection every other operation fails for that. -/
lemma perform_lost (readable : op.Readable) (lost : link.lost = true) :
    ∃ subject, op.perform link = (.error (.connection subject sendFailed), link) := by
  cases op with
  | bind dn password =>
    refine ⟨dn, ?_⟩
    simp only [perform, service, bind_lost lost]
    rfl
  | search base text attributes =>
    obtain ⟨request, some⟩ := Option.isSome_iff_exists.mp readable
    obtain ⟨filter, read, -⟩ := Option.map_eq_some_iff.mp some
    exact ⟨base, search_lost lost read base attributes⟩

/-- An operation that is not sent leaves the link as it is. -/
lemma perform_unsent (unsent : ¬ op.Sent link) : (op.perform link).2 = link := by
  by_cases readable : op.Readable
  case pos =>
    have lost : link.lost = true := by simpa [Sent, readable] using unsent
    obtain ⟨subject, e⟩ := perform_lost readable lost
    rw [e]
  case neg =>
    obtain ⟨_, _, _, -, e⟩ := perform_unreadable readable link
    rw [e]

/-! ## Results by replies -/

variable {reply : Reply}

/-- The failure that a reply leads to, by the way in which it ends an operation. -/
inductive Told (op : Operation) (reply : Reply) : Except Failure (List Entry) → Prop where
  | done {found} :
    op.ended reply = .outcome 0 →
    List.Forall₂ SentEntry.Shows (op.entries reply) found →
    Told op reply (.ok found)
  | refused {dn password code reason} :
    op = .bind dn password →
    op.ended reply = .outcome code →
    code ≠ 0 →
    Told op reply (.error (.auth dn reason))
  | failed {base filter attributes code reason} :
    op = .search base filter attributes →
    op.ended reply = .outcome code →
    code ≠ 0 →
    Told op reply (.error (.query base reason))
  | closed {subject reason} :
    op.ended reply = .closed →
    Told op reply (.error (.connection subject reason))
  | silent :
    op.ended reply = .silent →
    Told op reply (.error (.timeout op.stage))

/-- In whatever order attributes are kept, entries show what was sent. -/
lemma forall₂_shows (arrangement : Arrangement) (entries : List SentEntry) :
    List.Forall₂ SentEntry.Shows entries (entries.map (SentEntry.received arrangement)) :=
  List.forall₂_map_right_iff.mpr
    (List.forall₂_same.mpr fun sent _ => sent.shows_received arrangement)

/-- What an operation comes to is told by its reply. -/
lemma told_answered (arrangement : Arrangement) (op : Operation) (reply : Reply) :
    Told op reply (op.answered arrangement reply) := by
  match op, reply with
  | .bind dn password, .answer _ outcome _ =>
    by_cases success : outcome.code = 0
    case pos =>
      simp only [answered, Reply.bound, success, if_true]
      exact .done (congrArg _ success) .nil
    case neg =>
      simp only [answered, Reply.bound, success, if_false]
      exact .refused rfl rfl success
  | .bind dn password, .close => exact .closed rfl
  | .bind dn password, .silent => exact .silent rfl
  | .search base filter attributes, .answer _ outcome .outcome =>
    by_cases success : outcome.code = 0
    case pos =>
      simp only [answered, Reply.searched, success, if_true]
      exact .done (congrArg _ success) (forall₂_shows arrangement _)
    case neg =>
      simp only [answered, Reply.searched, success, if_false]
      exact .failed rfl rfl success
  | .search _ _ _, .answer _ _ .closed => exact .closed rfl
  | .search _ _ _, .answer _ _ .silent => exact .silent rfl
  | .search _ _ _, .close => exact .closed rfl
  | .search _ _ _, .silent => exact .silent rfl

section
variable {result : Except Failure (List Entry)} (told : Told op reply result)
include told

/-- Success is told by the code zero. -/
lemma Told.ok_iff : (∃ found, result = .ok found) ↔ op.ended reply = .outcome 0 := by
  cases told with
  | done ended => simp [ended]
  | refused _ ended code => simp [ended, code]
  | failed _ ended code => simp [ended, code]
  | closed ended => simp [ended]
  | silent ended => simp [ended]

/-- What is found are the entries of the reply. -/
lemma Told.shows {found : List Entry} (ok : result = .ok found) :
    List.Forall₂ SentEntry.Shows (op.entries reply) found := by
  cases told with
  | done _ shows =>
    cases ok
    exact shows
  | refused => cases ok
  | failed => cases ok
  | closed => cases ok
  | silent => cases ok

/-- A time-out is told by silence, and is that of the operation's own step. -/
lemma Told.timeout_iff (stage : Stage) :
    result = .error (.timeout stage) ↔ op.ended reply = .silent ∧ stage = op.stage := by
  cases told with
  | done ended => simp [ended]
  | refused _ ended => simp [ended]
  | failed _ ended => simp [ended]
  | closed ended => simp [ended]
  | silent ended => simp [ended, eq_comm]

/-- A refused authentication is told by another code than zero, under the name that was given. -/
lemma Told.auth_iff (dn : String) :
    (∃ reason, result = .error (.auth dn reason)) ↔
      (∃ password, op = .bind dn password) ∧ ∃ code, op.ended reply = .outcome code ∧ code ≠ 0 := by
  cases told with
  | done ended => simp [ended]
  | refused binds ended code => subst binds; simp [ended, code, eq_comm]
  | failed searches => subst searches; simp
  | closed ended => simp [ended]
  | silent ended => simp [ended]

/-- A failed search is told by another code than zero, under the base that was given. -/
lemma Told.query_iff (base : String) :
    (∃ reason, result = .error (.query base reason)) ↔
      (∃ filter attributes, op = .search base filter attributes) ∧
        ∃ code, op.ended reply = .outcome code ∧ code ≠ 0 := by
  cases told with
  | done ended => simp [ended]
  | refused binds => subst binds; simp
  | failed searches ended code => subst searches; simp [ended, code, eq_comm]
  | closed ended => simp [ended]
  | silent ended => simp [ended]

/-- A lost connection is told by the end of the reply. -/
lemma Told.connection_iff :
    (∃ subject reason, result = .error (.connection subject reason)) ↔ op.ended reply = .closed := by
  cases told with
  | done ended => simp [ended]
  | refused _ ended => simp [ended]
  | failed _ ended => simp [ended]
  | closed ended => simp [ended]
  | silent ended => simp [ended]

end

/-! ## Sequences of operations -/

/-- The link after operations. -/
def after (link : Link) (operations : List Operation) : Link :=
  operations.foldl (fun link op => (op.perform link).2) link

/-- What operations come to, one after the other. -/
def results (link : Link) : List Operation → List (Except Failure (List Entry))
  | [] => []
  | op :: operations => (op.perform link).1 :: results (op.perform link).2 operations

/-- Operations are performed one behind the other. -/
lemma after_append (link : Link) (before later : List Operation) :
    after link (before ++ later) = after (after link before) later :=
  List.foldl_append

/-- Each result is that of its operation, behind those before it. -/
lemma getElem?_results (link : Link) (before : List Operation) (op : Operation)
    (later : List Operation) :
    (results link (before ++ op :: later))[before.length]? =
      some (op.perform (after link before)).1 := by
  induction before generalizing link with
  | nil => rfl
  | cons first before ih => exact ih (first.perform link).2

/-- What is left of a script, by the number of requests that have been received. -/
def Follows (script : List Reply) (link : Link) : Prop :=
  link.replies = script.drop link.received.length

/-- Every operation keeps to the script. -/
lemma Follows.perform {script : List Reply} (follows : Follows script link) (op : Operation) :
    Follows script (op.perform link).2 := by
  by_cases sent : op.Sent link
  case pos =>
    obtain ⟨request, readable⟩ := Option.isSome_iff_exists.mp sent.1
    unfold Follows at follows ⊢
    rw [perform_sent readable sent.2, Link.sent, follows, List.tail_drop, List.length_append,
      List.length_singleton]
  case neg => rwa [perform_unsent sent]

/-- Operations keep to the script. -/
lemma Follows.after {script : List Reply} (follows : Follows script link)
    (operations : List Operation) : Follows script (after link operations) := by
  induction operations generalizing link with
  | nil => exact follows
  | cons op operations ih => exact ih (follows.perform op)

/-- The next reply is the one that follows those which were taken. -/
lemma reply_of_follows {script : List Reply} (follows : Follows script link) :
    link.reply 0 = script.getD link.received.length .success := by
  rw [Link.reply, follows]
  simp [List.getD_eq_getElem?_getD]

/-- On a lost connection nothing changes any more. -/
lemma after_of_lost (lost : link.lost = true) (later : List Operation) : after link later = link := by
  induction later with
  | nil => rfl
  | cons op later ih =>
    have unsent : ¬ op.Sent link := fun sent => by simp [sent.2] at lost
    rw [after, List.foldl_cons, perform_unsent unsent]
    exact ih

/-- An operation loses an open connection exactly if it is sent and its reply closes the connection. -/
lemma lost_perform (op : Operation) (live : link.lost = false) :
    (op.perform link).2.lost = true ↔ op.Sent link ∧ op.ended (link.reply 0) = .closed := by
  by_cases sent : op.Sent link
  case pos =>
    obtain ⟨request, readable⟩ := Option.isSome_iff_exists.mp sent.1
    simp [perform_sent readable live, sent, Link.sent]
  case neg => simp [perform_unsent sent, sent, live]

/-- A connection that was open is lost by a reply that closes it, and by nothing else. -/
lemma lost_after (live : link.lost = false) (operations : List Operation) :
    (after link operations).lost = true ↔
      ∃ before op later, operations = before ++ op :: later ∧ op.Sent (after link before) ∧
        op.ended ((after link before).reply 0) = .closed := by
  induction operations generalizing link with
  | nil => simp [after, live]
  | cons first operations ih =>
    have step : after link (first :: operations) = after (first.perform link).2 operations := rfl
    cases lost : (first.perform link).2.lost with
    | true =>
      rw [step, after_of_lost lost]
      exact iff_of_true lost ⟨[], first, operations, rfl, (lost_perform first live).mp lost⟩
    | false =>
      rw [step, ih lost]
      constructor
      · rintro ⟨before, op, later, rfl, closes⟩
        exact ⟨first :: before, op, later, rfl, closes⟩
      · rintro ⟨before, op, later, split, closes⟩
        cases before with
        | nil =>
          cases split
          rw [(lost_perform first live).mpr closes] at lost
          cases lost
        | cons _ before =>
          cases split
          exact ⟨before, op, later, rfl, closes⟩

end Operation

variable {network : Network} {arrangement : Arrangement} {settings : Settings} {script : List Reply}
  {link : Link}

/-- An open connection has its server's whole script before it. -/
lemma opened_of_connect
    (opened : service.connect settings (Link.serving network arrangement script) = (.ok (), link)) :
    link.lost = false ∧ link.replies = script ∧ link.received = [] := by
  rw [eq_opened_of_connect opened]
  exact ⟨rfl, rfl, rfl⟩

open Operation in
/-- **Operations.** In any sequence of authentications and searches on an open connection, an operation
is sent if it can be put into a request and the connection is not lost. It then takes the reply next to
those of the operations sent before it, and its result is told by that reply: success, with just the
entries of that reply in their order, if it ends with the code zero; a time-out at its own step if it ends
in silence; a refused authentication or a failed search, under the name or the base that was given, if it
ends with another code; and the loss of the connection if it ends by closing that. An operation that is not
sent changes nothing, and fails for its filter if that cannot be read, or else for the lost connection. A
connection is lost by a reply that closes it, and for good. -/
theorem session_operations
    (opened : service.connect settings (Link.serving network arrangement script) = (.ok (), link))
    (before : List Operation) (op : Operation) (later : List Operation) :
    let now := after link before
    let reply := script.getD now.received.length .success
    let next := after link (before ++ [op])
    ∃ result, (results link (before ++ op :: later))[before.length]? = some result ∧
      (op.Sent now →
        (∃ request, op.request? = some request ∧ next.received = now.received ++ [request]) ∧
        ((∃ found, result = .ok found) ↔ op.ended reply = .outcome 0) ∧
        (∀ found, result = .ok found → List.Forall₂ SentEntry.Shows (op.entries reply) found) ∧
        (∀ stage, result = .error (.timeout stage) ↔ op.ended reply = .silent ∧ stage = op.stage) ∧
        (∀ dn, (∃ reason, result = .error (.auth dn reason)) ↔
          (∃ password, op = .bind dn password) ∧ ∃ code, op.ended reply = .outcome code ∧ code ≠ 0) ∧
        (∀ base, (∃ reason, result = .error (.query base reason)) ↔
          (∃ filter attributes, op = .search base filter attributes) ∧
            ∃ code, op.ended reply = .outcome code ∧ code ≠ 0) ∧
        ((∃ subject reason, result = .error (.connection subject reason)) ↔
          op.ended reply = .closed)) ∧
      (¬ op.Sent now → next = now) ∧
      (¬ op.Readable → ∃ base filter attributes, op = .search base filter attributes ∧
        result = .error (.query base filterInvalid)) ∧
      (op.Readable → now.lost = true →
        ∃ subject, result = .error (.connection subject sendFailed)) ∧
      (now.lost = true ↔ ∃ earlier op' since, before = earlier ++ op' :: since ∧
        op'.Sent (after link earlier) ∧
        op'.ended (script.getD (after link earlier).received.length .success) = .closed) ∧
      (now.lost = true → after now (op :: later) = now) := by
  intro now reply next
  obtain ⟨live, replies, received⟩ := opened_of_connect opened
  have follows (operations : List Operation) : Follows script (after link operations) := by
    refine Follows.after ?_ operations
    rw [Follows, replies, received]
    rfl
  have taken : now.reply 0 = reply := reply_of_follows (follows before)
  have step : next = (op.perform now).2 := after_append link before [op]
  refine ⟨_, getElem?_results link before op later, ?_, ?_, ?_, ?_, ?_, ?_⟩
  · intro sent
    obtain ⟨request, readable⟩ := Option.isSome_iff_exists.mp sent.1
    rw [step, perform_sent readable sent.2, taken]
    have told := told_answered now.arrangement op reply
    exact ⟨⟨request, readable, rfl⟩, told.ok_iff, fun found => told.shows, told.timeout_iff,
      told.auth_iff, told.query_iff, told.connection_iff⟩
  · intro unsent
    rw [step, perform_unsent unsent]
  · intro unreadable
    obtain ⟨base, filter, attributes, searches, e⟩ := perform_unreadable unreadable now
    exact ⟨base, filter, attributes, searches, congrArg Prod.fst e⟩
  · intro readable lost
    obtain ⟨subject, e⟩ := perform_lost readable lost
    exact ⟨subject, congrArg Prod.fst e⟩
  · rw [lost_after live before]
    simp only [reply_of_follows (follows _)]
  · intro lost
    exact after_of_lost lost (op :: later)

/-- An entry with two addresses, which were sent over again, and a picture. -/
def sampleSent : SentEntry where
  dn := "cn=b"
  attributes := [("mail", ["old@d.example".toUTF8]), ("photo", [⟨#[0xFF]⟩]),
    ("mail", ["b@d.example".toUTF8, "é@d.example".toUTF8])]

open Operation in
/-- A search that the server left in the middle, and the next one, which finds its own entry alone: with the
addresses that came last, and without the picture. -/
theorem session_operations_unmixed :
    let script : List Reply :=
      [.success, .answer [⟨"cn=a", []⟩] ⟨0, "", ""⟩ .silent, .answer [sampleSent] ⟨0, "", ""⟩ .outcome]
    let settings : Settings := ⟨"127.0.0.1", 389, .plain, false, 5⟩
    let server := Link.serving (.loopback 389) .asSet script
    let link := server.opened settings.endpoint
    service.connect settings server = (.ok (), link) ∧
    ∃ entry, (results link
        [.bind "cn=b" "secret", .search "ou=u" "(u=x)" [], .search "ou=f" "(f=x)" []])[2]? =
          some (.ok [entry]) ∧
      entry.dn = "cn=b" ∧ ("mail", ["b@d.example", "é@d.example"]) ∈ entry.attributes ∧
      ∀ texts, ("photo", texts) ∉ entry.attributes := by
  intro script settings server link
  have opened : service.connect settings server = (.ok (), link) :=
    connect_served rfl ⟨⟨"127.0.0.1", some 389⟩, by decide +kernel, by decide +kernel⟩
  have readable : (Operation.search "ou=f" "(f=x)" []).Readable := by
    unfold Readable
    decide +kernel
  have live : (after link [.bind "cn=b" "secret", .search "ou=u" "(u=x)" []]).lost = false := by
    decide +kernel
  obtain ⟨result, found, told, -⟩ := session_operations opened
    [.bind "cn=b" "secret", .search "ou=u" "(u=x)" []] (.search "ou=f" "(f=x)" []) []
  obtain ⟨-, succeeds, shown, -⟩ := told ⟨readable, live⟩
  obtain ⟨entries, rfl⟩ := succeeds.mpr (by decide +kernel)
  have shown : List.Forall₂ SentEntry.Shows [sampleSent] entries := shown entries rfl
  obtain ⟨entry, rfl⟩ := List.length_eq_one_iff.mp shown.length_eq.symm
  obtain ⟨shows, -⟩ := List.forall₂_cons.mp shown
  refine ⟨opened, entry, found, shows.dn, (shows.values _ _).mpr ?_, fun texts mem => ?_⟩
  · exact ⟨sampleSent.attributes.take 2, [], rfl, nofun⟩
  · obtain ⟨before, later, split, -⟩ := (shows.values _ _).mp mem
    have sent : ("photo", texts.map String.toUTF8) ∈ sampleSent.attributes := split ▸ by simp
    have damaged : textValues? [⟨#[0xFF]⟩] = none := by decide +kernel
    have read : textValues? [⟨#[0xFF]⟩] = some texts := by
      rw [textValues?_eq_some_iff]
      simpa [sampleSent, eq_comm] using sent
    rw [damaged] at read
    cases read

end RecipientCallout.Ldap
