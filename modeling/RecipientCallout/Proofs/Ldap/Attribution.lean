import RecipientCallout.Proofs.Ldap.Conversation

/-!
# Where failures come from

To which step a failure is put down, and which server it names, over all sessions of the client. A failure
belongs to the step of its operation as long as the connection is kept. If the connection is lost, the
failure is put down to connecting, and in place of the server it names what the operation was about: the
account (`bind_attributed`) or the base of the search (`search_attributed`). Opening and ending a session
name the server that the session was opened to, which no operation changes (`InSession.endpoint_eq`).

The headline `failures_attributed` gathers these, and `failures_misattributed` has a session in which a lost
connection is put down to the wrong step and names no server.
-/

namespace RecipientCallout.Ldap
open RecipientCallout.Callout (sample)
open RecipientCallout.Directory (Failure Settings Stage)

/-- The links of a session: what connecting to a server and then any operations make of its link. -/
inductive InSession (settings : Settings) (server : Link) : Link → Prop where
  | opened {link} :
    service.connect settings server = (.ok (), link) →
    InSession settings server link
  | bind {link} (dn password : String) :
    InSession settings server link →
    InSession settings server (service.bind dn password link).2
  | search {link} (base filter : String) (attributes : List String) :
    InSession settings server link →
    InSession settings server (service.search base filter attributes link).2
  | unbind {link} :
    InSession settings server link →
    InSession settings server (service.unbind link).2

variable {settings : Settings} {server link next : Link} {failure : Failure}

/-! ## Operations keep the server's name -/

/-- An authentication leaves the name of the server. -/
lemma endpoint_bind (dn password : String) (link : Link) :
    (service.bind dn password link).2.endpoint = link.endpoint := by
  cases lost : link.lost with
  | true => simp only [service, bind_lost lost]
  | false =>
    simp only [service, bind_live lost]
    rfl

/-- So does a search. -/
lemma endpoint_search (base filter : String) (attributes : List String) (link : Link) :
    (service.search base filter attributes link).2.endpoint = link.endpoint := by
  cases read : Filter.parse? filter with
  | none => simp only [service, search_unreadable read]
  | some tree =>
    cases lost : link.lost with
    | true => simp only [service, search_lost lost read]
    | false =>
      simp only [service, search_live lost read]
      rfl

/-- So does the end of a session. -/
lemma endpoint_unbind (link : Link) : (service.unbind link).2.endpoint = link.endpoint := by
  simp only [service, unbind]
  split <;> rfl

/-- A session keeps the name of the server that it was opened to. -/
lemma InSession.endpoint_eq (inSession : InSession settings server link) :
    link.endpoint = settings.endpoint := by
  induction inSession with
  | opened opened => rw [eq_opened_of_connect opened, Link.opened]
  | bind dn password _ ih => rw [endpoint_bind, ih]
  | search base filter attributes _ ih => rw [endpoint_search, ih]
  | unbind _ ih => rw [endpoint_unbind, ih]

/-! ## Failures of operations -/

/-- A connection that is not opened is put down to connecting, and names the server. -/
lemma connect_attributed (failed : service.connect settings server = (.error failure, next)) :
    failure.stage = .connect ∧
      ∀ endpoint reason, failure = .connection endpoint reason → endpoint = settings.endpoint := by
  obtain opened | ⟨failure', next', refused, why⟩ := connect_cases settings server
  · cases opened.symm.trans failed
  · cases refused.symm.trans failed
    obtain rfl | ⟨reason, rfl⟩ := why
    · exact ⟨rfl, nofun⟩
    · refine ⟨rfl, fun endpoint reason' e => ?_⟩
      cases e
      rfl

/-- Where a failure of an operation on a session is put down to: its own step as long as the connection is
kept, and else connecting, with what the operation was about in place of the server. -/
inductive Attributed (stage : Stage) (subject : String) : Bool → Failure → Prop where
  | kept {failure : Failure} :
    failure.stage = stage →
    Attributed stage subject false failure
  | lost {reason} :
    Attributed stage subject true (.connection subject reason)

/-- The failure that a reply makes of an authentication is put down to it. -/
lemma Reply.bound_attributed {reply : Reply} {dn} (failed : reply.bound dn = .error failure) :
    Attributed .bind dn reply.cutsBind failure := by
  match reply, failed with
  | .answer _ outcome _, failed =>
    simp only [Reply.bound] at failed
    split at failed
    case isTrue => cases failed
    case isFalse =>
      cases failed
      exact .kept rfl
  | .close, rfl => exact .lost
  | .silent, rfl => exact .kept rfl

/-- So is the one that it makes of a search. -/
lemma Reply.searched_attributed {reply : Reply} {base} (failed : reply.searched base = .error failure) :
    Attributed .search base reply.cutsSearch failure := by
  match reply, failed with
  | .answer _ outcome .outcome, failed =>
    simp only [Reply.searched] at failed
    split at failed
    case isTrue => cases failed
    case isFalse =>
      cases failed
      exact .kept rfl
  | .answer _ _ .closed, rfl => exact .lost
  | .answer _ _ .silent, rfl => exact .kept rfl
  | .close, rfl => exact .lost
  | .silent, rfl => exact .kept rfl

/-- A failed authentication is put down to the name. -/
lemma bind_attributed {dn password} (failed : service.bind dn password link = (.error failure, next)) :
    Attributed .bind dn next.lost failure := by
  cases lost : link.lost with
  | true =>
    cases (bind_lost lost dn password).symm.trans failed
    rw [lost]
    exact .lost
  | false =>
    simp only [service, bind_live lost, Prod.mk.injEq] at failed
    obtain ⟨failed, rfl⟩ := failed
    exact Reply.bound_attributed failed

/-- A filter that cannot be read is a failure of the search even on a lost connection. -/
lemma search_attributed {base filter attributes}
    (failed : service.search base filter attributes link = (.error failure, next)) :
    Attributed .search base (next.lost && (Filter.parse? filter).isSome) failure := by
  cases read : Filter.parse? filter with
  | none =>
    cases (search_unreadable read base attributes link).symm.trans failed
    rw [Option.isSome_none, Bool.and_false]
    exact .kept rfl
  | some tree =>
    rw [Option.isSome_some, Bool.and_true]
    cases lost : link.lost with
    | true =>
      cases (search_lost lost read base attributes).symm.trans failed
      rw [lost]
      exact .lost
    | false =>
      simp only [service, search_live lost read, Prod.mk.injEq] at failed
      obtain ⟨failed, rfl⟩ := failed
      cases searched : (link.reply 0).searched base with
      | ok entries =>
        rw [searched] at failed
        cases failed
      | error failure' =>
        rw [searched] at failed
        cases failed
        exact Reply.searched_attributed searched

/-- Ending a session fails only if the connection is lost, and then it names the server. -/
lemma unbind_attributed (failed : service.unbind link = (.error failure, next)) :
    ∃ reason, failure = .connection link.endpoint reason := by
  simp only [service, unbind] at failed
  split at failed
  case isTrue =>
    cases failed
    exact ⟨_, rfl⟩
  case isFalse => cases failed

/-- **Attribution.** Whatever a server does and whatever was done on a session before, a failure to connect
is put down to connecting, and a failed authentication or search to itself as long as the connection is
kept. A lost connection is put down to connecting, under the name of the account that was to be
authenticated or the base that was to be searched. If a session cannot be opened or ended, the failure is
under the name of the server. -/
theorem failures_attributed (settings : Settings) (server : Link) :
    (∀ failure next, service.connect settings server = (.error failure, next) →
      failure.stage = .connect ∧
        ∀ endpoint reason, failure = .connection endpoint reason → endpoint = settings.endpoint) ∧
    ∀ link, InSession settings server link →
      (∀ dn password failure next, service.bind dn password link = (.error failure, next) →
        Attributed .bind dn next.lost failure) ∧
      (∀ base filter attributes failure next,
        service.search base filter attributes link = (.error failure, next) →
        Attributed .search base (next.lost && (Filter.parse? filter).isSome) failure) ∧
      ∀ failure next, service.unbind link = (.error failure, next) →
        ∃ reason, failure = .connection settings.endpoint reason := by
  refine ⟨fun _ _ => connect_attributed, fun link inSession => ⟨fun _ _ _ _ => bind_attributed,
    fun _ _ _ _ _ => search_attributed, fun failure next failed => ?_⟩⟩
  rw [← inSession.endpoint_eq]
  exact unbind_attributed failed

/-- The sample server can be in a session. -/
lemma inSession_serving (script : List Reply) :
    InSession sample.settings (.serving (.loopback 389) .asSet script)
      ((Link.serving (.loopback 389) .asSet script).opened sample.settings.endpoint) :=
  .opened (connect_served rfl ⟨⟨"127.0.0.1", some 389⟩, by rfl, by rfl⟩)

/-- A server that refuses the authentication and closes the connection on a search, and one that is not
there. -/
theorem failures_attributed_refused :
    let denied : Outcome := ⟨49, "", "no"⟩
    let server := Link.serving (.loopback 389) .asSet [.answer [] denied .outcome, .close]
    let opened := server.opened sample.settings.endpoint
    let bound := opened.sent (.bind protocolVersion "cn=b" "secret") false
    let lost := bound.sent (searchRequest "ou=u" (.equal "u" [120]) []) true
    InSession sample.settings server lost ∧
    (service.connect sample.settings .unreachable =
        (.error (.connection sample.settings.endpoint refused), .unreachable) ∧
      (Failure.connection sample.settings.endpoint refused).stage = .connect) ∧
    (service.bind "cn=b" "secret" opened = (.error (.auth "cn=b" denied.message), bound) ∧
      Attributed .bind "cn=b" false (.auth "cn=b" denied.message)) ∧
    (service.search "ou=u" "(u=x)" [] bound = (.error (.connection "ou=u" searchCut), lost) ∧
      Attributed .search "ou=u" true (.connection "ou=u" searchCut)) ∧
    service.unbind lost = (.error (.connection sample.settings.endpoint sendFailed), lost) ∧
    ∃ reason, Failure.connection sample.settings.endpoint sendFailed =
      .connection sample.settings.endpoint reason := by
  intro denied server opened bound lost
  have denies : service.bind "cn=b" "secret" opened = (.error (.auth "cn=b" denied.message), bound) := rfl
  have readable : Filter.parse? "(u=x)" = some (.equal "u" [120]) := by rfl
  have cuts : service.search "ou=u" "(u=x)" [] bound = (.error (.connection "ou=u" searchCut), lost) :=
    (search_live (show bound.lost = false from rfl) readable "ou=u" []).trans rfl
  have ends : service.unbind lost = (.error (.connection sample.settings.endpoint sendFailed), lost) := rfl
  have absent : service.connect sample.settings .unreachable =
      (.error (.connection sample.settings.endpoint refused), .unreachable) := by rfl
  have first : InSession sample.settings server opened := inSession_serving _
  have second : InSession sample.settings server bound := InSession.bind "cn=b" "secret" first
  have third : InSession sample.settings server lost := by
    have reached := InSession.search "ou=u" "(u=x)" [] second
    rwa [cuts] at reached
  obtain ⟨-, told⟩ := failures_attributed sample.settings server
  have searched := (told bound second).2.1 _ _ _ _ _ cuts
  rw [readable, Option.isSome_some, Bool.and_true] at searched
  exact ⟨third, ⟨absent, ((failures_attributed sample.settings .unreachable).1 _ _ absent).1⟩,
    ⟨denies, (told opened first).1 _ _ _ _ denies⟩, ⟨cuts, searched⟩, ends,
    (told lost third).2.2 _ _ ends⟩

/-- A server that closes the connection on the authentication: the failure is not put down to that, nor does
it name the server. -/
theorem failures_misattributed :
    (¬ ∀ (settings : Settings) (port : Nat) (script : List Reply) (link : Link) (dn password : String)
        (failure : Failure) (next : Link),
      settings.transport = .plain → InSession settings (.serving (.loopback port) .asSet script) link →
      service.bind dn password link = (.error failure, next) → failure.stage = .bind) ∧
    ¬ ∀ (settings : Settings) (port : Nat) (script : List Reply) (link : Link) (dn password : String)
        (endpoint reason : String) (next : Link),
      settings.transport = .plain → InSession settings (.serving (.loopback port) .asSet script) link →
      service.bind dn password link = (.error (.connection endpoint reason), next) →
      endpoint = settings.endpoint := by
  constructor
  · intro claim
    have stage := claim sample.settings 389 [.close] _ "cn=b" "secret" _ _ rfl (inSession_serving _) rfl
    cases stage
  · intro claim
    have name := claim sample.settings 389 [.close] _ "cn=b" "secret" _ _ _ rfl (inSession_serving _) rfl
    exact absurd name (by decide +kernel)

end RecipientCallout.Ldap
