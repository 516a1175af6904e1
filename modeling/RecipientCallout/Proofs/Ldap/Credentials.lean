import Mathlib.Tactic.Lemma
import RecipientCallout.Proofs.Callout.Printed
import RecipientCallout.Proofs.Ldap.Conversation

/-!
# Credentials in responses

Two callouts that differ only in the name and the password that they authenticate with. After the
authentication their links differ in nothing but what the server has received, and then they behave
alike (`Link.Alike`). The headline `respond_credentials` says when the relay can tell the two apart: only
if the server closes the connection on the authentication, for the name stands in that failure. The
password never shows.
-/

namespace RecipientCallout.Ldap
open RecipientCallout.Directory (Failure Result)

/-- Links on which a server goes on alike. -/
structure Link.Alike (a b : Link) : Prop where
  arrangement : a.arrangement = b.arrangement
  replies : a.replies = b.replies
  lost : a.lost = b.lost

/-- Links stay alike whatever was sent on them. -/
lemma Link.Alike.sent {a b : Link} (alike : a.Alike b) (request request' : Request) (lost : Bool) :
    (a.sent request lost).Alike (b.sent request' lost) where
  arrangement := alike.arrangement
  replies := congrArg List.tail alike.replies
  lost := rfl

/-- A search comes to the same on links that are alike, and leaves them so. -/
lemma Link.Alike.search {a b : Link} (alike : a.Alike b) (base filter : String)
    (attributes : List String) :
    Result.Alike (List.Forall₂ Eq) Link.Alike (search base filter attributes a)
      (search base filter attributes b) := by
  rw [List.forall₂_eq_eq_eq, Result.alike_eq_iff]
  cases read : Filter.parse? filter with
  | none =>
    rw [search_unreadable read, search_unreadable read]
    exact ⟨rfl, alike⟩
  | some tree =>
    cases lost : a.lost with
    | true =>
      rw [search_lost lost read, search_lost (alike.lost ▸ lost) read]
      exact ⟨rfl, alike⟩
    | false =>
      have first : a.reply 0 = b.reply 0 := by rw [Link.reply, Link.reply, alike.replies]
      rw [search_live lost read, search_live (alike.lost ▸ lost) read, first, alike.arrangement]
      exact ⟨rfl, alike.sent _ _ _⟩

/-- A refusal that keeps the connection is worded without the name. -/
lemma Reply.exists_wording {reply : Reply} (denied : reply.grants = false)
    (kept : reply.cutsBind = false) :
    ∃ wording, ∀ dn, ∃ failure : Failure, reply.bound dn = .error failure ∧ failure.message = wording := by
  cases reply with
  | answer _ outcome _ =>
    have failed : ¬ outcome.code = 0 := of_decide_eq_false denied
    exact ⟨_, fun dn => ⟨.auth dn outcome.message, if_neg failed, rfl⟩⟩
  | close => cases kept
  | silent => exact ⟨_, fun _ => ⟨.timeout .bind, rfl, rfl⟩⟩

/-- A close in reply to an authentication is put down to the name. -/
lemma Reply.bound_of_cutsBind {reply : Reply} (cut : reply.cutsBind = true) (dn : String) :
    reply.bound dn = .error (.connection dn receiveFailed) := by
  cases reply with
  | answer => cases cut
  | close => rfl
  | silent => cases cut

end RecipientCallout.Ldap

namespace RecipientCallout.Callout
open RecipientCallout.Directory (Failure)
open RecipientCallout.Ldap
open RecipientCallout.Response (singleLine singleLine_append)

/-- The callout that authenticates with another name and password. -/
def withCredentials (callout : Callout) (dn password : String) : Callout :=
  { callout with bindDn := dn, bindPassword := password }

/-- Whether the server closes the connection when the callout authenticates for an invocation. -/
def LosesBind (callout : Callout) (invocation : Invocation) (link : Link) : Prop :=
  ∃ address context recipient, invocation = .verify address context ∧
    callout.domain.recipient? address = some recipient ∧
    link.Serves callout.settings ∧ (link.reply 0).cutsBind = true

variable {callout : Callout} {recipient : Recipient} {link : Link}

/-- The searches of a session do not depend on what was sent before. -/
lemma search_alike {a b : Link} (alike : a.Alike b) :
    (callout.search service recipient a).1 = (callout.search service recipient b).1 := by
  have searched := search_simulates (a := service) (b := service) Link.Alike.search callout.relates_eq
    recipient alike
  refine searched.eq fun mailbox mailbox' same => ?_
  cases same with
  | none => rfl
  | some e => rw [e]

/-- A session ends with the refusal of its authentication. -/
lemma find_refused {failure : Failure} (live : link.lost = false)
    (refused : (link.reply 0).bound callout.bindDn = .error failure) :
    (callout.find service recipient link).1 = .error failure := by
  simp only [find, service, bind_live live, refused]

/-- A session goes on to its searches when it is authenticated. -/
lemma find_granted (live : link.lost = false)
    (granted : (link.reply 0).bound callout.bindDn = .ok ()) :
    (callout.find service recipient link).1 =
      (callout.search service recipient
        (link.sent (.bind protocolVersion callout.bindDn callout.bindPassword)
          (link.reply 0).cutsBind)).1 := by
  simp only [find, service, bind_live live, granted]

/-- As long as the connection is kept, a session comes to the same with other credentials. -/
lemma verdictOf_find (live : link.lost = false) (kept : (link.reply 0).cutsBind = false)
    (dn password address : String) :
    verdictOf address (callout.find service recipient link).1 =
      verdictOf address ((callout.withCredentials dn password).find service recipient link).1 := by
  cases granted : (link.reply 0).grants with
  | true =>
    rw [find_granted live ((Reply.bound_eq_ok _).mpr granted),
      find_granted live ((Reply.bound_eq_ok _).mpr granted)]
    -- the searches take nothing from the credentials
    have alike : Link.Alike link link := ⟨rfl, rfl, rfl⟩
    exact congrArg _ (search_alike (alike.sent _ _ _))
  | false =>
    obtain ⟨wording, worded⟩ := Reply.exists_wording granted kept
    obtain ⟨failure, refused, told⟩ := worded callout.bindDn
    obtain ⟨failure', refused', told'⟩ := worded dn
    rw [find_refused live refused, find_refused live refused', verdictOf, verdictOf, told, told']

/-- The verdict names whom the server closed the connection on. -/
lemma verdictOf_find_cut (live : link.lost = false) (cut : (link.reply 0).cutsBind = true)
    (address : String) :
    verdictOf address (callout.find service recipient link).1 =
      .temporaryFailure ("connection to " ++ callout.bindDn ++ " failed: " ++ receiveFailed) := by
  rw [find_refused live (Reply.bound_of_cutsBind cut _)]
  rfl

/-- A run says so, too. -/
lemma run_of_losesBind (plain : callout.settings.transport = .plain) {invocation}
    (lost : callout.LosesBind invocation link) :
    (callout.run service invocation link).1 =
      .temporaryFailure ("connection to " ++ callout.bindDn ++ " failed: " ++ receiveFailed) := by
  obtain ⟨address, context, recipient, rfl, reached, served, cut⟩ := lost
  have live : (link.opened callout.settings.endpoint).lost = false := rfl
  rw [run_of_connect reached (connect_served plain served) context]
  exact verdictOf_find_cut live cut address

/-- All other runs come to the same verdict with another name and password. -/
lemma run_of_not_losesBind (plain : callout.settings.transport = .plain) {invocation}
    (kept : ¬ callout.LosesBind invocation link) (dn password : String) :
    (callout.run service invocation link).1 =
      ((callout.withCredentials dn password).run service invocation link).1 := by
  cases invocation with
  | version => simp only [run, AcceptedDomain.decide]
  | verify address context =>
    cases reached : callout.domain.recipient? address with
    | none =>
      have reached' : (callout.withCredentials dn password).domain.recipient? address = none := reached
      rw [run_unreached reached, run_unreached reached']
    | some recipient =>
      have reached' : (callout.withCredentials dn password).domain.recipient? address = some recipient :=
        reached
      by_cases served : link.Serves callout.settings
      case pos =>
        have live : (link.opened callout.settings.endpoint).lost = false := rfl
        have kept : (link.reply 0).cutsBind = false := by
          rw [← Bool.not_eq_true]
          exact fun cut => kept ⟨address, context, recipient, rfl, reached, served, cut⟩
        rw [run_of_connect reached (connect_served plain served),
          run_of_connect reached' (connect_served plain served)]
        exact verdictOf_find live kept dn password address
      case neg =>
        obtain ⟨failure, failed, -⟩ := connect_elsewhere served
        have failed' : service.connect (callout.withCredentials dn password).settings link =
            (.error failure, link) := failed
        rw [run_of_unconnected reached failed, run_of_unconnected reached' failed']

/-- Such verdicts look the same only if the names do on one line. -/
lemma ofVerdict_named_iff (mode : AcceptMode) (dn dn' reason : String) :
    Response.ofVerdict mode (.temporaryFailure ("connection to " ++ dn ++ " failed: " ++ reason)) =
        Response.ofVerdict mode
          (.temporaryFailure ("connection to " ++ dn' ++ " failed: " ++ reason)) ↔
      singleLine dn = singleLine dn' := by
  simp only [Response.ofVerdict, Response.ofLines, List.map_cons, List.map_nil, singleLine_append,
    Response.mk.injEq, true_and, List.cons.injEq, and_true, String.append_left_inj,
    String.append_right_inj]

/-- **Credentials.** Over an unprotected connection, two callouts that differ only in the name and the
password that they authenticate with respond alike, whatever is asked for and whatever the server
replies, unless the server closes the connection on the authentication; then they do so only if the
names look alike on a line. -/
theorem respond_credentials (callout : Callout) (plain : callout.settings.transport = .plain)
    (dn password : String) (invocation : Invocation) (link : Link) :
    (callout.respond service invocation link).1 =
        ((callout.withCredentials dn password).respond service invocation link).1 ↔
      (callout.LosesBind invocation link → singleLine callout.bindDn = singleLine dn) := by
  have shown (c : Callout) : (c.respond service invocation link).1 =
      .ofVerdict c.acceptMode (c.run service invocation link).1 := rfl
  rw [shown, shown]
  by_cases lost : callout.LosesBind invocation link
  case pos =>
    have plain' : (callout.withCredentials dn password).settings.transport = .plain := plain
    have lost' : (callout.withCredentials dn password).LosesBind invocation link := lost
    rw [run_of_losesBind plain lost, run_of_losesBind plain' lost', imp_iff_right lost]
    exact ofVerdict_named_iff callout.acceptMode callout.bindDn dn receiveFailed
  case neg =>
    rw [run_of_not_losesBind plain lost dn password]
    exact iff_of_true rfl fun lost' => absurd lost' lost

/-- An authentication that is refused: the relay is not told whose. -/
theorem respond_credentials_refused :
    let link := Link.serving (.loopback 389) .asSet [.answer [] ⟨49, "", "no"⟩ .outcome]
    let invocation := Invocation.verify "jane@d.example" []
    (sample.respond service invocation link).1 =
        ((sample.withCredentials "cn=c" "other").respond service invocation link).1 ∧
      (sample.respond service invocation link).1.lines =
        ["temporary error", "directory bind rejected: " ++
          "LDAP operation result: rc=49 (invalidCredentials), dn: \"\", text: \"no\""] := by
  intro link invocation
  refine ⟨(respond_credentials sample rfl "cn=c" "other" invocation link).mpr ?_, by decide +kernel⟩
  rintro ⟨-, -, -, -, -, -, cut⟩
  cases cut

/-- Two valid configurations whose callouts the relay can tell apart: the server closes the connection
on the authentication, and the responses name the accounts. -/
theorem respond_credentials_closed :
    ¬ ∀ (store : Files.Store) (config : Config) (dn password : String) (callout other : Callout)
      (invocation : Invocation) (port : Nat) (replies : List Reply),
      ofConfig store config = .ok callout →
      ofConfig store { config with bindDn := dn, bindPassword := some password } = .ok other →
      config.transport = .plain →
      (callout.respond service invocation (.serving (.loopback port) .asSet replies)).1 =
        (other.respond service invocation (.serving (.loopback port) .asSet replies)).1 := by
  intro claim
  have same := claim (fun _ => .error .missing) sampleConfig "cn=c" "secret" sample
    (sample.withCredentials "cn=c" "secret") (.verify "jane@d.example" []) 389 [.close] rfl rfl rfl
  have lines := congrArg Response.lines same
  exact absurd lines (by decide +kernel)

end RecipientCallout.Callout
