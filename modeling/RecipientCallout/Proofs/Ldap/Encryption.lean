import RecipientCallout.Proofs.Ldap.Conversation

/-!
# Encryption on demand

A connection may be begun in the clear, to be encrypted before anything else is sent on it: the server is asked
for encryption, and if it grants that, a handshake follows. What a handshake does to a connection is left open
here: a client may have any (`serviceWith`), and the client of `service` has one that always fails
(`serviceWith_unable`).

The headline `run_unencrypted` is about servers that do not grant encryption. There a callout does not go on in
the clear: the server hears of nothing but the request for encryption.
-/

namespace RecipientCallout.Ldap
open RecipientCallout.Callout (sample sampleConfig)
open RecipientCallout.Directory (Failure Result Service Settings Transport)

/-! ## Clients with a handshake -/

/-- What becomes of a connection to the server of a name behind a grant of encryption. -/
abbrev Handshake := String → Link → Result Link Unit

/-- The handshake of a client that cannot encrypt. -/
def Handshake.unable : Handshake := fun endpoint link =>
  (.error (.connection endpoint unencrypted), link.lose)

/-- Asks for encryption on a new connection, with a handshake behind a grant. -/
def startTlsWith (handshake : Handshake) (endpoint : String) (link : Link) : Result Link Unit :=
  match link.exchange (.extended startTlsOid) with
  | (.answer _ outcome _, link) =>
    if outcome.code = 0 then handshake endpoint link
    else (.error (.connection endpoint outcome.message), link.lose)
  | (.close, link) | (.silent, link) => (.error (.timeout .connect), link.lose)

/-- Opens a connection to the server. One that is to be encrypted on demand is first opened in the clear. -/
def connectWith (handshake : Handshake) (settings : Settings) (link : Link) : Result Link Unit :=
  match settings.transport with
  | .ldaps | .plain => service.connect settings link
  | .startTls =>
    match service.connect { settings with transport := .plain } link with
    | (.error failure, link) => (.error failure, link)
    | (.ok (), _) => startTlsWith handshake settings.endpoint link

/-- The directory service over links of a client with a handshake. -/
def serviceWith (handshake : Handshake) : Service Link :=
  { service with connect := connectWith handshake }

variable {handshake : Handshake} {settings : Settings} {link : Link}

/-- A client that cannot encrypt asks for it all the same. -/
lemma startTlsWith_unable : startTlsWith .unable = startTls := by
  funext endpoint link
  simp only [startTlsWith, startTls, Link.exchange]
  cases link.replies.headD .success with
  | answer _ outcome _ => by_cases granted : outcome.code = 0 <;> simp [granted, Handshake.unable]
  | close => rfl
  | silent => rfl

/-- The name of a server does not depend on encryption. -/
lemma endpoint_plain : Settings.endpoint { settings with transport := .plain } = settings.endpoint := rfl

/-- On demand, encryption is asked of the server that an unprotected connection would be opened to. -/
lemma serves_plain (demanded : settings.transport = .startTls) :
    link.Serves { settings with transport := .plain } ↔ link.Serves settings := by
  simp only [Link.Serves, endpoint_plain, demanded, Transport.defaultPort]

/-- A client that cannot encrypt connects as one without a handshake. -/
lemma connectWith_unable : connectWith .unable = service.connect := by
  funext settings link
  cases demanded : settings.transport with
  | ldaps => simp only [connectWith, demanded]
  | plain => simp only [connectWith, demanded]
  | startTls =>
    have port : Transport.startTls.defaultPort = Transport.plain.defaultPort := rfl
    simp only [connectWith, service, connect, demanded, startTlsWith_unable, endpoint_plain, port]
    cases Target.parse settings.endpoint.toList with
    | error e => simp only
    | ok target =>
      cases reached : link.reach target Transport.plain.defaultPort.toNat with
      | failed reason => simp only [reached]
      | silent => simp only [reached]
      | server => simp only [reached]

/-- The service over links is that of a client that cannot encrypt. -/
lemma serviceWith_unable : serviceWith .unable = service := by
  rw [serviceWith, connectWith_unable]

/-! ## Encryption that is not granted -/

/-- What connecting comes to if a reply does not grant encryption. -/
def Reply.refusal (endpoint : String) : Reply → Failure
  | .answer _ outcome _ => .connection endpoint outcome.message
  | .close | .silent => .timeout .connect

/-- The request for encryption. -/
def encryptionRequest : Request := .extended startTlsOid

/-- Without the consent of the server, no handshake begins, and the connection is lost. -/
lemma startTlsWith_refused (refused : (link.reply 0).grants = false) (endpoint : String) :
    startTlsWith handshake endpoint link =
      (.error ((link.reply 0).refusal endpoint), link.sent encryptionRequest true) := by
  simp only [startTlsWith, Link.exchange, Link.headD_replies]
  cases reply : link.reply 0 with
  | answer _ outcome _ =>
    rw [reply] at refused
    have failed : ¬ outcome.code = 0 := by simpa [Reply.grants] using refused
    simp only [if_neg failed]
    rfl
  | close => rfl
  | silent => rfl

/-- Nor is there a session then. -/
lemma connectWith_refused (demanded : settings.transport = .startTls) (served : link.Serves settings)
    (refused : (link.reply 0).grants = false) :
    (serviceWith handshake).connect settings link =
      (.error ((link.reply 0).refusal settings.endpoint), link.sent encryptionRequest true) := by
  have opened := connect_served rfl ((serves_plain demanded).mpr served)
  simp only [serviceWith, connectWith, demanded, opened, startTlsWith_refused refused]

/-- Where the settings do not lead to the server, there is no session either. -/
lemma connectWith_elsewhere (demanded : settings.transport = .startTls) (unserved : ¬ link.Serves settings) :
    ∃ failure, (serviceWith handshake).connect settings link = (.error failure, link) ∧
      IsConnectFailure settings failure := by
  rw [← serves_plain demanded] at unserved
  obtain ⟨failure, failed, why⟩ := connect_elsewhere unserved
  exact ⟨failure, by simp only [serviceWith, connectWith, demanded, failed], why⟩

/-- A refused encryption is a failure to connect, whatever the handshake. All that is sent is the request for
encryption, and not even that where the settings do not lead to the server. -/
lemma connectWith_ungranted (handshake : Handshake) (demanded : settings.transport = .startTls)
    (refused : (link.reply 0).grants = false) :
    ∃ failure next, (serviceWith handshake).connect settings link = (.error failure, next) ∧
      IsConnectFailure settings failure ∧
      (link.Serves settings →
        failure = (link.reply 0).refusal settings.endpoint ∧ next = link.sent encryptionRequest true) ∧
      (¬ link.Serves settings → next = link) := by
  by_cases served : link.Serves settings
  case neg =>
    obtain ⟨failure, failed, why⟩ := connectWith_elsewhere demanded served
    refine ⟨failure, link, failed, why, ?_, ?_⟩
    · intro served'
      exact absurd served' served
    · intro _
      rfl
  case pos =>
    refine ⟨_, _, connectWith_refused demanded served refused, ?_, ?_, ?_⟩
    · cases link.reply 0 with
      | answer _ outcome _ => exact .inr ⟨outcome.message, rfl⟩
      | close => exact .inl rfl
      | silent => exact .inl rfl
    · intro _
      exact ⟨rfl, rfl⟩
    · intro unserved
      exact absurd served unserved

end RecipientCallout.Ldap

namespace RecipientCallout.Callout
open RecipientCallout.Ldap

/-- **Encryption on demand.** A callout encrypts its connections on demand, and a server does not grant that in
its first reply, whatever it would reply later and whatever a handshake would do. Then a run makes no attempt
but to connect: the server receives the request for encryption and nothing else, or nothing at all if the
settings do not lead to it or if the address is not looked up. The verdict on an address that is looked up
is a temporary failure, which is a time-out of connecting or has the name of the server. -/
theorem run_unencrypted (handshake : Handshake) {callout : Callout}
    (demanded : callout.settings.transport = .startTls) {link : Link}
    (refused : (link.reply 0).grants = false) (invocation : Invocation) :
    let done := callout.run (serviceWith handshake) invocation link
    let calls := callout.calls (serviceWith handshake) invocation link
    (¬ callout.LooksUp invocation → done.2 = link ∧ calls = []) ∧
    (callout.LooksUp invocation → calls = [callout.connectCall] ∧
      ∃ failure, done.1 = .temporaryFailure failure.message ∧
        (failure = .timeout .connect ∨ ∃ reason, failure = .connection callout.settings.endpoint reason) ∧
        (link.Serves callout.settings →
          failure = (link.reply 0).refusal callout.settings.endpoint ∧
            done.2 = link.sent encryptionRequest true) ∧
        (¬ link.Serves callout.settings → done.2 = link)) ∧
    (done.2.received = link.received ∨ done.2.received = link.received ++ [encryptionRequest]) := by
  intro done calls
  by_cases looksUp : callout.LooksUp invocation
  case neg =>
    have same : done.2 = link := run_of_not_looksUp looksUp _ _
    refine ⟨?_, ?_, ?_⟩
    · intro _
      exact ⟨same, calls_of_not_looksUp looksUp _ _⟩
    · intro looksUp'
      exact absurd looksUp' looksUp
    · left
      rw [same]
  case pos =>
    obtain ⟨failure, next, failed, why, served, unserved⟩ := connectWith_ungranted handshake demanded refused
    have called : calls = [callout.connectCall] := by
      apply calls_of_unconnected looksUp
      rw [failed]
    have e : done = (.temporaryFailure failure.message, next) := by
      obtain ⟨address, context, recipient, rfl, reached⟩ := looksUp
      exact run_of_unconnected reached failed context
    rw [e]
    refine ⟨?_, ?_, ?_⟩
    · intro idle
      exact absurd looksUp idle
    · intro _
      exact ⟨called, failure, rfl, why, served, unserved⟩
    · by_cases serves : link.Serves callout.settings
      case pos =>
        right
        rw [(served serves).2]
        rfl
      case neg =>
        left
        rw [unserved serves]

/-- The sample callout with encryption on demand. -/
def encryptedSample : Callout :=
  { sample with settings := { sample.settings with transport := .startTls } }

/-- The configuration of that callout. -/
def encryptedConfig : Config := { sampleConfig with transport := .startTls }

/-- A server that refuses encryption, and would grant everything else. -/
theorem run_unencrypted_denied :
    let server := Link.serving (.loopback 389) .asSet [.answer [] ⟨52, "", "no TLS"⟩ .outcome]
    let done := encryptedSample.run service (.verify "jane@d.example" []) server
    ofConfig (fun _ => .error .missing) encryptedConfig = .ok encryptedSample ∧
    (server.reply 0).grants = false ∧
    encryptedSample.calls service (.verify "jane@d.example" []) server =
      [.connect encryptedSample.settings] ∧
    done.2.received = [.extended startTlsOid] ∧
    done.1 = .temporaryFailure
      "connection to 127.0.0.1:389 failed: LDAP operation result: rc=52 (unavailable), dn: \"\", text: \"no TLS\"" := by
  intro server done
  have made : ofConfig (fun _ => .error .missing) encryptedConfig = .ok encryptedSample := by rfl
  have refused : (server.reply 0).grants = false := by rfl
  have reached : encryptedSample.domain.recipient? "jane@d.example" =
      some ⟨"jane@d.example", "jane", "d.example"⟩ := by decide +kernel
  have serves : server.Serves encryptedSample.settings :=
    ⟨⟨"127.0.0.1", some 389⟩, by rfl, by decide +kernel⟩
  have demanded : encryptedSample.settings.transport = .startTls := rfl
  obtain ⟨-, told, -⟩ := run_unencrypted .unable demanded refused (.verify "jane@d.example" [])
  rw [serviceWith_unable] at told
  obtain ⟨calls, failure, verdict, -, served, -⟩ := told ⟨_, _, _, rfl, reached⟩
  obtain ⟨rfl, sent⟩ := served serves
  refine ⟨made, refused, calls, congrArg Link.received sent, verdict.trans ?_⟩
  decide +kernel

end RecipientCallout.Callout
