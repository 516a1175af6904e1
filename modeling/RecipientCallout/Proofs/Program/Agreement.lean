import Mathlib.Tactic.Lemma
import RecipientCallout.Proofs.Program.Endings

/-!
# Early answers

The program answers version queries and addresses that do not split before it reads a configuration
(`IsEarly`), in words of its own. The headline `respond_agrees` says that nobody can tell: they are the
words of every callout over every directory. For all other invocations the program says what the callout
of its configuration says, or else that there is none. What depends neither on the configuration nor on
the server follows.
-/

namespace RecipientCallout

/-- Whether an invocation can be answered without a configuration. -/
def IsEarly : Invocation → Prop
  | .version => True
  | .verify address _ => ∃ fault, Recipient.parse address = .error fault

/-- Whether an invocation is about an address of another domain. -/
def IsForeign (domain : AcceptedDomain) : Invocation → Prop
  | .version => False
  | .verify address _ => ∃ recipient, Recipient.parse address = .ok recipient ∧
      Domain.isMatch domain.comparison recipient.domain domain.name = false

/-- The answer to an early invocation. -/
def earlyVerdict : Invocation → Verdict
  | .version => .versionQuery
  | .verify address _ => .malformed address

namespace Callout
variable {callout : Callout} {σ : Type} {service : Directory.Service σ} {s : σ}

/-- An early verdict has the same response in both modes. -/
lemma ofVerdict_earlyVerdict (mode mode' : AcceptMode) (invocation : Invocation) :
    Response.ofVerdict mode (earlyVerdict invocation) =
      Response.ofVerdict mode' (earlyVerdict invocation) := by
  cases invocation with
  | version => rfl
  | verify => rfl

/-- A callout comes to an early verdict without its directory. -/
lemma run_early {invocation : Invocation} (early : IsEarly invocation) :
    callout.run service invocation s = (earlyVerdict invocation, s) := by
  cases invocation with
  | version => rfl
  | verify address context =>
    obtain ⟨fault, malformed⟩ := early
    have unreached : callout.domain.recipient? address = none := by
      rw [AcceptedDomain.recipient?, malformed]
    exact run_unreached unreached context service s

/-- So it does for an address of another domain. -/
lemma run_foreign {invocation : Invocation} (foreign : IsForeign callout.domain invocation) :
    callout.run service invocation s = (earlyVerdict invocation, s) := by
  cases invocation with
  | version => exact foreign.elim
  | verify address context =>
    obtain ⟨recipient, parsed, mismatch⟩ := foreign
    have unreached : callout.domain.recipient? address = none := by
      simp only [AcceptedDomain.recipient?, parsed, mismatch, Bool.false_eq_true, if_false]
    exact run_unreached unreached context service s

/-- Every callout has the same answer to an early invocation, and asks nobody. -/
lemma respond_early {invocation : Invocation} (early : IsEarly invocation) (mode : AcceptMode) :
    callout.respond service invocation s =
      (Response.ofVerdict mode (earlyVerdict invocation), s) := by
  simp only [respond, run_early early, ofVerdict_earlyVerdict callout.acceptMode mode]

end Callout

namespace Program
open RecipientCallout.CommandLine (Arguments)

variable {arguments : Arguments} {invocation : Invocation} {store : Files.Store} {link : Ldap.Link}

/-- The program's own words for early invocations. -/
lemma respond_early (asked : arguments.invocation? = some invocation) (early : IsEarly invocation)
    (store : Files.Store) (link : Ldap.Link) :
    respond arguments store link = (Response.ofVerdict .here (earlyVerdict invocation), link) := by
  cases invocation with
  | version => rw [respond, asked]; rfl
  | verify address context =>
    obtain ⟨fault, malformed⟩ := early
    simp only [respond, asked, malformed]
    rfl

/-- With a configuration, the program responds as its callout. -/
lemma respond_of_loaded (asked : arguments.invocation? = some invocation) {callout : Callout}
    (loaded : loadCallout store arguments.config = .ok callout) (link : Ldap.Link) :
    respond arguments store link = callout.respond Ldap.service invocation link := by
  by_cases early : IsEarly invocation
  case pos => rw [respond_early asked early, Callout.respond_early early .here]
  case neg =>
    cases invocation with
    | version => exact absurd trivial early
    | verify address context =>
      cases parsed : Recipient.parse address with
      | error fault => exact absurd ⟨fault, parsed⟩ early
      | ok recipient =>
        simp only [respond, asked, parsed, loaded]
        rfl

/-- Without one, all that is not early is a usage error. -/
lemma respond_of_unloadable (asked : arguments.invocation? = some invocation) {fault : Config.Fault}
    (unloadable : loadCallout store arguments.config = .error fault) (late : ¬ IsEarly invocation)
    (link : Ldap.Link) :
    respond arguments store link = (.usageError (loadMessage arguments.config fault), link) := by
  cases invocation with
  | version => exact absurd trivial late
  | verify address context =>
    cases parsed : Recipient.parse address with
    | error fault => exact absurd ⟨fault, parsed⟩ late
    | ok recipient => simp only [respond, asked, parsed, unloadable]

/-- **Agreement.** To any invocation, the program responds as the callout of its configuration does. If
its configuration cannot be loaded, the response is an error with the code of temporary failures, unless
the invocation is early. The response to an early invocation is that of every callout over every
directory, whatever the options, the files and the server of the run; that to an address of another
domain is the same for every server; and neither takes a request. -/
theorem respond_agrees (asked : arguments.invocation? = some invocation) (store : Files.Store)
    (link : Ldap.Link) :
    let answer := respond arguments store link
    (∀ callout, loadCallout store arguments.config = .ok callout →
      answer = callout.respond Ldap.service invocation link) ∧
    (∀ fault, loadCallout store arguments.config = .error fault → ¬ IsEarly invocation →
      answer = (.ofVerdict .here (.usageError (loadMessage arguments.config fault)), link) ∧
        answer.1.exitCode = 3) ∧
    (IsEarly invocation →
      (∀ {σ : Type} (callout : Callout) (service : Directory.Service σ) (s : σ),
        callout.respond service invocation s = (answer.1, s)) ∧
      ∀ other : Arguments, other.invocation? = some invocation →
        ∀ store' link', respond other store' link' = (answer.1, link')) ∧
    (∀ callout, loadCallout store arguments.config = .ok callout →
      IsForeign callout.domain invocation →
      ∀ link', respond arguments store link' = (answer.1, link')) := by
  intro answer
  refine ⟨fun callout loaded => respond_of_loaded asked loaded link, ?_, ?_, ?_⟩
  · intro fault unloadable late
    rw [show answer = _ from respond_of_unloadable asked unloadable late link]
    exact ⟨rfl, rfl⟩
  · intro early
    have e : answer.1 = Response.ofVerdict .here (earlyVerdict invocation) := by
      rw [show answer = _ from respond_early asked early store link]
    rw [e]
    refine ⟨fun callout service s => Callout.respond_early early .here, ?_⟩
    intro other asked' store' link'
    exact respond_early asked' early store' link'
  · intro callout loaded foreign link'
    have e (link : Ldap.Link) : respond arguments store link =
        (Response.ofVerdict callout.acceptMode (earlyVerdict invocation), link) := by
      rw [respond_of_loaded asked loaded]
      simp only [Callout.respond, Callout.run_foreign foreign]
    rw [e, show answer = _ from e link]

/-- A document that sets what has no default. -/
def sampleDocument : String :=
  "host='h'\nbind_dn='b'\nbind_password='s'\nuser_search_base='u'\nfolder_search_base='f'\n" ++
    "accepted_domain='d'\n"

/-- An address of another domain with a configuration and without one, and one that does not split. -/
theorem respond_agrees_foreign :
    let store : Files.Store := fun path =>
      if path = .ofString "c" then .ok sampleDocument.toUTF8 else .error .missing
    let asking (config address : String) : Arguments := ⟨false, .ofString config, none, [address]⟩
    (∀ link, respond (asking "c" "jane@x") store link =
      ((respond (asking "c" "jane@x") store .unreachable).1, link)) ∧
    (respond (asking "gone" "jane@x") store .unreachable).1.exitCode = 3 ∧
    ∀ callout : Callout, callout.respond Ldap.service (.verify "jane" []) .unreachable =
      ((respond (asking "gone" "jane") store .unreachable).1, .unreachable) := by
  intro store asking
  have parsed : Recipient.parse "jane@x" = .ok ⟨"jane@x", "jane", "x"⟩ := by rfl
  refine ⟨?_, ?_, ?_⟩
  · obtain ⟨callout, loaded, domain⟩ : ∃ callout, loadCallout store (.ofString "c") = .ok callout ∧
        callout.domain = ⟨"d", .exact⟩ := by
      have domain : (loadCallout store (.ofString "c")).toOption.map Callout.domain =
          some ⟨"d", .exact⟩ := by decide +kernel
      cases loaded : loadCallout store (.ofString "c") with
      | error fault => rw [loaded] at domain; cases domain
      | ok callout => rw [loaded] at domain; exact ⟨callout, rfl, Option.some.inj domain⟩
    have foreign : IsForeign callout.domain (.verify "jane@x" []) := by
      rw [domain]
      exact ⟨_, parsed, by decide +kernel⟩
    have asked : (asking "c" "jane@x").invocation? = some (.verify "jane@x" []) := by rfl
    exact (respond_agrees asked store .unreachable).2.2.2 callout loaded foreign
  · have asked : (asking "gone" "jane@x").invocation? = some (.verify "jane@x" []) := by rfl
    have late : ¬ IsEarly (.verify "jane@x" []) := by
      rintro ⟨fault, malformed⟩
      cases parsed.symm.trans malformed
    have unloadable : loadCallout store (.ofString "gone") =
        .error (.unreadable (.ofString "gone") .missing) := by rfl
    exact ((respond_agrees asked store .unreachable).2.1 _ unloadable late).2
  · have asked : (asking "gone" "jane").invocation? = some (.verify "jane" []) := by rfl
    have early : IsEarly (.verify "jane" []) := ⟨.missingSeparator "jane", by rfl⟩
    intro callout
    exact ((respond_agrees asked store .unreachable).2.2.1 early).1 callout Ldap.service .unreachable

end Program
end RecipientCallout
