import Mathlib.Logic.ExistsUnique
import RecipientCallout.Program
import RecipientCallout.Proofs.Callout.Configured
import RecipientCallout.Proofs.Callout.Printed
import RecipientCallout.Proofs.Callout.Session

/-!
# How a run of the program ends

A run ends in one of five ways, each with an exit code and lines of output of its own (`Ends`), and each
for a reason that the command line, the files and the directory give (`Accepts`, `Rejects`, `Fails`). The
headline `run_ends` says that a run always ends in just one of them, and that the codes of rejections and
of failures have no other reasons than theirs.
-/

namespace RecipientCallout.Program
open RecipientCallout.Text
open RecipientCallout.CommandLine (Arguments Stop)
open RecipientCallout.Directory (Event)
open RecipientCallout.Response (Prints singleLine)

/-- What the command line of a run says. -/
def said (arguments : List ByteArray) (environment : Option ByteArray) : Except Stop Arguments :=
  CommandLine.parse (arguments.map RawText.ofOctets) (environment.map RawText.ofOctets)

/-! ## Reasons and endings -/

section Endings
variable (line : Except Stop Arguments) (store : Files.Store) (link : Ldap.Link)

/-- Why a run under a configuration accepts: no operation failed, and a search found just one entry. -/
inductive Accepts : Config → Prop where
  | found {arguments address context config callout recipient entry} :
    line = .ok arguments →
    arguments.fields = address :: context →
    Config.load store arguments.config = .ok config →
    Callout.ofConfig store config = .ok callout →
    callout.domain.recipient? address = some recipient →
    (callout.events Ldap.service (.verify address context) link).findSome? Event.failure? = none →
    (callout.events Ldap.service (.verify address context) link).findSome? Event.sole? = some entry →
    Accepts config

/-- Why a run on an address rejects: the address does not split, its domain is not the accepted one, or
both searches succeeded without finding just one entry. -/
inductive Rejects : String → Prop where
  | malformed {arguments address context fault} :
    line = .ok arguments →
    arguments.fields = address :: context →
    Recipient.parse address = .error fault →
    Rejects address
  | foreign {arguments address context recipient callout} :
    line = .ok arguments →
    arguments.fields = address :: context →
    Recipient.parse address = .ok recipient →
    loadCallout store arguments.config = .ok callout →
    Domain.isMatch callout.domain.comparison recipient.domain callout.domain.name = false →
    Rejects address
  | unknown {arguments address context callout recipient users folders} :
    line = .ok arguments →
    arguments.fields = address :: context →
    loadCallout store arguments.config = .ok callout →
    callout.domain.recipient? address = some recipient →
    (callout.events Ldap.service (.verify address context) link)[2]? =
      some ⟨callout.usersCall recipient, .ok users⟩ →
    (callout.events Ldap.service (.verify address context) link)[3]? =
      some ⟨callout.foldersCall recipient, .ok folders⟩ →
    users.length ≠ 1 →
    folders.length ≠ 1 →
    Rejects address

/-- Why a run fails: the command line cannot be used or asks for nothing, the configuration cannot be
loaded, or the directory failed. -/
inductive Fails : Prop where
  | unusable {fault} :
    line = .error (.fault fault) →
    Fails
  | nothing {arguments} :
    line = .ok arguments →
    arguments.invocation? = none →
    Fails
  | unloadable {arguments address context recipient fault} :
    line = .ok arguments →
    arguments.fields = address :: context →
    Recipient.parse address = .ok recipient →
    loadCallout store arguments.config = .error fault →
    Fails
  | directory {arguments address context callout recipient failure} :
    line = .ok arguments →
    arguments.fields = address :: context →
    loadCallout store arguments.config = .ok callout →
    callout.domain.recipient? address = some recipient →
    (callout.events Ldap.service (.verify address context) link).findSome? Event.failure? =
      some failure →
    Fails

/-- The ways in which a run can end. -/
inductive Ending where
  | help
  | version
  | acceptance
  | rejection
  | failure
  deriving DecidableEq, Repr

/-- What each ending shows, and why. -/
inductive Ends (outcome : Outcome) : Ending → Prop where
  | help :
    line = .error .help →
    outcome.exitCode = 0 →
    Ends outcome .help
  | version {arguments} :
    line = .ok arguments →
    arguments.invocation? = some .version →
    outcome.exitCode = 0 →
    Prints outcome.output [RecipientCallout.version] →
    Ends outcome .version
  | acceptance {config mailbox} :
    Accepts line store link config →
    outcome.exitCode = (if config.acceptMode = .elsewhere then 1 else 0) →
    mailbox ≠ "" →
    Prints outcome.output ["", mailbox] →
    Ends outcome .acceptance
  | rejection {address} :
    Rejects line store link address →
    outcome.exitCode = 2 →
    Prints outcome.output ["invalid mailbox", "invalid mailbox: " ++ singleLine address] →
    Ends outcome .rejection
  | failure {first reason} :
    Fails line store link →
    outcome.exitCode = 3 →
    first = "error" ∨ first = "temporary error" →
    Prints outcome.output [first, reason] →
    Ends outcome .failure

end Endings

section
variable {line : Except Stop Arguments} {store : Files.Store} {link : Ldap.Link}

/-! ## Each reason has its ending -/

/-- The first field is the address to verify. -/
lemma invocation?_of_fields {arguments : Arguments} {address context}
    (fields : arguments.fields = address :: context) :
    arguments.invocation? = some (.verify address context) := by
  rw [Arguments.invocation?, fields]

/-- An address that does not split is rejected without a configuration. -/
lemma respond_malformed {arguments : Arguments} {address context fault}
    (fields : arguments.fields = address :: context) (malformed : Recipient.parse address = .error fault) :
    respond arguments store link = (.ofVerdict .here (.malformed address), link) := by
  simp only [respond, invocation?_of_fields fields, malformed]

/-- For any other address, a configuration that cannot be used is a usage error. -/
lemma respond_unloadable {arguments : Arguments} {address context recipient fault}
    (fields : arguments.fields = address :: context) (parsed : Recipient.parse address = .ok recipient)
    (unloadable : loadCallout store arguments.config = .error fault) :
    respond arguments store link = (.usageError (loadMessage arguments.config fault), link) := by
  simp only [respond, invocation?_of_fields fields, parsed, unloadable]

/-- The response under a configuration is that of its callout. -/
lemma respond_loaded {arguments : Arguments} {address context recipient callout}
    (fields : arguments.fields = address :: context) (parsed : Recipient.parse address = .ok recipient)
    (loaded : loadCallout store arguments.config = .ok callout) :
    (respond arguments store link).1 =
      .ofVerdict callout.acceptMode (callout.run Ldap.service (.verify address context) link).1 := by
  simp only [respond, invocation?_of_fields fields, parsed, loaded]

/-- A response to a rejection ends the run in one. -/
lemma ends_rejection {address} (rejects : Rejects line store link address) (mode : AcceptMode)
    (after : Ldap.Link) :
    Ends line store link (finish true (.ofVerdict mode (.malformed address)) after) .rejection := by
  have printed := Response.prints_ofLines exitRejected [tokenInvalid, tokenInvalid ++ ": " ++ address]
  have detail : singleLine (tokenInvalid ++ ": " ++ address) = "invalid mailbox: " ++ singleLine address :=
    Response.singleLine_append (tokenInvalid ++ ": ") address
  rw [List.map_cons, List.map_singleton, detail] at printed
  exact .rejection rejects rfl printed

/-- A reason to fail and a temporary verdict make a failure. -/
lemma ends_failure (fails : Fails line store link) (mode : AcceptMode) {verdict : Verdict}
    (temporary : verdict.isTemporary = true) (after : Ldap.Link) :
    Ends line store link (finish true (.ofVerdict mode verdict) after) .failure := by
  cases verdict with
  | temporaryFailure reason =>
    have printed := Response.prints_ofLines exitTemporary [tokenTemporary, reason]
    exact .failure fails rfl (.inr rfl) printed
  | usageError reason =>
    have printed := Response.prints_ofLines exitTemporary [tokenUsage, reason]
    exact .failure fails rfl (.inl rfl) printed
  | accepted => cases temporary
  | malformed => cases temporary
  | unknownMailbox => cases temporary
  | versionQuery => cases temporary

/-- A reason to accept and a mailbox make an acceptance. -/
lemma ends_acceptance {config} (accepts : Accepts line store link config) {mailbox : String}
    (ne : mailbox ≠ "") (after : Ldap.Link) :
    Ends line store link (finish true (.ofVerdict config.acceptMode (.accepted mailbox)) after)
      .acceptance := by
  have printed := Response.prints_ofLines config.acceptMode.exitCode ["", mailbox]
  refine .acceptance accepts ?_ (Response.singleLine_ne_empty ne) printed
  cases mode : config.acceptMode with
  | here => simp [finish, Response.ofVerdict, Response.ofLines, AcceptMode.exitCode, exitAccepted]
  | elsewhere =>
    simp [finish, Response.ofVerdict, Response.ofLines, AcceptMode.exitCode, exitAcceptedElsewhere]

/-- An address that splits is not empty. -/
lemma ne_empty_of_parse {address recipient} (parsed : Recipient.parse address = .ok recipient) :
    address ≠ "" := by
  rintro rfl
  cases parsed

/-- The mailbox of an entry is not empty. -/
lemma mailbox_ne_empty {address : String} (ne : address ≠ "") (entry : Directory.Entry) (name : String) :
    (entry.firstValue? name).getD address ≠ "" := by
  cases found : entry.firstValue? name with
  | none => exact ne
  | some value => simpa using List.find?_some found

end

variable {line : Except Stop Arguments} {store : Files.Store} {link : Ldap.Link}
  {arguments : List ByteArray} {environment : Option ByteArray}

/-- A command line that can be used is answered with a response. -/
lemma run_of_ok {a} (heard : said arguments environment = .ok a) (writable : Bool) :
    run arguments environment store link writable =
      finish writable (respond a store link).1 (respond a store link).2 := by
  unfold said at heard
  simp only [run, heard]

/-- A run that has a reason to reject ends so. -/
lemma ends_of_rejects {address} (rejects : Rejects (said arguments environment) store link address) :
    Ends (said arguments environment) store link (run arguments environment store link true)
      .rejection := by
  have rejected := ends_rejection rejects
  cases rejects with
  | malformed heard fields malformed =>
    rw [run_of_ok heard, respond_malformed fields malformed]
    exact rejected .here _
  | @foreign _ _ context recipient callout heard fields parsed loaded foreign =>
    have unreached : callout.domain.recipient? address = none := by
      simp only [AcceptedDomain.recipient?, parsed, foreign, Bool.false_eq_true, if_false]
    rw [run_of_ok heard, respond_loaded fields parsed loaded, Callout.run_unreached unreached]
    exact rejected _ _
  | @unknown _ _ context callout _ _ _ heard fields loaded reached users folders userCount folderCount =>
    have parsed := (AcceptedDomain.recipient?_eq_some.mp reached).1
    have course := Callout.run_course reached context Ldap.service link
    have verdict := course.unknown_iff.mpr ⟨_, _, users, folders, userCount, folderCount⟩
    rw [run_of_ok heard, respond_loaded fields parsed loaded, verdict,
      AcceptedDomain.address_of_recipient? reached]
    exact rejected callout.acceptMode _

/-- A run that has a reason to fail ends so. -/
lemma ends_of_fails (fails : Fails (said arguments environment) store link) :
    Ends (said arguments environment) store link (run arguments environment store link true)
      .failure := by
  have failed (mode) {verdict : Verdict} (temporary : verdict.isTemporary = true) (after) :=
    ends_failure fails mode temporary after
  cases fails with
  | unusable heard =>
    unfold said at heard
    simp only [run, heard]
    exact failed _ rfl _
  | nothing heard nothing =>
    rw [run_of_ok heard, respond, nothing]
    exact failed _ rfl _
  | unloadable heard fields parsed unloadable =>
    rw [run_of_ok heard, respond_unloadable fields parsed unloadable]
    exact failed _ rfl _
  | @directory _ _ context callout _ failure heard fields loaded reached failure =>
    have parsed := (AcceptedDomain.recipient?_eq_some.mp reached).1
    have course := Callout.run_course reached context Ldap.service link
    rw [run_of_ok heard, respond_loaded fields parsed loaded, course.verdict_eq, Callout.conclude,
      failure]
    exact failed _ rfl _

/-- A run that has a reason to accept ends so. -/
lemma ends_of_accepts {config} (accepts : Accepts (said arguments environment) store link config) :
    Ends (said arguments environment) store link (run arguments environment store link true)
      .acceptance := by
  have accepted {mailbox : String} (ne : mailbox ≠ "") (after) := ends_acceptance accepts ne after
  obtain @⟨a, address, context, config, callout, recipient, entry, heard, fields, read, made, reached,
    unfailed, sole⟩ := accepts
  have parsed := (AcceptedDomain.recipient?_eq_some.mp reached).1
  have loaded : loadCallout store a.config = .ok callout := by
    rw [loadCallout, read]
    exact made
  have course := Callout.run_course reached context Ldap.service link
  rw [run_of_ok heard, respond_loaded fields parsed loaded, course.verdict_eq, Callout.conclude,
    unfailed, sole, Callout.acceptMode_of_ofConfig made]
  -- the entry may have no such attribute, and then the address stands in
  refine accepted (mailbox_ne_empty ?_ _ _) _
  rw [AcceptedDomain.address_of_recipient? reached]
  exact ne_empty_of_parse parsed

/-- A run that comes to a lookup has a reason to accept, to reject or to fail. -/
lemma reason_of_reached {a address context callout recipient} (heard : line = .ok a)
    (fields : a.fields = address :: context) (loaded : loadCallout store a.config = .ok callout)
    (reached : callout.domain.recipient? address = some recipient) :
    (∃ config, Accepts line store link config) ∨ Rejects line store link address ∨
      Fails line store link := by
  have course := Callout.run_course reached context Ldap.service link
  cases failed : (callout.events Ldap.service (.verify address context) link).findSome?
      Event.failure? with
  | some failure => exact .inr (.inr (.directory heard fields loaded reached failed))
  | none =>
    cases sole : (callout.events Ldap.service (.verify address context) link).findSome?
        Event.sole? with
    | some entry =>
      obtain ⟨config, read, made⟩ := exists_of_bind_eq_ok loaded
      exact .inl ⟨config, .found heard fields read made reached failed sole⟩
    | none =>
      have verdict := course.verdict_eq
      rw [Callout.conclude, failed, sole] at verdict
      obtain ⟨_, _, users, folders, userCount, folderCount⟩ := course.unknown_iff.mp verdict
      exact .inr (.inl (.unknown heard fields loaded reached users folders userCount folderCount))

/-- A run on an address has a reason to accept, to reject or to fail. -/
lemma reason_of_fields {a address context} (heard : line = .ok a)
    (fields : a.fields = address :: context) :
    (∃ config, Accepts line store link config) ∨ Rejects line store link address ∨
      Fails line store link := by
  -- the tests of the program in their order: each that fails is a reason
  cases parsed : Recipient.parse address with
  | error fault => exact .inr (.inl (.malformed heard fields parsed))
  | ok recipient =>
    cases loaded : loadCallout store a.config with
    | error fault => exact .inr (.inr (.unloadable heard fields parsed loaded))
    | ok callout =>
      cases matched : Domain.isMatch callout.domain.comparison recipient.domain callout.domain.name with
      | false => exact .inr (.inl (.foreign heard fields parsed loaded matched))
      | true =>
        have reached := AcceptedDomain.recipient?_eq_some.mpr ⟨parsed, matched⟩
        exact reason_of_reached heard fields loaded reached

/-- A run ends in some way, whatever is said and whatever the directory does. -/
lemma exists_ends :
    ∃ ending, Ends (said arguments environment) store link (run arguments environment store link true)
      ending := by
  cases heard : said arguments environment with
  | error stop =>
    cases stop with
    | help =>
      refine ⟨_, .help rfl ?_⟩
      unfold said at heard
      simp only [run, heard]
      rfl
    | fault fault =>
      rw [← heard]
      exact ⟨_, ends_of_fails (.unusable heard)⟩
  | ok a =>
    cases fields : a.fields with
    | cons address context =>
      rw [← heard]
      obtain ⟨config, accepts⟩ | rejects | fails := reason_of_fields heard fields
      · exact ⟨_, ends_of_accepts accepts⟩
      · exact ⟨_, ends_of_rejects rejects⟩
      · exact ⟨_, ends_of_fails fails⟩
    | nil =>
      cases asked : a.version with
      | true =>
        have asks : a.invocation? = some .version := by rw [Arguments.invocation?, fields, asked]; rfl
        have printed := Response.prints_ofLines exitAccepted [version]
        refine ⟨_, .version rfl asks ?_ ?_⟩
        · rw [run_of_ok heard, respond, asks]
          rfl
        · rw [run_of_ok heard, respond, asks]
          exact printed
      | false =>
        have nothing : a.invocation? = none := by rw [Arguments.invocation?, fields, asked]; rfl
        rw [← heard]
        exact ⟨_, ends_of_fails (.nothing heard nothing)⟩

/-! ## Endings exclude each other -/

/-- The ending that the command line and the exit code tell. -/
def told (line : Except Stop Arguments) (exitCode : Nat) : Ending :=
  match exitCode, line with
  | 2, _ => .rejection
  | 3, _ => .failure
  | _, .error _ => .help
  | _, .ok a => if a.fields = [] then .version else .acceptance

/-- The command line and the exit code tell how a run ended. -/
lemma Ends.eq_told {outcome ending} (ends : Ends line store link outcome ending) :
    ending = told line outcome.exitCode := by
  cases ends with
  | help heard code => simp only [code, heard, told]
  | @version a heard asks code =>
    have fields : a.fields = [] := by
      cases fields : a.fields with
      | nil => rfl
      | cons address context =>
        rw [invocation?_of_fields fields] at asks
        cases asks
    simp only [code, heard, told, fields, if_true]
  | acceptance accepts code =>
    obtain ⟨heard, fields⟩ := accepts
    rw [code, heard]
    split <;> simp [told, fields]
  | rejection _ code => rw [code, told]
  | failure _ code => rw [code, told]

/-- A run ends in only one way. -/
lemma Ends.unique {outcome ending other} (ends : Ends line store link outcome ending)
    (ends' : Ends line store link outcome other) : ending = other :=
  ends.eq_told.trans ends'.eq_told.symm

/-- Without output, a run ends with the code of failures, unless it was asked for help. -/
lemma run_unwritable (arguments environment store link) :
    ((run arguments environment store link false).exitCode = 0 ↔
      said arguments environment = .error .help) ∧
    ((run arguments environment store link false).exitCode = 3 ↔
      said arguments environment ≠ .error .help) := by
  cases heard : said arguments environment with
  | error stop =>
    have heard' := heard
    unfold said at heard'
    cases stop with
    | help => simp [run, heard', exitAccepted]
    | fault fault => simp [run, heard', finish, exitTemporary]
  | ok a => simp [run_of_ok heard, finish, exitTemporary]

/-- **Endings.** A run of the program ends in exactly one of five ways: with help, with the version, with
an acceptance, with a rejection or with a failure. It has the exit code of rejections exactly if the
command line gives an address that does not split, or whose domain is not accepted, or that two
successful searches did not find; and it has that of failures exactly if the command line, the
configuration or the directory failed, or if there was nothing to do. If the output cannot be written,
every run fails but one that is asked for help. -/
theorem run_ends (arguments : List ByteArray) (environment : Option ByteArray) (store : Files.Store)
    (link : Ldap.Link) :
    let line := said arguments environment
    let outcome := run arguments environment store link true
    let unwritten := run arguments environment store link false
    (∃! ending, Ends line store link outcome ending) ∧
    (outcome.exitCode = 2 ↔ ∃ address, Rejects line store link address) ∧
    (outcome.exitCode = 3 ↔ Fails line store link) ∧
    (unwritten.exitCode = 0 ↔ line = .error .help) ∧
    (unwritten.exitCode = 3 ↔ line ≠ .error .help) := by
  intro line outcome unwritten
  obtain ⟨ending, ends⟩ : ∃ ending, Ends line store link outcome ending := exists_ends
  -- the ending tells the code, and the code of a rejection or a failure tells the ending
  refine ⟨⟨ending, ends, fun other ends' => ends'.unique ends⟩, ⟨?_, ?_⟩, ⟨?_, ?_⟩, ?_⟩
  · intro code
    have tells := ends.eq_told
    rw [code, told] at tells
    subst tells
    cases ends with
    | rejection rejects => exact ⟨_, rejects⟩
  · rintro ⟨address, rejects⟩
    cases ends_of_rejects rejects with
    | rejection _ code => exact code
  · intro code
    have tells := ends.eq_told
    rw [code, told] at tells
    subst tells
    cases ends with
    | failure fails => exact fails
  · intro fails
    cases ends_of_fails fails with
    | failure _ code => exact code
  · exact run_unwritable arguments environment store link

-- an address that does not split is rejected even where there is no configuration
example : (run ["jane".toUTF8] none (fun _ => .error .missing) .unreachable true).exitCode = 2 := by
  decide +kernel

end RecipientCallout.Program
