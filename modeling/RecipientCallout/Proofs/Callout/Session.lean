import Mathlib.Data.List.Forall2
import Mathlib.Tactic.Lemma
import RecipientCallout.Callout.Basic
import RecipientCallout.Directory.Prepared

/-!
# Sessions of the callout

What one verification asks of a directory, and how the verdict follows from the answers. A directory is
any service at all: `Service.observed` keeps each operation with what came of it. Directories that answer
alike (`Service.Simulates`) lead to the same verdict (`run_simulates`), so that keeping them changes nothing.

`Callout.Course` lists the seven ways in which a session can go; `run_course` shows that a run takes one
of them, whatever the directory does. The headline `run_session` reads off it which calls are made, that
the session is ended exactly if it was begun, and that the verdict is drawn from the first failure or
else from the only entry that a search found.
-/

namespace RecipientCallout.Directory

/-- An operation that was asked for, with what came of it: a failure, or the entries found (none but
by a search). -/
structure Event where
  call : Call
  result : Except Failure (List Entry)

namespace Event

/-- An operation that finds nothing, with what came of it. -/
def plain (call : Call) (result : Except Failure Unit) : Event := ⟨call, result.map fun _ => []⟩

/-- The failure of an operation; that of ending a session counts for nothing. -/
def failure? (event : Event) : Option Failure :=
  match event.result with
  | .error failure => if event.call = .unbind then none else some failure
  | .ok _ => none

/-- The entry that was found, if it was just one. -/
def sole? (event : Event) : Option Entry :=
  match event.result with
  | .ok [entry] => some entry
  | _ => none

@[simp] lemma call_plain (call : Call) (result) : (plain call result).call = call := rfl

@[simp] lemma failure?_plain_ok (call : Call) : (plain call (.ok ())).failure? = none := rfl

@[simp] lemma failure?_plain_unbind (result) : (plain .unbind result).failure? = none := by
  cases result <;> rfl

@[simp] lemma failure?_ok (call : Call) (entries) : (mk call (.ok entries)).failure? = none := rfl

@[simp] lemma sole?_plain (call : Call) (result) : (plain call result).sole? = none := by
  cases result <;> rfl

@[simp] lemma sole?_singleton (call : Call) (entry) :
    (mk call (.ok [entry])).sole? = some entry := rfl

/-- A failure counts unless it is that of ending the session. -/
lemma failure?_plain_error {call : Call} (other : call ≠ .unbind) (failure) :
    (plain call (.error failure)).failure? = some failure :=
  if_neg other

/-- A failed search counts, as it does not end the session. -/
lemma failure?_error {call : Call} (other : call ≠ .unbind) (failure) :
    (mk call (.error failure)).failure? = some failure :=
  if_neg other

/-- There is no only entry among several or none. -/
lemma sole?_eq_none {call : Call} {entries : List Entry} (others : entries.length ≠ 1) :
    (mk call (.ok entries)).sole? = none := by
  match entries with
  | [] => rfl
  | [_] => exact absurd rfl others
  | _ :: _ :: _ => rfl

end Event

variable {σ τ : Type}

/-- The directory that also keeps what came of the operations, in order. -/
def Service.observed (service : Service σ) : Service (σ × List Event) where
  connect settings state :=
    let (result, next) := service.connect settings state.1
    (result, next, state.2 ++ [.plain (.connect settings) result])
  bind dn password state :=
    let (result, next) := service.bind dn password state.1
    (result, next, state.2 ++ [.plain (.bind dn password) result])
  search base filter attributes state :=
    let (result, next) := service.search base filter attributes state.1
    (result, next, state.2 ++ [⟨.search base filter attributes, result⟩])
  unbind state :=
    let (result, next) := service.unbind state.1
    (result, next, state.2 ++ [.plain .unbind result])

variable (service : Service σ) (state : σ × List Event)

@[simp] lemma Service.observed_connect (settings : Settings) :
    service.observed.connect settings state =
      ((service.connect settings state.1).1, (service.connect settings state.1).2,
        state.2 ++ [.plain (.connect settings) (service.connect settings state.1).1]) := rfl

@[simp] lemma Service.observed_bind (dn password : String) :
    service.observed.bind dn password state =
      ((service.bind dn password state.1).1, (service.bind dn password state.1).2,
        state.2 ++ [.plain (.bind dn password) (service.bind dn password state.1).1]) := rfl

@[simp] lemma Service.observed_search (base filter : String) (attributes : List String) :
    service.observed.search base filter attributes state =
      ((service.search base filter attributes state.1).1,
        (service.search base filter attributes state.1).2,
        state.2 ++ [⟨.search base filter attributes,
          (service.search base filter attributes state.1).1⟩]) := rfl

@[simp] lemma Service.observed_unbind :
    service.observed.unbind state =
      ((service.unbind state.1).1, (service.unbind state.1).2,
        state.2 ++ [.plain .unbind (service.unbind state.1).1]) := rfl

/-- Whether the results of an operation on two directories are alike: one failure, or successes that are
related. The states after them are related, too. -/
inductive Result.Alike {α : Type} (values : α → α → Prop) (states : σ → τ → Prop) :
    Result σ α → Result τ α → Prop where
  | ok {x y s t} :
    values x y →
    states s t →
    Alike values states (.ok x, s) (.ok y, t)
  | error {failure s t} :
    states s t →
    Alike values states (.error failure, s) (.error failure, t)

/-- Results are alike in all values if they are the same, with related states. -/
lemma Result.alike_eq_iff {α : Type} {states : σ → τ → Prop} {x : Result σ α} {y : Result τ α} :
    Alike Eq states x y ↔ x.1 = y.1 ∧ states x.2 y.2 := by
  constructor
  · rintro (⟨rfl, related⟩ | related)
    · exact ⟨rfl, related⟩
    · exact ⟨rfl, related⟩
  · obtain ⟨result, s⟩ := x
    obtain ⟨_, t⟩ := y
    rintro ⟨rfl, related⟩
    cases result with
    | error => exact .error related
    | ok => exact .ok rfl related

/-- Results that are alike in related values are the same if related values are. -/
lemma Result.Alike.eq {α : Type} {values : α → α → Prop} {states : σ → τ → Prop} {x : Result σ α}
    {y : Result τ α} (alike : Alike values states x y) (same : ∀ v w, values v w → v = w) :
    x.1 = y.1 := by
  cases alike with
  | ok related => rw [same _ _ related]
  | error => rfl

/-- Two directories answer alike in related states, but for the entries that they find, which are related. -/
structure Service.Simulates (a : Service σ) (b : Service τ) (states : σ → τ → Prop)
    (entries : Entry → Entry → Prop) : Prop where
  connect {s t} : states s t → ∀ settings,
    Result.Alike Eq states (a.connect settings s) (b.connect settings t)
  bind {s t} : states s t → ∀ dn password,
    Result.Alike Eq states (a.bind dn password s) (b.bind dn password t)
  search {s t} : states s t → ∀ base filter attributes,
    Result.Alike (List.Forall₂ entries) states (a.search base filter attributes s)
      (b.search base filter attributes t)
  unbind {s t} : states s t → Result.Alike Eq states (a.unbind s) (b.unbind t)

/-- Observing a directory does not change its answers. -/
lemma Service.observed_fst (service : Service σ) :
    Simulates service.observed service (fun s t => t = s.1) Eq where
  connect := by
    rintro s _ rfl settings
    exact Result.alike_eq_iff.mpr ⟨rfl, rfl⟩
  bind := by
    rintro s _ rfl dn password
    exact Result.alike_eq_iff.mpr ⟨rfl, rfl⟩
  search := by
    rintro s _ rfl base filter attributes
    rw [List.forall₂_eq_eq_eq]
    exact Result.alike_eq_iff.mpr ⟨rfl, rfl⟩
  unbind := by
    rintro s _ rfl
    exact Result.alike_eq_iff.mpr ⟨rfl, rfl⟩

/-- The operations that are recorded are those that are observed. -/
lemma Service.observed_recorded (service : Service σ) :
    Simulates service.observed service.recorded (fun s t => t = (s.1, s.2.map Event.call)) Eq where
  connect := by
    rintro s _ rfl settings
    exact Result.alike_eq_iff.mpr ⟨rfl, by simp [recorded]⟩
  bind := by
    rintro s _ rfl dn password
    exact Result.alike_eq_iff.mpr ⟨rfl, by simp [recorded]⟩
  search := by
    rintro s _ rfl base filter attributes
    rw [List.forall₂_eq_eq_eq]
    exact Result.alike_eq_iff.mpr ⟨rfl, by simp [recorded]⟩
  unbind := by
    rintro s _ rfl
    exact Result.alike_eq_iff.mpr ⟨rfl, by simp [recorded]⟩

end RecipientCallout.Directory

namespace RecipientCallout
open RecipientCallout.Directory (Call Entry Event Failure Service)

/-- A recipient keeps the address that it was split from. -/
lemma Recipient.address_of_parse {address recipient}
    (parsed : Recipient.parse address = .ok recipient) : recipient.address = address := by
  simp only [Recipient.parse] at parsed
  split at parsed
  · cases parsed
  · split at parsed
    · cases parsed
    · cases parsed
      rfl

/-- An address is looked up if it splits and its domain is accepted. -/
lemma AcceptedDomain.recipient?_eq_some {domain : AcceptedDomain} {address recipient} :
    domain.recipient? address = some recipient ↔
      Recipient.parse address = .ok recipient ∧
        Domain.isMatch domain.comparison recipient.domain domain.name = true := by
  unfold recipient?
  split
  case h_1 e parsed => simp [parsed]
  case h_2 other parsed =>
    rw [parsed]
    constructor
    · intro reached
      split at reached
      · cases reached
        exact ⟨rfl, by assumption⟩
      · cases reached
    · rintro ⟨e, isMatch⟩
      cases e
      rw [if_pos isMatch]

/-- A recipient that is looked up has the address that was asked for. -/
lemma AcceptedDomain.address_of_recipient? {domain : AcceptedDomain} {address recipient}
    (reached : domain.recipient? address = some recipient) : recipient.address = address :=
  Recipient.address_of_parse (recipient?_eq_some.mp reached).1

/-- Whether two verdicts are the same but for the mailboxes of two acceptances, which are related. -/
inductive Verdict.Alike (mailboxes : String → String → Prop) : Verdict → Verdict → Prop where
  | accepted {mailbox mailbox'} :
    mailboxes mailbox mailbox' →
    Alike mailboxes (.accepted mailbox) (.accepted mailbox')
  | same {verdict} :
    Alike mailboxes verdict verdict

/-- Verdicts are the same if the mailboxes are. -/
lemma Verdict.Alike.eq {mailboxes : String → String → Prop} {verdict verdict' : Verdict}
    (alike : Alike mailboxes verdict verdict') (same : ∀ m m', mailboxes m m' → m = m') :
    verdict = verdict' := by
  cases alike with
  | accepted related => rw [same _ _ related]
  | same => rfl

namespace Callout
variable {σ τ : Type}

section
variable {a : Service σ} {b : Service τ} {states : σ → τ → Prop} {entries : Entry → Entry → Prop}
  {mailboxes : String → String → Prop} {callout : Callout} {s : σ} {t : τ}

/-- Whether related entries lead a callout to related mailboxes. -/
def Relates (callout : Callout) (entries : Entry → Entry → Prop)
    (mailboxes : String → String → Prop) : Prop :=
  ∀ entry entry', entries entry entry' → ∀ address,
    mailboxes ((entry.firstValue? callout.mailAttribute).getD address)
      ((entry'.firstValue? callout.mailAttribute).getD address)

/-- An entry leads a callout to one mailbox. -/
lemma relates_eq (callout : Callout) : callout.Relates Eq Eq := by
  rintro entry _ rfl address
  rfl

/-- Related entries give a mailbox on both sides or on neither. -/
lemma mailbox?_alike (relates : callout.Relates entries mailboxes) (recipient : Recipient) {found found'}
    (alike : List.Forall₂ entries found found') :
    Option.Rel mailboxes (callout.mailbox? recipient found) (callout.mailbox? recipient found') := by
  cases alike with
  | nil => exact .none
  | cons same rest =>
    cases rest with
    | nil => exact .some (relates _ _ same _)
    | cons => exact .none

/-- The searches come to the same but for the mailbox, if each search finds related entries. -/
lemma search_simulates (searches : ∀ {s t}, states s t → ∀ base filter attributes,
      Directory.Result.Alike (List.Forall₂ entries) states (a.search base filter attributes s)
        (b.search base filter attributes t))
    (relates : callout.Relates entries mailboxes) (recipient : Recipient) (related : states s t) :
    Directory.Result.Alike (Option.Rel mailboxes) states (callout.search a recipient s)
      (callout.search b recipient t) := by
  simp only [search]
  generalize callout.userTemplate.fill (callout.proxyAddress recipient) = users
  generalize callout.folderTemplate.fill (callout.proxyAddress recipient) = folders
  have searched := searches related callout.userSearchBase users [callout.mailAttribute]
  generalize a.search callout.userSearchBase users [callout.mailAttribute] s = x at searched
  generalize b.search callout.userSearchBase users [callout.mailAttribute] t = y at searched
  cases searched with
  | error related => exact .error related
  | @ok found found' s t same related =>
    have mailbox := mailbox?_alike relates recipient same
    simp only
    generalize callout.mailbox? recipient found = m at mailbox
    generalize callout.mailbox? recipient found' = m' at mailbox
    cases mailbox with
    | some same => exact .ok (.some same) related
    | none =>
      have searched := searches related callout.folderSearchBase folders [callout.mailAttribute]
      simp only
      generalize a.search callout.folderSearchBase folders [callout.mailAttribute] s = x at searched
      generalize b.search callout.folderSearchBase folders [callout.mailAttribute] t = y at searched
      cases searched with
      | error related => exact .error related
      | ok same related => exact .ok (mailbox?_alike relates recipient same) related

variable (sim : Service.Simulates a b states entries) (relates : callout.Relates entries mailboxes)
include sim relates

/-- So does a session from the authentication on. -/
lemma find_simulates (recipient : Recipient) (related : states s t) :
    Directory.Result.Alike (Option.Rel mailboxes) states (callout.find a recipient s)
      (callout.find b recipient t) := by
  have bound := sim.bind related callout.bindDn callout.bindPassword
  unfold find
  generalize a.bind callout.bindDn callout.bindPassword s = x at bound
  generalize b.bind callout.bindDn callout.bindPassword t = y at bound
  cases bound with
  | error related => exact .error related
  | ok _ related => exact search_simulates sim.search relates recipient related

/-- So does a lookup, and with it the verdict. -/
lemma lookup_simulates (recipient : Recipient) (address : String) (related : states s t) :
    Verdict.Alike mailboxes (.ofLookup address (callout.lookup a recipient s).1)
        (.ofLookup address (callout.lookup b recipient t).1) ∧
      states (callout.lookup a recipient s).2 (callout.lookup b recipient t).2 := by
  have connected := sim.connect related callout.settings
  unfold lookup
  generalize a.connect callout.settings s = x at connected
  generalize b.connect callout.settings t = y at connected
  cases connected with
  | error related => exact ⟨.same, related⟩
  | @ok _ _ s t _ related =>
    have found := find_simulates sim relates recipient related
    simp only
    generalize callout.find a recipient s = x at found
    generalize callout.find b recipient t = y at found
    -- a session is ended whatever it came to
    cases found with
    | error related => exact ⟨.same, (Directory.Result.alike_eq_iff.mp (sim.unbind related)).2⟩
    | ok same related =>
      have ended := (Directory.Result.alike_eq_iff.mp (sim.unbind related)).2
      cases same with
      | none => exact ⟨.same, ended⟩
      | some same => exact ⟨.accepted same, ended⟩

/-- Runs over directories that answer alike but for related entries come to the same verdict but for the
mailbox. -/
lemma run_simulates (invocation : Invocation) (related : states s t) :
    Verdict.Alike mailboxes (callout.run a invocation s).1 (callout.run b invocation t).1 ∧
      states (callout.run a invocation s).2 (callout.run b invocation t).2 := by
  unfold run AcceptedDomain.decide
  cases invocation with
  | version => exact ⟨.same, related⟩
  | verify address context =>
    cases reached : callout.domain.recipient? address with
    | none => simpa only [reached] using ⟨.same, related⟩
    | some recipient =>
      simpa only [reached] using lookup_simulates sim relates recipient address related

end

/-- Runs over directories that answer alike come to the same. -/
lemma run_of_simulates {a : Service σ} {b : Service τ} {f : σ → τ}
    (sim : Service.Simulates a b (fun s t => t = f s) Eq) (callout : Callout) (invocation : Invocation)
    (s : σ) : callout.run b invocation (f s) = (callout.run a invocation s).map id f := by
  obtain ⟨same, states⟩ := run_simulates sim callout.relates_eq invocation (rfl : f s = f s)
  exact Prod.ext (same.eq fun _ _ e => e).symm states

/-- The operation that opens the session. -/
def connectCall (callout : Callout) : Call := .connect callout.settings

/-- The operation that authenticates in the session. -/
def bindCall (callout : Callout) : Call := .bind callout.bindDn callout.bindPassword

/-- The search for users. -/
def usersCall (callout : Callout) (recipient : Recipient) : Call :=
  .search callout.userSearchBase (callout.userTemplate.fill (callout.proxyAddress recipient))
    [callout.mailAttribute]

/-- The search for public folders. -/
def foldersCall (callout : Callout) (recipient : Recipient) : Call :=
  .search callout.folderSearchBase (callout.folderTemplate.fill (callout.proxyAddress recipient))
    [callout.mailAttribute]

/-- The operations of a run on a directory, with what came of them. -/
def events (callout : Callout) (service : Service σ) (invocation : Invocation) (state : σ) :
    List Event :=
  (callout.run service.observed invocation (state, [])).2.2

/-- The operations of a run, in order. -/
def calls (callout : Callout) (service : Service σ) (invocation : Invocation) (state : σ) : List Call :=
  (callout.events service invocation state).map Event.call

/-- The sequences of operations that a run on a recipient can make. -/
def sequences (callout : Callout) (recipient : Recipient) : List (List Call) :=
  [[callout.connectCall],
    [callout.connectCall, callout.bindCall, .unbind],
    [callout.connectCall, callout.bindCall, callout.usersCall recipient, .unbind],
    [callout.connectCall, callout.bindCall, callout.usersCall recipient,
      callout.foldersCall recipient, .unbind]]

/-- The verdict that a session leads to: by its first failure, or else by the only entry that one of
its searches found. -/
def conclude (callout : Callout) (address : String) (events : List Event) : Verdict :=
  match events.findSome? Event.failure?, events.findSome? Event.sole? with
  | some failure, _ => .temporaryFailure failure.message
  | none, some entry => .accepted ((entry.firstValue? callout.mailAttribute).getD address)
  | none, none => .unknownMailbox address

/-- The ways in which a session can go. -/
inductive Course (callout : Callout) (recipient : Recipient) : List Event → Verdict → Prop where
  | unreached {failure} :
    Course callout recipient [.plain callout.connectCall (.error failure)]
      (.temporaryFailure failure.message)
  | refused {failure last} :
    Course callout recipient
      [.plain callout.connectCall (.ok ()), .plain callout.bindCall (.error failure),
        .plain .unbind last]
      (.temporaryFailure failure.message)
  | usersFailed {failure last} :
    Course callout recipient
      [.plain callout.connectCall (.ok ()), .plain callout.bindCall (.ok ()),
        ⟨callout.usersCall recipient, .error failure⟩, .plain .unbind last]
      (.temporaryFailure failure.message)
  | user {entry last} :
    Course callout recipient
      [.plain callout.connectCall (.ok ()), .plain callout.bindCall (.ok ()),
        ⟨callout.usersCall recipient, .ok [entry]⟩, .plain .unbind last]
      (.accepted ((entry.firstValue? callout.mailAttribute).getD recipient.address))
  | foldersFailed {users failure last} :
    users.length ≠ 1 →
    Course callout recipient
      [.plain callout.connectCall (.ok ()), .plain callout.bindCall (.ok ()),
        ⟨callout.usersCall recipient, .ok users⟩, ⟨callout.foldersCall recipient, .error failure⟩,
        .plain .unbind last]
      (.temporaryFailure failure.message)
  | folder {users entry last} :
    users.length ≠ 1 →
    Course callout recipient
      [.plain callout.connectCall (.ok ()), .plain callout.bindCall (.ok ()),
        ⟨callout.usersCall recipient, .ok users⟩, ⟨callout.foldersCall recipient, .ok [entry]⟩,
        .plain .unbind last]
      (.accepted ((entry.firstValue? callout.mailAttribute).getD recipient.address))
  | nowhere {users folders last} :
    users.length ≠ 1 →
    folders.length ≠ 1 →
    Course callout recipient
      [.plain callout.connectCall (.ok ()), .plain callout.bindCall (.ok ()),
        ⟨callout.usersCall recipient, .ok users⟩, ⟨callout.foldersCall recipient, .ok folders⟩,
        .plain .unbind last]
      (.unknownMailbox recipient.address)

variable {callout : Callout} {recipient : Recipient}

/-- A mailbox comes from the only entry that was found. -/
lemma mailbox?_eq_some {entries mailbox}
    (found : callout.mailbox? recipient entries = some mailbox) :
    ∃ entry, entries = [entry] ∧
      mailbox = (entry.firstValue? callout.mailAttribute).getD recipient.address := by
  match entries, found with
  | [entry], found => exact ⟨entry, rfl, (Option.some.inj found).symm⟩

/-- Any other number of entries gives no mailbox. -/
lemma mailbox?_eq_none {entries} :
    callout.mailbox? recipient entries = none ↔ entries.length ≠ 1 := by
  match entries with
  | [] => simp [mailbox?]
  | [entry] => simp [mailbox?]
  | _ :: _ :: _ => simp [mailbox?]

/-- A lookup takes one of the courses, whatever the directory does. -/
lemma lookup_course (service : Service σ) (state : σ) :
    let looked := callout.lookup service.observed recipient (state, [])
    Course callout recipient looked.2.2 (.ofLookup recipient.address looked.1) := by
  simp only [lookup, Service.observed_connect]
  rcases service.connect callout.settings state with ⟨_ | _, s⟩
  · exact .unreached
  simp only [find, Service.observed_bind, Service.observed_unbind]
  rcases service.bind callout.bindDn callout.bindPassword s with ⟨_ | _, s⟩
  · exact .refused
  simp only [search, Service.observed_search]
  -- the filter stays a variable while the answers of the directory are told apart
  generalize filled : callout.userTemplate.fill (callout.proxyAddress recipient) = filter
  rcases service.search callout.userSearchBase filter [callout.mailAttribute] s with ⟨_ | users, s⟩
  · subst filled
    exact .usersFailed
  cases found : callout.mailbox? recipient users with
  | some mailbox =>
    obtain ⟨entry, rfl, rfl⟩ := mailbox?_eq_some found
    simp only [found]
    subst filled
    exact .user
  | none =>
    have others := mailbox?_eq_none.mp found
    simp only [found]
    generalize sought : callout.folderTemplate.fill (callout.proxyAddress recipient) = filter'
    rcases service.search callout.folderSearchBase filter' [callout.mailAttribute] s with
      ⟨_ | folders, s⟩
    · subst filled sought
      exact .foldersFailed others
    cases found' : callout.mailbox? recipient folders with
    | some mailbox =>
      obtain ⟨entry, rfl, rfl⟩ := mailbox?_eq_some found'
      simp only [found']
      subst filled sought
      exact .folder others
    | none =>
      simp only [found']
      subst filled sought
      exact .nowhere others (mailbox?_eq_none.mp found')

/-- A run on an address takes one of the courses, whatever the directory does. -/
lemma run_course {address} (reached : callout.domain.recipient? address = some recipient)
    (context : List String) (service : Service σ) (state : σ) :
    Course callout recipient (callout.events service (.verify address context) state)
      (callout.run service (.verify address context) state).1 := by
  have same : (callout.run service (.verify address context) state).1 =
      (callout.run service.observed (.verify address context) (state, [])).1 :=
    congrArg Prod.fst (run_of_simulates service.observed_fst callout (.verify address context) (state, []))
  -- the courses are about the observed directory, which answers like the directory itself
  have course : Course callout recipient _ _ := lookup_course service state
  rw [AcceptedDomain.address_of_recipient? reached] at course
  rw [same]
  simpa only [events, run, AcceptedDomain.decide, reached] using course

/-- An address that is not looked up is taken for malformed, without any operation. -/
lemma run_unreached {address} (unreached : callout.domain.recipient? address = none)
    (context : List String) (service : Service σ) (state : σ) :
    callout.run service (.verify address context) state = (.malformed address, state) := by
  simp only [run, AcceptedDomain.decide, unreached]

/-- The verdict that the outcome of a session leads to. -/
def verdictOf (address : String) : Except Failure (Option String) → Verdict
  | .error failure => .temporaryFailure failure.message
  | .ok none => .unknownMailbox address
  | .ok (some mailbox) => .accepted mailbox

section
variable {address : String} {result : Except Failure (Option String)}

/-- Acceptances come from sessions that found a mailbox. -/
lemma verdictOf_eq_accepted {mailbox} :
    verdictOf address result = .accepted mailbox ↔ result = .ok (some mailbox) := by
  rcases result with _ | _ | _ <;> simp [verdictOf]

/-- Rejections come from sessions that found none. -/
lemma verdictOf_eq_unknownMailbox :
    verdictOf address result = .unknownMailbox address ↔ result = .ok none := by
  rcases result with _ | _ | _ <;> simp [verdictOf]

/-- Temporary failures come from all other sessions. -/
lemma verdictOf_eq_temporaryFailure :
    (∃ reason, verdictOf address result = .temporaryFailure reason) ↔
      ¬ (∃ mailbox, result = .ok (some mailbox)) ∧ ¬ result = .ok none := by
  rcases result with _ | _ | _ <;> simp [verdictOf]

end

/-- On a directory that can be reached, the verdict is that of the session, which is then ended. -/
lemma run_of_connect {service : Service σ} {address s t}
    (reached : callout.domain.recipient? address = some recipient)
    (connected : service.connect callout.settings s = (.ok (), t)) (context : List String) :
    callout.run service (.verify address context) s =
      (verdictOf address (callout.find service recipient t).1,
        (service.unbind (callout.find service recipient t).2).2) := by
  simp only [run, AcceptedDomain.decide, reached, lookup, connected]
  rcases callout.find service recipient t with ⟨_ | _ | _, _⟩ <;> rfl

/-- On a directory that cannot be reached, nothing follows. -/
lemma run_of_unconnected {service : Service σ} {address failure s t}
    (reached : callout.domain.recipient? address = some recipient)
    (failed : service.connect callout.settings s = (.error failure, t)) (context : List String) :
    callout.run service (.verify address context) s = (.temporaryFailure failure.message, t) := by
  simp only [run, AcceptedDomain.decide, reached, lookup, failed]
  rfl

/-- Whether the address of an invocation is looked up. -/
def LooksUp (callout : Callout) (invocation : Invocation) : Prop :=
  ∃ address context recipient, invocation = .verify address context ∧
    callout.domain.recipient? address = some recipient

/-- Without a lookup no operation is asked for. -/
lemma run_of_not_looksUp {invocation : Invocation} (idle : ¬ callout.LooksUp invocation)
    (service : Service σ) (state : σ) : (callout.run service invocation state).2 = state := by
  cases invocation with
  | version => rfl
  | verify address context =>
    cases reached : callout.domain.recipient? address with
    | none => rw [run_unreached reached]
    | some recipient => exact absurd ⟨address, context, recipient, rfl, reached⟩ idle

/-- Without a lookup no call is made. -/
lemma calls_of_not_looksUp {invocation : Invocation} (idle : ¬ callout.LooksUp invocation)
    (service : Service σ) (state : σ) : callout.calls service invocation state = [] := by
  rw [calls, events, run_of_not_looksUp idle]
  rfl

/-- On a directory that cannot be reached, connecting is the only call. -/
lemma calls_of_unconnected {service : Service σ} {invocation : Invocation} {state : σ} {failure}
    (looksUp : callout.LooksUp invocation)
    (failed : (service.connect callout.settings state).1 = .error failure) :
    callout.calls service invocation state = [callout.connectCall] := by
  obtain ⟨address, context, recipient, rfl, reached⟩ := looksUp
  have failed' : service.observed.connect callout.settings (state, []) =
      (.error failure, (service.connect callout.settings state).2,
        [.plain callout.connectCall (.error failure)]) := by
    rw [Service.observed_connect, failed]
    rfl
  rw [calls, events, run_of_unconnected reached failed']
  rfl

section
variable {events : List Event} {verdict : Verdict}

/-- A session makes one of four sequences of calls. -/
lemma Course.calls_mem (course : Course callout recipient events verdict) :
    events.map Event.call ∈ callout.sequences recipient := by
  cases course <;> simp [sequences]

/-- A session is ended once and last exactly if it was opened. -/
lemma Course.ended_iff (course : Course callout recipient events verdict) :
    (events.map Event.call).count .unbind = 1 ∧ (events.map Event.call).getLast? = some .unbind ↔
      events[0]? = some (.plain callout.connectCall (.ok ())) := by
  cases course <;>
    simp [Event.plain, Except.map, connectCall, bindCall, usersCall, foldersCall]

/-- A session ends behind the authentication exactly if that was refused. -/
lemma Course.refused_iff (course : Course callout recipient events verdict) :
    events.map Event.call = [callout.connectCall, callout.bindCall, .unbind] ↔
      ∃ failure, events[1]? = some (.plain callout.bindCall (.error failure)) := by
  cases course <;> simp [Event.plain, Except.map, usersCall]

/-- Folders are searched exactly if the users search gave a number of entries other than one. -/
lemma Course.folders_iff (course : Course callout recipient events verdict) :
    events.map Event.call =
        [callout.connectCall, callout.bindCall, callout.usersCall recipient,
          callout.foldersCall recipient, .unbind] ↔
      ∃ users, events[2]? = some ⟨callout.usersCall recipient, .ok users⟩ ∧ users.length ≠ 1 := by
  cases course <;> simp_all [Event.plain, usersCall]

/-- The verdict is drawn from the first failure, or else from the only entry that was found. -/
lemma Course.verdict_eq (course : Course callout recipient events verdict) :
    verdict = callout.conclude recipient.address events := by
  -- only a failure to end the session is passed over, and no other operation is that one
  have connects : callout.connectCall ≠ .unbind := nofun
  have binds : callout.bindCall ≠ .unbind := nofun
  have searches : callout.usersCall recipient ≠ .unbind := nofun
  have searches' : callout.foldersCall recipient ≠ .unbind := nofun
  cases course with
  | unreached => simp [conclude, Event.failure?_plain_error connects]
  | refused => simp [conclude, List.findSome?_cons, Event.failure?_plain_error binds]
  | usersFailed => simp [conclude, List.findSome?_cons, Event.failure?_error searches]
  | user => simp [conclude, List.findSome?_cons]
  | foldersFailed others => simp [conclude, List.findSome?_cons, Event.failure?_error searches']
  | folder others => simp [conclude, List.findSome?_cons, Event.sole?_eq_none others]
  | nowhere others others' =>
    simp [conclude, List.findSome?_cons, Event.sole?_eq_none others, Event.sole?_eq_none others']

/-- There is no such mailbox exactly if both searches succeeded with numbers of entries other than one. -/
lemma Course.unknown_iff (course : Course callout recipient events verdict) :
    verdict = .unknownMailbox recipient.address ↔
      ∃ users folders, events[2]? = some ⟨callout.usersCall recipient, .ok users⟩ ∧
        events[3]? = some ⟨callout.foldersCall recipient, .ok folders⟩ ∧
        users.length ≠ 1 ∧ folders.length ≠ 1 := by
  cases course <;> simp_all [Event.plain, foldersCall]

end

/-- **Sessions.** Whatever a directory does, a run on an address that is looked up makes one of four
sequences of calls. The session is ended, once and last, exactly if it was opened; it is ended at once
exactly if the authentication was refused; folders are searched exactly if the search for users gave a
number of entries other than one; and the verdict is the failure that came first, or else acceptance
with the mailbox of the only entry that was found, or else that there is no such mailbox. -/
theorem run_session (callout : Callout) {address : String} {recipient : Recipient}
    (reached : callout.domain.recipient? address = some recipient) (context : List String)
    (service : Service σ) (state : σ) :
    let events := callout.events service (.verify address context) state
    let calls := events.map Event.call
    (callout.run service.recorded (.verify address context) (state, [])).2.2 = calls ∧
    calls ∈ callout.sequences recipient ∧
    (calls.count .unbind = 1 ∧ calls.getLast? = some .unbind ↔
      events[0]? = some (.plain callout.connectCall (.ok ()))) ∧
    (calls = [callout.connectCall, callout.bindCall, .unbind] ↔
      ∃ failure, events[1]? = some (.plain callout.bindCall (.error failure))) ∧
    (calls = [callout.connectCall, callout.bindCall, callout.usersCall recipient,
        callout.foldersCall recipient, .unbind] ↔
      ∃ users, events[2]? = some ⟨callout.usersCall recipient, .ok users⟩ ∧ users.length ≠ 1) ∧
    (callout.run service (.verify address context) state).1 = callout.conclude address events := by
  intro events calls
  have course := run_course reached context service state
  have same := run_of_simulates service.observed_recorded callout (.verify address context) (state, [])
  refine ⟨?_, course.calls_mem, course.ended_iff, course.refused_iff, course.folders_iff, ?_⟩
  · exact congrArg (fun result => result.2.2) same
  · rw [course.verdict_eq, AcceptedDomain.address_of_recipient? reached]

/-- A callout of a small configuration. -/
def sample : Callout where
  domain := ⟨"d.example", .exact⟩
  settings := ⟨"127.0.0.1", 389, .plain, false, 5⟩
  bindDn := "cn=b"
  bindPassword := "secret"
  userSearchBase := "ou=u"
  folderSearchBase := "ou=f"
  userTemplate := ⟨"(u=?)".toList, by decide⟩
  folderTemplate := ⟨"(f=?)".toList, by decide⟩
  proxyPrefix := "smtp:"
  mailAttribute := "mail"
  acceptMode := .here

open RecipientCallout.Directory in
/-- Two users, a search for folders that fails, and a session that ends badly. -/
theorem run_session_folders_failed :
    let directory : Prepared :=
      ⟨none, none, some (.timeout .bind), .ok [Entry.new "a", Entry.new "b"], .error (.timeout .search)⟩
    sample.domain.recipient? "jane@d.example" = some ⟨"jane@d.example", "jane", "d.example"⟩ ∧
    (sample.run directory.service.recorded (.verify "jane@d.example" []) (0, [])).2.2 =
      [.connect sample.settings, .bind "cn=b" "secret", .search "ou=u" "(u=smtp:jane@d.example)" ["mail"],
        .search "ou=f" "(f=smtp:jane@d.example)" ["mail"], .unbind] ∧
    (sample.run directory.service (.verify "jane@d.example" []) 0).1 =
      .temporaryFailure "directory timed out during search" := by
  intro directory
  have reached : sample.domain.recipient? "jane@d.example" =
      some ⟨"jane@d.example", "jane", "d.example"⟩ := by decide +kernel
  obtain ⟨recorded, -, -, -, -, verdict⟩ := run_session sample reached [] directory.service 0
  refine ⟨reached, recorded.trans ?_, verdict.trans ?_⟩
  · decide +kernel
  · decide +kernel

end Callout
end RecipientCallout
