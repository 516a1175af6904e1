import RecipientCallout.Proofs.Callout.Session
import RecipientCallout.Proofs.Ldap.Conversation
import RecipientCallout.Proofs.Ldap.Entries

/-!
# The order of attributes

A client keeps the attributes of an entry in an order of its own. Links that differ in this order lead a
session through the same requests and failures (`service_simulates`), and so to the same verdict but for the
mailbox of an acceptance. That is the same, too, if no entry spells the mail attribute in two ways
(`Callout.run_reordered`).
-/

namespace RecipientCallout.Ldap
open RecipientCallout.Directory (Arrangement Entry Result Service Settings)

/-- The link of a client that keeps attributes in another order. -/
def Link.rearranged (link : Link) (arrangement : Arrangement) : Link := { link with arrangement }

/-- Whether no entry that a server has still to send, in a reply that ends with success, spells a name in two
ways. -/
def Link.SpellsOnce (link : Link) (name : String) : Prop :=
  ∀ reply ∈ link.replies, ∀ entries, reply.found? = some entries →
    ∀ sent ∈ entries, sent.gathered.SpelledOnce name

/-- Whether links differ at most in the order of attributes, which under a condition makes no difference to
the values of a name. -/
structure Link.Reordered (name : String) (condition : Prop) (a b : Link) : Prop where
  same : b = a.rearranged b.arrangement
  settled : condition → a.arrangement = b.arrangement ∨ a.SpellsOnce name

variable {name : String} {condition : Prop} {link a b : Link} {arrangement : Arrangement}

/-- What is spelled in one way is so in every later part of the script. -/
lemma Link.SpellsOnce.of_suffix (once : link.SpellsOnce name) {next : Link}
    (later : next.replies <:+ link.replies) : next.SpellsOnce name :=
  fun reply mem => once reply (later.mem mem)

/-- The entries of the next reply are among those that are still to be sent. -/
lemma Link.SpellsOnce.next (once : link.SpellsOnce name) {entries : List SentEntry}
    (found : (link.reply 0).found? = some entries) {sent : SentEntry} (mem : sent ∈ entries) :
    sent.gathered.SpelledOnce name := by
  rw [Link.reply, List.getD_eq_getElem?_getD] at found
  cases first : link.replies[0]? with
  | none =>
    rw [first] at found
    cases found
    cases mem
  | some reply =>
    rw [first] at found
    exact once reply (List.mem_of_getElem? first) entries found sent mem

/-- The first value is the same in two orders of the attributes of an entry that spells the name once. -/
lemma firstValue?_received {sent : SentEntry} (once : sent.gathered.SpelledOnce name)
    (arrangement arrangement' : Arrangement) :
    (sent.received arrangement).firstValue? name = (sent.received arrangement').firstValue? name := by
  have e (arrangement : Arrangement) :
      (sent.received arrangement).firstValue? name = sent.gathered.firstValue? name :=
    Entry.firstValue?_perm (arrangement.perm _) sent.shows_gathered.nodup once
  rw [e, e]

/-- Entries of two orders, which under a condition have the same first value for a name. -/
def SameValue (name : String) (condition : Prop) (entry entry' : Entry) : Prop :=
  condition → entry.firstValue? name = entry'.firstValue? name

section
variable (reordered : a.Reordered name condition b)
include reordered

/-- Links stay as they are to each other when the same happens to both. -/
lemma Link.Reordered.step {f : Link → Link}
    (commutes : ∀ link arrangement, f (link.rearranged arrangement) = (f link).rearranged arrangement)
    (keeps : ∀ link, (f link).arrangement = link.arrangement)
    (later : ∀ link, (f link).replies <:+ link.replies) : (f a).Reordered name condition (f b) where
  same := by rw [keeps, ← commutes, ← reordered.same]
  settled holds := by
    rw [keeps, keeps]
    exact (reordered.settled holds).imp_right fun once => once.of_suffix (later a)

/-- A request leaves links as they are to each other. -/
lemma Link.Reordered.sent (request : Request) (lost : Bool) :
    (a.sent request lost).Reordered name condition (b.sent request lost) :=
  reordered.step (f := fun link => link.sent request lost) (fun _ _ => rfl) (fun _ => rfl)
    fun link => link.replies.tail_suffix

/-- The replies do not depend on the order of attributes. -/
lemma Link.Reordered.reply_eq (n : Nat) : b.reply n = a.reply n := by
  rw [reordered.same]
  rfl

/-- Whether a connection is lost does not depend on the order of attributes. -/
lemma Link.Reordered.lost_eq : b.lost = a.lost := by
  rw [reordered.same]
  rfl

/-- A request to encrypt the connection comes to the same. -/
lemma startTls_alike (endpoint : String) :
    Result.Alike Eq (Link.Reordered name condition) (startTls endpoint a) (startTls endpoint b) := by
  have lost := reordered.sent (.extended startTlsOid) true
  simp only [startTls, Link.exchange, Link.headD_replies, reordered.reply_eq]
  cases a.reply 0 with
  | answer => exact .error lost
  | close => exact .error lost
  | silent => exact .error lost

/-- A connection is opened on both or on neither. -/
lemma connect_alike (settings : Settings) :
    Result.Alike Eq (Link.Reordered name condition) (connect settings a) (connect settings b) := by
  have reach (target : Target) (port : Nat) : b.reach target port = a.reach target port := by
    rw [reordered.same]
    rfl
  simp only [connect, reach]
  cases Target.parse settings.endpoint.toList with
  | error => exact .error reordered
  | ok target =>
    simp only
    cases a.reach target settings.transport.defaultPort.toNat with
    | failed => exact .error reordered
    | silent => exact .error reordered
    | server =>
      cases settings.transport with
      | startTls => exact startTls_alike reordered settings.endpoint
      | ldaps => exact .error reordered
      | plain =>
        exact .ok rfl (reordered.step (f := fun link => link.opened settings.endpoint) (fun _ _ => rfl)
          (fun _ => rfl) fun _ => List.suffix_rfl)

/-- An authentication comes to the same. -/
lemma bind_alike (dn password : String) :
    Result.Alike Eq (Link.Reordered name condition) (bind dn password a) (bind dn password b) := by
  cases lost : a.lost with
  | true =>
    rw [bind_lost lost, bind_lost (reordered.lost_eq.trans lost)]
    exact .error reordered
  | false =>
    rw [bind_live lost, bind_live (reordered.lost_eq.trans lost), reordered.reply_eq]
    exact Result.alike_eq_iff.mpr ⟨rfl, reordered.sent _ _⟩

/-- A search finds the same entries, each with its attributes in two orders. -/
lemma search_alike (base text : String) (attributes : List String) :
    Result.Alike (List.Forall₂ (SameValue name condition)) (Link.Reordered name condition)
      (search base text attributes a) (search base text attributes b) := by
  cases read : Filter.parse? text with
  | none =>
    rw [search_unreadable read, search_unreadable read]
    exact .error reordered
  | some filter =>
    cases lost : a.lost with
    | true =>
      rw [search_lost lost read, search_lost (reordered.lost_eq.trans lost) read]
      exact .error reordered
    | false =>
      rw [search_live lost read, search_live (reordered.lost_eq.trans lost) read, reordered.reply_eq]
      have next := reordered.sent (searchRequest base filter attributes) (a.reply 0).cutsSearch
      cases searched : (a.reply 0).searched base with
      | error => exact .error next
      | ok entries =>
        refine .ok ?_ next
        rw [List.forall₂_map_left_iff, List.forall₂_map_right_iff, List.forall₂_same]
        intro sent mem holds
        obtain e | once := reordered.settled holds
        · rw [e]
        · have found : (a.reply 0).found? = some entries := by
            rw [← Reply.toOption_searched _ base, searched]
            rfl
          exact firstValue?_received (once.next found mem) _ _

/-- The end of a session comes to the same. -/
lemma unbind_alike : Result.Alike Eq (Link.Reordered name condition) (unbind a) (unbind b) := by
  simp only [unbind, reordered.lost_eq]
  split
  case isTrue =>
    rw [show b.endpoint = a.endpoint by rw [reordered.same]; rfl]
    exact .error reordered
  case isFalse =>
    exact .ok rfl (reordered.step
      (f := fun link => { link with received := link.received ++ [.unbind], lost := true })
      (fun _ _ => rfl) (fun _ => rfl) fun _ => List.suffix_rfl)

end

/-- Links that differ in the order of attributes answer alike. -/
lemma service_simulates :
    Service.Simulates service service (Link.Reordered name condition) (SameValue name condition) where
  connect reordered settings := by simpa only [service] using connect_alike reordered settings
  bind reordered dn password := by simpa only [service] using bind_alike reordered dn password
  search reordered base text attributes := by
    simpa only [service] using search_alike reordered base text attributes
  unbind reordered := by simpa only [service] using unbind_alike reordered

end RecipientCallout.Ldap

namespace RecipientCallout

/-- The exit code does not depend on the mailbox. -/
lemma Verdict.Alike.exitCode_eq {mailboxes : String → String → Prop} {verdict verdict' : Verdict}
    (alike : Alike mailboxes verdict verdict') (mode : AcceptMode) :
    (Response.ofVerdict mode verdict).exitCode = (Response.ofVerdict mode verdict').exitCode := by
  cases alike with
  | accepted => rfl
  | same => rfl

namespace Callout
open RecipientCallout.Ldap

/-- Whatever the order in which a client keeps attributes, a run asks for the same and comes to the same
verdict but for the mailbox. That is the same under a condition that settles it. -/
lemma run_reordered {callout : Callout} {condition : Prop} {a b : Link}
    (reordered : a.Reordered callout.mailAttribute condition b) (invocation : Invocation) :
    Verdict.Alike (fun mailbox mailbox' => condition → mailbox = mailbox')
        (callout.run service invocation a).1 (callout.run service invocation b).1 ∧
      (callout.run service invocation a).2.received = (callout.run service invocation b).2.received := by
  have relates : callout.Relates (SameValue callout.mailAttribute condition)
      fun mailbox mailbox' => condition → mailbox = mailbox' := by
    intro entry entry' same address holds
    rw [same holds]
  obtain ⟨alike, reordered'⟩ := run_simulates service_simulates relates invocation reordered
  exact ⟨alike, by rw [reordered'.same]; rfl⟩

end Callout
end RecipientCallout
