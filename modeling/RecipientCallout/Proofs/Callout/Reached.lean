import Mathlib.Data.List.TakeWhile
import RecipientCallout.Proofs.Callout.Configured
import RecipientCallout.Proofs.Callout.Session
import RecipientCallout.Proofs.Text.Separators

/-!
# Addresses that are looked up

Which addresses come to a lookup, whatever the lookup does: those that are a local part and an accepted
domain around an `@`, where the local part has no `@` itself (`Splits`). `Recipient.parse_eq_ok` says
that an address is split in no other way, and the headline `decide_asks` that the lookup is then made
just once, and otherwise never. `decide_own_domain` says when a configuration serves the domain that it
names: always if domains are compared character for character, and else if the domain has an ASCII form.
-/

namespace RecipientCallout
open RecipientCallout.Text (append_cons_inj dropWhile_separated takeWhile_separated)

/-- An address in two parts around an `@`. The local part is not empty and has no `@` in it. -/
structure Splits (address localPart domain : String) : Prop where
  filled : localPart ≠ ""
  plain : '@' ∉ localPart.toList
  joined : address = localPart ++ "@" ++ domain

variable {address localPart localDomain : String}

/-- An address consists of its parts and the separator. -/
lemma Splits.toList_eq (splits : Splits address localPart localDomain) :
    address.toList = localPart.toList ++ '@' :: localDomain.toList := by
  rw [splits.joined]
  simp

/-- There is only one way to split an address. -/
lemma Splits.unique {localPart' localDomain' : String} (splits : Splits address localPart localDomain)
    (splits' : Splits address localPart' localDomain') :
    localPart = localPart' ∧ localDomain = localDomain' := by
  have same := splits.toList_eq.symm.trans splits'.toList_eq
  obtain ⟨left, right⟩ := append_cons_inj splits.plain splits'.plain same
  exact ⟨String.toList_inj.mp left, String.toList_inj.mp right⟩

namespace Recipient

/-- An address that splits is taken apart so. -/
lemma parse_of_splits (splits : Splits address localPart localDomain) :
    parse address = .ok ⟨address, localPart, localDomain⟩ := by
  have filled : localPart.toList ≠ [] := fun e => splits.filled (String.toList_eq_nil_iff.mp e)
  simp only [parse, splits.toList_eq, takeWhile_separated splits.plain,
    dropWhile_separated splits.plain, if_neg filled, String.ofList_toList]

/-- An address that is taken apart splits so. -/
lemma splits_of_parse {recipient : Recipient} (parsed : parse address = .ok recipient) :
    recipient.address = address ∧ Splits address recipient.localPart recipient.domain := by
  refine ⟨address_of_parse parsed, ?_⟩
  simp only [parse] at parsed
  split at parsed
  case h_1 => cases parsed
  case h_2 c rest behind =>
    split at parsed
    case isTrue => cases parsed
    case isFalse filled =>
      cases parsed
      have at_sign : c = '@' := by
        have found := List.head?_dropWhile_not (· ≠ '@') address.toList
        rw [behind] at found
        simpa using found
      refine ⟨?_, ?_, ?_⟩
      · intro e
        exact filled (by simpa using congrArg String.toList e)
      · intro mem
        rw [String.toList_ofList] at mem
        have other := List.mem_takeWhile_imp mem
        simp at other
      · refine String.toList_inj.mp ?_
        have whole := List.takeWhile_append_dropWhile (p := (· ≠ '@')) (l := address.toList)
        rw [behind, at_sign] at whole
        simpa using whole.symm

/-- An address is split where it can be. -/
lemma parse_eq_ok {recipient : Recipient} :
    parse address = .ok recipient ↔
      recipient.address = address ∧ Splits address recipient.localPart recipient.domain := by
  refine ⟨splits_of_parse, ?_⟩
  rintro ⟨rfl, splits⟩
  exact parse_of_splits splits

end Recipient

/-! ## Lookups -/

namespace AcceptedDomain
variable {σ : Type} {lookup : Recipient → σ → Lookup × σ} {domain : AcceptedDomain} {s : σ}

/-- The lookup that also keeps the recipients that it was made for, in order. -/
def recorded (lookup : Recipient → σ → Lookup × σ) (recipient : Recipient)
    (state : σ × List Recipient) : Lookup × σ × List Recipient :=
  let (result, next) := lookup recipient state.1
  (result, next, state.2 ++ [recipient])

/-- A verdict on an address for which no lookup was made. -/
lemma decide_of_unreached (unreached : domain.recipient? address = none) (context : List String) :
    domain.decide (recorded lookup) (.verify address context) (s, []) =
      (.malformed address, s, []) := by
  simp only [decide, unreached]

/-- The lookup is made once, for the recipient of the address. -/
lemma decide_of_reached {recipient : Recipient} (reached : domain.recipient? address = some recipient)
    (context : List String) :
    domain.decide (recorded lookup) (.verify address context) (s, []) =
      (.ofLookup address (lookup recipient s).1, (lookup recipient s).2, [recipient]) := by
  simp only [decide, reached, recorded, List.nil_append]

/-- Addresses are looked up that split at the accepted domain. -/
lemma recipient?_eq_some_iff {recipient : Recipient} :
    domain.recipient? address = some recipient ↔
      recipient.address = address ∧ Splits address recipient.localPart recipient.domain ∧
        Domain.isMatch domain.comparison recipient.domain domain.name = true := by
  rw [recipient?_eq_some, Recipient.parse_eq_ok, and_assoc]

/-- An address that does so is looked up. -/
lemma recipient?_of_splits (splits : Splits address localPart localDomain)
    (accepted : Domain.isMatch domain.comparison localDomain domain.name = true) :
    domain.recipient? address = some ⟨address, localPart, localDomain⟩ :=
  recipient?_eq_some_iff.mpr ⟨rfl, splits, accepted⟩

/-- The lookup is made for the recipient that the address stands for. -/
lemma asked_iff {context : List String} {recipient : Recipient} :
    (domain.decide (recorded lookup) (.verify address context) (s, [])).2.2 = [recipient] ↔
      domain.recipient? address = some recipient := by
  cases reached : domain.recipient? address with
  | none => simp [decide_of_unreached reached]
  | some other => simp [decide_of_reached reached]

/-- **Lookups.** On an address, the lookup is made exactly once if the address splits and its domain is
accepted, and it is made for its parts; the verdict is then drawn from what the lookup comes to. Otherwise
it is never made, and the verdict is that the address is malformed. An address splits in one way only. If
domains are compared character for character then the addresses that are looked up are those that end in
an `@` and the accepted domain behind a local part. -/
theorem decide_asks (domain : AcceptedDomain) (lookup : Recipient → σ → Lookup × σ) (s : σ)
    (address : String) (context : List String) :
    let answer := domain.decide (recorded lookup) (.verify address context) (s, [])
    (∀ recipient, answer.2.2 = [recipient] ↔
      recipient.address = address ∧ Splits address recipient.localPart recipient.domain ∧
        Domain.isMatch domain.comparison recipient.domain domain.name = true) ∧
    (∀ recipient, answer.2.2 = [recipient] →
      answer.1 = .ofLookup address (lookup recipient s).1 ∧ answer.2.1 = (lookup recipient s).2) ∧
    ((¬ ∃ localPart localDomain, Splits address localPart localDomain ∧
        Domain.isMatch domain.comparison localDomain domain.name = true) →
      answer = (.malformed address, s, [])) ∧
    (∀ localPart localDomain localPart' localDomain', Splits address localPart localDomain →
      Splits address localPart' localDomain' → localPart = localPart' ∧ localDomain = localDomain') ∧
    (domain.comparison = .exact →
      (answer.2.2 ≠ [] ↔ ∃ localPart, Splits address localPart domain.name)) := by
  intro answer
  refine ⟨?_, ?_, ?_, fun _ _ _ _ splits splits' => splits.unique splits', ?_⟩
  · exact fun recipient => asked_iff.trans recipient?_eq_some_iff
  · intro recipient asked
    simp only [answer, decide_of_reached (asked_iff.mp asked), and_self]
  · intro foreign
    cases reached : domain.recipient? address with
    | none => exact decide_of_unreached reached context
    | some recipient =>
      obtain ⟨-, splits, accepted⟩ := recipient?_eq_some_iff.mp reached
      exact absurd ⟨_, _, splits, accepted⟩ foreign
  · intro strict
    have same {localDomain : String} :
        Domain.isMatch domain.comparison localDomain domain.name = true ↔ localDomain = domain.name := by
      rw [strict, Domain.isMatch, beq_iff_eq]
    cases reached : domain.recipient? address with
    | none =>
      simp only [answer, decide_of_unreached reached, ne_eq, not_true_eq_false, false_iff]
      rintro ⟨localPart, splits⟩
      cases reached.symm.trans (recipient?_of_splits splits (same.mpr rfl))
    | some recipient =>
      obtain ⟨-, splits, accepted⟩ := recipient?_eq_some_iff.mp reached
      simp only [answer, decide_of_reached reached, ne_eq, List.cons_ne_nil, not_false_eq_true, true_iff]
      exact ⟨_, same.mp accepted ▸ splits⟩

/-- An address with two `@`, the second of which belongs to the domain. -/
theorem decide_asks_twofold :
    let lookup := fun (_ : Recipient) (n : Nat) => (Lookup.notFound, n + 1)
    let ask (name : String) :=
      decide ⟨name, .exact⟩ (recorded lookup) (.verify "a@evil@d.example" []) (0, [])
    (ask "evil@d.example").2.2 = [⟨"a@evil@d.example", "a", "evil@d.example"⟩] ∧
    (ask "evil@d.example").2.1 = 1 ∧
    ask "d.example" = (.malformed "a@evil@d.example", 0, []) := by
  intro lookup ask
  have splits : Splits "a@evil@d.example" "a" "evil@d.example" := ⟨by decide, by decide, rfl⟩
  have asked := ((decide_asks ⟨"evil@d.example", .exact⟩ lookup 0 "a@evil@d.example" []).1
    ⟨"a@evil@d.example", "a", "evil@d.example"⟩).mpr ⟨rfl, splits, by decide⟩
  have foreign := decide_asks ⟨"d.example", .exact⟩ lookup 0 "a@evil@d.example" []
  refine ⟨asked, ?_, foreign.2.2.1 ?_⟩
  · exact ((decide_asks ⟨"evil@d.example", .exact⟩ lookup 0 "a@evil@d.example" []).2.1 _ asked).2
  · rintro ⟨localPart, localDomain, other, accepted⟩
    obtain ⟨-, rfl⟩ := splits.unique other
    exact absurd accepted (by decide)

end AcceptedDomain

/-! ## The domain of a configuration -/

/-- The domain that a configuration accepts. -/
def Config.ownDomain (config : Config) : AcceptedDomain := ⟨config.acceptedDomain, config.domainMatch⟩

/-- Whether a domain can be recognised as itself: it is compared character for character, or else it has
an ASCII form with something in it. -/
def AcceptedDomain.IsServable (domain : AcceptedDomain) : Prop :=
  domain.comparison = .exact ∨ ∃ ascii, Domain.toAscii? domain.name = some ascii ∧ ascii ≠ []

namespace AcceptedDomain
variable {σ : Type} {domain : AcceptedDomain}

/-- A domain accepts itself exactly if it can be served. -/
lemma isMatch_self_iff :
    Domain.isMatch domain.comparison domain.name domain.name = true ↔ domain.IsServable := by
  unfold IsServable Domain.isMatch
  cases domain.comparison with
  | exact => simp
  | caseInsensitive => cases Domain.toAscii? domain.name <;> simp

/-- A domain that is not recognised as itself is recognised as no other. -/
lemma isServable_of_isMatch {candidate : String}
    (accepted : Domain.isMatch domain.comparison candidate domain.name = true) : domain.IsServable := by
  unfold Domain.isMatch at accepted
  cases compared : domain.comparison with
  | exact => exact .inl compared
  | caseInsensitive =>
    rw [compared] at accepted
    cases own : Domain.toAscii? domain.name with
    | none => cases Domain.toAscii? candidate <;> simp [own] at accepted
    | some ascii =>
      cases form : Domain.toAscii? candidate with
      | none => simp [form] at accepted
      | some other =>
        simp only [form, own, Bool.and_eq_true, decide_eq_true_eq, beq_iff_eq] at accepted
        exact .inr ⟨ascii, own, accepted.2 ▸ accepted.1⟩

/-- **Own addresses.** If the domain that a configuration accepts is compared character for character, or
if it has an ASCII form, then every address of a local part in it is looked up, once. Otherwise no address
at all is looked up, and each is malformed. The domain is that of the callout of the configuration. -/
theorem decide_own_domain (config : Config) {localPart : String} (filled : localPart ≠ "")
    (plain : '@' ∉ localPart.toList) (context : List String)
    (lookup : Recipient → σ → Lookup × σ) (s : σ) :
    let ask (address : String) :=
      config.ownDomain.decide (recorded lookup) (.verify address context) (s, [])
    let own : Recipient :=
      ⟨localPart ++ "@" ++ config.acceptedDomain, localPart, config.acceptedDomain⟩
    (config.ownDomain.IsServable →
      ask own.address = (.ofLookup own.address (lookup own s).1, (lookup own s).2, [own])) ∧
    (¬ config.ownDomain.IsServable → ∀ address, ask address = (.malformed address, s, [])) ∧
    (∀ store callout, Callout.ofConfig store config = .ok callout →
      callout.domain = config.ownDomain) := by
  intro ask own
  refine ⟨fun servable => ?_, fun hopeless address => ?_, fun store callout made => ?_⟩
  · have splits : Splits own.address localPart config.acceptedDomain := ⟨filled, plain, rfl⟩
    exact decide_of_reached (recipient?_of_splits splits (isMatch_self_iff.mpr servable)) context
  · refine decide_of_unreached (Option.eq_none_iff_forall_ne_some.mpr fun recipient reached => ?_) context
    exact hopeless (isServable_of_isMatch (recipient?_eq_some_iff.mp reached).2.2)
  · exact Callout.domain_of_ofConfig made

/-- A valid configuration by the form of whose domain names are compared. -/
def looseConfig (domain : String) : Config where
  host := "h"
  port := none
  bindDn := "cn=b"
  bindPassword := some "s"
  bindPasswordFile := none
  userSearchBase := "u"
  folderSearchBase := "f"
  acceptedDomain := domain
  networkTimeoutSeconds := Config.defaultTimeoutSeconds
  transport := default
  allowInvalidCerts := false
  domainMatch := .caseInsensitive
  userFilter := Filter.Template.defaultUsers
  folderFilter := Filter.Template.defaultFolders
  proxyPrefix := Config.defaultProxyPrefix
  mailAttribute := Config.defaultMailAttribute
  acceptMode := default

/-- A domain with an ASCII form, and one without. -/
theorem decide_own_domain_loose :
    let lookup := fun (_ : Recipient) (n : Nat) => (Lookup.notFound, n + 1)
    let ask (config : Config) (address : String) :=
      config.ownDomain.decide (recorded lookup) (.verify address []) (0, [])
    ask (looseConfig "D.example") "jane@D.example" =
      (.unknownMailbox "jane@D.example", 1, [⟨"jane@D.example", "jane", "D.example"⟩]) ∧
    ask (looseConfig "xn--") "jane@d.example" = (.malformed "jane@d.example", 0, []) := by
  intro lookup ask
  have servable : (looseConfig "D.example").ownDomain.IsServable :=
    isMatch_self_iff.mp (by decide +kernel)
  have hopeless : ¬ (looseConfig "xn--").ownDomain.IsServable := fun servable =>
    absurd (isMatch_self_iff.mpr servable) (by decide +kernel)
  have filled : "jane" ≠ "" := by decide
  have plain : '@' ∉ "jane".toList := by decide
  exact ⟨(decide_own_domain (looseConfig "D.example") filled plain [] lookup 0).1 servable,
    (decide_own_domain (looseConfig "xn--") filled plain [] lookup 0).2.1 hopeless _⟩

/-- A valid configuration that does not serve its own domain: the domain has no ASCII form. -/
theorem decide_own_domain_refused :
    ¬ ∀ (config : Config) (localPart : String) (lookup : Recipient → Unit → Lookup × Unit),
      config.validate = .ok () → localPart ≠ "" → '@' ∉ localPart.toList →
      ∃ recipient, (config.ownDomain.decide (recorded lookup)
        (.verify (localPart ++ "@" ++ config.acceptedDomain) []) ((), [])).2.2 = [recipient] := by
  intro claim
  have valid : (looseConfig "xn--").validate = .ok () := by rfl
  obtain ⟨recipient, asked⟩ := claim (looseConfig "xn--") "jane" (fun _ _ => (.notFound, ())) valid
    (by decide) (by decide)
  obtain ⟨-, -, accepted⟩ := recipient?_eq_some_iff.mp (asked_iff.mp asked)
  have served : Domain.isMatch .caseInsensitive "xn--" "xn--" = true :=
    isMatch_self_iff.mpr (isServable_of_isMatch accepted)
  exact absurd served (by decide +kernel)

end AcceptedDomain
end RecipientCallout
