import RecipientCallout.Directory.Settings
import RecipientCallout.Proofs.Text.Decimals
import RecipientCallout.Proofs.Text.Separators

/-!
# Endpoints

What the endpoint of a directory server tells of its settings. Host and port cannot run into each other,
as the port is behind the last colon whatever the host is (`endpoint_cut`), and brackets show of a host all
but whether they were put there (`bracketed_eq_iff`).

The headline `endpoint_identifies` says which settings have the same endpoint, and which have the same
address.
-/

namespace RecipientCallout.Directory.Settings
open RecipientCallout.Text

/-! ## Brackets -/

/-- Hosts with a colon and no bracket in front: numeric addresses that have no brackets yet. -/
def IsBareAddress (host : List Char) : Prop := ':' ∈ host ∧ host.head? ≠ some '['

/-- Hosts that name one server: they differ at most in brackets around a numeric address. -/
inductive SameHost : List Char → List Char → Prop where
  | refl {host} :
    SameHost host host
  | enclosed {host} :
    IsBareAddress host →
    SameHost host ('[' :: host ++ [']'])
  | bare {host} :
    IsBareAddress host →
    SameHost ('[' :: host ++ [']']) host

variable {host host' : List Char} {s s' : Settings}

/-- A bare address is put in brackets. -/
lemma bracketed_of_bare (bare : IsBareAddress host) : bracketed host = '[' :: host ++ [']'] := if_pos bare

/-- Any other host stays as it is. -/
lemma bracketed_of_not_bare (notBare : ¬ IsBareAddress host) : bracketed host = host := if_neg notBare

/-- A host in brackets is no bare address. -/
lemma bracketed_enclosed (host : List Char) : bracketed ('[' :: host ++ [']']) = '[' :: host ++ [']'] :=
  bracketed_of_not_bare fun bare => bare.2 rfl

/-- Brackets are put around a host only once. -/
lemma bracketed_bracketed (host : List Char) : bracketed (bracketed host) = bracketed host := by
  by_cases bare : IsBareAddress host
  case pos => rw [bracketed_of_bare bare, bracketed_enclosed]
  case neg => rw [bracketed_of_not_bare bare, bracketed_of_not_bare bare]

/-- Brackets are put around numeric addresses that have none, and around no other host. -/
lemma bracketed_eq_enclosed_iff : bracketed host = '[' :: host ++ [']'] ↔ IsBareAddress host := by
  constructor
  · intro enclosed
    refine Classical.byContradiction fun notBare => ?_
    rw [bracketed_of_not_bare notBare] at enclosed
    have length := congrArg List.length enclosed
    rw [List.length_append, List.length_cons] at length
    omega
  · exact bracketed_of_bare

/-- Which hosts become the same in brackets. -/
lemma bracketed_eq_iff : bracketed host = bracketed host' ↔ SameHost host host' := by
  constructor
  · intro same
    by_cases bare : IsBareAddress host
    case pos =>
      rw [bracketed_of_bare bare] at same
      by_cases bare' : IsBareAddress host'
      case pos =>
        rw [bracketed_of_bare bare'] at same
        rw [List.append_cancel_right (List.cons.inj same).2]
        exact .refl
      case neg =>
        rw [bracketed_of_not_bare bare'] at same
        exact same ▸ .enclosed bare
    case neg =>
      rw [bracketed_of_not_bare bare] at same
      by_cases bare' : IsBareAddress host'
      case pos =>
        rw [bracketed_of_bare bare'] at same
        exact same ▸ .bare bare'
      case neg =>
        rw [bracketed_of_not_bare bare'] at same
        exact same ▸ .refl
  · intro same
    cases same with
    | refl => rfl
    | enclosed bare => rw [bracketed_of_bare bare, bracketed_enclosed]
    | bare bare => rw [bracketed_of_bare bare, bracketed_enclosed]

/-! ## Endpoints and addresses -/

/-- The port stands behind the last colon of an endpoint. -/
lemma endpoint_cut (s : Settings) :
    s.endpoint.toList = bracketed s.host.toList ++ ':' :: Nat.toDigits 10 s.port.toNat := String.toList_ofList

/-- Endpoints are the same if the ports are and the hosts in their brackets. -/
lemma endpoint_eq_iff :
    s.endpoint = s'.endpoint ↔ s.port = s'.port ∧ bracketed s.host.toList = bracketed s'.host.toList := by
  have port := isDecimal_toDigits s.port.toNat
  have port' := isDecimal_toDigits s'.port.toNat
  rw [← String.toList_inj, endpoint_cut, endpoint_cut]
  constructor
  · intro same
    -- a host may have colons of its own, but a port has none
    obtain ⟨hosts, digits⟩ := append_cons_inj_last (port.notMem rfl) (port'.notMem rfl) same
    exact ⟨UInt16.toNat_inj.mp (port.unique (digits ▸ port')), hosts⟩
  · rintro ⟨ports, hosts⟩
    rw [ports, hosts]

/-- The scheme tells the encrypted transport from the others. -/
lemma scheme_eq_iff : s.scheme = s'.scheme ↔ (s.transport = .ldaps ↔ s'.transport = .ldaps) := by
  unfold scheme
  cases s.transport <;> cases s'.transport <;> decide

/-- There is no colon in a scheme. -/
lemma colon_notMem_scheme (s : Settings) : ':' ∉ s.scheme.toList := by
  unfold scheme
  cases s.transport <;> decide

/-- The parts of an address with its scheme. -/
lemma toList_url (s : Settings) :
    s.url.toList = s.scheme.toList ++ ':' :: ("//".toList ++ s.endpoint.toList) := by
  unfold url
  rw [String.toList_append, String.toList_append, List.append_assoc]
  rfl

/-- The scheme ends at the first colon of an address. -/
lemma url_eq_iff :
    s.url = s'.url ↔ (s.transport = .ldaps ↔ s'.transport = .ldaps) ∧ s.endpoint = s'.endpoint := by
  rw [← scheme_eq_iff, ← String.toList_inj, toList_url, toList_url]
  constructor
  · intro same
    obtain ⟨schemes, rest⟩ := append_cons_inj (colon_notMem_scheme s) (colon_notMem_scheme s') same
    exact ⟨String.toList_inj.mp schemes, String.toList_inj.mp (List.append_cancel_left rest)⟩
  · rintro ⟨schemes, endpoints⟩
    rw [schemes, endpoints]

/-- **Endpoints.** Behind the last colon of an endpoint is the port in decimal, and in front of it the host.
The host is put into brackets exactly if it has a colon and does not begin with a bracket, and putting it
into brackets again changes nothing. So two settings have the same endpoint exactly if their ports are the
same and their hosts are, but for brackets around a numeric address; they have the same address exactly if,
besides, both or none of them have the connection encrypted from the first octet. -/
theorem endpoint_identifies (s s' : Settings) :
    (∃ digits, s.endpoint.toList = bracketed s.host.toList ++ ':' :: digits ∧ ':' ∉ digits ∧
      IsDecimal s.port.toNat digits) ∧
    (∀ host, (bracketed host = host ∨ bracketed host = '[' :: host ++ [']']) ∧
      (bracketed host = '[' :: host ++ [']'] ↔ ':' ∈ host ∧ host.head? ≠ some '[') ∧
      bracketed (bracketed host) = bracketed host) ∧
    (s.endpoint = s'.endpoint ↔
      s.port = s'.port ∧ bracketed s.host.toList = bracketed s'.host.toList) ∧
    (bracketed s.host.toList = bracketed s'.host.toList ↔ SameHost s.host.toList s'.host.toList) ∧
    (s.url = s'.url ↔ (s.transport = .ldaps ↔ s'.transport = .ldaps) ∧ s.endpoint = s'.endpoint) := by
  have port := isDecimal_toDigits s.port.toNat
  refine ⟨⟨_, endpoint_cut s, port.notMem rfl, port⟩, fun host => ?_, endpoint_eq_iff, bracketed_eq_iff,
    url_eq_iff⟩
  refine ⟨?_, bracketed_eq_enclosed_iff, bracketed_bracketed host⟩
  by_cases bare : IsBareAddress host
  case pos => exact .inr (bracketed_of_bare bare)
  case neg => exact .inl (bracketed_of_not_bare bare)

/-- One server under two names. -/
example : endpoint ⟨"::1", 636, .ldaps, false, 5⟩ = endpoint ⟨"[::1]", 636, .plain, true, 20⟩ := by
  decide +kernel

end RecipientCallout.Directory.Settings
