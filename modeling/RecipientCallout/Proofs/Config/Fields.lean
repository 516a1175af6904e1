import RecipientCallout.Config.Decode
import RecipientCallout.Proofs.Steps
import RecipientCallout.Proofs.Text.Octets
import RecipientCallout.Proofs.Toml.Entries

/-!
# Values of fields

The value that each field takes in a document, and what taking it over does to a configuration that is
being read: it sets this field and no other.
-/

namespace RecipientCallout.Config
open RecipientCallout.Text
open RecipientCallout.Toml (Node Scalar Span)

/-! ## Choices -/

section
variable {α : Type} [DecidableEq α] {choices : List (String × α)}

/-- The name of a choice. -/
def nameOf (choices : List (String × α)) (value : α) : Option String :=
  (choices.find? (·.2 = value)).map (·.1)

omit [DecidableEq α] in
/-- A name stands for its choice. -/
lemma choose_of_mem (names : (choices.map (·.1)).Nodup) {name : String} {value : α}
    (mem : (name, value) ∈ choices) : choose choices name = .ok value := by
  have found : choices.find? (·.1 = name) = some (name, value) := Toml.find?_of_mem (·.1) names mem
  rw [choose, found]

/-- A choice has its name. -/
lemma nameOf_of_mem (values : (choices.map (·.2)).Nodup) {name : String} {value : α}
    (mem : (name, value) ∈ choices) : nameOf choices value = some name := by
  have found : choices.find? (·.2 = value) = some (name, value) := Toml.find?_of_mem (·.2) values mem
  rw [nameOf, found]
  rfl

/-- The name of a choice is among the names. -/
lemma mem_of_nameOf {name : String} {value : α} (found : nameOf choices value = some name) :
    (name, value) ∈ choices := by
  obtain ⟨⟨name, other⟩, first, rfl⟩ := Option.map_eq_some_iff.mp found
  have same : other = value := by simpa using List.find?_some first
  exact same ▸ List.mem_of_find?_eq_some first

end

/-- Every transport has a name. -/
lemma exists_nameOf_transport (v : Directory.Transport) : ∃ name, nameOf transports v = some name := by
  cases v <;> exact ⟨_, rfl⟩

/-- Every comparison has a name. -/
lemma exists_nameOf_comparison (v : Domain.Comparison) : ∃ name, nameOf comparisons v = some name := by
  cases v <;> exact ⟨_, rfl⟩

/-- Every mode of acceptance has a name. -/
lemma exists_nameOf_acceptMode (v : AcceptMode) : ∃ name, nameOf acceptModes v = some name := by
  cases v <;> exact ⟨_, rfl⟩

/-! ## Kinds of fields -/

/-- What the values of a field are. -/
inductive Kind where
  | text
  /-- Numbers from zero to a limit. -/
  | natural (limit : Nat)
  | boolean
  | choice (names : List String)

/-- The kind of a field. -/
def Field.kind : Field → Kind
  | .port => .natural 65535
  | .networkTimeoutSeconds => .natural (Nat.pow 2 63 - 1)
  | .transport => .choice (transports.map (·.1))
  | .allowInvalidCerts => .boolean
  | .domainMatch => .choice (comparisons.map (·.1))
  | .acceptMode => .choice (acceptModes.map (·.1))
  | _ => .text

/-- The values of a kind. -/
inductive Kind.Takes : Kind → Scalar → Prop where
  | text {value} : Takes .text (.text value)
  | natural {limit n : Nat} : n ≤ limit → Takes (.natural limit) (.integer n)
  | boolean {value} : Takes .boolean (.boolean value)
  | choice {names name} : name ∈ names → Takes (.choice names) (.text name)

/-- The fields without which a configuration is not complete. -/
def Field.required : List Field :=
  [.host, .bindDn, .userSearchBase, .folderSearchBase, .acceptedDomain]

/-- The value that a configuration which is being read has for a field. -/
def Draft.scalar? (d : Draft) : Field → Option Scalar
  | .host => d.host.map .text
  | .port => d.port.map fun v : UInt16 => .integer v.toNat
  | .bindDn => d.bindDn.map .text
  | .bindPassword => d.bindPassword.map .text
  | .bindPasswordFile => d.bindPasswordFile.bind fun path => path.text?.map .text
  | .userSearchBase => d.userSearchBase.map .text
  | .folderSearchBase => d.folderSearchBase.map .text
  | .acceptedDomain => d.acceptedDomain.map .text
  | .networkTimeoutSeconds => d.networkTimeoutSeconds.map fun v : Nat => .integer v
  | .transport => d.transport.bind fun v => (nameOf transports v).map .text
  | .allowInvalidCerts => d.allowInvalidCerts.map .boolean
  | .domainMatch => d.domainMatch.bind fun v => (nameOf comparisons v).map .text
  | .userFilter => d.userFilter.map .text
  | .folderFilter => d.folderFilter.map .text
  | .proxyPrefix => d.proxyPrefix.map .text
  | .mailAttribute => d.mailAttribute.map .text
  | .acceptMode => d.acceptMode.bind fun v => (nameOf acceptModes v).map .text

/-- The defaults of the fields that have one. -/
def Draft.defaults : Draft where
  networkTimeoutSeconds := some defaultTimeoutSeconds
  transport := some default
  allowInvalidCerts := some false
  domainMatch := some default
  userFilter := some Filter.Template.defaultUsers
  folderFilter := some Filter.Template.defaultFolders
  proxyPrefix := some defaultProxyPrefix
  mailAttribute := some defaultMailAttribute
  acceptMode := some default

/-- The value of a field that a document leaves out. -/
def Field.default? (field : Field) : Option Scalar := Draft.defaults.scalar? field

/-- A configuration as one that has been read completely. -/
def draft (c : Config) : Draft :=
  { host := some c.host
    port := c.port
    bindDn := some c.bindDn
    bindPassword := c.bindPassword
    bindPasswordFile := c.bindPasswordFile
    userSearchBase := some c.userSearchBase
    folderSearchBase := some c.folderSearchBase
    acceptedDomain := some c.acceptedDomain
    networkTimeoutSeconds := some c.networkTimeoutSeconds
    transport := some c.transport
    allowInvalidCerts := some c.allowInvalidCerts
    domainMatch := some c.domainMatch
    userFilter := some c.userFilter
    folderFilter := some c.folderFilter
    proxyPrefix := some c.proxyPrefix
    mailAttribute := some c.mailAttribute
    acceptMode := some c.acceptMode }

/-- The value that a configuration has for a field, as documents give it. -/
def scalar? (c : Config) (field : Field) : Option Scalar := c.draft.scalar? field

/-- Whether the path of the password file, if there is one, is text. -/
def Draft.Textual (d : Draft) : Prop :=
  ∀ path, d.bindPasswordFile = some path → ∃ s, path.text? = some s

/-! ## Fields of documents -/

/-- A field is found by its key. -/
lemma Field.ofKey?_key (f : Field) : Field.ofKey? f.key = some f := by
  cases f <;> decide

/-- What is found by a key has it. -/
lemma Field.key_of_ofKey? {key : String} {f : Field} (found : Field.ofKey? key = some f) :
    key = f.key := by
  have same : f.key = key := by simpa using List.find?_some found
  exact same.symm

/-- No two fields have one key. -/
lemma Field.key_injective {f g : Field} (same : f.key = g.key) : f = g := by
  have found := Field.ofKey?_key f
  rw [same, Field.ofKey?_key] at found
  exact (Option.some.inj found).symm

/-! ## Readers of values -/

/-- A number up to the limit is read as it is. -/
lemma naturalOf_takes {limit n : Nat} (le : n ≤ limit) (wanted : String) (place : Span) :
    naturalOf limit wanted (.scalar place (.integer n)) = .ok n := by
  rw [naturalOf, if_pos ⟨by omega, by omega⟩]
  rfl

/-- The name of a choice is read as the choice. -/
lemma choiceOf_takes {α : Type} [DecidableEq α] {choices : List (String × α)}
    (names : (choices.map (·.1)).Nodup) (values : (choices.map (·.2)).Nodup) {name : String}
    (mem : name ∈ choices.map (·.1)) (span place : Span) :
    ∃ v, choiceOf choices span (.scalar place (.text name)) = .ok v ∧ nameOf choices v = some name := by
  obtain ⟨⟨name, v⟩, choice, rfl⟩ := List.mem_map.mp mem
  refine ⟨v, ?_, nameOf_of_mem values choice⟩
  rw [choiceOf, choose_of_mem names choice]
  rfl

/-- What succeeds with a place to blame succeeds without it. -/
lemma ok_of_blame {α : Type} {span : Span} {result : Except Toml.Complaint α} {a : α}
    (read : blame span result = .ok a) : result = .ok a := by
  cases result with
  | error complaint => cases read
  | ok a => exact congrArg Except.ok (Except.ok.inj read)

/-- What is read as a text is one. -/
lemma takes_of_textOf {wanted : String} {node : Node} {text : String}
    (read : textOf wanted node = .ok text) : node.scalar? = some (.text text) := by
  unfold textOf at read
  split at read
  case h_1 => cases read; rfl
  case h_2 => cases read

/-- What is read as a truth value is one. -/
lemma takes_of_booleanOf {node : Node} {b : Bool} (read : booleanOf node = .ok b) :
    node.scalar? = some (.boolean b) := by
  unfold booleanOf at read
  split at read
  case h_1 => cases read; rfl
  case h_2 => cases read

/-- What is read as a number is one, up to the limit. -/
lemma takes_of_naturalOf {limit n : Nat} {wanted : String} {node : Node}
    (read : naturalOf limit wanted node = .ok n) : node.scalar? = some (.integer n) ∧ n ≤ limit := by
  unfold naturalOf at read
  split at read
  case h_1 =>
    split at read
    case isTrue bounds =>
      cases read
      refine ⟨?_, by omega⟩
      rw [Toml.Node.scalar?, Int.toNat_of_nonneg bounds.1]
    case isFalse => cases read
  case h_2 => cases read

/-- What is read as a choice is the name of one. -/
lemma takes_of_choiceOf {α : Type} {choices : List (String × α)} {span place : Span} {name : String}
    {value : α} (read : choiceOf choices span (.scalar place (.text name)) = .ok value) :
    name ∈ choices.map (·.1) := by
  have read := ok_of_blame read
  unfold choose at read
  split at read
  case h_1 found =>
    have same := List.find?_some found
    exact List.mem_map.mpr ⟨_, List.mem_of_find?_eq_some found, by simpa using same⟩
  case h_2 => cases read

namespace Draft
variable {d next : Draft} {f : Field} {span : Span} {node : Node}

/-- Setting a field leaves the others. -/
lemma set_others (read : d.set f span node = .ok next) {g : Field} (other : g ≠ f) :
    next.scalar? g = d.scalar? g := by
  cases f
  all_goals
    obtain ⟨v, -, rfl⟩ := exists_of_map_eq_ok read
    cases g <;> first | rfl | exact absurd rfl other

/-- A draft keeps to texts when a field is set. -/
lemma set_textual (read : d.set f span node = .ok next) (textual : d.Textual) : next.Textual := by
  cases f
  case bindPasswordFile =>
    obtain ⟨path, -, rfl⟩ := exists_of_map_eq_ok read
    intro t e
    cases e
    exact ⟨path, RawText.text?_ofString path⟩
  all_goals
    obtain ⟨v, -, rfl⟩ := exists_of_map_eq_ok read
    exact textual

/-- A value of the right kind is taken over. -/
lemma set_takes {s : Scalar} (takes : f.kind.Takes s) (d : Draft) (span place : Span) :
    ∃ next, d.set f span (.scalar place s) = .ok next ∧ next.scalar? f = some s := by
  cases f
  case port =>
    cases takes with
    | @natural limit n le =>
      have small : (UInt16.ofNat n).toNat = n := Nat.mod_eq_of_lt (by omega)
      refine ⟨{ d with port := some (.ofNat n) }, ?_, ?_⟩
      · rw [set, naturalOf_takes le]
        rfl
      · rw [scalar?, Option.map_some, small]
  case networkTimeoutSeconds =>
    cases takes with
    | @natural limit n le =>
      refine ⟨{ d with networkTimeoutSeconds := some n }, ?_, rfl⟩
      rw [set, naturalOf_takes (Nat.le_trans le (by decide))]
      rfl
  case transport =>
    cases takes with
    | choice mem =>
      obtain ⟨v, read, named⟩ := choiceOf_takes (by decide) (by decide) mem span place
      refine ⟨{ d with transport := some v }, ?_, ?_⟩
      · rw [set, read]
        rfl
      · rw [scalar?, Option.bind_some, named]
        rfl
  case domainMatch =>
    cases takes with
    | choice mem =>
      obtain ⟨v, read, named⟩ := choiceOf_takes (by decide) (by decide) mem span place
      refine ⟨{ d with domainMatch := some v }, ?_, ?_⟩
      · rw [set, read]
        rfl
      · rw [scalar?, Option.bind_some, named]
        rfl
  case acceptMode =>
    cases takes with
    | choice mem =>
      obtain ⟨v, read, named⟩ := choiceOf_takes (by decide) (by decide) mem span place
      refine ⟨{ d with acceptMode := some v }, ?_, ?_⟩
      · rw [set, read]
        rfl
      · rw [scalar?, Option.bind_some, named]
        rfl
  case bindPasswordFile =>
    cases takes with
    | @text path =>
      refine ⟨{ d with bindPasswordFile := some (.ofString path) }, rfl, ?_⟩
      rw [scalar?, Option.bind_some, RawText.text?_ofString]
      rfl
  -- The other fields take over a text or a truth value as it is.
  all_goals
    cases takes
    exact ⟨_, rfl, rfl⟩

/-- What a field has taken over is of its kind. Choices may also be given by tables, which is left out
here; numbers are those that a document can have. -/
lemma takes_of_set (read : d.set f span node = .ok next)
    (choice : ∀ names, f.kind = .choice names → ∃ name, node.scalar? = some (.text name))
    (bounded : ∀ n, node.scalar? = some (.integer n) → n ≤ Toml.maxInteger) :
    ∃ s, node.scalar? = some s ∧ f.kind.Takes s := by
  have chosen {α : Type} {choices : List (String × α)} {v : α}
      (kind : f.kind = .choice (choices.map (·.1))) (read : choiceOf choices span node = .ok v) :
      ∃ s, node.scalar? = some s ∧ f.kind.Takes s := by
    obtain ⟨name, found⟩ := choice _ kind
    obtain ⟨place, rfl⟩ := Toml.Node.exists_of_scalar? found
    exact ⟨_, found, kind ▸ .choice (takes_of_choiceOf read)⟩
  cases f
  case port =>
    obtain ⟨n, value, -⟩ := exists_of_map_eq_ok read
    obtain ⟨found, le⟩ := takes_of_naturalOf (ok_of_blame value)
    exact ⟨_, found, .natural le⟩
  case networkTimeoutSeconds =>
    obtain ⟨n, value, -⟩ := exists_of_map_eq_ok read
    obtain ⟨found, -⟩ := takes_of_naturalOf (ok_of_blame value)
    have le := bounded n found
    have greatest : Toml.maxInteger = (Nat.pow 2 63 - 1 : Nat) := rfl
    exact ⟨_, found, .natural (by omega)⟩
  case transport =>
    obtain ⟨v, value, -⟩ := exists_of_map_eq_ok read
    exact chosen rfl value
  case domainMatch =>
    obtain ⟨v, value, -⟩ := exists_of_map_eq_ok read
    exact chosen rfl value
  case acceptMode =>
    obtain ⟨v, value, -⟩ := exists_of_map_eq_ok read
    exact chosen rfl value
  case allowInvalidCerts =>
    obtain ⟨b, value, -⟩ := exists_of_map_eq_ok read
    exact ⟨_, takes_of_booleanOf (ok_of_blame value), .boolean⟩
  all_goals
    obtain ⟨text, value, -⟩ := exists_of_map_eq_ok read
    exact ⟨_, takes_of_textOf (ok_of_blame value), .text⟩

end Draft
end RecipientCallout.Config
