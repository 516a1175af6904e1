import RecipientCallout.Proofs.Config.Flaws
import RecipientCallout.Proofs.Config.Root

/-!
# Accepted documents

Which documents are configurations at all, be they valid or not, and what becomes of the numbers in
those that are valid: `ofText_accepted`.
-/

namespace RecipientCallout.Config
open RecipientCallout.Toml (Node Entries Sound WrittenAt)

/-- Whether a field, if it stands among the entries of a document, is a number that is written there. -/
def GivesNumber (document : List Char) (entries : Entries) (f : Field) (n : Nat) : Prop :=
  ∀ entry ∈ entries, entry.1.name = f.key →
    ∃ span, entry.2 = .scalar span (.integer n) ∧ WrittenAt document span n

/-! ## Numbers -/

/-- A valid configuration has a port to connect to, be it the one that the transport has by default. -/
lemma IsValid.effectivePort_pos {c : Config} (valid : c.IsValid) : 1 ≤ c.effectivePort.toNat := by
  unfold effectivePort
  cases port : c.port with
  | none => cases c.transport <;> decide
  | some p =>
    refine Nat.pos_of_ne_zero fun zero => valid.port ?_
    rw [port]
    exact congrArg some (UInt16.toNat_inj.mp zero)

section
variable {document : List Char} {root : Node} {c : Config}

/-- The value of an entry goes to the field of its name. -/
lemma scalar?_of_entry (sound : Sound document root) (form : IsForm (rootEntries root).2)
    (read : ofRoot root = .ok c) {f : Field} {entry : Toml.Key × Node}
    (mem : entry ∈ (rootEntries root).2) (name : entry.1.name = f.key) :
    ∃ s, entry.2.scalar? = some s ∧ f.kind.Takes s ∧ c.scalar? f = some s := by
  obtain ⟨names, -⟩ := sound_rootEntries sound
  obtain ⟨again, read', values⟩ := form.ofRoot names
  cases read'.symm.trans read
  obtain ⟨g, name', s, value, takes⟩ := form.known entry mem
  obtain rfl := Field.key_injective (name.symm.trans name')
  refine ⟨s, value, takes, ?_⟩
  rw [values f, valueOf_of_mem names mem name, value]
  rfl

/-- A number that was given is written in the document. -/
lemma givesNumber (sound : Sound document root) (form : IsForm (rootEntries root).2)
    (read : ofRoot root = .ok c) {f : Field} {limit n : Nat} (kind : f.kind = .natural limit)
    (set : ∀ m : Int, c.scalar? f = some (.integer m) → m = n) :
    GivesNumber document (rootEntries root).2 f n := by
  intro entry mem name
  obtain ⟨s, value, takes, given⟩ := scalar?_of_entry sound form read mem name
  rw [kind] at takes
  cases takes with
  | natural =>
    rw [set _ given] at value
    exact ((sound_rootEntries sound).2 entry mem).integer value

end

/-! ## Documents -/

/-- A configuration that was read is not malformed. -/
lemma validate_ne_malformed (c : Config) (text : String) (fault : Toml.Fault) :
    (c.validate.map fun () => c) ≠ .error (.malformed text fault) := by
  unfold validate
  split <;> exact nofun

/-- A document in which choices are texts is read as a configuration exactly if all its entries are fields
with values of their kinds and none is missing. If the configuration is valid then the port and the time
limit, if they are given, are exactly the numbers that are written, in whatever notation; and they are
not zero. -/
theorem ofText_accepted {text : String} {root : Node} (read : Toml.Document.read text = .ok root)
    (choices : ChoicesNamed (rootEntries root).2) :
    ((∀ document fault, ofText text ≠ .error (.malformed document fault)) ↔
      IsForm (rootEntries root).2) ∧
    ∀ c, ofText text = .ok c →
      GivesNumber text.toList (rootEntries root).2 .port c.directorySettings.port.toNat ∧
      GivesNumber text.toList (rootEntries root).2 .networkTimeoutSeconds
        c.directorySettings.timeoutSeconds ∧
      1 ≤ c.directorySettings.port.toNat ∧ 1 ≤ c.directorySettings.timeoutSeconds := by
  have sound := Toml.Document.read_sound read
  obtain ⟨names, -⟩ := sound_rootEntries sound
  refine ⟨⟨fun accepted => ?_, fun form => ?_⟩, fun c loaded => ?_⟩
  · cases given : ofRoot root with
    | error fault => exact absurd (ofText_of_error read given) (accepted text fault)
    | ok c => exact isForm_of_ofRoot sound choices given
  · obtain ⟨c, given, -⟩ := form.ofRoot names
    rw [ofText_of_ok read given]
    exact validate_ne_malformed c
  · cases given : ofRoot root with
    | error fault =>
      rw [ofText_of_error read given] at loaded
      cases loaded
    | ok c' =>
      rw [ofText_of_ok read given] at loaded
      obtain ⟨⟨⟩, valid, e⟩ := exists_of_map_eq_ok loaded
      cases e
      have form := isForm_of_ofRoot sound choices given
      have valid := validate_eq_ok.mp valid
      refine ⟨?_, ?_, valid.effectivePort_pos, Nat.pos_of_ne_zero valid.networkTimeoutSeconds⟩
      · refine givesNumber sound form given rfl fun m port => ?_
        obtain ⟨p, set, e⟩ := Option.map_eq_some_iff.mp port
        cases e
        have given : c.port = some p := set
        rw [directorySettings, effectivePort, given]
        rfl
      · refine givesNumber sound form given rfl fun m timeout => ?_
        cases timeout
        rfl

/-- Choices that are texts are named. -/
lemma choicesNamed_of_told {entries : Entries}
    (named : ∀ f ∈ [Field.transport, .domainMatch, .acceptMode], ∀ pair ∈ entries.told,
      pair.1 = f.key → ∃ name, pair.2 = some (.text name)) : ChoicesNamed entries := by
  intro f choice entry mem name
  exact named f choice (entry.1.name, entry.2.scalar?) (List.mem_map_of_mem mem) name

/-- A document with a number in base sixteen that has an underscore. -/
def numberedDocument : String :=
  "port=0x2_7c\nhost='h'\nbind_dn='b'\nbind_password='s'\nuser_search_base='u'\n" ++
    "folder_search_base='f'\naccepted_domain='d'\n"

/-- That document is accepted, with the port that is written in it. -/
theorem ofText_accepted_numbered :
    ∃ root c, Toml.Document.read numberedDocument = .ok root ∧ ofText numberedDocument = .ok c ∧
      IsForm (rootEntries root).2 ∧ c.directorySettings.port = 636 ∧
      GivesNumber numberedDocument.toList (rootEntries root).2 .port c.directorySettings.port.toNat := by
  have outcome : (Toml.Document.read numberedDocument).toOption.map (fun root =>
      ((rootEntries root).2.told, (ofRoot root).toOption.map fun c => (c.directorySettings.port, c.flaw?))) =
        some ([("port", some (.integer 636)), ("host", some (.text "h")), ("bind_dn", some (.text "b")),
          ("bind_password", some (.text "s")), ("user_search_base", some (.text "u")),
          ("folder_search_base", some (.text "f")), ("accepted_domain", some (.text "d"))],
          some (636, none)) := by
    decide +kernel
  cases read : Toml.Document.read numberedDocument with
  | error fault => rw [read] at outcome; cases outcome
  | ok root =>
    rw [read] at outcome
    obtain ⟨told, outcome⟩ := Prod.mk.inj (Option.some.inj outcome)
    cases given : ofRoot root with
    | error fault => rw [given] at outcome; cases outcome
    | ok c =>
      rw [given] at outcome
      obtain ⟨port, valid⟩ := Prod.mk.inj (Option.some.inj outcome)
      have choices : ChoicesNamed (rootEntries root).2 := by
        refine choicesNamed_of_told ?_
        rw [told]
        simp [Field.key]
      have loaded : ofText numberedDocument = .ok c := by
        rw [ofText_of_ok read given, validate, valid]
        rfl
      obtain ⟨form, numbers⟩ := ofText_accepted read choices
      have form := form.mp fun _ _ faulty => by rw [loaded] at faulty; cases faulty
      exact ⟨root, c, rfl, loaded, form, port, (numbers c loaded).1⟩

end RecipientCallout.Config
