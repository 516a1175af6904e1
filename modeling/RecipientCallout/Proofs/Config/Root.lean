import RecipientCallout.Proofs.Config.Fields

/-!
# Reading a root table

A root table of the form of a configuration gives one, which has the values of the entries and, where
there are none, the defaults (`IsForm.ofRoot`). In a document, no other root table gives a configuration
(`isForm_of_ofRoot`).
-/

namespace RecipientCallout.Config
open RecipientCallout.Text
open RecipientCallout.Toml (Key Node Scalar Span Entries Sound)

/-- Whether an entry is a field with a value of its kind. -/
def IsKnown (entry : Key × Node) : Prop :=
  ∃ f : Field, entry.1.name = f.key ∧ ∃ s, entry.2.scalar? = some s ∧ f.kind.Takes s

/-- Entries that are all known, and of which none that is required is missing. -/
structure IsForm (entries : Entries) : Prop where
  known : ∀ entry ∈ entries, IsKnown entry
  complete : ∀ f ∈ Field.required, ∃ entry ∈ entries, entry.1.name = f.key

/-- Whether choices, where there are some, are given by texts. -/
def ChoicesNamed (entries : Entries) : Prop :=
  ∀ f ∈ [Field.transport, .domainMatch, .acceptMode], ∀ entry ∈ entries, entry.1.name = f.key →
    ∃ name, entry.2.scalar? = some (.text name)

/-- The value of a field among entries. -/
def valueOf (entries : Entries) (f : Field) : Option Scalar :=
  (entries.find? f.key).bind Node.scalar?

section
variable {entries : Entries} {key : Key} {node : Node} {f : Field}

/-- The value of a field is that of the first entry with its key. -/
lemma valueOf_cons_self (same : key.name = f.key) :
    valueOf ((key, node) :: entries) f = node.scalar? := by
  rw [valueOf, Entries.find?, List.find?_cons_of_pos (by simpa using same)]
  rfl

/-- Entries with other keys do not count. -/
lemma valueOf_cons_of_ne (other : key.name ≠ f.key) :
    valueOf ((key, node) :: entries) f = valueOf entries f := by
  rw [valueOf, Entries.find?, List.find?_cons_of_neg (by simpa using other)]
  rfl

/-- A field without an entry has no value. -/
lemma valueOf_eq_none (absent : f.key ∉ List.map (·.1.name) entries) : valueOf entries f = none := by
  rw [valueOf, Entries.find?_eq_none.mpr absent]
  rfl

/-- A field with a value has an entry. -/
lemma exists_of_valueOf (found : (valueOf entries f).isSome) :
    ∃ entry ∈ entries, entry.1.name = f.key := by
  obtain ⟨s, found⟩ := Option.isSome_iff_exists.mp found
  obtain ⟨node, first, -⟩ := Option.bind_eq_some_iff.mp found
  obtain ⟨key, name, mem⟩ := Entries.mem_of_find? first
  exact ⟨(key, node), mem, name⟩

/-- Where no key comes twice, each entry is the value of its field. -/
lemma valueOf_of_mem (names : (List.map (·.1.name) entries).Nodup) (mem : (key, node) ∈ entries)
    (same : key.name = f.key) : valueOf entries f = node.scalar? := by
  rw [valueOf, ← same, Entries.find?_of_mem names mem]
  rfl

end

/-! ## Taking over the entries -/

namespace Draft
variable {d next : Draft} {entries : Entries}

/-- An empty draft has no values. -/
lemma scalar?_empty (f : Field) : scalar? {} f = none := by
  cases f <;> rfl

/-- An entry with a value that its field takes sets just that field. -/
lemma add_takes {entry : Key × Node} {f : Field} {s : Scalar} (name : entry.1.name = f.key)
    (value : entry.2.scalar? = some s) (takes : f.kind.Takes s) (d : Draft) :
    ∃ next, d.add entry = .ok next ∧ next.scalar? f = some s ∧
      ∀ g, g ≠ f → next.scalar? g = d.scalar? g := by
  obtain ⟨key, node⟩ := entry
  obtain ⟨place, rfl⟩ := Toml.Node.exists_of_scalar? value
  cases value
  obtain ⟨next, read, set⟩ := set_takes takes d place place
  refine ⟨next, ?_, set, fun g other => set_others read other⟩
  have field : Field.ofKey? key.name = some f := by
    rw [show key.name = f.key from name, Field.ofKey?_key]
  simp only [add, field]
  exact read

/-- Entries of the right kinds are taken over; for all other fields nothing changes. -/
lemma foldlM_add_takes (names : (List.map (·.1.name) entries).Nodup)
    (known : ∀ entry ∈ entries, IsKnown entry) (d : Draft) :
    ∃ next, entries.foldlM add d = .ok next ∧
      ∀ f, next.scalar? f = (valueOf entries f).or (d.scalar? f) := by
  induction entries generalizing d with
  | nil => exact ⟨d, rfl, fun f => rfl⟩
  | cons entry entries ih =>
    obtain ⟨fresh, names⟩ := List.nodup_cons.mp names
    obtain ⟨first, others⟩ := List.forall_mem_cons.mp known
    obtain ⟨f, name, s, value, takes⟩ := first
    obtain ⟨one, added, set, kept⟩ := add_takes name value takes d
    obtain ⟨next, rest, values⟩ := ih names others one
    refine ⟨next, ?_, fun g => ?_⟩
    · rw [List.foldlM_cons, added]
      exact rest
    · rw [values g]
      by_cases same : g = f
      case pos =>
        rw [same, valueOf_eq_none (name ▸ fresh), valueOf_cons_self name, set, value]
        rfl
      case neg =>
        have other : entry.1.name ≠ g.key := by
          rw [name]
          exact fun e => same (Field.key_injective e).symm
        rw [valueOf_cons_of_ne other, kept g same]

/-- Entries that are taken over are of the right kinds. -/
lemma known_of_foldlM_add (choices : ChoicesNamed entries)
    (bounded : ∀ entry ∈ entries, ∀ n, entry.2.scalar? = some (.integer n) → n ≤ Toml.maxInteger)
    (read : entries.foldlM add d = .ok next) : ∀ entry ∈ entries, IsKnown entry := by
  induction entries generalizing d with
  | nil => exact nofun
  | cons entry entries ih =>
    obtain ⟨one, added, rest⟩ := exists_of_bind_eq_ok read
    obtain ⟨first, others⟩ := List.forall_mem_cons.mp bounded
    refine List.forall_mem_cons.mpr ⟨?_, ih ?_ others rest⟩
    · obtain ⟨key, node⟩ := entry
      simp only [add] at added
      split at added
      case h_1 => cases added
      case h_2 f found =>
        have name := Field.key_of_ofKey? found
        refine ⟨f, name, takes_of_set added (fun kinds kind => ?_) first⟩
        refine choices f ?_ _ List.mem_cons_self name
        cases f <;> first | decide | cases kind
    · exact fun f choice entry mem => choices f choice entry (List.mem_cons_of_mem _ mem)

/-- A draft keeps to texts whatever entries are added. -/
lemma foldlM_add_textual (read : entries.foldlM add d = .ok next) (textual : d.Textual) :
    next.Textual := by
  induction entries generalizing d with
  | nil => cases read; exact textual
  | cons entry entries ih =>
    obtain ⟨one, added, rest⟩ := exists_of_bind_eq_ok read
    refine ih rest ?_
    obtain ⟨key, node⟩ := entry
    simp only [add] at added
    split at added
    case h_1 => cases added
    case h_2 => exact set_textual added textual

/-! ## Defaults -/

/-- A required field that is read was given. -/
lemma eq_some_of_required {α : Type} {span : Span} {field : Field} {value? : Option α} {value : α}
    (read : required span field value? = .ok value) : value? = some value := by
  cases value? with
  | none => cases read
  | some value => exact congrArg some (Except.ok.inj read)

/-- A configuration is complete if the fields without a default are set. -/
lemma exists_finish (span : Span) (complete : ∀ f ∈ Field.required, (d.scalar? f).isSome) :
    ∃ c, d.finish span = .ok c := by
  have set {value? : Option String} (some : (value?.map Scalar.text).isSome) :
      ∃ value, value? = .some value := by
    rwa [Option.isSome_map, Option.isSome_iff_exists] at some
  obtain ⟨host, h₁⟩ := set (complete .host (by decide))
  obtain ⟨bindDn, h₂⟩ := set (complete .bindDn (by decide))
  obtain ⟨userSearchBase, h₃⟩ := set (complete .userSearchBase (by decide))
  obtain ⟨folderSearchBase, h₄⟩ := set (complete .folderSearchBase (by decide))
  obtain ⟨acceptedDomain, h₅⟩ := set (complete .acceptedDomain (by decide))
  simp only [finish, h₁, h₂, h₃, h₄, h₅]
  exact ⟨_, rfl⟩

/-- What has been read, with defaults where nothing is set. -/
def filled (d : Draft) : Draft :=
  { d with
    networkTimeoutSeconds := some (d.networkTimeoutSeconds.getD defaultTimeoutSeconds)
    transport := some (d.transport.getD default)
    allowInvalidCerts := some (d.allowInvalidCerts.getD false)
    domainMatch := some (d.domainMatch.getD default)
    userFilter := some (d.userFilter.getD Filter.Template.defaultUsers)
    folderFilter := some (d.folderFilter.getD Filter.Template.defaultFolders)
    proxyPrefix := some (d.proxyPrefix.getD defaultProxyPrefix)
    mailAttribute := some (d.mailAttribute.getD defaultMailAttribute)
    acceptMode := some (d.acceptMode.getD default) }

/-- A configuration has what was read, and defaults for the rest. -/
lemma draft_of_finish {span : Span} {c : Config} (read : d.finish span = .ok c) :
    c.draft = d.filled := by
  obtain ⟨host, h₁, read⟩ := exists_of_bind_eq_ok read
  obtain ⟨bindDn, h₂, read⟩ := exists_of_bind_eq_ok read
  obtain ⟨userSearchBase, h₃, read⟩ := exists_of_bind_eq_ok read
  obtain ⟨folderSearchBase, h₄, read⟩ := exists_of_bind_eq_ok read
  obtain ⟨acceptedDomain, h₅, read⟩ := exists_of_bind_eq_ok read
  cases read
  simp only [draft, filled, eq_some_of_required h₁, eq_some_of_required h₂, eq_some_of_required h₃,
    eq_some_of_required h₄, eq_some_of_required h₅]

/-- A value or its default, either of them written. -/
lemma map_getD {α : Type} (value? : Option α) (other : α) (f : α → Scalar) :
    some (f (value?.getD other)) = (value?.map f).or (some (f other)) := by
  cases value? <;> rfl

/-- The same where writing may fail but does not. -/
lemma bind_getD {α : Type} (value? : Option α) (other : α) (f : α → Option Scalar)
    (total : ∀ a, (f a).isSome) : f (value?.getD other) = (value?.bind f).or (f other) := by
  cases value? with
  | none => rfl
  | some a => exact (Option.or_of_isSome (total a)).symm

/-- The value of a field is the one that was given, or else its default. -/
lemma scalar?_filled (d : Draft) (f : Field) : d.filled.scalar? f = (d.scalar? f).or f.default? := by
  cases f
  case networkTimeoutSeconds => exact map_getD d.networkTimeoutSeconds defaultTimeoutSeconds fun v => .integer v
  case transport =>
    refine bind_getD d.transport default (fun v => (nameOf transports v).map .text) fun v => ?_
    cases v <;> rfl
  case allowInvalidCerts => exact map_getD d.allowInvalidCerts false .boolean
  case domainMatch =>
    refine bind_getD d.domainMatch default (fun v => (nameOf comparisons v).map .text) fun v => ?_
    cases v <;> rfl
  case userFilter => exact map_getD d.userFilter Filter.Template.defaultUsers .text
  case folderFilter => exact map_getD d.folderFilter Filter.Template.defaultFolders .text
  case proxyPrefix => exact map_getD d.proxyPrefix defaultProxyPrefix .text
  case mailAttribute => exact map_getD d.mailAttribute defaultMailAttribute .text
  case acceptMode =>
    refine bind_getD d.acceptMode default (fun v => (nameOf acceptModes v).map .text) fun v => ?_
    cases v <;> rfl
  all_goals exact Option.or_none.symm

/-- What is required has a value and no default. -/
lemma given_of_required (c : Config) {f : Field} (required : f ∈ Field.required) :
    (c.scalar? f).isSome ∧ f.default? = none := by
  cases f <;> first | exact ⟨rfl, rfl⟩ | exact absurd required (by decide)

/-- A finished draft has all required fields. -/
lemma complete_of_finish {span : Span} {c : Config} (read : d.finish span = .ok c) {f : Field}
    (required : f ∈ Field.required) : (d.scalar? f).isSome := by
  obtain ⟨given, none⟩ := given_of_required c required
  rwa [Config.scalar?, draft_of_finish read, scalar?_filled, none, Option.or_none] at given

end Draft

/-! ## Root tables -/

section
variable {root : Node} {c : Config}

/-- The draft of which a configuration was made. -/
lemma exists_of_ofRoot (read : ofRoot root = .ok c) :
    ∃ d, (rootEntries root).2.foldlM Draft.add {} = .ok d ∧ d.finish (rootEntries root).1 = .ok c :=
  exists_of_bind_eq_ok read

/-- A configuration that was read keeps to texts. -/
lemma textual_of_ofRoot (read : ofRoot root = .ok c) : c.draft.Textual := by
  obtain ⟨d, added, finished⟩ := exists_of_ofRoot read
  have textual : d.Textual := Draft.foldlM_add_textual added fun _ => nofun
  rw [Draft.draft_of_finish finished]
  exact textual

/-- Entries that have the form of a configuration give one with their values and the defaults. -/
theorem IsForm.ofRoot (form : IsForm (rootEntries root).2)
    (names : ((rootEntries root).2.map (·.1.name)).Nodup) :
    ∃ c, ofRoot root = .ok c ∧ ∀ f, c.scalar? f = (valueOf (rootEntries root).2 f).or f.default? := by
  obtain ⟨d, added, values⟩ := Draft.foldlM_add_takes names form.known {}
  have values (f : Field) : d.scalar? f = valueOf (rootEntries root).2 f := by
    rw [values f, Draft.scalar?_empty, Option.or_none]
  have complete : ∀ f ∈ Field.required, (d.scalar? f).isSome := by
    intro f required
    obtain ⟨entry, mem, name⟩ := form.complete f required
    obtain ⟨g, -, s, value, -⟩ := form.known entry mem
    rw [values, valueOf_of_mem names mem name, value]
    rfl
  obtain ⟨c, finished⟩ := Draft.exists_finish (rootEntries root).1 complete
  refine ⟨c, ?_, fun f => ?_⟩
  · simp only [Config.ofRoot, added, bind, Except.bind]
    exact finished
  · rw [Config.scalar?, Draft.draft_of_finish finished, Draft.scalar?_filled, values]

/-- The entries of a sound root have distinct keys and sound values. -/
lemma sound_rootEntries {document : List Char} (sound : Sound document root) :
    ((rootEntries root).2.map (·.1.name)).Nodup ∧
      ∀ entry ∈ (rootEntries root).2, Sound document entry.2 := by
  cases sound with
  | scalar => exact ⟨List.nodup_nil, nofun⟩
  | array => exact ⟨List.nodup_nil, nofun⟩
  | @table origin span entries names all => cases span <;> exact ⟨names, all⟩
  | tables => exact ⟨List.nodup_nil, nofun⟩

/-- Only such entries give one, if choices are named and the root is that of a document. -/
theorem isForm_of_ofRoot {document : List Char} (sound : Sound document root)
    (choices : ChoicesNamed (rootEntries root).2) (read : Config.ofRoot root = .ok c) :
    IsForm (rootEntries root).2 := by
  obtain ⟨d, added, finished⟩ := exists_of_ofRoot read
  obtain ⟨names, all⟩ := sound_rootEntries sound
  have bounded : ∀ entry ∈ (rootEntries root).2, ∀ n, entry.2.scalar? = some (.integer n) →
      n ≤ Toml.maxInteger := by
    intro entry mem n value
    obtain ⟨_, -, _, _, _, _, _, _, _, le⟩ := (all entry mem).integer value
    exact le
  have known := Draft.known_of_foldlM_add choices bounded added
  refine ⟨known, fun f required => exists_of_valueOf ?_⟩
  obtain ⟨next, again, values⟩ := Draft.foldlM_add_takes names known {}
  cases again.symm.trans added
  have set := Draft.complete_of_finish finished required
  rwa [values f, Draft.scalar?_empty, Option.or_none] at set

/-! ## Documents -/

variable {text : String}

/-- What is wrong with the entries of a document is said of the document. -/
lemma ofText_of_error (read : Toml.Document.read text = .ok root) {fault : Toml.Fault}
    (given : Config.ofRoot root = .error fault) : ofText text = .error (.malformed text fault) := by
  simp only [ofText, decode, read, given, bind, Except.bind]

/-- A document that gives a configuration has only the checks before it. -/
lemma ofText_of_ok (read : Toml.Document.read text = .ok root) (given : Config.ofRoot root = .ok c) :
    ofText text = c.validate.map fun () => c := by
  simp only [ofText, decode, read, given, bind, Except.bind]

end
end RecipientCallout.Config
