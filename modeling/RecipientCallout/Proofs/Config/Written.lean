import Mathlib.Tactic.ByContra
import RecipientCallout.Proofs.Config.Root
import RecipientCallout.Proofs.Toml.Lines

/-!
# Written configurations

A configuration that is written as a document, line by line, is read from it again: `ofText_written`.
The order of the lines makes no difference, nor does it whether defaults are written.
-/

namespace RecipientCallout.Config
open RecipientCallout.Text
open RecipientCallout.Toml (Node Scalar Entries IsBare LinesText ScalarText)

/-- What is written for some fields of a configuration: an entry for each that is set. -/
def written (c : Config) (fields : List Field) : List (String × Scalar) :=
  fields.filterMap fun f => (c.scalar? f).map (f.key, ·)

section
variable {c c' : Config} {f : Field} {fields : List Field} {s : Scalar}

/-- What is written are the values of the fields. -/
lemma mem_written {pair : String × Scalar} :
    pair ∈ c.written fields ↔ ∃ f ∈ fields, pair.1 = f.key ∧ c.scalar? f = some pair.2 := by
  rw [written, List.mem_filterMap]
  constructor
  · rintro ⟨f, mem, given⟩
    obtain ⟨s, value, rfl⟩ := Option.map_eq_some_iff.mp given
    exact ⟨f, mem, rfl, value⟩
  · rintro ⟨f, mem, name, value⟩
    exact ⟨f, mem, by rw [value, Option.map_some, ← name]⟩

/-- No key is written twice. -/
lemma names_written (nodup : fields.Nodup) : ((c.written fields).map (·.1)).Nodup := by
  induction fields with
  | nil => exact List.nodup_nil
  | cons f fields ih =>
    obtain ⟨fresh, nodup⟩ := List.nodup_cons.mp nodup
    cases value : c.scalar? f with
    | none =>
      rw [written, List.filterMap_cons_none (by rw [value]; rfl)]
      exact ih nodup
    | some s =>
      rw [written, List.filterMap_cons_some (b := (f.key, s)) (by rw [value]; rfl), List.map_cons]
      refine List.nodup_cons.mpr ⟨fun mem => ?_, ih nodup⟩
      obtain ⟨pair, mem, name⟩ := List.mem_map.mp mem
      obtain ⟨g, mem, name', -⟩ := mem_written.mp mem
      exact fresh (Field.key_injective (name.symm.trans name') ▸ mem)

/-! ## Values of configurations -/

/-- The values of a configuration are of the kinds of its fields. -/
lemma takes_of_scalar? (timeout : c.networkTimeoutSeconds ≤ Nat.pow 2 63 - 1)
    (value : c.scalar? f = some s) : f.kind.Takes s := by
  cases f
  case port =>
    obtain ⟨p, -, rfl⟩ := Option.map_eq_some_iff.mp value
    exact .natural (Nat.le_of_lt_succ p.toNat_lt)
  case networkTimeoutSeconds =>
    cases value
    exact .natural timeout
  case allowInvalidCerts =>
    cases value
    exact .boolean
  case transport =>
    obtain ⟨name, named, rfl⟩ := Option.map_eq_some_iff.mp value
    exact .choice (List.mem_map_of_mem (mem_of_nameOf named))
  case domainMatch =>
    obtain ⟨name, named, rfl⟩ := Option.map_eq_some_iff.mp value
    exact .choice (List.mem_map_of_mem (mem_of_nameOf named))
  case acceptMode =>
    obtain ⟨name, named, rfl⟩ := Option.map_eq_some_iff.mp value
    exact .choice (List.mem_map_of_mem (mem_of_nameOf named))
  case bindPassword =>
    obtain ⟨password, -, rfl⟩ := Option.map_eq_some_iff.mp value
    exact .text
  case bindPasswordFile =>
    obtain ⟨path, -, value⟩ := Option.bind_eq_some_iff.mp value
    obtain ⟨text, -, rfl⟩ := Option.map_eq_some_iff.mp value
    exact .text
  all_goals
    cases value
    exact .text

/-- The keys of the fields need no quotes. -/
lemma Field.isBare_key (f : Field) : IsBare f.key := by
  have all : f.key.toList.all Toml.isBareChar = true := by cases f <;> decide +kernel
  exact ⟨by cases f <;> decide, List.all_eq_true.mp all⟩

/-- The limits of the fields are within those of integers. -/
lemma Field.limit_le {limit : Nat} (kind : f.kind = .natural limit) : limit ≤ Nat.pow 2 63 - 1 := by
  cases f <;> cases kind <;> decide

/-- What a field takes can be written. -/
lemma exists_scalarText_of_takes (takes : f.kind.Takes s) : ∃ cs, ScalarText cs s := by
  refine Toml.exists_scalarText s ?_
  generalize kind : f.kind = k at takes
  cases takes with
  | text => exact .inl ⟨_, rfl⟩
  | boolean => exact .inr (.inl ⟨_, rfl⟩)
  | choice => exact .inl ⟨_, rfl⟩
  | @natural limit n le =>
    have bound := Field.limit_le kind
    have greatest : Toml.maxInteger = (Nat.pow 2 63 - 1 : Nat) := rfl
    exact .inr (.inr ⟨n, rfl, by omega⟩)

/-- Only an option has no value, and it is none that has a default. -/
lemma default?_eq_none (absent : c.scalar? f = none) : f.default? = none := by
  cases f
  case transport =>
    obtain ⟨name, named⟩ := exists_nameOf_transport c.transport
    cases named.symm.trans (Option.map_eq_none_iff.mp absent)
  case domainMatch =>
    obtain ⟨name, named⟩ := exists_nameOf_comparison c.domainMatch
    cases named.symm.trans (Option.map_eq_none_iff.mp absent)
  case acceptMode =>
    obtain ⟨name, named⟩ := exists_nameOf_acceptMode c.acceptMode
    cases named.symm.trans (Option.map_eq_none_iff.mp absent)
  case port => rfl
  case bindPassword => rfl
  case bindPasswordFile => rfl
  all_goals cases absent

/-- Choices with the same name are the same. -/
lemma eq_of_nameOf {α : Type} [DecidableEq α] {choices : List (String × α)} {a b : α}
    (names : (choices.map (·.1)).Nodup) (total : ∀ a, ∃ name, nameOf choices a = some name)
    (same : (nameOf choices a).map Scalar.text = (nameOf choices b).map Scalar.text) : a = b := by
  obtain ⟨name, first⟩ := total a
  obtain ⟨other, second⟩ := total b
  rw [first, second] at same
  obtain rfl : name = other := by simpa using same
  have e := List.inj_on_of_nodup_map names (mem_of_nameOf first) (mem_of_nameOf second) rfl
  exact congrArg Prod.snd e

/-- The path that is written as a text. -/
def pathOf? : Scalar → Option RawText
  | .text path => some (.ofString path)
  | _ => none

/-- The path of the password file is told by its text. -/
lemma Draft.bindPasswordFile_eq {d : Draft} (textual : d.Textual) :
    d.bindPasswordFile = (d.scalar? .bindPasswordFile).bind pathOf? := by
  rw [scalar?]
  cases file : d.bindPasswordFile with
  | none => rfl
  | some path =>
    obtain ⟨text, undamaged⟩ := textual path file
    rw [Option.bind_some, undamaged, RawText.eq_ofString_of_text? undamaged]
    rfl

/-- A configuration is determined by its values if the path of its password file is text. -/
lemma eq_of_scalar? (textual : c.draft.Textual) (textual' : c'.draft.Textual)
    (same : ∀ f, c.scalar? f = c'.scalar? f) : c = c' := by
  have text {g : Config → String} (f : Field) (value : ∀ c : Config, c.scalar? f = some (.text (g c))) :
      g c = g c' := by
    have e := same f
    rw [value, value] at e
    simpa using e
  have port : c.port = c'.port := by
    have e : c.port.map (fun p => Scalar.integer p.toNat) = c'.port.map fun p => .integer p.toNat :=
      same .port
    refine Option.map_injective (fun p q e => ?_) e
    exact UInt16.toNat_inj.mp (Int.ofNat_inj.mp (Scalar.integer.inj e))
  have password : c.bindPassword = c'.bindPassword :=
    Option.map_injective (fun p q e => by simpa using e) (same .bindPassword)
  have file : c.bindPasswordFile = c'.bindPasswordFile := by
    have e := congrArg (Option.bind · pathOf?) (same .bindPasswordFile)
    exact (Draft.bindPasswordFile_eq textual).trans (e.trans (Draft.bindPasswordFile_eq textual').symm)
  have timeout : c.networkTimeoutSeconds = c'.networkTimeoutSeconds := by
    have e : some (Scalar.integer c.networkTimeoutSeconds) = some (.integer c'.networkTimeoutSeconds) :=
      same .networkTimeoutSeconds
    exact Int.ofNat_inj.mp (Scalar.integer.inj (Option.some.inj e))
  have certs : c.allowInvalidCerts = c'.allowInvalidCerts := by
    have e : some (Scalar.boolean c.allowInvalidCerts) = some (.boolean c'.allowInvalidCerts) :=
      same .allowInvalidCerts
    simpa using e
  have transport : c.transport = c'.transport :=
    eq_of_nameOf (by decide) exists_nameOf_transport (same .transport)
  have comparison : c.domainMatch = c'.domainMatch :=
    eq_of_nameOf (by decide) exists_nameOf_comparison (same .domainMatch)
  have mode : c.acceptMode = c'.acceptMode :=
    eq_of_nameOf (by decide) exists_nameOf_acceptMode (same .acceptMode)
  have host : c.host = c'.host := text .host fun _ => rfl
  have bindDn : c.bindDn = c'.bindDn := text .bindDn fun _ => rfl
  have users : c.userSearchBase = c'.userSearchBase := text .userSearchBase fun _ => rfl
  have folders : c.folderSearchBase = c'.folderSearchBase := text .folderSearchBase fun _ => rfl
  have domain : c.acceptedDomain = c'.acceptedDomain := text .acceptedDomain fun _ => rfl
  have userFilter : c.userFilter = c'.userFilter := text .userFilter fun _ => rfl
  have folderFilter : c.folderFilter = c'.folderFilter := text .folderFilter fun _ => rfl
  have proxyPrefix : c.proxyPrefix = c'.proxyPrefix := text .proxyPrefix fun _ => rfl
  have mail : c.mailAttribute = c'.mailAttribute := text .mailAttribute fun _ => rfl
  cases c
  cases c'
  simp only [mk.injEq]
  exact ⟨host, port, bindDn, password, file, users, folders, domain, timeout, transport, certs, comparison,
    userFilter, folderFilter, proxyPrefix, mail, mode⟩

/-! ## Entries that were written -/

variable {entries : Entries}
  (told : entries.told = (c.written fields).map fun (name, scalar) => (name, some scalar))
include told

/-- The keys of the entries are those that were written. -/
lemma names_told : entries.map (·.1.name) = (c.written fields).map (·.1) := by
  have e := congrArg (List.map Prod.fst) told
  simpa [Entries.told, Function.comp_def] using e

/-- An entry has the value of its field. -/
lemma exists_written {entry : Toml.Key × Node} (mem : entry ∈ entries) :
    ∃ f ∈ fields, entry.1.name = f.key ∧ ∃ s, entry.2.scalar? = some s ∧ c.scalar? f = some s := by
  have told' : (entry.1.name, entry.2.scalar?) ∈ entries.told := List.mem_map_of_mem mem
  rw [told] at told'
  obtain ⟨⟨name, s⟩, pair, e⟩ := List.mem_map.mp told'
  obtain ⟨f, field, name', value⟩ := mem_written.mp pair
  obtain ⟨sameName, sameValue⟩ := Prod.mk.inj e
  exact ⟨f, field, sameName.symm.trans name', s, sameValue.symm, value⟩

/-- The value of a field that was written has an entry. -/
lemma exists_entry (field : f ∈ fields) (value : c.scalar? f = some s) :
    ∃ entry ∈ entries, entry.1.name = f.key ∧ entry.2.scalar? = some s := by
  have pair : (f.key, some s) ∈ entries.told := by
    rw [told]
    exact List.mem_map.mpr ⟨(f.key, s), mem_written.mpr ⟨f, field, rfl, value⟩, rfl⟩
  obtain ⟨entry, mem, e⟩ := List.mem_map.mp pair
  obtain ⟨name, same⟩ := Prod.mk.inj e
  exact ⟨entry, mem, name, same⟩

/-- The entries give all values of a configuration, if what is left out is a default. -/
lemma valueOf_written (nodup : fields.Nodup) (omitted : ∀ f ∉ fields, c.scalar? f = f.default?)
    (f : Field) : (valueOf entries f).or f.default? = c.scalar? f := by
  cases found : valueOf entries f with
  | some s =>
    obtain ⟨node, first, value⟩ := Option.bind_eq_some_iff.mp found
    obtain ⟨key, name, mem⟩ := Entries.mem_of_find? first
    obtain ⟨g, -, name', s', value', given⟩ := exists_written told mem
    obtain rfl := Field.key_injective (name.symm.trans name')
    obtain rfl : s = s' := Option.some.inj (value.symm.trans value')
    rw [given, Option.some_or]
  | none =>
    rw [Option.none_or]
    by_cases field : f ∈ fields
    case neg => exact (omitted f field).symm
    case pos =>
      cases value : c.scalar? f with
      | none => exact default?_eq_none value
      | some s =>
        obtain ⟨entry, mem, name, same⟩ := exists_entry told field value
        have names : (entries.map (·.1.name)).Nodup := names_told told ▸ names_written nodup
        rw [valueOf_of_mem names mem name, same] at found
        cases found

/-- What was written is of the right form. -/
lemma isForm_written (timeout : c.networkTimeoutSeconds ≤ Nat.pow 2 63 - 1)
    (omitted : ∀ f ∉ fields, c.scalar? f = f.default?) : IsForm entries where
  known := by
    intro entry mem
    obtain ⟨f, -, name, s, value, given⟩ := exists_written told mem
    exact ⟨f, name, s, value, takes_of_scalar? timeout given⟩
  complete := by
    intro f required
    obtain ⟨some, none⟩ := Draft.given_of_required c required
    obtain ⟨s, value⟩ := Option.isSome_iff_exists.mp some
    have field : f ∈ fields := by
      by_contra absent
      rw [omitted f absent, none] at value
      cases value
    obtain ⟨entry, mem, name, -⟩ := exists_entry told field value
    exact ⟨entry, mem, name⟩

end

/-! ## Documents that were written -/

/-- A configuration is read from every document that writes some of its fields on lines of their own, in
any order and notation, if the other fields have their defaults; there is such a document. What is wrong
with the configuration is found as if it had not been written. -/
theorem ofText_written (c : Config) (timeout : c.networkTimeoutSeconds ≤ Nat.pow 2 63 - 1)
    (path : ∀ file, c.bindPasswordFile = some file → ∃ text, file.text? = some text)
    {fields : List Field} (nodup : fields.Nodup) (omitted : ∀ f ∉ fields, c.scalar? f = f.default?) :
    (∃ text : String, LinesText text.toList (c.written fields)) ∧
    ∀ text : String, LinesText text.toList (c.written fields) →
      ofText text = c.validate.map fun () => c := by
  constructor
  · obtain ⟨cs, lines⟩ : ∃ cs, LinesText cs (c.written fields) := by
      refine Toml.exists_linesText (fun pair mem => ?_) fun pair mem => ?_
      · obtain ⟨f, -, name, -⟩ := mem_written.mp mem
        exact name ▸ f.isBare_key
      · obtain ⟨f, -, -, value⟩ := mem_written.mp mem
        exact exists_scalarText_of_takes (takes_of_scalar? timeout value)
    exact ⟨String.ofList cs, by rwa [String.toList_ofList]⟩
  · intro text lines
    obtain ⟨span, entries, read, told⟩ := Toml.Document.read_lines lines (names_written nodup)
    have names : (entries.map (·.1.name)).Nodup := names_told told ▸ names_written nodup
    have form : IsForm (rootEntries (.table .header (some span) entries)).2 :=
      isForm_written told timeout omitted
    obtain ⟨c', given, values⟩ := form.ofRoot names
    obtain rfl : c' = c := eq_of_scalar? (textual_of_ofRoot given) path fun f =>
      (values f).trans (valueOf_written told nodup omitted f)
    exact ofText_of_ok read given

/-- A configuration with a password that cannot be written without escapes. -/
def quotedConfig : Config where
  host := "h"
  port := none
  bindDn := "cn=b"
  bindPassword := some "a\"b\\c\n#é"
  bindPasswordFile := none
  userSearchBase := "u"
  folderSearchBase := "f"
  acceptedDomain := "d.example"
  networkTimeoutSeconds := defaultTimeoutSeconds
  transport := .startTls
  allowInvalidCerts := false
  domainMatch := default
  userFilter := Filter.Template.defaultUsers
  folderFilter := Filter.Template.defaultFolders
  proxyPrefix := defaultProxyPrefix
  mailAttribute := defaultMailAttribute
  acceptMode := default

/-- Read from lines in an order of their own, one of them with a default. -/
theorem ofText_written_quoted :
    ∃ text : String,
      LinesText text.toList (quotedConfig.written
        [.transport, .bindPassword, .acceptedDomain, .proxyPrefix, .host, .bindDn, .port,
          .folderSearchBase, .userSearchBase]) ∧
      ofText text = .ok quotedConfig := by
  have omitted : ∀ f ∉ [Field.transport, .bindPassword, .acceptedDomain, .proxyPrefix, .host, .bindDn,
      .port, .folderSearchBase, .userSearchBase], quotedConfig.scalar? f = f.default? := by
    intro f absent
    cases f <;> first | rfl | exact absurd (by decide) absent
  obtain ⟨⟨text, lines⟩, read⟩ := ofText_written quotedConfig (by decide) nofun (by decide) omitted
  have valid : quotedConfig.flaw? = none := by decide +kernel
  refine ⟨text, lines, ?_⟩
  rw [read text lines, validate, valid]
  rfl

end RecipientCallout.Config
