import Mathlib.Data.List.Basic
import RecipientCallout.Callout.Basic
import RecipientCallout.Proofs.Callout.Configured

/-!
# Flaws of configurations

What a valid configuration is like (`IsValid`), which flaws another one has (`Has`), and in which order
the fields take the blame. The headline `ofConfig_answer` says of every configuration, with all its flaws
together, whether it is valid, which flaw it is refused for, and that a valid one fails to give a callout
for no other reason than the file with the password.
-/

namespace RecipientCallout.Config
open RecipientCallout.Text

/-- Whether a text has something else in it than white space. -/
def IsFilled (text : String) : Prop := ∃ c ∈ text.toList, isBlank c = false

/-- What a valid configuration is like. -/
structure IsValid (c : Config) : Prop where
  host : IsFilled c.host
  bindDn : IsFilled c.bindDn
  userSearchBase : IsFilled c.userSearchBase
  folderSearchBase : IsFilled c.folderSearchBase
  acceptedDomain : IsFilled c.acceptedDomain
  mailAttribute : IsFilled c.mailAttribute
  port : c.port ≠ some 0
  networkTimeoutSeconds : c.networkTimeoutSeconds ≠ 0
  /-- The password is given in just one of two ways. -/
  bindPassword : c.bindPassword.isSome ≠ c.bindPasswordFile.isSome
  userFilter : '?' ∈ c.userFilter.toList
  folderFilter : '?' ∈ c.folderFilter.toList

/-- The fields under conditions, in the order in which they take the blame. -/
def blameOrder : List Field :=
  [.host, .bindDn, .userSearchBase, .folderSearchBase, .acceptedDomain, .mailAttribute, .port,
    .networkTimeoutSeconds, .bindPassword, .userFilter, .folderFilter]

/-- The text in a field that has to say something. -/
def mandatory? (c : Config) : Field → Option String
  | .host => some c.host
  | .bindDn => some c.bindDn
  | .userSearchBase => some c.userSearchBase
  | .folderSearchBase => some c.folderSearchBase
  | .acceptedDomain => some c.acceptedDomain
  | .mailAttribute => some c.mailAttribute
  | _ => none

/-- The text in a field that has to be a template. -/
def templateText? (c : Config) : Field → Option String
  | .userFilter => some c.userFilter
  | .folderFilter => some c.folderFilter
  | _ => none

/-- The flaws that a configuration has; there may be several. -/
inductive Has (c : Config) : Flaw → Prop where
  | blank {field text} :
    c.mandatory? field = some text →
    ¬ IsFilled text →
    Has c (.blank field)
  | portZero :
    c.port = some 0 →
    Has c .portZero
  | timeoutZero :
    c.networkTimeoutSeconds = 0 →
    Has c .timeoutZero
  | twoPasswords :
    c.bindPassword.isSome = true →
    c.bindPasswordFile.isSome = true →
    Has c .twoPasswords
  | noPassword :
    c.bindPassword = none →
    c.bindPasswordFile = none →
    Has c .noPassword
  | noSlot {field text} :
    c.templateText? field = some text →
    '?' ∉ text.toList →
    Has c (.noSlot field)

/-- How late the field of a flaw takes the blame. -/
def Flaw.rank (flaw : Flaw) : Nat := blameOrder.idxOf flaw.field

/-- The flaw that a configuration is refused for: no field before its field is flawed. -/
structure Blames (c : Config) (flaw : Flaw) : Prop where
  has : c.Has flaw
  first : ∀ other, c.Has other → flaw.rank ≤ other.rank

variable {c : Config} {flaw : Flaw}

/-! ## Flaws and checks -/

/-- A text is blank if it is not filled. -/
lemma allBlank_eq_true {text : String} : allBlank text = true ↔ ¬ IsFilled text := by
  simp [allBlank, IsFilled]

/-- There is no template without a question mark. -/
lemma isNone_parse? {text : String} :
    (Filter.Template.parse? text).isNone = true ↔ '?' ∉ text.toList :=
  Option.isNone_iff_eq_none.trans Filter.Template.parse?_eq_none

/-- A flaw is found by its check. -/
lemma mem_checks : (true, flaw) ∈ c.checks ↔ c.Has flaw := by
  constructor
  · intro mem
    simp only [checks, List.mem_cons, Prod.mk.injEq, List.not_mem_nil, or_false, Eq.comm (a := true),
      allBlank_eq_true, decide_eq_true_eq, isNone_parse?, Bool.and_eq_true] at mem
    obtain ⟨blank, rfl⟩ | ⟨blank, rfl⟩ | ⟨blank, rfl⟩ | ⟨blank, rfl⟩ | ⟨blank, rfl⟩ | ⟨blank, rfl⟩ |
      ⟨port, rfl⟩ | ⟨timeout, rfl⟩ | ⟨⟨inline, file⟩, rfl⟩ | ⟨⟨inline, file⟩, rfl⟩ | ⟨slot, rfl⟩ |
      ⟨slot, rfl⟩ := mem
    · exact .blank rfl blank
    · exact .blank rfl blank
    · exact .blank rfl blank
    · exact .blank rfl blank
    · exact .blank rfl blank
    · exact .blank rfl blank
    · exact .portZero port
    · exact .timeoutZero timeout
    · exact .twoPasswords inline file
    · exact .noPassword (Option.isNone_iff_eq_none.mp inline) (Option.isNone_iff_eq_none.mp file)
    · exact .noSlot rfl slot
    · exact .noSlot rfl slot
  · intro has
    cases has with
    | @blank field text given silent =>
      have check := allBlank_eq_true.mpr silent
      cases field <;> cases given <;> simp [checks, check]
    | portZero zero => simp [checks, zero]
    | timeoutZero zero => simp [checks, zero]
    | twoPasswords inline file => simp [checks, inline, file]
    | noPassword inline file => simp [checks, inline, file]
    | @noSlot field text given absent =>
      have check := isNone_parse?.mpr absent
      cases field <;> cases given <;> simp [checks, check]

/-- The checks are made in the order of blame. -/
lemma checks_pairwise (c : Config) : c.checks.Pairwise fun a b => a.2.rank ≤ b.2.rank := by
  have flaws : (c.checks.map (·.2)).Pairwise fun a b => a.rank ≤ b.rank := by
    change List.Pairwise _ [Flaw.blank .host, .blank .bindDn, .blank .userSearchBase,
      .blank .folderSearchBase, .blank .acceptedDomain, .blank .mailAttribute, .portZero, .timeoutZero,
      .twoPasswords, .noPassword, .noSlot .userFilter, .noSlot .folderFilter]
    decide
  simpa [List.pairwise_map] using flaws

/-- No mandatory text is a template. -/
lemma templateText?_of_mandatory? {f : Field} {text : String} (given : c.mandatory? f = some text) :
    c.templateText? f = none := by
  cases f <;> first | rfl | cases given

/-- Two flaws of a configuration that are blamed on one field are the same. -/
lemma Has.unique {other : Flaw} (has : c.Has flaw) (has' : c.Has other)
    (same : flaw.field = other.field) : flaw = other := by
  -- flaws of different kinds are blamed on different fields, but for those of the password
  cases has <;> cases has' <;> simp only [Flaw.field] at same <;> subst_vars
  case twoPasswords.noPassword inline _ none _ => simp [none] at inline
  case noPassword.twoPasswords none _ inline _ => simp [none] at inline
  case blank.noSlot template _ given => cases (templateText?_of_mandatory? given).symm.trans template
  case noSlot.blank given _ template => cases (templateText?_of_mandatory? given).symm.trans template
  all_goals simp_all [mandatory?, templateText?]

/-- Every flaw has a field that can take the blame. -/
lemma mem_blameOrder (has : c.Has flaw) : flaw.field ∈ blameOrder := by
  cases has with
  | @blank field text given => cases field <;> cases given <;> exact of_decide_eq_true rfl
  | @noSlot field text given => cases field <;> cases given <;> exact of_decide_eq_true rfl
  | _ => decide

/-- Only one flaw takes the blame. -/
lemma Blames.unique {other : Flaw} (blames : c.Blames flaw) (blames' : c.Blames other) :
    flaw = other := by
  have rank : blameOrder.idxOf flaw.field = blameOrder.idxOf other.field :=
    Nat.le_antisymm (blames.first _ blames'.has) (blames'.first _ blames.has)
  exact blames.has.unique blames'.has ((List.idxOf_inj (mem_blameOrder blames.has)).mp rank)

/-! ## Validity -/

/-- A configuration is valid if it has no flaw. -/
lemma isValid_iff : c.IsValid ↔ ∀ flaw, ¬ c.Has flaw := by
  constructor
  · intro valid flaw has
    cases has with
    | @blank field text given silent =>
      cases field <;> cases given
      · exact silent valid.host
      · exact silent valid.bindDn
      · exact silent valid.userSearchBase
      · exact silent valid.folderSearchBase
      · exact silent valid.acceptedDomain
      · exact silent valid.mailAttribute
    | portZero zero => exact valid.port zero
    | timeoutZero zero => exact valid.networkTimeoutSeconds zero
    | twoPasswords inline file =>
      exact valid.bindPassword (inline.trans file.symm)
    | noPassword inline file =>
      exact valid.bindPassword (by rw [inline, file]; rfl)
    | @noSlot field text given absent =>
      cases field <;> cases given
      · exact absent valid.userFilter
      · exact absent valid.folderFilter
  · intro flawless
    have filled {f : Field} {text : String} (given : c.mandatory? f = some text) : IsFilled text := by
      by_contra silent
      exact flawless _ (.blank given silent)
    have slot {f : Field} {text : String} (given : c.templateText? f = some text) :
        '?' ∈ text.toList := by
      by_contra absent
      exact flawless _ (.noSlot given absent)
    refine ⟨filled (f := .host) rfl, filled (f := .bindDn) rfl, filled (f := .userSearchBase) rfl,
      filled (f := .folderSearchBase) rfl, filled (f := .acceptedDomain) rfl, filled (f := .mailAttribute) rfl,
      fun zero => flawless _ (.portZero zero), fun zero => flawless _ (.timeoutZero zero), ?_,
      slot (f := .userFilter) rfl, slot (f := .folderFilter) rfl⟩
    have notBoth := fun inline file => flawless _ (.twoPasswords inline file)
    have notNone := fun inline file => flawless _ (.noPassword inline file)
    cases inline : c.bindPassword <;> cases file : c.bindPasswordFile <;> simp_all

/-- A valid configuration that names a file has no password itself. -/
lemma IsValid.bindPassword_eq_none (valid : c.IsValid) {path : Files.Path}
    (file : c.bindPasswordFile = some path) : c.bindPassword = none := by
  have one := valid.bindPassword
  rw [file] at one
  simpa using one

/-- No flaw is found exactly in valid configurations. -/
lemma flaw?_eq_none : c.flaw? = none ↔ c.IsValid := by
  rw [isValid_iff, flaw?, Option.map_eq_none_iff, List.find?_eq_none]
  constructor
  · intro passed flaw has
    exact passed _ (mem_checks.mpr has) rfl
  · rintro flawless ⟨wrong, flaw⟩ mem rfl
    exact flawless flaw (mem_checks.mp mem)

/-- The flaw that is found takes the blame. -/
lemma blames_of_flaw? (found : c.flaw? = some flaw) : c.Blames flaw := by
  obtain ⟨⟨wrong, flaw⟩, first, rfl⟩ := Option.map_eq_some_iff.mp found
  obtain ⟨rfl, before, after, split, passed⟩ := List.find?_eq_some_iff_append.mp first
  have has : c.Has flaw := mem_checks.mp (split ▸ by simp)
  refine ⟨has, fun other has' => ?_⟩
  have mem := mem_checks.mpr has'
  have order := c.checks_pairwise
  rw [split] at mem order
  -- a check before the one that failed has passed
  obtain early | rfl | late : (true, other) ∈ before ∨ other = flaw ∨ (true, other) ∈ after := by
    simpa using mem
  · exact absurd (passed _ early) (by simp)
  · exact Nat.le_refl _
  · exact List.rel_of_pairwise_cons (List.pairwise_append.mp order).2.1 late

/-- The flaw that is found is just the one that takes the blame. -/
lemma flaw?_eq_some : c.flaw? = some flaw ↔ c.Blames flaw := by
  refine ⟨blames_of_flaw?, fun blames => ?_⟩
  cases found : c.flaw? with
  | none => exact absurd blames.has (isValid_iff.mp (flaw?_eq_none.mp found) flaw)
  | some other => rw [(blames_of_flaw? found).unique blames]

/-- Just the valid configurations pass. -/
lemma validate_eq_ok : c.validate = .ok () ↔ c.IsValid := by
  rw [← flaw?_eq_none, validate]
  cases c.flaw? <;> simp

/-- All others fail for the flaw that takes the blame. -/
lemma validate_eq_error {fault : Fault} :
    c.validate = .error fault ↔ ∃ flaw, c.Blames flaw ∧ fault = .invalid flaw := by
  simp only [← flaw?_eq_some, validate]
  cases c.flaw? <;> simp [eq_comm]

/-! ## Callouts of valid configurations -/

/-- A text with a question mark is a template. -/
lemma template_eq_ok (field : Field) {text : String} (slot : '?' ∈ text.toList) :
    ∃ t, template field text = .ok t := by
  have parsed : Filter.Template.parse? text = some ⟨text.toList, slot⟩ := dif_pos slot
  rw [template, parsed]
  exact ⟨_, rfl⟩

end RecipientCallout.Config

namespace RecipientCallout.Files

/-- Whether there is text at a path. -/
def HasText (store : Store) (path : Path) : Prop :=
  ∃ contents, store path = .ok contents ∧ contents.IsValidUTF8

/-- A file has a text if one can be read from it. -/
lemma hasText_iff {store : Store} {path : Path} :
    HasText store path ↔ ∃ text, readText store path = .ok text := by
  unfold HasText readText
  cases store path with
  | error failure => simp
  | ok contents =>
    by_cases valid : contents.IsValidUTF8 <;> simp [String.fromUTF8?, valid]

/-- A file with a text in it is read as this text. -/
lemma readText_of_text {store : Store} {path : Path} {text : String}
    (file : store path = .ok text.toUTF8) : readText store path = .ok text := by
  have read : String.fromUTF8? text.toUTF8 = some text := dif_pos text.isValidUTF8
  rw [readText, file]
  simp only [read]

end RecipientCallout.Files

namespace RecipientCallout.Callout
open RecipientCallout.Config

variable {store : Files.Store} {c : Config}

/-- There is no callout of a configuration that does not pass. -/
lemma ofConfig_of_invalid {fault : Fault} (invalid : c.validate = .error fault) :
    ofConfig store c = .error fault := by
  rw [ofConfig, invalid]
  rfl

/-- A valid configuration with a password gives a callout. -/
lemma ofConfig_of_password (valid : c.IsValid) {password : String}
    (known : c.password store = .ok password) : ∃ callout, ofConfig store c = .ok callout := by
  obtain ⟨users, compiled⟩ := template_eq_ok .userFilter valid.userFilter
  obtain ⟨folders, compiled'⟩ := template_eq_ok .folderFilter valid.folderFilter
  simp only [ofConfig, validate_eq_ok.mpr valid, known, Config.userTemplate, compiled,
    Config.folderTemplate, compiled']
  exact ⟨_, rfl⟩

/-- Nor is there one without its password. -/
lemma ofConfig_of_passwordless (valid : c.IsValid) {fault : Fault}
    (unknown : c.password store = .error fault) : ofConfig store c = .error fault := by
  rw [ofConfig, validate_eq_ok.mpr valid, unknown]
  rfl

/-- There is one of every valid configuration with a password of its own. -/
lemma ofConfig_of_inline (store : Files.Store) (valid : c.IsValid) (inline : c.bindPasswordFile = none) :
    ∃ callout, ofConfig store c = .ok callout := by
  cases given : c.bindPassword with
  | none => exact absurd (by rw [given, inline]; rfl) valid.bindPassword
  | some password => exact ofConfig_of_password valid (by rw [Config.password, given])

/-- A file with the password gives its first line, or the reason why it cannot be read. -/
lemma password_of_file (store : Files.Store) {path : Files.Path} (alone : c.bindPassword = none)
    (file : c.bindPasswordFile = some path) :
    c.password store =
      match Files.readText store path with
      | .ok text => .ok (String.ofList (Text.firstLine text.toList))
      | .error failure => .error (.passwordFile path failure) := by
  cases read : Files.readText store path with
  | ok text => simp only [Config.password, alone, file, read]
  | error failure => simp only [Config.password, alone, file, read]

/-- What a valid configuration cannot give a callout for is the file that it names for its password. -/
lemma ofConfig_eq_error_of_isValid (valid : c.IsValid) {fault : Fault} :
    ofConfig store c = .error fault ↔
      ∃ path failure, c.bindPasswordFile = some path ∧ Files.readText store path = .error failure ∧
        fault = .passwordFile path failure := by
  cases file : c.bindPasswordFile with
  | none =>
    obtain ⟨callout, made⟩ := ofConfig_of_inline store valid file
    simp [made]
  | some path =>
    have password := password_of_file store (valid.bindPassword_eq_none file) file
    cases read : Files.readText store path with
    | error failure =>
      rw [read] at password
      simp [ofConfig_of_passwordless valid password, read, eq_comm]
    | ok text =>
      rw [read] at password
      obtain ⟨callout, made⟩ := ofConfig_of_password valid password
      simp [made, read]

/-- **Answers to configurations.** A configuration passes exactly if it is valid; otherwise it is refused
for the flaw whose field takes the blame first, and then it gives no callout for that very reason. A valid
one gives a callout unless it names a file for its password that is no text, and then that is the
reason. -/
theorem ofConfig_answer (store : Files.Store) (c : Config) :
    (c.validate = .ok () ↔ c.IsValid) ∧
    (∀ fault, c.validate = .error fault ↔ ∃ flaw, c.Blames flaw ∧ fault = .invalid flaw) ∧
    (∀ fault, c.validate = .error fault → ofConfig store c = .error fault) ∧
    (c.validate = .ok () → ∀ fault, ofConfig store c = .error fault ↔
      ∃ path failure, c.bindPasswordFile = some path ∧ Files.readText store path = .error failure ∧
        fault = .passwordFile path failure) ∧
    ((∃ callout, ofConfig store c = .ok callout) ↔
      c.IsValid ∧ ∀ path, c.bindPasswordFile = some path → Files.HasText store path) := by
  refine ⟨validate_eq_ok, fun fault => validate_eq_error, fun fault => ofConfig_of_invalid,
    fun valid fault => ofConfig_eq_error_of_isValid (validate_eq_ok.mp valid), ?_⟩
  constructor
  · rintro ⟨callout, made⟩
    have valid := validate_eq_ok.mp (ofConfig_eq_ok made).1
    refine ⟨valid, fun path file => ?_⟩
    rw [Files.hasText_iff]
    cases read : Files.readText store path with
    | ok text => exact ⟨text, rfl⟩
    | error failure =>
      have failed := (ofConfig_eq_error_of_isValid valid).mpr ⟨path, failure, file, read, rfl⟩
      cases made.symm.trans failed
  · rintro ⟨valid, readable⟩
    cases file : c.bindPasswordFile with
    | none => exact ofConfig_of_inline store valid file
    | some path =>
      obtain ⟨text, read⟩ := Files.hasText_iff.mp (readable path file)
      have password := password_of_file store (valid.bindPassword_eq_none file) file
      rw [read] at password
      exact ofConfig_of_password valid password

/-- A configuration whose password stands in a file. -/
def filedConfig : Config where
  host := "h"
  port := none
  bindDn := "cn=b"
  bindPassword := none
  bindPasswordFile := some (.ofString "secret")
  userSearchBase := "u"
  folderSearchBase := "f"
  acceptedDomain := "d.example"
  networkTimeoutSeconds := Config.defaultTimeoutSeconds
  transport := default
  allowInvalidCerts := false
  domainMatch := default
  userFilter := Filter.Template.defaultUsers
  folderFilter := Filter.Template.defaultFolders
  proxyPrefix := Config.defaultProxyPrefix
  mailAttribute := Config.defaultMailAttribute
  acceptMode := default

/-- A configuration with four flaws, the first of them a domain of blanks, and a valid one whose file is
no text. -/
theorem ofConfig_answer_flawed :
    let flawed : Config :=
      { filedConfig with
        acceptedDomain := "\u2003 "
        port := some 0
        bindPassword := some "s"
        userFilter := "u" }
    let store : Files.Store := fun _ => .ok ⟨#[0xFF]⟩
    flawed.Has (.noSlot .userFilter) ∧
    ofConfig store flawed = .error (.invalid (.blank .acceptedDomain)) ∧
    filedConfig.IsValid ∧
    ofConfig store filedConfig = .error (.passwordFile (.ofString "secret") .notText) := by
  intro flawed store
  have refused : flawed.validate = .error (.invalid (.blank .acceptedDomain)) := by
    have found : flawed.flaw? = some (.blank .acceptedDomain) := by decide +kernel
    exact ((ofConfig_answer store flawed).2.1 _).mpr ⟨_, blames_of_flaw? found, rfl⟩
  have valid : filedConfig.validate = .ok () := by rfl
  refine ⟨?_, ?_, ?_, ?_⟩
  · have template : flawed.templateText? .userFilter = some "u" := rfl
    exact .noSlot template (by decide)
  · exact (ofConfig_answer store flawed).2.2.1 _ refused
  · exact (ofConfig_answer store filedConfig).1.mp valid
  · exact ((ofConfig_answer store filedConfig).2.2.2.1 valid _).mpr ⟨_, .notText, rfl, rfl, rfl⟩

end RecipientCallout.Callout
