import Mathlib.Tactic.Lemma
import RecipientCallout.Program
import RecipientCallout.Proofs.Callout.Order
import RecipientCallout.Proofs.CommandLine.Address
import RecipientCallout.Proofs.Program.Agreement
import RecipientCallout.Proofs.Program.Endings
import RecipientCallout.Proofs.Text.Octets

/-!
# What the relay adds

The relay may add further arguments behind the address. The headline `run_context` compares two runs of
the program that differ in these, and in the order in which the client keeps the attributes of entries. What
the arguments say makes no difference as long as they are text, and a run in which one of them is not fails
before anything is read or asked for. The order makes none either, but for the mailbox where an entry spells
the mail attribute in two ways.
-/

namespace RecipientCallout.Program
open RecipientCallout.Text
open RecipientCallout.CommandLine (Arguments Fault)
open RecipientCallout.Directory (Arrangement sameName)
open RecipientCallout.Ldap (Link SentEntry)

/-- Whether all arguments are valid text. -/
def AreTexts (arguments : List ByteArray) : Prop := ∀ argument ∈ arguments, argument.IsValidUTF8

/-- Arguments are text if the first of them is and the others are. -/
lemma areTexts_cons {argument : ByteArray} {arguments : List ByteArray} :
    AreTexts (argument :: arguments) ↔ argument.IsValidUTF8 ∧ AreTexts arguments :=
  List.forall_mem_cons

/-- Arguments are text exactly if they can be read. -/
lemma areTexts_iff {arguments : List ByteArray} :
    AreTexts arguments ↔
      ∃ texts, (arguments.map RawText.ofOctets).mapM RawText.text? = some texts := by
  induction arguments with
  | nil => exact iff_of_true nofun ⟨[], rfl⟩
  | cons argument arguments ih =>
    simp only [areTexts_cons, ih, List.map_cons, CommandLine.mapM_text?_cons_eq_some,
      RawText.text?_ofOctets, String.fromUTF8?]
    constructor
    · rintro ⟨valid, others, read⟩
      exact ⟨_, _, others, dif_pos valid, read, rfl⟩
    · rintro ⟨_, text, others, first, read, -⟩
      split at first
      case isTrue valid => exact ⟨valid, others, read⟩
      case isFalse => cases first

variable {address : ByteArray} {context other : List ByteArray} {environment : Option ByteArray}
  {store : Files.Store} {link : Link} {writable : Bool}

/-- Octets without a hyphen in front are no option. -/
lemma shape_ofOctets (plain : address.data[0]? ≠ some '-'.toUInt8) :
    CommandLine.shape (.ofOctets address) = .plain := by
  refine CommandLine.shape_of_head? fun hyphen => plain ?_
  rw [← Array.getElem?_toList, ← List.head?_eq_getElem?]
  exact RawText.head?_ofOctets (by decide) hyphen

/-- Behind an address without a hyphen, arguments that are text are fields, whatever they look like. -/
lemma said_texts (plain : address.data[0]? ≠ some '-'.toUInt8) {texts : List String}
    (read : ((address :: context).map RawText.ofOctets).mapM RawText.text? = some texts) :
    said (address :: context) environment =
      (CommandLine.chooseConfig none (environment.map .ofOctets)).map
        fun config => ⟨false, config, none, texts⟩ := by
  rw [List.map_cons] at read
  rw [said, List.map_cons, CommandLine.parse_plain (shape_ofOctets plain), read]

/-- A command line with an argument that is no text cannot be used. -/
lemma said_damaged (plain : address.data[0]? ≠ some '-'.toUInt8)
    (damaged : ¬ AreTexts (address :: context)) :
    said (address :: context) environment = .error (.fault .notText) := by
  have unread : ((address :: context).map RawText.ofOctets).mapM RawText.text? = none := by
    rw [Option.eq_none_iff_forall_ne_some]
    intro texts read
    exact damaged (areTexts_iff.mpr ⟨texts, read⟩)
  rw [List.map_cons] at unread
  rw [said, List.map_cons, CommandLine.parse_plain (shape_ofOctets plain), unread]

/-- A fault is all that is said of a command line that cannot be used. -/
lemma run_of_fault {arguments : List ByteArray} {fault : Fault}
    (heard : said arguments environment = .error (.fault fault)) :
    run arguments environment store link writable = finish writable (.usageError fault.reason) link := by
  unfold said at heard
  simp only [run, heard]

/-- A run with an argument that is no text fails for that, and asks for nothing. -/
lemma run_damaged (plain : address.data[0]? ≠ some '-'.toUInt8)
    (damaged : ¬ AreTexts (address :: context)) :
    run (address :: context) environment store link writable =
      finish writable (.usageError Fault.notText.message) link := by
  have reason : Fault.notText.reason = Fault.notText.message := by decide +kernel
  rw [run_of_fault (said_damaged plain damaged), reason]

/-! ## Two runs -/

/-- Whether two runs have the same exit code and the same requests, and under a condition the same output. -/
structure Outcome.Alike (condition : Prop) (a b : Outcome) : Prop where
  exitCode : a.exitCode = b.exitCode
  received : a.link.received = b.link.received
  output : condition → a.output = b.output

/-- Whether no entry that the server sends spells the mail attribute in two ways, under the configuration that
the environment names. -/
def MailSpelledOnce (environment : Option ByteArray) (store : Files.Store) (link : Link) : Prop :=
  ∀ path callout, CommandLine.chooseConfig none (environment.map .ofOctets) = .ok path →
    loadCallout store path = .ok callout → link.SpellsOnce callout.mailAttribute

variable {condition : Prop} {a b : Link}

/-- A run ends with its response. -/
lemma finish_alike {response response' : Response} (exitCode : response.exitCode = response'.exitCode)
    (received : a.received = b.received) (same : condition → response = response') :
    (finish writable response a).Alike condition (finish writable response' b) := by
  cases writable with
  | true => exact ⟨exitCode, received, fun holds => congrArg Response.render (same holds)⟩
  | false => exact ⟨rfl, received, fun _ => rfl⟩

/-- Command lines that cannot be used for one reason end alike. -/
lemma run_of_stop {arguments arguments' : List ByteArray} {stop : CommandLine.Stop}
    (heard : said arguments environment = .error stop) (heard' : said arguments' environment = .error stop)
    (received : a.received = b.received) :
    (run arguments environment store a writable).Alike condition
      (run arguments' environment store b writable) := by
  unfold said at heard heard'
  simp only [run, heard, heard']
  cases stop with
  | help => exact ⟨rfl, received, fun _ => rfl⟩
  | fault => exact finish_alike rfl received fun _ => rfl

/-- Of the fields, only the address counts. -/
lemma respond_fields (version config logLevel) (address : String) (context other : List String) :
    respond ⟨version, config, logLevel, address :: context⟩ store link =
      respond ⟨version, config, logLevel, address :: other⟩ store link :=
  rfl

/-- The order of attributes makes no difference to a response but for the mailbox in it. -/
lemma finish_respond_alike {arguments : Arguments} (received : a.received = b.received)
    (reordered : ∀ callout, loadCallout store arguments.config = .ok callout →
      a.Reordered callout.mailAttribute condition b) :
    (finish writable (respond arguments store a).1 (respond arguments store a).2).Alike condition
      (finish writable (respond arguments store b).1 (respond arguments store b).2) := by
  unfold respond
  cases arguments.invocation? with
  | none => exact finish_alike rfl received fun _ => rfl
  | some invocation =>
    cases invocation with
    | version => exact finish_alike rfl received fun _ => rfl
    | verify address context =>
      simp only
      cases Recipient.parse address with
      | error => exact finish_alike rfl received fun _ => rfl
      | ok =>
        simp only
        cases loaded : loadCallout store arguments.config with
        | error => exact finish_alike rfl received fun _ => rfl
        | ok callout =>
          obtain ⟨alike, received⟩ :=
            Callout.run_reordered (reordered callout loaded) (.verify address context)
          refine finish_alike (alike.exitCode_eq callout.acceptMode) received fun holds => ?_
          exact congrArg (Response.ofVerdict callout.acceptMode) (alike.eq fun _ _ same => same holds)

/-- Runs on one address with fields that are text end alike. -/
lemma run_texts (plain : address.data[0]? ≠ some '-'.toUInt8)
    (left : AreTexts (address :: context)) (right : AreTexts (address :: other))
    (received : a.received = b.received)
    (reordered : ∀ path callout, CommandLine.chooseConfig none (environment.map .ofOctets) = .ok path →
      loadCallout store path = .ok callout → a.Reordered callout.mailAttribute condition b) :
    (run (address :: context) environment store a writable).Alike condition
      (run (address :: other) environment store b writable) := by
  obtain ⟨_, left⟩ := areTexts_iff.mp left
  obtain ⟨_, right⟩ := areTexts_iff.mp right
  have left' : said (address :: context) environment = _ := said_texts plain left
  have right' : said (address :: other) environment = _ := said_texts plain right
  -- the configuration is chosen without the fields
  cases chosen : CommandLine.chooseConfig none (environment.map .ofOctets) with
  | error stop =>
    rw [chosen] at left' right'
    exact run_of_stop left' right' received
  | ok config =>
    rw [chosen] at left' right'
    obtain ⟨text, _, read, -, rfl⟩ := CommandLine.mapM_text?_cons_eq_some.mp left
    obtain ⟨_, _, read', -, rfl⟩ := CommandLine.mapM_text?_cons_eq_some.mp right
    cases read.symm.trans read'
    rw [run_of_ok left', run_of_ok right', respond_fields]
    exact finish_respond_alike received fun callout loaded => reordered config callout chosen loaded

/-- **Context.** Two runs on one address that does not begin with a hyphen have the same exit code and the
same requests, whatever the relay has added to it, if both additions are text. They have the same output,
too, if their clients keep attributes in one order, or else if no entry spells the mail attribute in two
ways. If one of the additions is not text, a run fails without a request. -/
theorem run_context (plain : address.data[0]? ≠ some '-'.toUInt8) (context other : List ByteArray)
    (environment : Option ByteArray) (store : Files.Store) (link : Link) (arrangement : Arrangement)
    (writable : Bool) :
    let settled := link.arrangement = arrangement ∨ MailSpelledOnce environment store link
    let done := run (address :: context) environment store link writable
    let done' := run (address :: other) environment store (link.rearranged arrangement) writable
    ((AreTexts context ↔ AreTexts other) → done.Alike settled done') ∧
    (¬ AreTexts context → done = finish writable (.usageError Fault.notText.message) link) := by
  intro settled done done'
  have failed {fields : List ByteArray} (damaged : ¬ AreTexts fields) (link : Link) :
      run (address :: fields) environment store link writable =
        finish writable (.usageError Fault.notText.message) link :=
    run_damaged plain fun texts => damaged (areTexts_cons.mp texts).2
  refine ⟨fun alike => ?_, fun damaged => failed damaged link⟩
  by_cases texts : AreTexts context
  case neg =>
    rw [show done = _ from failed texts _, show done' = _ from failed (mt alike.mpr texts) _]
    exact finish_alike rfl rfl fun _ => rfl
  case pos =>
    by_cases valid : address.IsValidUTF8
    case pos =>
      refine run_texts plain (areTexts_cons.mpr ⟨valid, texts⟩)
        (areTexts_cons.mpr ⟨valid, alike.mp texts⟩) rfl fun path callout chosen loaded => ⟨rfl, ?_⟩
      exact Or.imp_right fun once => once path callout chosen loaded
    case neg =>
      have damaged (fields : List ByteArray) : ¬ AreTexts (address :: fields) :=
        fun texts => valid (areTexts_cons.mp texts).1
      rw [show done = _ from run_damaged plain (damaged context),
        show done' = _ from run_damaged plain (damaged other)]
      exact finish_alike rfl rfl fun _ => rfl

/-- Attributes in the reverse order. -/
def reversed : Arrangement := ⟨List.reverse, List.reverse_perm⟩

/-- A directory that finds just one entry, among the users. -/
def holding (entry : SentEntry) : Link :=
  .serving (.loopback 389) .asSet [.success, .answer [entry] ⟨0, "", ""⟩ .outcome]

/-- An entry with a name and an address. -/
def sampleEntry : SentEntry :=
  ⟨"cn=jane", [("cn", ["Jane".toUTF8]), ("mail", ["j.doe@d.example".toUTF8])]⟩

/-- A document of the sample configuration. -/
def plainDocument : String :=
  "host='127.0.0.1'\nbind_dn='cn=b'\nbind_password='secret'\nuser_search_base='ou=u'\n" ++
    "folder_search_base='ou=f'\naccepted_domain='d.example'\ntls='none'\nuser_filter='(u=?)'\n" ++
    "folder_filter='(f=?)'\n"

/-- A store in which every file is that document. -/
def plainStore : Files.Store := fun _ => .ok plainDocument.toUTF8

/-- The document gives the sample callout. -/
lemma loadCallout_plainStore (path : Files.Path) : loadCallout plainStore path = .ok Callout.sample := by
  have text : Files.readText plainStore path = .ok plainDocument := by
    simp only [Files.readText, plainStore, Ldap.fromUTF8?_eq_some_iff.mpr rfl]
  have read : Config.ofText plainDocument = .ok Callout.sampleConfig := by
    have read : (Config.ofText plainDocument).toOption = some Callout.sampleConfig := by decide +kernel
    cases parsed : Config.ofText plainDocument with
    | error => rw [parsed] at read; cases read
    | ok => rw [parsed] at read; cases read; rfl
  have made : Callout.ofConfig plainStore Callout.sampleConfig = .ok Callout.sample := by rfl
  rw [loadCallout, Config.load, text]
  simp only [read]
  exact made

/-- A run on that store is one of the sample callout. -/
lemma run_plainStore {arguments : List ByteArray} {path : Files.Path} {address : String}
    {context : List String}
    (heard : said arguments none = .ok ⟨false, path, none, address :: context⟩) (link : Link) :
    run arguments none plainStore link true =
      finish true (Callout.sample.respond Ldap.service (.verify address context) link).1
        (Callout.sample.respond Ldap.service (.verify address context) link).2 := by
  have asked : Arguments.invocation? ⟨false, path, none, address :: context⟩ =
      some (.verify address context) := by rfl
  rw [run_of_ok heard, respond_of_loaded asked (loadCallout_plainStore path)]

/-- The sample entry has its address in one attribute. -/
lemma mailSpelledOnce_sampleEntry : MailSpelledOnce none plainStore (holding sampleEntry) := by
  rintro path callout - loaded
  cases loaded.symm.trans (loadCallout_plainStore path)
  intro reply mem entries found sent listed
  obtain rfl | rfl : reply = .success ∨ reply = .answer [sampleEntry] ⟨0, "", ""⟩ .outcome := by
    simpa [holding, Link.serving] using mem
  · cases found
    cases listed
  · cases found
    obtain rfl : sent = sampleEntry := by simpa using listed
    have names : sampleEntry.gathered.attributes.map Prod.fst = ["cn", "mail"] := by decide +kernel
    have only : ∀ name ∈ ["cn", "mail"], sameName name "mail" = true → name = "mail" := by decide
    intro other values other' values' mem mem' same same' _ _
    rw [only other (names ▸ List.mem_map_of_mem mem) same,
      only other' (names ▸ List.mem_map_of_mem mem') same']

/-- An entry that spells its address once, found for a recipient with fields that look like options; and a
field that is no text. -/
theorem run_context_options :
    let link := holding sampleEntry
    let options := ["--config".toUTF8, "".toUTF8, "--".toUTF8, "--help".toUTF8]
    let done := run ("jane@d.example".toUTF8 :: options) none plainStore link true
    done.exitCode = 0 ∧ done.output = "\nj.doe@d.example\n" ∧
    run ["jane@d.example".toUTF8, ⟨#[0xFF]⟩] none plainStore link true =
      finish true (.usageError "invalid UTF-8 was detected in one or more arguments") link := by
  intro link options done
  have plain : "jane@d.example".toUTF8.data[0]? ≠ some '-'.toUInt8 := by decide
  have texts : AreTexts options := by unfold AreTexts; decide
  have damaged : ¬ AreTexts [⟨#[0xFF]⟩] := by unfold AreTexts; decide
  have none_left : AreTexts [] := nofun
  have heard : said ["jane@d.example".toUTF8] none =
      .ok ⟨false, .ofString CommandLine.defaultConfig, none, ["jane@d.example"]⟩ := by rfl
  have alike : done.Alike _ (run ["jane@d.example".toUTF8] none plainStore (link.rearranged reversed) true) :=
    (run_context plain options [] none plainStore link reversed true).1 (iff_of_true texts none_left)
  obtain ⟨exitCode, received, output⟩ := alike
  rw [run_plainStore heard] at exitCode output
  refine ⟨exitCode.trans ?_, (output (.inr mailSpelledOnce_sampleEntry)).trans ?_, ?_⟩
  · decide +kernel
  · decide +kernel
  · exact (run_context plain [⟨#[0xFF]⟩] [] none plainStore link reversed true).2 damaged

/-- A field that is no text makes a difference: an address that does not split is no longer rejected. Nor is
the mailbox the same in all orders of the attributes, where two of them spell its name. -/
theorem run_damaged_context :
    (¬ ∀ (address : ByteArray) (context other : List ByteArray) (environment : Option ByteArray)
      (store : Files.Store) (link : Link) (writable : Bool),
      address.data[0]? ≠ some '-'.toUInt8 →
      (run (address :: context) environment store link writable).exitCode =
        (run (address :: other) environment store link writable).exitCode) ∧
    ¬ ∀ (address : ByteArray) (context : List ByteArray) (environment : Option ByteArray)
      (store : Files.Store) (link : Link) (arrangement : Arrangement) (writable : Bool),
      address.data[0]? ≠ some '-'.toUInt8 →
      (run (address :: context) environment store link writable).output =
        (run (address :: context) environment store (link.rearranged arrangement) writable).output := by
  constructor
  · intro claim
    have same := claim "jane".toUTF8 [] [⟨#[0xFF]⟩] none (fun _ => .error .missing) .unreachable true
      (by decide)
    exact absurd same (by decide +kernel)
  · intro claim
    have same := claim "jane@d.example".toUTF8 [] none plainStore
      (holding ⟨"cn=jane", [("mail", ["a@d.example".toUTF8]), ("MAIL", ["b@d.example".toUTF8])]⟩) reversed
      true (by decide)
    have heard : said ["jane@d.example".toUTF8] none =
        .ok ⟨false, .ofString CommandLine.defaultConfig, none, ["jane@d.example"]⟩ := by rfl
    rw [run_plainStore heard, run_plainStore heard] at same
    exact absurd same (by decide +kernel)

end RecipientCallout.Program
