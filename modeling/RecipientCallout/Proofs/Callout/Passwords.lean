import Mathlib.Data.List.TakeWhile
import RecipientCallout.Proofs.Callout.Session
import RecipientCallout.Proofs.Config.Flaws
import RecipientCallout.Proofs.Text.Separators

/-!
# Passwords

The password that a callout authenticates with: the one that its configuration gives itself, or else the first
line of a file. A line is what stands in front of a line end of either kind, or all of a text that has none
(`firstLine_eq_iff`), and nothing else is taken off it. What a run authenticates with is always the name and
the password of the callout (`bindsWith`).

Two headlines follow. `password_from_file` says that a password is read from a file just as it was written
there. `binds_authenticated` says when a callout authenticates with an empty password, which a server may take
for no authentication at all: `binds_unauthenticated` has one that does.
-/

namespace RecipientCallout.Config
open RecipientCallout.Text (firstLine takeWhile_separated)

/-! ## First lines -/

/-- The texts that begin with a line: it is all of the text, or there is a line end behind it. A line that
ends in a carriage return would lose it to a line feed. -/
inductive IsFirstLine (line : List Char) : List Char → Prop where
  | whole :
    '\n' ∉ line →
    IsFirstLine line line
  | lineFeed {rest} :
    '\n' ∉ line →
    line.getLast? ≠ some '\r' →
    IsFirstLine line (line ++ '\n' :: rest)
  | carriageReturn {rest} :
    '\n' ∉ line →
    IsFirstLine line (line ++ '\r' :: '\n' :: rest)

variable {line : List Char}

/-- A text without a line end is its first line. -/
lemma firstLine_whole (plain : '\n' ∉ line) : firstLine line = line := by
  have taken : line.takeWhile (· ≠ '\n') = line := by
    rw [List.takeWhile_eq_self_iff]
    exact fun c mem => decide_eq_true fun e => plain (e ▸ mem)
  rw [firstLine, taken, if_neg fun ended => plain ended.1]

/-- A line ends at a line feed. -/
lemma firstLine_lineFeed (plain : '\n' ∉ line) (last : line.getLast? ≠ some '\r') (rest : List Char) :
    firstLine (line ++ '\n' :: rest) = line := by
  rw [firstLine, takeWhile_separated plain, if_neg fun ended => last ended.2]

/-- A carriage return in front of it belongs to the line end. -/
lemma firstLine_carriageReturn (plain : '\n' ∉ line) (rest : List Char) :
    firstLine (line ++ '\r' :: '\n' :: rest) = line := by
  have plain' : '\n' ∉ line ++ ['\r'] := by simp [plain]
  rw [firstLine, List.append_cons, takeWhile_separated plain', if_pos ⟨by simp, by simp⟩,
    List.dropLast_concat]

/-- A text begins with its first line. -/
lemma isFirstLine_firstLine (cs : List Char) : IsFirstLine (firstLine cs) cs := by
  by_cases ended : '\n' ∈ cs
  case neg =>
    rw [firstLine_whole ended]
    exact .whole ended
  case pos =>
    obtain ⟨line, rest, rfl, plain⟩ := List.eq_append_cons_of_mem ended
    by_cases last : line.getLast? = some '\r'
    case neg =>
      rw [firstLine_lineFeed plain last]
      exact .lineFeed plain last
    case pos =>
      -- the carriage return belongs to the line end
      obtain ⟨front, rfl⟩ := List.getLast?_eq_some_iff.mp last
      have plain' : '\n' ∉ front := fun mem => plain (List.mem_append_left _ mem)
      rw [List.append_assoc, List.singleton_append, firstLine_carriageReturn plain']
      exact .carriageReturn plain'

/-- A text begins with just one line, which is its first line. -/
lemma firstLine_eq_iff {cs : List Char} : firstLine cs = line ↔ IsFirstLine line cs := by
  constructor
  · rintro rfl
    exact isFirstLine_firstLine cs
  · intro first
    cases first with
    | whole plain => exact firstLine_whole plain
    | lineFeed plain last => exact firstLine_lineFeed plain last _
    | carriageReturn plain => exact firstLine_carriageReturn plain _

variable {c : Config} {store : Files.Store}

/-- A file with a text in it gives the line that the text begins with. -/
lemma password_of_firstLine {path : Files.Path} {text : String} {line : List Char}
    (alone : c.bindPassword = none) (file : c.bindPasswordFile = some path)
    (read : Files.readText store path = .ok text) (first : IsFirstLine line text.toList) :
    c.password store = .ok (String.ofList line) := by
  rw [Callout.password_of_file store alone file, read]
  simp only [firstLine_eq_iff.mpr first]

/-! ## Empty passwords -/

/-- Whether a configuration gives an empty password: it is empty itself, or the file with it is empty or begins
with a line end. -/
inductive EmptyPassword (c : Config) (store : Files.Store) : Prop where
  | inline :
    c.bindPassword = some "" →
    EmptyPassword c store
  | file {path text} :
    c.bindPassword = none →
    c.bindPasswordFile = some path →
    Files.readText store path = .ok text →
    IsFirstLine [] text.toList →
    EmptyPassword c store

/-- The password is empty exactly if it was given so. -/
lemma password_eq_empty :
    c.password store = .ok "" ↔ c.EmptyPassword store := by
  constructor
  · intro known
    cases given : c.bindPassword with
    | some inline =>
      simp only [password, given, Except.ok.injEq] at known
      exact .inline (known ▸ given)
    | none =>
      cases file : c.bindPasswordFile with
      | none =>
        simp only [password, given, file] at known
        cases known
      | some path =>
        rw [Callout.password_of_file store given file] at known
        cases read : Files.readText store path with
        | error failure =>
          rw [read] at known
          cases known
        | ok text =>
          rw [read] at known
          have empty : firstLine text.toList = [] := by simpa using known
          exact .file given file read (firstLine_eq_iff.mp empty)
  · intro empty
    cases empty with
    | inline given => simp only [password, given]
    | file given file read first =>
      exact password_of_firstLine given file read first

end RecipientCallout.Config

namespace RecipientCallout.Callout
open RecipientCallout.Config
open RecipientCallout.Directory (Call Event Prepared Service)

variable {σ : Type} {callout : Callout} {recipient : Recipient}

/-! ## What a run authenticates with -/

/-- Whether a run opens a session: its address is looked up, and the directory can be reached. -/
def Opens (callout : Callout) (service : Service σ) (invocation : Invocation) (state : σ) : Prop :=
  callout.LooksUp invocation ∧ (service.connect callout.settings state).1 = .ok ()

/-- Whether a callout authenticates with a name and a password: it does so with these whenever it opens a
session, and never with others, whatever the directory does. -/
def BindsWith (callout : Callout) (dn password : String) : Prop :=
  ∀ ⦃σ : Type⦄ (service : Service σ) (invocation : Invocation) (state : σ) (dn' password' : String),
    .bind dn' password' ∈ callout.calls service invocation state ↔
      callout.Opens service invocation state ∧ dn' = dn ∧ password' = password

/-- Whatever sequence of calls is made, the callout authenticates in one way. -/
lemma eq_bindCall_of_sequences {calls : List Call} (mem : calls ∈ callout.sequences recipient)
    {dn password : String} (bound : .bind dn password ∈ calls) :
    Call.bind dn password = callout.bindCall := by
  simp only [sequences, List.mem_cons, List.not_mem_nil, or_false] at mem
  rcases mem with rfl | rfl | rfl | rfl <;> simp_all [connectCall, usersCall, foldersCall]

/-- Searching adds to the operations that were kept. -/
lemma prefix_search (service : Service σ) (s : σ × List Event) :
    s.2 <+: (callout.search service.observed recipient s).2.2 := by
  simp only [search, Service.observed_search]
  generalize callout.userTemplate.fill (callout.proxyAddress recipient) = users
  generalize callout.folderTemplate.fill (callout.proxyAddress recipient) = folders
  rcases service.search callout.userSearchBase users [callout.mailAttribute] s.1 with ⟨_ | found, t⟩
  · exact List.prefix_append ..
  · cases mailbox : callout.mailbox? recipient found with
    | some mailbox =>
      simp only [mailbox]
      exact List.prefix_append ..
    | none =>
      simp only [mailbox, List.append_assoc]
      rcases service.search callout.folderSearchBase folders [callout.mailAttribute] t with ⟨_ | _, t⟩
      · exact List.prefix_append ..
      · exact List.prefix_append ..

/-- A session begins with the authentication. -/
lemma prefix_find (callout : Callout) (recipient : Recipient) (service : Service σ) (s : σ × List Event) :
    ∃ result, s.2 ++ [.plain callout.bindCall result] <+:
      (callout.find service.observed recipient s).2.2 := by
  simp only [find, Service.observed_bind]
  rcases service.bind callout.bindDn callout.bindPassword s.1 with ⟨_ | _, t⟩
  · exact ⟨_, List.prefix_refl _⟩
  · exact ⟨_, prefix_search service (t, s.2 ++ [.plain callout.bindCall (.ok ())])⟩

/-- As soon as a session is opened, the callout authenticates. -/
lemma bindCall_of_opens {service : Service σ} {invocation : Invocation} {state : σ}
    (opens : callout.Opens service invocation state) :
    (callout.calls service invocation state)[1]? = some callout.bindCall := by
  obtain ⟨⟨address, context, recipient, rfl, reached⟩, connected⟩ := opens
  have opened : service.observed.connect callout.settings (state, []) =
      (.ok (), (service.connect callout.settings state).2, [.plain callout.connectCall (.ok ())]) := by
    rw [Service.observed_connect, connected]
    rfl
  obtain ⟨result, later, e⟩ := prefix_find callout recipient service
    ((service.connect callout.settings state).2, [.plain callout.connectCall (.ok ())])
  rw [calls, events, run_of_connect reached opened, Service.observed_unbind, ← e]
  rfl

/-- Unless a session is opened, the callout does not authenticate. -/
lemma opens_of_bind_mem {service : Service σ} {invocation : Invocation} {state : σ} {dn password : String}
    (bound : .bind dn password ∈ callout.calls service invocation state) :
    callout.Opens service invocation state := by
  by_cases looksUp : callout.LooksUp invocation
  case neg =>
    rw [calls_of_not_looksUp looksUp] at bound
    cases bound
  case pos =>
    refine ⟨looksUp, ?_⟩
    cases connected : (service.connect callout.settings state).1 with
    | ok opened => rfl
    | error failure =>
      rw [calls_of_unconnected looksUp connected] at bound
      simp [connectCall] at bound

/-- A callout authenticates with its own name and password. -/
lemma bindsWith (callout : Callout) : callout.BindsWith callout.bindDn callout.bindPassword := by
  intro σ service invocation state dn password
  constructor
  · intro bound
    obtain ⟨⟨address, context, recipient, rfl, reached⟩, connected⟩ := opens_of_bind_mem bound
    have course := run_course reached context service state
    cases eq_bindCall_of_sequences course.calls_mem bound
    exact ⟨⟨⟨address, context, recipient, rfl, reached⟩, connected⟩, rfl, rfl⟩
  · rintro ⟨opens, rfl, rfl⟩
    exact List.mem_of_getElem? (bindCall_of_opens opens)

/-! ## Passwords from files -/

/-- **Password files.** A configuration names a file for its password. The file has the password on its first
line, with a line end of either kind and any text behind it or with nothing: then the password is read just as
it is written, and the callout authenticates with it. A file that cannot be read, or that is no text in any
place, is the fault that the configuration is refused for. -/
theorem password_from_file (store : Files.Store) {c : Config} (alone : c.bindPassword = none)
    {path : Files.Path} (file : c.bindPasswordFile = some path) :
    (∀ p rest : String, '\n' ∉ p.toList → p.toList.getLast? ≠ some '\r' →
      ∀ contents ∈ [p, p ++ "\n" ++ rest, p ++ "\r\n" ++ rest], store path = .ok contents.toUTF8 →
        c.password store = .ok p ∧
        (c.IsValid → ∃ callout, ofConfig store c = .ok callout) ∧
        ∀ callout, ofConfig store c = .ok callout → callout.BindsWith c.bindDn p) ∧
    (∀ failure, c.password store = .error (.passwordFile path failure) ↔
      Files.readText store path = .error failure) ∧
    (¬ Files.HasText store path → ∃ failure, c.password store = .error (.passwordFile path failure) ∧
      (c.IsValid → ofConfig store c = .error (.passwordFile path failure))) := by
  have password := password_of_file store alone file
  refine ⟨?_, ?_, ?_⟩
  · intro p rest plain last contents mem written
    have first : IsFirstLine p.toList contents.toList := by
      simp only [List.mem_cons, List.not_mem_nil, or_false] at mem
      rcases mem with rfl | rfl | rfl
      · exact .whole plain
      · have ended : IsFirstLine p.toList (p.toList ++ '\n' :: rest.toList) := .lineFeed plain last
        simpa using ended
      · have ended : IsFirstLine p.toList (p.toList ++ '\r' :: '\n' :: rest.toList) := .carriageReturn plain
        simpa using ended
    have known : c.password store = .ok p := by
      rw [password_of_firstLine alone file (Files.readText_of_text written) first, String.ofList_toList]
    refine ⟨known, fun valid => ofConfig_of_password valid known, ?_⟩
    intro callout made
    obtain ⟨-, known', -, -, e⟩ := ofConfig_eq_ok made
    cases known.symm.trans known'
    have binds := callout.bindsWith
    rw [e] at binds ⊢
    exact binds
  · intro failure
    rw [password]
    cases Files.readText store path with
    | ok text => simp
    | error other => simp
  · intro unreadable
    rw [Files.hasText_iff] at unreadable
    cases read : Files.readText store path with
    | ok text => exact absurd ⟨text, read⟩ unreadable
    | error failure =>
      rw [read] at password
      exact ⟨failure, password, fun valid => ofConfig_of_passwordless valid password⟩

/-- The sample configuration with a password file is valid. -/
lemma isValid_filedConfig : filedConfig.IsValid := validate_eq_ok.mp (by rfl)

/-- A password with a space at both ends and a carriage return within, and a file that is no text behind its
first line. -/
theorem password_from_file_spaced :
    let p := " pä\rs "
    let store : Files.Store := fun _ => .ok (p ++ "\r\n" ++ "x").toUTF8
    let damaged : Files.Store := fun _ => .ok ⟨#[0x73, 0x0A, 0xFF]⟩
    ('\n' ∉ p.toList ∧ p.toList.getLast? ≠ some '\r') ∧
    filedConfig.password store = .ok p ∧
    (∃ callout, ofConfig store filedConfig = .ok callout ∧ callout.BindsWith "cn=b" p) ∧
    ¬ Files.HasText damaged (.ofString "secret") ∧
    filedConfig.password damaged = .error (.passwordFile (.ofString "secret") .notText) := by
  intro p store damaged
  have plain : '\n' ∉ p.toList := by decide
  have last : p.toList.getLast? ≠ some '\r' := by decide
  have unread : Files.readText damaged (.ofString "secret") = .error .notText := by rfl
  have told (store : Files.Store) := password_from_file store (c := filedConfig) rfl rfl
  obtain ⟨known, made, binds⟩ := (told store).1 p "x" plain last (p ++ "\r\n" ++ "x") (by simp) rfl
  obtain ⟨callout, made⟩ := made isValid_filedConfig
  refine ⟨⟨plain, last⟩, known, ⟨callout, made, binds callout made⟩, ?_, ?_⟩
  · rw [Files.hasText_iff, unread]
    nofun
  · exact ((told damaged).2.1 .notText).mpr unread

/-! ## Authentication -/

/-- **Authentication.** Whatever is asked for and whatever the directory does, a callout of a configuration
authenticates under the name in it, which is not blank. It does so with an empty password exactly if a session
is opened and the configuration gives an empty password. -/
theorem binds_authenticated {store : Files.Store} {config : Config} (made : ofConfig store config = .ok callout)
    (service : Service σ) (invocation : Invocation) (state : σ) :
    (∀ dn password, .bind dn password ∈ callout.calls service invocation state →
      dn = config.bindDn ∧ IsFilled dn ∧ (password = "" → config.EmptyPassword store)) ∧
    (.bind config.bindDn "" ∈ callout.calls service invocation state ↔
      callout.Opens service invocation state ∧ config.EmptyPassword store) := by
  obtain ⟨validated, known, -, -, e⟩ := ofConfig_eq_ok made
  have name : callout.bindDn = config.bindDn := by rw [e]
  have empty : callout.bindPassword = "" ↔ config.EmptyPassword store := by
    rw [← password_eq_empty, known, Except.ok.injEq]
  have binds := callout.bindsWith service invocation state
  rw [name] at binds
  constructor
  · intro dn password bound
    obtain ⟨-, rfl, rfl⟩ := (binds dn password).mp bound
    exact ⟨rfl, (validate_eq_ok.mp validated).bindDn, empty.mp⟩
  · rw [binds, ← empty, @eq_comm _ "" callout.bindPassword]
    simp only [true_and]

/-- The callout of the configuration with its password in a file. -/
def filedCallout (password : String) : Callout where
  domain := ⟨"d.example", .exact⟩
  settings := filedConfig.directorySettings
  bindDn := "cn=b"
  bindPassword := password
  userSearchBase := "u"
  folderSearchBase := "f"
  userTemplate := ⟨Filter.Template.defaultUsers.toList, by decide⟩
  folderTemplate := ⟨Filter.Template.defaultFolders.toList, by decide⟩
  proxyPrefix := Config.defaultProxyPrefix
  mailAttribute := Config.defaultMailAttribute
  acceptMode := default

/-- Its callout has the password of the file. -/
lemma ofConfig_filed {store : Files.Store} {password : String}
    (known : filedConfig.password store = .ok password) :
    ofConfig store filedConfig = .ok (filedCallout password) := by
  rw [ofConfig, validate_eq_ok.mpr isValid_filedConfig, known]
  rfl

/-- That callout authenticates. -/
lemma opens_filed (password : String) :
    (filedCallout password).Opens Prepared.empty.service (.verify "jane@d.example" []) 0 := by
  have reached : AcceptedDomain.recipient? ⟨"d.example", .exact⟩ "jane@d.example" =
      some ⟨"jane@d.example", "jane", "d.example"⟩ := by decide +kernel
  exact ⟨⟨_, [], _, rfl, reached⟩, rfl⟩

/-- A file with a password on its first line, and one that begins with a line end. -/
theorem binds_authenticated_filed :
    let store (text : String) : Files.Store := fun _ => .ok text.toUTF8
    let calls (password : String) :=
      (filedCallout password).calls Prepared.empty.service (.verify "jane@d.example" []) 0
    ofConfig (store "s\nx") filedConfig = .ok (filedCallout "s") ∧
    .bind "cn=b" "s" ∈ calls "s" ∧
    .bind "cn=b" "" ∉ calls "s" ∧
    ofConfig (store "\r\ns") filedConfig = .ok (filedCallout "") ∧
    .bind "cn=b" "" ∈ calls "" := by
  intro store calls
  have known : filedConfig.password (store "s\nx") = .ok "s" := by rfl
  have known' : filedConfig.password (store "\r\ns") = .ok "" := by rfl
  have filled : ¬ filedConfig.EmptyPassword (store "s\nx") := by
    rw [← password_eq_empty, known, Except.ok.injEq]
    decide
  obtain ⟨-, unbound⟩ :=
    binds_authenticated (ofConfig_filed known) Prepared.empty.service (.verify "jane@d.example" []) 0
  obtain ⟨-, bound⟩ :=
    binds_authenticated (ofConfig_filed known') Prepared.empty.service (.verify "jane@d.example" []) 0
  have binds := (filedCallout "s").bindsWith Prepared.empty.service (.verify "jane@d.example" []) 0
  exact ⟨ofConfig_filed known, (binds "cn=b" "s").mpr ⟨opens_filed "s", rfl, rfl⟩,
    fun given => filled (unbound.mp given).2, ofConfig_filed known',
    bound.mpr ⟨opens_filed "", password_eq_empty.mp known'⟩⟩

/-- A document that sets an empty password. -/
def secretlessDocument : String :=
  "host='h'\nbind_dn='cn=b'\nbind_password=''\nuser_search_base='u'\nfolder_search_base='f'\n" ++
    "accepted_domain='d.example'\n"

/-- The configuration of that document. -/
def secretlessConfig : Config := { filedConfig with bindPassword := some "", bindPasswordFile := none }

/-- The sample document without a password is accepted. -/
lemma ofText_secretless : Config.ofText secretlessDocument = .ok secretlessConfig := by
  have outcome : (Config.ofText secretlessDocument).toOption = some secretlessConfig := by decide +kernel
  cases read : Config.ofText secretlessDocument with
  | error fault =>
    rw [read] at outcome
    cases outcome
  | ok config =>
    rw [read] at outcome
    exact congrArg _ (Option.some.inj outcome)

/-- A document with an empty password gives a callout, which authenticates with it. -/
theorem binds_unauthenticated :
    ¬ ∀ (text : String) (store : Files.Store) (config : Config) (callout : Callout) (directory : Prepared)
      (invocation : Invocation) (dn password : String),
      Config.ofText text = .ok config → ofConfig store config = .ok callout →
      .bind dn password ∈ callout.calls directory.service invocation 0 → dn ≠ "" ∧ password ≠ "" := by
  intro claim
  have made : ofConfig (fun _ => .error .missing) secretlessConfig = .ok (filedCallout "") := by rfl
  have binds := (filedCallout "").bindsWith Prepared.empty.service (.verify "jane@d.example" []) 0
  have bound := (binds "cn=b" "").mpr ⟨opens_filed "", rfl, rfl⟩
  exact (claim _ _ _ _ _ _ _ _ ofText_secretless made bound).2 rfl

end RecipientCallout.Callout
