import RecipientCallout.Proofs.Config.Written
import RecipientCallout.Proofs.Program.Endings
import RecipientCallout.Proofs.Secrets.Configs

/-!
# What a run shows of passwords

A run whose configuration cannot be loaded says why, and if its document has a fault, shows the line where
the fault is. The headline `run_unloadable` compares two such runs on files that are the same but for the
passwords in configurations: they agree in everything but the picture of that line.
-/

namespace RecipientCallout
open RecipientCallout.Text
open RecipientCallout.Response (singleLine singleLine_append)

/-- A number has no line ends to flatten. -/
lemma map_flatten_toString (n : Nat) : (toString n).toList.map Response.flatten = (toString n).toList := by
  refine (List.map_congr_left fun c mem => ?_).trans (List.map_id _)
  rw [Response.flatten, if_neg, id]
  rintro (rfl | rfl)
  · exact (isDecimal_toString n).notMem rfl mem
  · exact (isDecimal_toString n).notMem rfl mem

namespace Toml.Fault

/-! ## Pictures -/

/-- What is shown of a document where it has a fault: the line, and which part of it is marked. -/
structure Picture where
  line : String
  column : Nat
  carets : Nat
  deriving DecidableEq

/-- The picture of a fault, as it is printed on one line. -/
def picture (text : String) (fault : Fault) : Picture :=
  let total := octets text.toList
  let start := total - fault.span.startLeft
  let stop := total - fault.span.stopLeft
  let (_, column, content) := locate text.toList start
  ⟨singleLine (.ofList content), column, max 1 (min (stop - start) (octets content - column))⟩

/-- A picture with what stands in front of it, between its parts and behind it. -/
def Picture.framed (before between below after : List Char) (picture : Picture) : List Char :=
  before ++ ((toString (picture.column + 1)).toList ++ ' ' :: (between ++ (picture.line.toList ++
    (below ++ (List.replicate (picture.column + 1) ' ' ++ (List.replicate picture.carets '^' ++ after))))))

/-- A fault on one line is its picture, in a frame that depends on the number of the line and on the
complaint alone. -/
lemma toList_render (text : String) (fault : Fault) :
    let number := toString (lineOf text.toList fault.span.startLeft + 1)
    let gutter := String.ofList (List.replicate (number.length + 1) ' ')
    (singleLine (render text fault)).toList =
      (fault.picture text).framed (singleLine ("TOML parse error at line " ++ number ++ ", column ")).toList
        (singleLine (gutter ++ "|\n" ++ number ++ " | ")).toList (singleLine ("\n" ++ gutter ++ "|")).toList
        (singleLine ("\n" ++ fault.complaint.message ++ "\n")).toList := by
  intro number gutter
  have repeated (c : Char) (n : Nat) :
      (List.replicate n c).map Response.flatten = List.replicate n (Response.flatten c) := List.map_replicate
  have blank : Response.flatten ' ' = ' ' := rfl
  have caret : Response.flatten '^' = '^' := rfl
  have lineFeed : "\n".toList.map Response.flatten = [' '] := by decide
  dsimp only [render, picture, lineOf, Picture.framed, number, gutter]
  simp only [singleLine, String.toList_ofList, String.toList_append, List.map_append, map_flatten_toString,
    repeated, blank, caret, lineFeed, List.append_assoc, List.cons_append, List.nil_append]

/-- A frame shows all of its picture. -/
lemma Picture.framed_inj {before between below after : List Char} {picture picture' : Picture}
    (same : picture.framed before between below after = picture'.framed before between below after) :
    picture = picture' := by
  obtain ⟨line, column, carets⟩ := picture
  obtain ⟨line', column', carets'⟩ := picture'
  -- the column ends at the first blank
  have column_decimal := isDecimal_toString (column + 1)
  have column_decimal' := isDecimal_toString (column' + 1)
  obtain ⟨digits, rest⟩ := append_cons_inj (column_decimal.notMem rfl) (column_decimal'.notMem rfl)
    (List.append_cancel_left same)
  obtain rfl : column = column' := Nat.succ.inj (column_decimal.unique (digits ▸ column_decimal'))
  have regroup (line : String) (carets : Nat) :
      line.toList ++ (below ++ (List.replicate (column + 1) ' ' ++ (List.replicate carets '^' ++ after))) =
        line.toList ++ (below ++ List.replicate column ' ') ++ ' ' :: List.replicate carets '^' ++ after := by
    rw [List.replicate_succ']
    simp only [List.append_assoc, List.cons_append, List.nil_append]
  have lines := List.append_cancel_left rest
  dsimp only at lines
  rw [regroup, regroup] at lines
  -- the carets begin behind the last blank
  have notMem (n : Nat) : ' ' ∉ List.replicate n '^' := by
    intro mem
    exact absurd (List.eq_of_mem_replicate mem) (by decide)
  obtain ⟨others, marks⟩ := append_cons_inj_last (notMem carets) (notMem carets')
    (List.append_cancel_right lines)
  have line := List.append_cancel_right others
  obtain rfl : carets = carets' := by simpa using congrArg List.length marks
  rw [String.toList_inj.mp line]

end Toml.Fault

namespace Config

/-- The picture that goes with a fault; only faults of documents have one. -/
def Fault.picture? : Fault → Option Toml.Fault.Picture
  | .malformed text fault => some (fault.picture text)
  | _ => none

end Config

namespace Program
open RecipientCallout.Config (SameFiles)
variable {fault fault' : Config.Fault} {store store' : Files.Store} {path : Files.Path} {link : Ldap.Link}
  {writable : Bool} {arguments : List ByteArray} {environment : Option ByteArray} {context : List String}
  {line : CommandLine.Arguments} {address : String} {recipient : Recipient}

/-! ## Messages -/

/-- Three texts with a separator between them. -/
lemma intercalate_three (sep first second third : String) :
    sep.intercalate [first, second, third] = first ++ sep ++ second ++ sep ++ third := rfl

/-- A fault of a document is shown twice. -/
lemma loadMessage_malformed (path : Files.Path) (text : String) (fault : Toml.Fault) :
    loadMessage path (.malformed text fault) =
      "config " ++ path.lossy ++ ": " ++ ("invalid config syntax: " ++ fault.render text) ++ ": " ++
        fault.render text :=
  intercalate_three ": " ("config " ++ path.lossy) ("invalid config syntax: " ++ fault.render text)
    (fault.render text)

/-- A malformed file is told by its name and twice by its fault. -/
lemma toList_loadMessage (path : Files.Path) (text : String) (fault : Toml.Fault) :
    (singleLine (loadMessage path (.malformed text fault))).toList =
      (singleLine ("config " ++ path.lossy ++ ": " ++ "invalid config syntax: ")).toList ++
        ((singleLine (fault.render text)).toList ++
          ((singleLine ": ").toList ++ (singleLine (fault.render text)).toList)) := by
  simp only [loadMessage_malformed, singleLine_append, String.toList_append, List.append_assoc]

/-- Of faults that differ in passwords alone, only the pictures can be told apart. -/
lemma loadMessage_eq_iff (alike : Config.Fault.Alike fault fault') :
    singleLine (loadMessage path fault) = singleLine (loadMessage path fault') ↔
      fault.picture? = fault'.picture? := by
  cases alike with
  | same => exact iff_of_true rfl rfl
  | @malformed d fault fault' same =>
    have line : Toml.lineOf d.text fault.span.startLeft = Toml.lineOf d.text' fault'.span.startLeft :=
      congrArg (fun fault => fault.span.startLeft) same
    have complaint : fault.complaint = fault'.complaint := congrArg (fun fault => fault.complaint) same
    have left := Toml.Fault.toList_render (String.ofList d.text) fault
    have right := Toml.Fault.toList_render (String.ofList d.text') fault'
    rw [String.toList_ofList] at left right
    rw [line, complaint] at left
    rw [Config.Fault.picture?, Config.Fault.picture?, Option.some_inj]
    constructor
    · intro messages
      have twice := congrArg String.toList messages
      rw [toList_loadMessage, toList_loadMessage] at twice
      have behind := List.append_cancel_left twice
      have lengths := congrArg List.length behind
      simp only [List.length_append] at lengths
      have once := (List.append_inj behind (by omega)).1
      exact Toml.Fault.Picture.framed_inj (left.symm.trans (once.trans right))
    · intro pictures
      rw [pictures] at left
      rw [← String.toList_inj, toList_loadMessage, toList_loadMessage, left, right]

/-- Usage errors look the same if their messages do on one line. -/
lemma usageError_render_eq_iff {message message' : String} :
    (Response.usageError message).render = (Response.usageError message').render ↔
      singleLine message = singleLine message' := by
  have lines (message : String) :
      (Response.usageError message).lines = [singleLine tokenUsage, singleLine message] := rfl
  have printed (message : String) :
      Response.Prints (Response.usageError message).render [singleLine tokenUsage, singleLine message] :=
    Response.prints_ofLines exitTemporary [tokenUsage, message]
  constructor
  · intro same
    have pieces := printed message
    rw [same] at pieces
    have both := pieces.symm.trans (printed message')
    generalize singleLine tokenUsage = first at both
    simpa [String.toList_inj] using both
  · intro same
    simp only [Response.render, lines, same]

/-! ## Runs -/

/-- The end of a run that cannot load its configuration. -/
def failed (path : Files.Path) (fault : Config.Fault) (link : Ldap.Link) (writable : Bool) : Outcome :=
  ⟨exitTemporary, if writable then (Response.usageError (loadMessage path fault)).render else "", link⟩

/-- A run without a usable configuration ends in its fault. -/
lemma run_of_unloadable (heard : said arguments environment = .ok line)
    (fields : line.fields = address :: context) (parsed : Recipient.parse address = .ok recipient)
    (unloadable : loadCallout store line.config = .error fault) (link : Ldap.Link) (writable : Bool) :
    run arguments environment store link writable = failed line.config fault link writable := by
  rw [run_of_ok heard, respond_unloadable fields parsed unloadable]
  cases writable <;> rfl

/-- Faults that are alike look the same, unless nothing is written, exactly if their pictures do. -/
lemma failed_eq_iff (alike : Config.Fault.Alike fault fault') :
    (failed path fault' link writable).output = (failed path fault link writable).output ↔
      writable = false ∨ fault'.picture? = fault.picture? := by
  cases writable with
  | false => simp only [failed, Bool.false_eq_true, if_false, true_or]
  | true =>
    simp only [failed, if_true, Bool.true_eq_false, false_or]
    rw [eq_comm, usageError_render_eq_iff, loadMessage_eq_iff alike, eq_comm]

/-- On files that differ in passwords alone, a configuration can be loaded in both stores or in neither. -/
lemma loadCallout_alike (files : SameFiles store store') (path : Files.Path) :
    Agree Config.Fault.Alike (fun _ _ => True) (loadCallout store path) (loadCallout store' path) :=
  (files.load path).bind fun _ _ same => files.ofConfig same

/-- A store with a configuration that sets its password on the first line. -/
def passwordStore (password others : String) : Files.Store := fun path =>
  if path = .ofString "c" then .ok ("bind_password = \"" ++ password ++ "\"\n" ++ others).toUTF8
  else .error .missing

/-- A run with this configuration. -/
def passwordRun (password others : String) : Outcome :=
  run ["--config".toUTF8, "c".toUTF8, "jane@domain.co.uk".toUTF8] none (passwordStore password others)
    .unreachable true

/-- Stores that differ in a plain password are copies of each other. -/
lemma passwordStore_alike (password password' : String)
    (plain : password ≠ "" ∧ password.toList.all Toml.IsPlain)
    (plain' : password' ≠ "" ∧ password'.toList.all Toml.IsPlain) (others : String) :
    SameFiles (passwordStore password others) (passwordStore password' others) := by
  intro path
  unfold passwordStore
  split
  case isFalse => exact .inl rfl
  case isTrue =>
    refine .inr ⟨_, _, rfl, rfl, ?_⟩
    have whole (password : String) : ("bind_password = \"" ++ password ++ "\"\n" ++ others).toList =
        "bind_password = ".toList ++ ('"' :: password.toList ++ '"' :: ('\n' :: others.toList)) := by
      have first : "bind_password = \"" = "bind_password = " ++ "\"" := by rfl
      have last : "\"\n".toList = ['"', '\n'] := by rfl
      simp [first, last]
    rw [whole, whole]
    have key : Toml.trimmed "bind_password ".toList = Config.Field.bindPassword.key.toList := by decide
    have named : Toml.KeyText (Toml.trimmed "bind_password ".toList) Config.Field.bindPassword.key := by
      rw [key]
      exact .bare (Config.Field.isBare_key _)
    refine .append _ ?_
    exact .secret named (.of_plain (by simpa using plain.2)) (.of_plain (by simpa using plain'.2))
      (by simpa using plain.1) (by simpa using plain'.1) (.refl _ _ _)

/-- The picture that goes with the fault of a configuration that cannot be loaded. -/
def pictured (store : Files.Store) (path : Files.Path) : Option Toml.Fault.Picture :=
  match loadCallout store path with
  | .error fault => fault.picture?
  | .ok _ => none

/-- The picture that a store leads to is that of its fault. -/
lemma picture?_of_pictured {picture : Option Toml.Fault.Picture} (shown : pictured store path = picture)
    (unloadable : loadCallout store path = .error fault) : fault.picture? = picture := by
  rw [← shown, pictured, unloadable]

/-- Where there is a picture, there is a fault. -/
lemma exists_of_pictured {picture : Toml.Fault.Picture} (shown : pictured store path = some picture) :
    ∃ fault, loadCallout store path = .error fault ∧ fault.picture? = some picture := by
  cases loaded : loadCallout store path with
  | error fault => exact ⟨fault, rfl, picture?_of_pictured shown loaded⟩
  | ok =>
    rw [pictured, loaded] at shown
    cases shown

/-- What the sample arguments say. -/
lemma said_jane : said ["--config".toUTF8, "c".toUTF8, "jane@domain.co.uk".toUTF8] none =
    .ok ⟨false, .ofString "c", none, ["jane@domain.co.uk"]⟩ := by
  rfl

/-- The address among the sample arguments splits. -/
lemma parse_jane :
    Recipient.parse "jane@domain.co.uk" = .ok ⟨"jane@domain.co.uk", "jane", "domain.co.uk"⟩ := by
  rfl

/-- **Secrets.** If a run cannot load its configuration, then neither can a run on files that differ in
passwords alone; it ends with the same exit code and the same requests, namely none, and with the same output
unless the document has a fault and the pictures of the line with the fault differ. -/
theorem run_unloadable (files : SameFiles store store') (heard : said arguments environment = .ok line)
    (fields : line.fields = address :: context) (parsed : Recipient.parse address = .ok recipient)
    (unloadable : loadCallout store line.config = .error fault) (link : Ldap.Link) (writable : Bool) :
    ∃ fault', loadCallout store' line.config = .error fault' ∧
      let outcome := run arguments environment store link writable
      let outcome' := run arguments environment store' link writable
      outcome'.exitCode = outcome.exitCode ∧ outcome.link = link ∧ outcome'.link = link ∧
        (outcome'.output = outcome.output ↔ writable = false ∨ fault'.picture? = fault.picture?) := by
  have loaded := loadCallout_alike files line.config
  rw [unloadable] at loaded
  generalize unloadable' : loadCallout store' line.config = result at loaded
  cases loaded with
  | @error _ fault' alike =>
    have outcome := run_of_unloadable heard fields parsed unloadable link writable
    have outcome' := run_of_unloadable heard fields parsed unloadable' link writable
    refine ⟨fault', rfl, ?_⟩
    rw [outcome, outcome']
    exact ⟨rfl, rfl, rfl, failed_eq_iff alike⟩

/-- A fault on the line behind that of the password: nothing of the password is shown. -/
theorem run_unloadable_behind :
    (passwordRun "hunter2" "host = 1\n").exitCode = (passwordRun "s3cret" "host = 1\n").exitCode ∧
      (passwordRun "hunter2" "host = 1\n").output = (passwordRun "s3cret" "host = 1\n").output := by
  have files := passwordStore_alike "s3cret" "hunter2" (by decide) (by decide) "host = 1\n"
  have shown : ∀ password ∈ ["s3cret", "hunter2"],
      pictured (passwordStore password "host = 1\n") (.ofString "c") = some ⟨"host = 1", 7, 1⟩ := by
    decide +kernel
  obtain ⟨fault, unloadable, picture⟩ := exists_of_pictured (shown "s3cret" (by decide))
  obtain ⟨fault', unloadable', codes, -, -, outputs⟩ :=
    run_unloadable files said_jane rfl parse_jane unloadable .unreachable true
  have picture' := picture?_of_pictured (shown "hunter2" (by decide)) unloadable'
  exact ⟨codes, outputs.mpr (.inr (picture'.trans picture.symm))⟩

/-- A fault on the line of the password: the password is shown. -/
theorem run_unloadable_shown :
    ¬ ∀ (store store' : Files.Store) (arguments : List ByteArray) (environment : Option ByteArray)
      (line : CommandLine.Arguments) (address : String) (context : List String) (recipient : Recipient)
      (fault : Config.Fault) (link : Ldap.Link) (writable : Bool),
      SameFiles store store' → said arguments environment = .ok line → line.fields = address :: context →
      Recipient.parse address = .ok recipient → loadCallout store line.config = .error fault →
      (run arguments environment store' link writable).output =
          (run arguments environment store link writable).output ∧
        (run arguments environment store' link writable).exitCode =
          (run arguments environment store link writable).exitCode := by
  intro claim
  have files := passwordStore_alike "s3cret" "hunter2" (by decide) (by decide) "host = \"h\"\n"
  have shown : pictured (passwordStore "s3cret" "host = \"h\"\n") (.ofString "c") =
      some ⟨"bind_password = \"s3cret\"", 0, 24⟩ := by decide +kernel
  have shown' : pictured (passwordStore "hunter2" "host = \"h\"\n") (.ofString "c") =
      some ⟨"bind_password = \"hunter2\"", 0, 25⟩ := by decide +kernel
  obtain ⟨fault, unloadable, picture⟩ := exists_of_pictured shown
  obtain ⟨fault', unloadable', picture'⟩ := exists_of_pictured shown'
  have loaded := loadCallout_alike files (.ofString "c")
  rw [unloadable, unloadable'] at loaded
  cases loaded with
  | error alike =>
    obtain ⟨same, -⟩ := claim _ _ _ _ _ _ _ _ _ .unreachable true files said_jane rfl parse_jane unloadable
    rw [run_of_unloadable said_jane rfl parse_jane unloadable .unreachable true,
      run_of_unloadable said_jane rfl parse_jane unloadable' .unreachable true, failed_eq_iff alike, picture,
      picture'] at same
    exact absurd same (by decide)

end Program
end RecipientCallout
