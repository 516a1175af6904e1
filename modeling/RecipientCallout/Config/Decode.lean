import RecipientCallout.Config.Validate
import RecipientCallout.Toml.Document

/-!
# Reading configurations

A configuration document has one entry for each field that it sets. Entries are checked in the order of
the document; fields without a default that are missing are complained of after that.
-/

namespace RecipientCallout.Config
open RecipientCallout.Text
open RecipientCallout.Toml (Node Key Span Complaint Found)

/-- What a node is, where another kind of value is wanted. -/
def found : Node → Found
  | .scalar _ (.text value) => .text value
  | .scalar _ (.integer value) => .integer value
  | .scalar _ (.float value) => .float value
  | .scalar _ (.boolean value) => .boolean value
  | .scalar _ .datetime => .mapping
  | .array _ _ => .sequence
  | .table _ _ _ => .mapping
  | .tables _ => .sequence

/-- The text of a node. -/
def textOf (wanted : String) : Node → Except Complaint String
  | .scalar _ (.text value) => .ok value
  | node => .error (.invalidType (found node) wanted)

/-- The truth value of a node. -/
def booleanOf : Node → Except Complaint Bool
  | .scalar _ (.boolean value) => .ok value
  | node => .error (.invalidType (found node) "a boolean")

/-- The number of a node, if it is not negative and at most `limit`. -/
def naturalOf (limit : Nat) (wanted : String) : Node → Except Complaint Nat
  | .scalar _ (.integer value) =>
    if 0 ≤ value ∧ value ≤ limit then .ok value.toNat else .error (.invalidInteger value wanted)
  | node => .error (.invalidType (found node) wanted)

/-- The value that a name stands for among choices. -/
def choose {α : Type} (choices : List (String × α)) (name : String) : Except Complaint α :=
  match choices.find? (·.1 = name) with
  | some (_, value) => .ok value
  | none => .error (.unknownVariant name (choices.map (·.1)))

/-- Accepts what may stand behind the name of a choice in a table: nothing. -/
def nothing : Node → Except Complaint Unit
  | .table _ _ entries => if entries.isEmpty then .ok () else .error .notEmptyTable
  | .array _ items => if items.isEmpty then .ok () else .error .notEmptyTable
  | .tables items => if items.isEmpty then .ok () else .error .notEmptyArray
  | node => .error (.notTable node.kind)

/-- Blames a stretch of the document for a complaint. -/
def blame {α : Type} (span : Span) : Except Complaint α → Except Toml.Fault α
  | .ok value => .ok value
  | .error complaint => .error ⟨span, complaint⟩

/-- The choice of a node: its name as text, or as the only key of a table with nothing behind it. -/
def choiceOf {α : Type} (choices : List (String × α)) (span : Span) (node : Node) :
    Except Toml.Fault α :=
  match node with
  | .scalar _ (.text name) => blame span (choose choices name)
  | .table _ _ [] => .error ⟨span, .notOneElement false⟩
  | .table _ _ [(key, content)] => do
    let value ← blame key.span (choose choices key.name)
    blame (content.span?.getD span) (nothing content)
    pure value
  | .table _ _ _ => .error ⟨span, .notOneElement true⟩
  | _ => .error ⟨span, .notChoice⟩

/-- The names of the ways to protect the connection. -/
def transports : List (String × Directory.Transport) :=
  [("ldaps", .ldaps), ("starttls", .startTls), ("none", .plain)]

/-- The names of the ways to compare domains. -/
def comparisons : List (String × Domain.Comparison) :=
  [("exact", .exact), ("case-insensitive", .caseInsensitive)]

/-- The names of the ways to accept. -/
def acceptModes : List (String × AcceptMode) := [("local", .here), ("remote", .elsewhere)]

/-- A configuration while its document is read. -/
structure Draft where
  host : Option String := none
  port : Option UInt16 := none
  bindDn : Option String := none
  bindPassword : Option String := none
  bindPasswordFile : Option RawText := none
  userSearchBase : Option String := none
  folderSearchBase : Option String := none
  acceptedDomain : Option String := none
  networkTimeoutSeconds : Option Nat := none
  transport : Option Directory.Transport := none
  allowInvalidCerts : Option Bool := none
  domainMatch : Option Domain.Comparison := none
  userFilter : Option String := none
  folderFilter : Option String := none
  proxyPrefix : Option String := none
  mailAttribute : Option String := none
  acceptMode : Option AcceptMode := none

namespace Draft

/-- Sets a field to the value of a node, for which `span` is blamed. -/
def set (d : Draft) (field : Field) (span : Span) (node : Node) : Except Toml.Fault Draft :=
  let text := blame span (textOf "a string" node)
  match field with
  | .host => text.map fun v => { d with host := some v }
  | .port => (blame span (naturalOf 65535 "u16" node)).map fun v => { d with port := some (.ofNat v) }
  | .bindDn => text.map fun v => { d with bindDn := some v }
  | .bindPassword => text.map fun v => { d with bindPassword := some v }
  | .bindPasswordFile =>
    (blame span (textOf "path string" node)).map fun v =>
      { d with bindPasswordFile := some (RawText.ofString v) }
  | .userSearchBase => text.map fun v => { d with userSearchBase := some v }
  | .folderSearchBase => text.map fun v => { d with folderSearchBase := some v }
  | .acceptedDomain => text.map fun v => { d with acceptedDomain := some v }
  | .networkTimeoutSeconds =>
    (blame span (naturalOf (Nat.pow 2 64 - 1) "u64" node)).map fun v =>
      { d with networkTimeoutSeconds := some v }
  | .transport => (choiceOf transports span node).map fun v => { d with transport := some v }
  | .allowInvalidCerts =>
    (blame span (booleanOf node)).map fun v => { d with allowInvalidCerts := some v }
  | .domainMatch => (choiceOf comparisons span node).map fun v => { d with domainMatch := some v }
  | .userFilter => text.map fun v => { d with userFilter := some v }
  | .folderFilter => text.map fun v => { d with folderFilter := some v }
  | .proxyPrefix => text.map fun v => { d with proxyPrefix := some v }
  | .mailAttribute => text.map fun v => { d with mailAttribute := some v }
  | .acceptMode => (choiceOf acceptModes span node).map fun v => { d with acceptMode := some v }

/-- Takes over an entry of the document. -/
def add (d : Draft) (entry : Key × Node) : Except Toml.Fault Draft :=
  let (key, node) := entry
  match Field.ofKey? key.name with
  | none => .error ⟨key.span, .unknownField key.name (Field.all.map Field.key)⟩
  | some field => d.set field (node.span?.getD key.span) node

/-- A field without a default. -/
def required {α : Type} (span : Span) (field : Field) : Option α → Except Toml.Fault α
  | some value => .ok value
  | none => .error ⟨span, .missingField field.key⟩

/-- The configuration, with defaults where the document sets nothing. -/
def finish (d : Draft) (span : Span) : Except Toml.Fault Config := do
  let host ← required span .host d.host
  let bindDn ← required span .bindDn d.bindDn
  let userSearchBase ← required span .userSearchBase d.userSearchBase
  let folderSearchBase ← required span .folderSearchBase d.folderSearchBase
  let acceptedDomain ← required span .acceptedDomain d.acceptedDomain
  pure
    { host, bindDn, userSearchBase, folderSearchBase, acceptedDomain
      port := d.port
      bindPassword := d.bindPassword
      bindPasswordFile := d.bindPasswordFile
      networkTimeoutSeconds := d.networkTimeoutSeconds.getD defaultTimeoutSeconds
      transport := d.transport.getD default
      allowInvalidCerts := d.allowInvalidCerts.getD false
      domainMatch := d.domainMatch.getD default
      userFilter := d.userFilter.getD Filter.Template.defaultUsers
      folderFilter := d.folderFilter.getD Filter.Template.defaultFolders
      proxyPrefix := d.proxyPrefix.getD defaultProxyPrefix
      mailAttribute := d.mailAttribute.getD defaultMailAttribute
      acceptMode := d.acceptMode.getD default }

end Draft

/-- The entries of a root table and the stretch that they take up. -/
def rootEntries : Node → Span × Toml.Entries
  | .table _ (some span) entries => (span, entries)
  | .table _ none entries => (⟨0, 0⟩, entries)
  | _ => (⟨0, 0⟩, [])

/-- The configuration that a root table gives. -/
def ofRoot (root : Node) : Except Toml.Fault Config := do
  let (span, entries) := rootEntries root
  let draft ← entries.foldlM Draft.add {}
  draft.finish span

/-- The configuration that a document gives, valid or not. -/
def decode (text : String) : Except Toml.Fault Config := do
  ofRoot (← Toml.Document.read text)

/-- The configuration of a document, if it is valid. -/
def ofText (text : String) : Except Fault Config :=
  match decode text with
  | .error fault => .error (.malformed text fault)
  | .ok config => config.validate.map fun () => config

/-- The configuration in a file, if it is valid. -/
def load (store : Files.Store) (path : Files.Path) : Except Fault Config :=
  match Files.readText store path with
  | .error failure => .error (.unreadable path failure)
  | .ok text => ofText text

end RecipientCallout.Config
