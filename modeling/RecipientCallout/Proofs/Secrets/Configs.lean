import RecipientCallout.Callout.Basic
import RecipientCallout.Proofs.Config.Fields
import RecipientCallout.Proofs.Config.Flaws
import RecipientCallout.Proofs.Secrets.Lines

/-!
# Configurations that differ in passwords

A configuration is read and checked without regard to what its password is (`set_view`,
`validate_masked`). So two documents that are alike but for the password give the same configuration
otherwise, or the same fault, except that the document which a fault is shown in may be the one or the
other (`ofText_alike`); and so do two stores that have such documents (`SameFiles.load`).
-/

namespace RecipientCallout
open RecipientCallout.Toml (Node Key Span View Copies Entries)

/-- What is read by way of a view: of faults only the line is kept, of values only what `f` keeps. -/
def Toml.View.seen {α β : Type} (v : View) (f : α → β) : Except Toml.Fault α → Except Toml.Fault β
  | .ok a => .ok (f a)
  | .error fault => .error (v.fault fault)

/-- What is seen of a result may be taken before a map or behind it. -/
lemma Toml.View.map_seen {α β γ : Type} {v : View} {f : α → β} {f' : α → γ} {g : β → γ}
    (same : ∀ a, f' a = g (f a)) (result : Except Toml.Fault α) :
    (v.seen id result).map f' = v.seen g (result.map f) := by
  cases result with
  | error => rfl
  | ok a => exact congrArg Except.ok (same a)

/-- Results that are the same by way of views. -/
lemma Agree.of_seen_eq {α α' β : Type} {v v' : View} {f : α → β} {f' : α' → β}
    {result : Except Toml.Fault α} {result' : Except Toml.Fault α'}
    (same : v.seen f result = v'.seen f' result') :
    Agree (fun fault fault' => v.fault fault = v'.fault fault') (fun a a' => f a = f' a') result result' := by
  cases result with
  | error fault =>
    cases result' with
    | error fault' => exact .error (Except.error.inj same)
    | ok => cases same
  | ok a =>
    cases result' with
    | error => cases same
    | ok a' => exact .ok (Except.ok.inj same)

namespace Config
variable {v : View}

/-! ## Readers of values -/

/-- A configuration without its password, but with whether it has one. -/
def masked (c : Config) : Config := { c with bindPassword := c.bindPassword.map fun _ => "" }

/-- The same for a configuration while it is read. -/
def Draft.masked (d : Draft) : Draft := { d with bindPassword := d.bindPassword.map fun _ => "" }

/-- A text that is shown is read as it is. -/
lemma textOf_view (wanted : String) (node : Node) :
    textOf wanted (node.view v false) = textOf wanted node := by
  cases node with
  | scalar span value => cases value <;> simp [textOf, found]
  | _ => simp [textOf, found]

/-- A text that is hidden is read as an empty one. -/
lemma textOf_view_hidden (wanted : String) (node : Node) :
    textOf wanted (node.view v true) = (textOf wanted node).map fun _ => "" := by
  cases node with
  | scalar span value => cases value <;> simp [textOf, Toml.Scalar.view, found, Except.map]
  | _ => simp [textOf, found, Except.map]

/-- A truth value is read under a view as it is. -/
lemma booleanOf_view (node : Node) : booleanOf (node.view v false) = booleanOf node := by
  cases node with
  | scalar span value => cases value <;> simp [booleanOf, found]
  | _ => simp [booleanOf, found]

/-- So is a number. -/
lemma naturalOf_view (limit : Nat) (wanted : String) (node : Node) :
    naturalOf limit wanted (node.view v false) = naturalOf limit wanted node := by
  cases node with
  | scalar span value => cases value <;> simp [naturalOf, found]
  | _ => simp [naturalOf, found]

/-- So is an empty table. -/
lemma nothing_view (hidden : Bool) (node : Node) : nothing (node.view v hidden) = nothing node := by
  have kind := Node.kind_view (v := v) hidden node
  cases node with
  | scalar span value =>
    rw [Node.view_scalar] at kind ⊢
    simp only [nothing, kind]
  | _ => simp [nothing]

/-- A node without a place of its own is seen at the place around it. -/
lemma span?_getD_view (hidden : Bool) (span : Span) (node : Node) :
    (node.view v hidden).span?.getD (v.span span) = v.span (node.span?.getD span) := by
  rw [Node.span?_view, Option.getD_map]

/-- The place to blame is seen under a view. -/
lemma blame_view {α : Type} (span : Span) (result : Except Toml.Complaint α) :
    blame (v.span span) result = v.seen id (blame span result) := by
  cases result <;> rfl

/-- A choice is read under a view as it is. -/
lemma choiceOf_view {α : Type} (choices : List (String × α)) (span : Span) (node : Node) :
    choiceOf choices (v.span span) (node.view v false) = v.seen id (choiceOf choices span node) := by
  cases node with
  | scalar place value =>
    cases value with
    | text name => simp [choiceOf, blame_view]
    | _ => simp [choiceOf, View.seen, View.fault]
  | table origin place entries =>
    rw [Node.view_table]
    rcases entries with _ | ⟨⟨key, content⟩, _ | ⟨other, entries⟩⟩
    · rfl
    · simp only [List.map_cons, List.map_nil, choiceOf, View.entry, View.key_name, nothing_view,
        span?_getD_view]
      change (blame (v.span key.span) _ >>= _) = _
      simp only [blame_view]
      cases choose choices key.name with
      | error => rfl
      | ok value => cases nothing content <;> rfl
    · rfl
  | _ => simp [choiceOf, View.seen, View.fault]

namespace Draft

/-- A field is set by way of a view as it is set otherwise. -/
lemma set_view (d : Draft) (field : Field) (span : Span) (node : Node) :
    d.masked.set field (v.span span) (node.view v (field == .bindPassword)) =
      v.seen masked (d.set field span node) := by
  cases field
  case bindPassword =>
    change (blame (v.span span) (textOf _ (node.view v true))).map _ = _
    rw [textOf_view_hidden, set]
    cases textOf "a string" node <;> rfl
  all_goals
    change set d.masked _ (v.span span) (node.view v false) = _
    simp only [set, textOf_view, naturalOf_view, booleanOf_view, choiceOf_view, blame_view]
    refine View.map_seen (fun _ => ?_) _
    rfl

/-- An entry is taken over by way of a view as it is taken over otherwise. -/
lemma add_view (secret : v.secret = Field.bindPassword.key) (d : Draft) (entry : Key × Node) :
    d.masked.add (v.entry entry) = v.seen masked (d.add entry) := by
  obtain ⟨key, node⟩ := entry
  simp only [add, View.entry, View.key_name]
  cases named : Field.ofKey? key.name with
  | none => rfl
  | some field =>
    have hidden : (key.name == v.secret) = (field == .bindPassword) := by
      rw [Field.key_of_ofKey? named, secret]
      cases field <;> decide
    rw [← set_view, ← hidden]
    exact congrArg (set _ _ · _) (span?_getD_view _ _ _)

/-- Entries are added under a view to a draft without its password. -/
lemma foldlM_view (secret : v.secret = Field.bindPassword.key) (d : Draft) (entries : Entries) :
    (entries.map v.entry).foldlM add d.masked = v.seen masked (entries.foldlM add d) := by
  induction entries generalizing d with
  | nil => rfl
  | cons entry entries ih =>
    rw [List.map_cons, List.foldlM_cons, List.foldlM_cons, add_view secret]
    cases d.add entry with
    | error => rfl
    | ok next => exact ih next

/-- A draft without its password is finished under a view. -/
lemma finish_view (d : Draft) (span : Span) :
    d.masked.finish (v.span span) = v.seen Config.masked (d.finish span) := by
  obtain ⟨_ | host, _, _ | dn, _, _, _ | users, _ | folders, _ | domain⟩ := d
  all_goals rfl

end Draft

/-! ## Roots of documents -/

/-- So is all of a document. -/
lemma ofRoot_view (secret : v.secret = Field.bindPassword.key) (root : Node) :
    v.seen masked (ofRoot root) =
      (((rootEntries root).2.map v.entry).foldlM Draft.add {}).bind
        (Draft.finish · (v.span (rootEntries root).1)) := by
  unfold ofRoot
  generalize rootEntries root = entries
  obtain ⟨span, entries⟩ := entries
  change _ = ((entries.map v.entry).foldlM Draft.add (Draft.masked {})).bind _
  rw [Draft.foldlM_view secret]
  change v.seen masked ((entries.foldlM Draft.add {}).bind (Draft.finish · span)) = _
  cases entries.foldlM Draft.add {} with
  | error => rfl
  | ok draft => exact (draft.finish_view span).symm

/-- Roots that are seen to be the same have entries that are. -/
lemma rootEntries_alike {d : Copies} {root root' : Node}
    (same : root.view d.view false = root'.view d.view' false) :
    d.view.span (rootEntries root).1 = d.view'.span (rootEntries root').1 ∧
      (rootEntries root).2.map d.view.entry = (rootEntries root').2.map d.view'.entry := by
  obtain ⟨mode, last⟩ := (Copies.Fresh.nil d).level
  have none : d.view.span ⟨0, 0⟩ = d.view'.span ⟨0, 0⟩ := last.span_eq [] []
  cases root with
  | table origin span entries =>
    cases root' with
    | table origin' span' entries' =>
      rw [Node.view_table, Node.view_table] at same
      obtain ⟨-, spans, entries⟩ := Node.table.inj same
      cases span with
      | none =>
        cases span' with
        | none => exact ⟨none, entries⟩
        | some => cases spans
      | some span =>
        cases span' with
        | none => cases spans
        | some span' => exact ⟨Option.some.inj spans, entries⟩
    | _ => simp at same
  | _ =>
    cases root' with
    | table => simp at same
    | _ => exact ⟨none, rfl⟩

/-- Documents that are alike give the same configuration but for the password, or the same complaint on
lines with the same number. -/
lemma decode_alike (d : Copies) (secret : d.key = Field.bindPassword.key) :
    Agree (fun fault fault' => d.view.fault fault = d.view'.fault fault') (fun c c' => c.masked = c'.masked)
      (decode (String.ofList d.text)) (decode (String.ofList d.text')) := by
  refine d.reads_document.bind fun root root' same => Agree.of_seen_eq ?_
  obtain ⟨spans, entries⟩ := rootEntries_alike same
  rw [ofRoot_view secret, ofRoot_view secret, spans, entries]

/-! ## Checks -/

/-- The checks do not look into the password. -/
lemma checks_masked (c : Config) : c.masked.checks = c.checks := by
  obtain ⟨_, _, _, _ | _⟩ := c <;> rfl

/-- So a configuration is as valid without it. -/
lemma validate_masked (c : Config) : c.masked.validate = c.validate := by
  rw [validate, validate, flaw?, flaw?, checks_masked]

/-! ## Files -/

/-- Two stores with the same files, but that configurations may have other passwords in them. -/
def SameFiles (store store' : Files.Store) : Prop :=
  ∀ path, store path = store' path ∨
    ∃ text text' : String, store path = .ok text.toUTF8 ∧ store' path = .ok text'.toUTF8 ∧
      Toml.Alike Field.bindPassword.key (.plain []) text.toList text'.toList

/-- The same fault, but that the documents with it may have other passwords in them. -/
inductive Fault.Alike : Fault → Fault → Prop where
  | same {fault} :
    Fault.Alike fault fault
  | malformed (d : Copies) {fault fault'} :
    d.view.fault fault = d.view'.fault fault' →
    Fault.Alike (.malformed (String.ofList d.text) fault) (.malformed (String.ofList d.text') fault')

variable {store store' : Files.Store}

/-- A file can be read in both stores, or in neither for the same reason. -/
lemma SameFiles.readText (files : SameFiles store store') (path : Files.Path) :
    Agree (· = ·) (fun _ _ => True) (Files.readText store path) (Files.readText store' path) := by
  obtain same | ⟨text, text', file, file', -⟩ := files path
  · have same : Files.readText store path = Files.readText store' path := by
      rw [Files.readText, Files.readText, same]
    rw [same]
    exact .refl (fun _ => rfl) (fun _ => trivial) _
  · rw [Files.readText_of_text file, Files.readText_of_text file']
    exact .ok trivial

/-- Copies of a document give the same configuration but for the password, or alike faults. -/
lemma ofText_alike (d : Copies) (secret : d.key = Field.bindPassword.key) :
    Agree Fault.Alike (fun c c' => c.masked = c'.masked) (ofText (String.ofList d.text))
      (ofText (String.ofList d.text')) := by
  have decoded := decode_alike d secret
  simp only [ofText]
  generalize decode (String.ofList d.text) = result at decoded ⊢
  generalize decode (String.ofList d.text') = result' at decoded ⊢
  cases decoded with
  | error same => exact .error (.malformed d same)
  | @ok c c' same =>
    have valid : c'.validate = c.validate := by rw [← validate_masked c', ← same, validate_masked]
    simp only [valid]
    cases c.validate with
    | error fault => exact .error .same
    | ok => exact .ok same

/-- So do files that are copies. -/
lemma SameFiles.load (files : SameFiles store store') (path : Files.Path) :
    Agree Fault.Alike (fun c c' => c.masked = c'.masked) (load store path) (load store' path) := by
  obtain same | ⟨text, text', file, file', alike⟩ := files path
  · have same : Config.load store path = Config.load store' path := by
      rw [Config.load, Config.load, Files.readText, Files.readText, same]
    rw [same]
    refine .refl (fun _ => .same) (fun _ => ?_) _
    rfl
  · have read := ofText_alike ⟨Field.bindPassword.key, text.toList, text'.toList, alike⟩ rfl
    rw [String.ofList_toList, String.ofList_toList] at read
    rw [Config.load, Config.load, Files.readText_of_text file, Files.readText_of_text file']
    exact read

/-- A password is found in both files or in neither, wherever it is kept. -/
lemma SameFiles.password (files : SameFiles store store') {c c' : Config} (same : c.masked = c'.masked) :
    Agree Fault.Alike (fun _ _ => True) (c.password store) (c'.password store') := by
  have given : c.bindPassword.map (fun _ => "") = c'.bindPassword.map (fun _ => "") :=
    (congrArg bindPassword same :)
  have file : c.bindPasswordFile = c'.bindPasswordFile := (congrArg bindPasswordFile same :)
  unfold Config.password
  rw [← file]
  cases some : c.bindPassword with
  | some =>
    rw [some] at given
    obtain ⟨_, some', -⟩ := Option.map_eq_some_iff.mp given.symm
    rw [some']
    exact .ok trivial
  | none =>
    rw [some] at given
    rw [Option.map_eq_none_iff.mp given.symm]
    cases c.bindPasswordFile with
    | none => exact .error .same
    | some path =>
      have read := files.readText path
      dsimp only
      generalize Files.readText store path = result at read ⊢
      generalize Files.readText store' path = result' at read ⊢
      cases read with
      | ok => exact .ok trivial
      | error same => exact same ▸ .error .same

/-- Configurations that differ in their passwords alone both give a callout, or give the same fault. -/
lemma SameFiles.ofConfig (files : SameFiles store store') {c c' : Config} (same : c.masked = c'.masked) :
    Agree Fault.Alike (fun _ _ => True) (Callout.ofConfig store c) (Callout.ofConfig store' c') := by
  have valid : c'.validate = c.validate := by rw [← validate_masked c', ← same, validate_masked]
  have users : c.userTemplate = c'.userTemplate := (congrArg userTemplate same :)
  have folders : c.folderTemplate = c'.folderTemplate := (congrArg folderTemplate same :)
  have equal {α : Type} (result : Except Fault α) : Agree Fault.Alike (fun _ _ => True) result result :=
    .refl (fun _ => .same) (fun _ => trivial) _
  unfold Callout.ofConfig
  rw [valid, ← users, ← folders]
  refine (equal _).bind fun _ _ _ => (files.password same).bind fun _ _ _ => ?_
  exact (equal _).bind fun _ _ _ => (equal _).bind fun _ _ _ => .ok trivial

end Config
end RecipientCallout
