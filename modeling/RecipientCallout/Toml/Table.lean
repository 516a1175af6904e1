import RecipientCallout.Toml.Node

/-!
# Tables of a document

How entries and headers add to the tables that a document has so far, and what they may not do: define
a key twice, open a table twice, or go through a value that is no table.
-/

namespace RecipientCallout.Toml

/-- A path of keys. -/
abbrev KeyPath := List Key

/-- The names on a path. -/
def KeyPath.names (path : KeyPath) : List String := path.map Key.name

/-- An empty table. -/
def Node.emptyTable (origin : Origin) : Node := .table origin none []

/-- Applies an action to the table at the end of a path. Tables that are missing on the way are added
with origin `missing`; with `closed`, tables with headers of their own may not be entered. -/
def descend (missing : Origin) (closed : Bool) (action : Node → Except Cause Node)
    (walked : List String) : KeyPath → Node → Except Cause Node
  | [], node => action node
  | key :: path, .table origin span entries =>
    let go := descend missing closed action (walked ++ [key.name]) path
    match Entries.find? entries key.name with
    | none => do
      let child ← go (.emptyTable missing)
      pure (.table origin span (entries ++ [(key, child)]))
    | some (.table .header childSpan children) =>
      if closed then .error (.duplicateKey key.name none)
      else do
        let child ← go (.table .header childSpan children)
        pure (.table origin span (Entries.replace entries key.name child))
    | some (.table .inline _ _) | some (.table .inlineDotted _ _) =>
      .error (.notTable (walked ++ [key.name]) "inline table")
    | some (.table childOrigin childSpan children) => do
      let child ← go (.table childOrigin childSpan children)
      pure (.table origin span (Entries.replace entries key.name child))
    | some (.tables items) =>
      match items.getLast? with
      | none => .error (.duplicateKey key.name none)
      | some last => do
        let child ← go last
        pure (.table origin span (Entries.replace entries key.name (.tables (items.dropLast ++ [child]))))
    | some value => .error (.notTable (walked ++ [key.name]) value.kind)
  | _ :: _, node => .ok node

/-- Puts an entry into the table that its dotted key leads to. -/
def insertEntry (owner : Option (List String)) (dotted : Bool) (key : Key) (value : Node) :
    Node → Except Cause Node
  | .table origin span entries =>
    if (origin = .dotted ∨ origin = .inlineDotted) ≠ dotted then
      .error (.duplicateKey key.name none)
    else
      match Entries.find? entries key.name with
      | some _ => .error (.duplicateKey key.name owner)
      | none => .ok (.table origin span (entries ++ [(key, value)]))
  | node => .ok node

/-- A document while it is read: the tables that are complete, and the one that entries go to. -/
structure Draft where
  root : Node
  current : Node
  path : KeyPath
  repeated : Bool

namespace Draft

/-- Nothing read yet; entries go to the document itself, which starts where `total` octets are left. -/
def start (total : Nat) : Draft :=
  ⟨.emptyTable .header, .table .header (some ⟨total, total⟩) [], [], false⟩

/-- Stretches a table to the end of a value in it. -/
def stretch (value : Node) : Node → Node
  | .table origin (some span) entries =>
    match value.span? with
    | some last => .table origin (some (span.extend last)) entries
    | none => .table origin (some span) entries
  | node => node

/-- Adds an entry under a dotted key. -/
def addEntry (draft : Draft) (path : KeyPath) (key : Key) (value : Node) : Except Cause Draft := do
  let action := insertEntry (some draft.path.names) (path ≠ []) key value
  let current ← descend .dotted true action [] path (stretch value draft.current)
  pure { draft with current := current }

/-- Puts a complete table under the last key of its header. -/
def place (repeated : Bool) (key : Key) (table : Node) (owner : List String) :
    Node → Except Cause Node
  | .table origin span entries =>
    match Entries.find? entries key.name with
    | none =>
      .ok (.table origin span (entries ++ [(key, if repeated then .tables [table] else table)]))
    | some (.tables items) =>
      if repeated then
        .ok (.table origin span (Entries.replace entries key.name (.tables (items ++ [table]))))
      else .error (.duplicateKey key.name (some owner))
    | some _ => .error (.duplicateKey key.name (some owner))
  | node => .ok node

/-- Completes the table that entries have gone to. -/
def close (draft : Draft) : Except Cause Node :=
  match draft.path.getLast? with
  | none => .ok draft.current
  | some key =>
    let parents := draft.path.dropLast
    descend .implied false (place draft.repeated key draft.current (KeyPath.names parents)) [] parents
      draft.root

/-- Takes out the table that a header is about to open, if headers inside it have implied it. -/
def reopen (key : Key) (owner : List String) : Node → Except Cause Node
  | .table origin span entries =>
    match Entries.find? entries key.name with
    | none => .ok (.table origin span entries)
    | some (.table .implied _ _) => .ok (.table origin span (Entries.erase entries key.name))
    | some _ => .error (.duplicateKey key.name (some owner))
  | node => .ok node

/-- Checks that a repeated header may add a table. -/
def checkRepeated (key : Key) (owner : List String) : Node → Except Cause Node
  | .table origin span entries =>
    match Entries.find? entries key.name with
    | none => .ok (.table origin span (entries ++ [(key, .tables [])]))
    | some (.tables items) => .ok (.table origin span (Entries.replace entries key.name (.tables items)))
    | some _ => .error (.duplicateKey key.name (some owner))
  | node => .ok node

/-- The entries that a table has before its header is read. -/
def entriesAt (key : Key) : KeyPath → Node → Entries
  | [], .table _ _ entries =>
    match Entries.find? entries key.name with
    | some (.table .implied _ children) => children
    | _ => []
  | step :: path, .table _ _ entries =>
    match Entries.find? entries step.name with
    | some (.tables items) =>
      match items.getLast? with
      | some last => entriesAt key path last
      | none => []
    | some node => entriesAt key path node
    | none => []
  | _, _ => []

/-- Opens the table of a header, which takes up the given stretch. -/
def openTable (draft : Draft) (repeated : Bool) (path : KeyPath) (span : Span) :
    Except Cause Draft := do
  let root ← draft.close
  match path.getLast? with
  | none => pure draft
  | some key =>
    let parents := path.dropLast
    let owner := KeyPath.names parents
    if repeated then
      let root ← descend .implied false (checkRepeated key owner) [] parents root
      pure ⟨root, .table .header (some span) [], path, true⟩
    else
      let entries := entriesAt key parents root
      let root ← descend .implied false (reopen key owner) [] parents root
      pure ⟨root, .table .header (some span) entries, path, false⟩

end Draft

/-- Makes a table in braces of its entries, each under the path before its key. -/
def inlineTable (span : Span) (pairs : List (KeyPath × Key × Node)) : Except Cause Node :=
  pairs.foldlM
    (fun table (path, key, value) =>
      inlineDescend (insertEntry none (path ≠ []) key value) [] path table)
    (.table .inline (some span) [])
where
  /-- Applies an action to the table in braces at the end of a path; only tables that dotted keys imply
  may be entered. -/
  inlineDescend (action : Node → Except Cause Node) (walked : List String) :
      KeyPath → Node → Except Cause Node
    | [], node => action node
    | key :: path, .table origin span entries =>
      let go := inlineDescend action (walked ++ [key.name]) path
      match Entries.find? entries key.name with
      | none => do
        let child ← go (.emptyTable .inlineDotted)
        pure (.table origin span (entries ++ [(key, child)]))
      | some (.table .inlineDotted childSpan children) => do
        let child ← go (.table .inlineDotted childSpan children)
        pure (.table origin span (Entries.replace entries key.name child))
      | some (.table _ _ _) => .error (.duplicateKey key.name none)
      | some value => .error (.notTable (walked ++ [key.name]) value.kind)
    | _ :: _, node => .ok node

end RecipientCallout.Toml
