import Mathlib.Tactic.Lemma
import RecipientCallout.Toml.Table

/-!
# Tables without their secrets

A view of a document keeps of each stretch of text the line where it begins, and nothing of the texts that
stand as values of a secret key. What entries and headers do to the tables of a document is the same on a
view of them (`Draft.addEntry_view`, `Draft.openTable_view`, `inlineTable_view`): no table depends on a
secret or on where on its line something stands.
-/

namespace RecipientCallout.Toml

/-- How a document is viewed: the key of its secrets, and the lines of its octets. -/
structure View where
  secret : String
  line : Nat → Nat

namespace View

/-- The line where a stretch begins. -/
def span (v : View) (span : Span) : Span := ⟨v.line span.startLeft, 0⟩

/-- A key with its line. -/
def key (v : View) (key : Key) : Key := ⟨key.name, v.span key.span⟩

end View

/-- A value, or if it is hidden only what kind of value it is. -/
def Scalar.view (hidden : Bool) : Scalar → Scalar
  | .text value => .text (if hidden then "" else value)
  | value => value

mutual

/-- A node without secrets; it may stand under the key of the secrets itself. -/
def Node.view (v : View) (hidden : Bool) : Node → Node
  | .scalar span value => .scalar (v.span span) (value.view hidden)
  | .array span items => .array (v.span span) (Node.viewItems v items)
  | .table origin span entries => .table origin (span.map v.span) (Node.viewEntries v entries)
  | .tables items => .tables (Node.viewItems v items)

/-- The parts of an array, or the tables under one header. -/
def Node.viewItems (v : View) : List Node → List Node
  | [] => []
  | item :: items => item.view v false :: Node.viewItems v items

/-- The entries of a table. -/
def Node.viewEntries (v : View) : List (Key × Node) → List (Key × Node)
  | [] => []
  | (key, node) :: entries =>
    (v.key key, node.view v (key.name == v.secret)) :: Node.viewEntries v entries

end

namespace View

/-- An entry without secrets. -/
def entry (v : View) (entry : Key × Node) : Key × Node :=
  (v.key entry.1, entry.2.view v (entry.1.name == v.secret))

/-- An entry of a table in braces without secrets. -/
def pair (v : View) (pair : KeyPath × Key × Node) : KeyPath × Key × Node :=
  (pair.1.map v.key, v.entry pair.2)

end View

variable {v : View} {hidden : Bool}

@[simp] lemma Scalar.view_false (value : Scalar) : value.view false = value := by
  cases value <;> rfl

@[simp] lemma View.key_name (key : Key) : (v.key key).name = key.name := rfl

@[simp] lemma Node.viewItems_eq (items : List Node) :
    Node.viewItems v items = items.map (Node.view v false) := by
  induction items with
  | nil => rw [Node.viewItems, List.map_nil]
  | cons item items ih => rw [Node.viewItems, ih, List.map_cons]

@[simp] lemma Node.viewEntries_eq (entries : List (Key × Node)) :
    Node.viewEntries v entries = entries.map v.entry := by
  induction entries with
  | nil => rw [Node.viewEntries, List.map_nil]
  | cons entry entries ih => rw [Node.viewEntries, ih, List.map_cons, View.entry]

namespace Node

@[simp] lemma view_scalar (span : Span) (value : Scalar) :
    (scalar span value).view v hidden = .scalar (v.span span) (value.view hidden) := by
  rw [Node.view]

@[simp] lemma view_array (span : Span) (items : List Node) :
    (array span items).view v hidden = .array (v.span span) (items.map (Node.view v false)) := by
  rw [Node.view, viewItems_eq]

@[simp] lemma view_table (origin : Origin) (span : Option Span) (entries : Entries) :
    (table origin span entries).view v hidden =
      .table origin (span.map v.span) (entries.map v.entry) := by
  rw [Node.view, viewEntries_eq]

@[simp] lemma view_tables (items : List Node) :
    (tables items).view v hidden = .tables (items.map (Node.view v false)) := by
  rw [Node.view, viewItems_eq]

@[simp] lemma kind_view (hidden : Bool) (node : Node) : (node.view v hidden).kind = node.kind := by
  cases node with
  | scalar span value => cases value <;> simp [Scalar.view, kind]
  | _ => simp [kind]

/-- A node is seen where it stands. -/
lemma span?_view (node : Node) : (node.view v hidden).span? = node.span?.map v.span := by
  cases node with
  | scalar => simp [span?]
  | array => simp [span?]
  | table => simp [span?]
  | tables items =>
    simp only [view_tables, span?, List.head?_map, List.getLast?_map]
    cases items.head? with
    | none => rfl
    | some first =>
      cases items.getLast? with
      | none => cases first <;> simp
      | some last =>
        rcases first with _ | _ | ⟨_, _ | _, _⟩ | _ <;> rcases last with _ | _ | ⟨_, _ | _, _⟩ | _ <;>
          simp [Span.extend, View.span]

end Node

/-! ## Entries -/

namespace Entries
variable (entries : Entries) (name : String)

@[simp] lemma find?_view :
    Entries.find? (entries.map v.entry) name = (entries.find? name).map (Node.view v (name == v.secret)) := by
  have names : ((fun e : Key × Node => decide (e.1.name = name)) ∘ v.entry) =
      fun e => decide (e.1.name = name) := rfl
  rw [find?, find?, List.find?_map, names]
  cases found : List.find? (fun e : Key × Node => decide (e.1.name = name)) entries with
  | none => rfl
  | some entry =>
    have same : entry.1.name = name := by simpa using List.find?_some found
    rw [← same]
    rfl

@[simp] lemma replace_view (node : Node) :
    Entries.replace (entries.map v.entry) name (node.view v (name == v.secret)) =
      (entries.replace name node).map v.entry := by
  simp only [replace, List.map_map]
  refine List.map_congr_left fun entry _ => ?_
  by_cases same : entry.1.name = name
  case pos =>
    subst same
    simp [View.entry]
  case neg => simp [View.entry, same]

@[simp] lemma erase_view :
    Entries.erase (entries.map v.entry) name = (entries.erase name).map v.entry := by
  rw [erase, erase, List.filter_map]
  rfl

end Entries

/-! ## Actions on tables -/

/-- An action that does to a view of a node what it does to the node. -/
def Respects (v : View) (action action' : Node → Except Cause Node) : Prop :=
  ∀ hidden node, action' (node.view v hidden) = (action node).map (Node.view v hidden)

variable {action action' : Node → Except Cause Node}

/-- What an action makes of a child, put back into the parent. -/
lemma Respects.rebuilt (respects : Respects v action action') (hidden flag : Bool) (child : Node)
    (rebuild rebuild' : Node → Node)
    (same : ∀ next, rebuild' (next.view v flag) = (rebuild next).view v hidden) :
    ((action' (child.view v flag)).bind fun next => .ok (rebuild' next)) =
      ((action child).bind fun next => .ok (rebuild next)).map (Node.view v hidden) := by
  rw [respects]
  cases action child with
  | error => rfl
  | ok next => exact congrArg Except.ok (same next)

/-- What respects a view at the end of a path does so all along it. -/
lemma descend_view (respects : Respects v action action') (missing : Origin) (closed : Bool)
    (walked : List String) (path : KeyPath) :
    Respects v (descend missing closed action walked path)
      (descend missing closed action' walked (path.map v.key)) := by
  induction path generalizing walked with
  | nil => exact respects
  | cons key path ih =>
    intro hidden node
    cases node with
    | table origin span entries =>
      have into := (ih (walked ++ [key.name])).rebuilt hidden
      simp only [Node.view_table, List.map_cons, descend, View.key_name, Entries.find?_view]
      have replaced := Entries.replace_view (v := v) entries key.name
      cases Entries.find? entries key.name with
      | none =>
        have went := into (key.name == v.secret) (.emptyTable missing)
          (fun next => .table origin span (entries ++ [(key, next)]))
          (fun next => .table origin (span.map v.span) (entries.map v.entry ++ [(v.key key, next)]))
          fun next => by simp [View.entry]
        rw [Node.emptyTable, Node.view_table, Option.map_none, List.map_nil] at went
        exact went
      | some child =>
        have replace (child : Node) := into (key.name == v.secret) child
          (fun next => .table origin span (Entries.replace entries key.name next))
          (fun next => .table origin (span.map v.span) (Entries.replace (entries.map v.entry) key.name next))
          fun next => by rw [replaced, Node.view_table]
        cases child with
        | scalar childSpan value =>
          have kind := Node.kind_view (v := v) (key.name == v.secret) (.scalar childSpan value)
          rw [Node.view_scalar] at kind
          simp [kind, Except.map]
        | array => simp [Node.kind, Except.map]
        | table childOrigin childSpan children =>
          have went := replace (.table childOrigin childSpan children)
          rw [Node.view_table] at went
          simp only [Option.map_some, Node.view_table]
          cases childOrigin with
          | header =>
            dsimp only
            split
            case isTrue => rfl
            case isFalse => exact went
          | implied => exact went
          | dotted => exact went
          | inline => rfl
          | inlineDotted => rfl
        | tables items =>
          simp only [Option.map_some, Node.view_tables, List.getLast?_map]
          cases items.getLast? with
          | none => rfl
          | some last =>
            refine into false last
              (fun next => .table origin span
                (Entries.replace entries key.name (.tables (items.dropLast ++ [next]))))
              (fun next => .table origin (span.map v.span) (Entries.replace (entries.map v.entry) key.name
                (.tables ((items.map (Node.view v false)).dropLast ++ [next])))) fun next => ?_
            rw [Node.view_table, ← replaced, Node.view_tables, List.map_append, List.map_dropLast]
            rfl
    | _ => simp [descend, Except.map]

/-- Inserting an entry respects a view. -/
lemma insertEntry_view (owner : Option (List String)) (dotted : Bool) (key : Key) (value : Node) :
    Respects v (insertEntry owner dotted key value)
      (insertEntry owner dotted (v.key key) (value.view v (key.name == v.secret))) := by
  intro hidden node
  cases node with
  | table origin span entries =>
    simp only [Node.view_table, insertEntry, View.key_name, Entries.find?_view]
    split
    case isTrue => rfl
    case isFalse =>
      cases Entries.find? entries key.name with
      | none => simp [Except.map, View.entry]
      | some => rfl
  | _ => simp [insertEntry, Except.map]

namespace Draft

/-- A table that is stretched is seen so. -/
lemma stretch_view (below : Bool) (value node : Node) :
    stretch (value.view v below) (node.view v hidden) = (stretch value node).view v hidden := by
  cases node with
  | table origin span entries =>
    cases span with
    | none => simp [stretch]
    | some span =>
      simp only [Node.view_table, Option.map_some, stretch, Node.span?_view]
      cases value.span? with
      | none => simp
      | some last => simp [Span.extend, View.span]
  | _ => simp [stretch]

/-- Opening a table again respects a view. -/
lemma reopen_view (key : Key) (owner : List String) :
    Respects v (reopen key owner) (reopen (v.key key) owner) := by
  intro hidden node
  cases node with
  | table origin span entries =>
    simp only [Node.view_table, reopen, View.key_name, Entries.find?_view]
    cases Entries.find? entries key.name with
    | none => simp [Except.map]
    | some node =>
      rcases node with _ | _ | ⟨_ | _ | _ | _ | _, _, _⟩ | _ <;> simp [Except.map]
  | _ => simp [reopen, Except.map]

/-- A check for repeated tables respects a view. -/
lemma checkRepeated_view (key : Key) (owner : List String) :
    Respects v (checkRepeated key owner) (checkRepeated (v.key key) owner) := by
  intro hidden node
  cases node with
  | table origin span entries =>
    simp only [Node.view_table, checkRepeated, View.key_name, Entries.find?_view]
    cases Entries.find? entries key.name with
    | none => simp [Except.map, View.entry]
    | some node =>
      cases node with
      | tables items =>
        have same := Entries.replace_view (v := v) entries key.name (.tables items)
        simp only [Node.view_tables] at same
        simp [Except.map, same]
      | _ => simp [Except.map]
  | _ => simp [checkRepeated, Except.map]

/-- Whether the table that entries go to stands under the key of the secrets. -/
def isHidden (v : View) (draft : Draft) : Bool :=
  !draft.repeated && draft.path.getLast?.any fun key => key.name == v.secret

/-- A document without its secrets, while it is read. -/
def view (v : View) (draft : Draft) : Draft :=
  ⟨draft.root.view v false, draft.current.view v (draft.isHidden v), draft.path.map v.key, draft.repeated⟩

/-- The names of a path are seen as they are. -/
lemma names_view (path : KeyPath) : KeyPath.names (path.map v.key) = KeyPath.names path := by
  simp [KeyPath.names]

/-- Placing a table respects a view. -/
lemma place_view (repeated : Bool) (key : Key) (table : Node) (owner : List String) :
    Respects v (place repeated key table owner)
      (place repeated (v.key key) (table.view v (!repeated && key.name == v.secret)) owner) := by
  intro hidden node
  cases node with
  | table origin span entries =>
    simp only [Node.view_table, place, View.key_name, Entries.find?_view]
    cases Entries.find? entries key.name with
    | none => cases repeated <;> simp [Except.map, View.entry]
    | some node =>
      cases node with
      | tables items =>
        have same := Entries.replace_view (v := v) entries key.name (.tables (items ++ [table]))
        simp only [Node.view_tables, List.map_append, List.map_singleton] at same
        cases repeated <;> simp [Except.map, same]
      | _ => simp [Except.map]
  | _ => simp [place, Except.map]

/-- A draft is closed alike under a view. -/
lemma close_view (draft : Draft) : (draft.view v).close = draft.close.map (Node.view v false) := by
  simp only [close, view, List.getLast?_map]
  cases last : draft.path.getLast? with
  | none => simp [isHidden, last, Except.map]
  | some key =>
    have respects := place_view (v := v) draft.repeated key draft.current (KeyPath.names draft.path.dropLast)
    have went := descend_view respects .implied false [] draft.path.dropLast false draft.root
    simpa [isHidden, last, names_view, ← List.map_dropLast] using went

/-- An entry is added alike under a view. -/
lemma addEntry_view (draft : Draft) (path : KeyPath) (key : Key) (value : Node) :
    (draft.view v).addEntry (path.map v.key) (v.key key) (value.view v (key.name == v.secret)) =
      (draft.addEntry path key value).map (view v) := by
  have respects := insertEntry_view (v := v) (some draft.path.names) (path ≠ []) key value
  have went := descend_view respects .dotted true [] path (draft.isHidden v) (stretch value draft.current)
  rw [← stretch_view (key.name == v.secret)] at went
  simp only [addEntry, view, names_view, List.map_eq_nil_iff, ne_eq] at went ⊢
  rw [went]
  cases descend .dotted true (insertEntry (some draft.path.names) (¬path = []) key value) [] path
    (stretch value draft.current) with
  | error => rfl
  | ok current => rfl

/-- Tables that lead to a node are seen as such. -/
lemma entriesAt_view (hidden : Bool) (key : Key) (path : KeyPath) (node : Node) :
    entriesAt (v.key key) (path.map v.key) (node.view v hidden) = (entriesAt key path node).map v.entry := by
  induction path generalizing hidden node with
  | nil =>
    cases node with
    | table origin span entries =>
      simp only [Node.view_table, List.map_nil, entriesAt, View.key_name, Entries.find?_view]
      cases Entries.find? entries key.name with
      | none => rfl
      | some node => rcases node with _ | _ | ⟨_ | _ | _ | _ | _, _, _⟩ | _ <;> simp
    | _ => simp [entriesAt]
  | cons step path ih =>
    cases node with
    | table origin span entries =>
      simp only [Node.view_table, List.map_cons, entriesAt, View.key_name, Entries.find?_view]
      cases Entries.find? entries step.name with
      | none => rfl
      | some node =>
        cases node with
        | tables items =>
          simp only [Option.map_some, Node.view_tables, List.getLast?_map]
          cases items.getLast? with
          | none => rfl
          | some last => exact ih false last
        | _ =>
          rw [← ih (step.name == v.secret)]
          simp
    | _ => simp [entriesAt]

/-- A table is opened alike under a view. -/
lemma openTable_view (draft : Draft) (repeated : Bool) (path : KeyPath) (span : Span) :
    (draft.view v).openTable repeated (path.map v.key) (v.span span) =
      (draft.openTable repeated path span).map (view v) := by
  simp only [openTable, close_view, List.getLast?_map]
  cases draft.close with
  | error => rfl
  | ok root =>
    cases last : path.getLast? with
    | none => rfl
    | some key =>
      have owner := names_view (v := v) path.dropLast
      rw [List.map_dropLast] at owner
      have checked := descend_view (checkRepeated_view (v := v) key (KeyPath.names path.dropLast)) .implied
        false [] path.dropLast false root
      have reopened := descend_view (reopen_view (v := v) key (KeyPath.names path.dropLast)) .implied
        false [] path.dropLast false root
      rw [List.map_dropLast] at checked reopened
      cases repeated with
      | true =>
        simp only [Except.map, Option.map_some, bind, Except.bind, owner, checked, if_true]
        generalize descend .implied false (checkRepeated key (KeyPath.names path.dropLast)) [] path.dropLast
          root = result
        cases result with
        | error => rfl
        | ok root => simp [view, pure, Except.pure]
      | false =>
        have found := entriesAt_view (v := v) false key path.dropLast root
        rw [List.map_dropLast] at found
        simp only [Except.map, Option.map_some, bind, Except.bind, owner, reopened, found, Bool.false_eq_true,
          if_false]
        cases descend .implied false (reopen key (KeyPath.names path.dropLast)) [] path.dropLast root with
        | error => rfl
        | ok root => simp [view, pure, Except.pure]

end Draft

/-- The same holds for the paths of inline tables. -/
lemma inlineDescend_view (respects : Respects v action action') (walked : List String) (path : KeyPath) :
    Respects v (inlineTable.inlineDescend action walked path)
      (inlineTable.inlineDescend action' walked (path.map v.key)) := by
  induction path generalizing walked with
  | nil => exact respects
  | cons key path ih =>
    intro hidden node
    cases node with
    | table origin span entries =>
      have into := (ih (walked ++ [key.name])).rebuilt hidden (key.name == v.secret)
      simp only [Node.view_table, List.map_cons, inlineTable.inlineDescend, View.key_name, Entries.find?_view]
      cases Entries.find? entries key.name with
      | none =>
        have went := into (.emptyTable .inlineDotted)
          (fun next => .table origin span (entries ++ [(key, next)]))
          (fun next => .table origin (span.map v.span) (entries.map v.entry ++ [(v.key key, next)]))
          fun next => by simp [View.entry]
        rw [Node.emptyTable, Node.view_table, Option.map_none, List.map_nil] at went
        exact went
      | some child =>
        have kind := Node.kind_view (v := v) (key.name == v.secret) child
        cases child with
        | table childOrigin childSpan children =>
          have went := into (.table childOrigin childSpan children)
            (fun next => .table origin span (Entries.replace entries key.name next))
            (fun next => .table origin (span.map v.span) (Entries.replace (entries.map v.entry) key.name next))
            fun next => by rw [Entries.replace_view, Node.view_table]
          rw [Node.view_table] at went
          simp only [Option.map_some, Node.view_table]
          cases childOrigin with
          | inlineDotted => exact went
          | _ => rfl
        | scalar childSpan value =>
          rw [Node.view_scalar] at kind
          simp [kind, Except.map]
        | _ => simp [Node.kind, Except.map]
    | _ => simp [inlineTable.inlineDescend, Except.map]

/-- The pairs of an inline table are entered one after the other. -/
lemma foldlM_inlineDescend_view (v : View) (hidden : Bool) (pairs : List (KeyPath × Key × Node))
    (table : Node) :
    ((pairs.map v.pair).foldlM (fun table (path, key, value) =>
        inlineTable.inlineDescend (insertEntry none (path ≠ []) key value) [] path table)
      (table.view v hidden)) =
    (pairs.foldlM (fun table (path, key, value) =>
        inlineTable.inlineDescend (insertEntry none (path ≠ []) key value) [] path table) table).map
      (Node.view v hidden) := by
  induction pairs generalizing table with
  | nil => rfl
  | cons pair pairs ih =>
    obtain ⟨path, key, value⟩ := pair
    have inserted := insertEntry_view (v := v) none (path ≠ []) key value
    have went := inlineDescend_view inserted [] path hidden table
    simp only [List.map_cons, List.foldlM_cons, View.pair, View.entry, ne_eq, List.map_eq_nil_iff] at went ⊢
    rw [went]
    cases inlineTable.inlineDescend (insertEntry none (¬path = []) key value) [] path table with
    | error => rfl
    | ok table => exact ih table

/-- An inline table is made alike under a view. -/
lemma inlineTable_view (v : View) (hidden : Bool) (span : Span) (pairs : List (KeyPath × Key × Node)) :
    inlineTable (v.span span) (pairs.map v.pair) = (inlineTable span pairs).map (Node.view v hidden) := by
  have whole := foldlM_inlineDescend_view v hidden pairs (.table .inline (some span) [])
  rw [Node.view_table] at whole
  exact whole

end RecipientCallout.Toml
