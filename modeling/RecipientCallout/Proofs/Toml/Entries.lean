import Mathlib.Data.List.Nodup
import RecipientCallout.Proofs.Toml.Remainder

/-!
# What a document holds

In no table of a document does a name stand twice, and each integer is written in the document at the
stretch that it takes up: `read_sound`. Entries and headers keep this of the tables that were read before.
-/

namespace RecipientCallout.Toml

/-- An integer of 64 bits that is written at a stretch of a document. -/
def WrittenAt (document : List Char) (span : Span) (n : Int) : Prop :=
  ∃ before text rest, document = before ++ text ++ rest ∧ span = .between (text ++ rest) rest ∧
    IntegerText text n ∧ minInteger ≤ n ∧ n ≤ maxInteger

/-- The nodes that a document can have. -/
inductive Sound (document : List Char) : Node → Prop where
  | scalar {span value} :
    (∀ n, value = .integer n → WrittenAt document span n) →
    Sound document (.scalar span value)
  | array {span items} :
    (∀ item ∈ items, Sound document item) →
    Sound document (.array span items)
  | table {origin span} {entries : Entries} :
    (entries.map (·.1.name)).Nodup →
    (∀ entry ∈ entries, Sound document entry.2) →
    Sound document (.table origin span entries)
  | tables {items} :
    (∀ item ∈ items, Sound document item) →
    Sound document (.tables items)

/-- The value of a node without parts. -/
def Node.scalar? : Node → Option Scalar
  | .scalar _ value => some value
  | _ => none

/-- A node that has a scalar is one. -/
lemma Node.exists_of_scalar? {node : Node} {value : Scalar} (found : node.scalar? = some value) :
    ∃ span, node = .scalar span value := by
  cases node with
  | scalar span value => cases found; exact ⟨span, rfl⟩
  | array => cases found
  | table => cases found
  | tables => cases found

/-- An integer is written where it stands. -/
lemma Sound.integer {document : List Char} {node : Node} {n : Int} (sound : Sound document node)
    (found : node.scalar? = some (.integer n)) :
    ∃ span, node = .scalar span (.integer n) ∧ WrittenAt document span n := by
  obtain ⟨span, rfl⟩ := Node.exists_of_scalar? found
  cases sound with
  | scalar integer => exact ⟨span, rfl, integer n rfl⟩

/-- What the entries of a table say, if their values have no parts. -/
def Entries.told (entries : Entries) : List (String × Option Scalar) :=
  entries.map fun (key, node) => (key.name, node.scalar?)

/-- Whether an action gives nodes with a property where it is given one. -/
def Keeps (P : Node → Prop) (action : Node → Except Cause Node) : Prop :=
  ∀ node next, P node → action node = .ok next → P next

section
variable {document : List Char} {origin : Origin} {span : Option Span} {entries : Entries}
  {name : String} {node : Node}

/-! ## Entries of tables -/

/-- Nothing is found under the names that there are not. -/
lemma Entries.find?_eq_none : entries.find? name = none ↔ name ∉ entries.map (·.1.name) := by
  simp only [Entries.find?, Option.map_eq_none_iff, List.find?_eq_none, decide_eq_true_eq, List.mem_map,
    not_exists, not_and]

/-- What is found is an entry of that name. -/
lemma Entries.mem_of_find? (found : entries.find? name = some node) :
    ∃ key, key.name = name ∧ (key, node) ∈ entries := by
  obtain ⟨⟨key, node⟩, first, rfl⟩ := Option.map_eq_some_iff.mp found
  exact ⟨key, by simpa using List.find?_some first, List.mem_of_find?_eq_some first⟩

/-- What a list with keys holds is found by its key. -/
lemma find?_of_mem {α κ : Type} [DecidableEq κ] (key : α → κ) {as : List α}
    (keys : (as.map key).Nodup) {a : α} (mem : a ∈ as) : as.find? (key · = key a) = some a := by
  cases found : as.find? (key · = key a) with
  | none => exact absurd (List.find?_eq_none.mp found a mem) (by simp)
  | some b =>
    have same : key b = key a := by simpa using List.find?_some found
    exact congrArg some (List.inj_on_of_nodup_map keys (List.mem_of_find?_eq_some found) mem same)

/-- Where no name comes twice, each entry is found under its name. -/
lemma Entries.find?_of_mem (names : (entries.map (·.1.name)).Nodup) {key : Key}
    (mem : (key, node) ∈ entries) : entries.find? key.name = some node := by
  have found : List.find? (·.1.name = key.name) entries = some (key, node) :=
    Toml.find?_of_mem (·.1.name) names mem
  rw [Entries.find?, found]
  rfl

/-- Replacing a value leaves the names. -/
lemma Entries.names_replace (entries : Entries) (name : String) (node : Node) :
    (entries.replace name node).map (·.1.name) = entries.map (·.1.name) := by
  rw [Entries.replace, List.map_map]
  refine List.map_congr_left fun entry _ => ?_
  simp only [Function.comp]
  split <;> rfl

/-- Behind a replacement stand the new value and entries that were there before. -/
lemma Entries.mem_replace {entry : Key × Node} (mem : entry ∈ entries.replace name node) :
    entry.2 = node ∨ entry ∈ entries := by
  obtain ⟨⟨key, old⟩, mem, e⟩ := List.mem_map.mp mem
  dsimp only at e
  split at e
  case isTrue => exact .inl (by rw [← e])
  case isFalse => exact .inr (by rwa [← e])

/-- What is found in a sound table is sound. -/
lemma Sound.find? (table : Sound document (.table origin span entries))
    (found : entries.find? name = some node) : Sound document node := by
  cases table with
  | table _ all =>
    obtain ⟨key, -, mem⟩ := Entries.mem_of_find? found
    exact all _ mem

/-- A sound table stays so with an entry of a new name. -/
lemma Sound.append (table : Sound document (.table origin span entries)) {key : Key}
    (absent : entries.find? key.name = none) (sound : Sound document node) :
    Sound document (.table origin span (entries ++ [(key, node)])) := by
  cases table with
  | table nodup all =>
    refine .table ?_ ?_
    · rw [List.map_append, List.map_singleton, ← List.concat_eq_append]
      exact .concat (Entries.find?_eq_none.mp absent) nodup
    · rw [List.forall_mem_append]
      exact ⟨all, List.forall_mem_singleton.mpr sound⟩

/-- A sound table stays so with another value under a name. -/
lemma Sound.replace (table : Sound document (.table origin span entries))
    (sound : Sound document node) :
    Sound document (.table origin span (entries.replace name node)) := by
  cases table with
  | table nodup all =>
    refine .table ?_ fun entry mem => ?_
    · rwa [Entries.names_replace]
    · obtain e | mem := Entries.mem_replace mem
      · rwa [e]
      · exact all entry mem

/-- A sound table stays so without an entry. -/
lemma Sound.erase (table : Sound document (.table origin span entries)) :
    Sound document (.table origin span (entries.erase name)) := by
  cases table with
  | table nodup all =>
    have fewer : List.Sublist (entries.erase name) entries := List.filter_sublist
    exact .table (nodup.sublist (fewer.map _)) fun entry mem => all entry (fewer.subset mem)

/-- A table is no less sound with another origin or stretch. -/
lemma Sound.reframe (table : Sound document (.table origin span entries)) (origin : Origin)
    (span : Option Span) : Sound document (.table origin span entries) := by
  cases table with
  | table nodup all => exact .table nodup all

/-- An empty table is sound. -/
lemma Sound.empty : Sound document (.table origin span []) := .table List.nodup_nil nofun

/-- Sound tables stay so with one more. -/
lemma Sound.tables_append {items : List Node} (tables : Sound document (.tables items))
    (sound : Sound document node) : Sound document (.tables (items ++ [node])) := by
  cases tables with
  | tables all =>
    refine .tables ?_
    rw [List.forall_mem_append]
    exact ⟨all, List.forall_mem_singleton.mpr sound⟩

/-- The last of sound tables is sound. -/
lemma Sound.getLast? {items : List Node} (tables : Sound document (.tables items))
    (last : items.getLast? = some node) : Sound document node := by
  cases tables with
  | tables all => exact all node (List.mem_of_getLast? last)

/-- Sound tables stay so without the last. -/
lemma Sound.dropLast {items : List Node} (tables : Sound document (.tables items)) :
    Sound document (.tables items.dropLast) := by
  cases tables with
  | tables all => exact .tables fun item mem => all item (items.dropLast_subset mem)

/-! ## Actions on tables -/

/-- An action inside a table keeps it sound. -/
lemma descend_keeps {action : Node → Except Cause Node} (keeps : Keeps (Sound document) action)
    (missing : Origin) (closed : Bool) (walked : List String) (path : KeyPath) :
    Keeps (Sound document) (descend missing closed action walked path) := by
  induction path generalizing walked with
  | nil => exact keeps
  | cons key path ih =>
    intro node next sound done
    unfold descend at done
    split at done
    case h_1 e => cases e
    case h_3 => cases done; exact sound
    case h_2 e =>
      cases e
      dsimp only at done
      split at done
      case h_1 absent =>
        obtain ⟨child, went, e⟩ := exists_of_bind_eq_ok done
        cases e
        exact sound.append absent (ih _ _ _ .empty went)
      case h_2 found =>
        split at done
        case isTrue => cases done
        case isFalse =>
          obtain ⟨child, went, e⟩ := exists_of_bind_eq_ok done
          cases e
          exact sound.replace (ih _ _ _ (sound.find? found) went)
      case h_3 => cases done
      case h_4 => cases done
      case h_5 found =>
        obtain ⟨child, went, e⟩ := exists_of_bind_eq_ok done
        cases e
        exact sound.replace (ih _ _ _ (sound.find? found) went)
      case h_6 found =>
        have tables := sound.find? found
        split at done
        case h_1 => cases done
        case h_2 last =>
          obtain ⟨child, went, e⟩ := exists_of_bind_eq_ok done
          cases e
          exact sound.replace (tables.dropLast.tables_append (ih _ _ _ (tables.getLast? last) went))
      case h_7 => cases done

/-- Inserting a sound value keeps a table sound. -/
lemma insertEntry_keeps (sound : Sound document node) (owner : Option (List String))
    (dotted : Bool) (key : Key) : Keeps (Sound document) (insertEntry owner dotted key node) := by
  intro table next tableSound done
  unfold insertEntry at done
  split at done
  case h_1 =>
    split at done
    case isTrue => cases done
    case isFalse =>
      split at done
      case h_1 => cases done
      case h_2 absent => cases done; exact tableSound.append absent sound
  case h_2 => cases done; exact tableSound

/-- What keeps the table at the end of a path sound keeps all on the way sound. -/
lemma inlineDescend_keeps {action : Node → Except Cause Node} (keeps : Keeps (Sound document) action)
    (walked : List String) (path : KeyPath) :
    Keeps (Sound document) (inlineTable.inlineDescend action walked path) := by
  induction path generalizing walked with
  | nil => exact keeps
  | cons key path ih =>
    intro node next sound done
    unfold inlineTable.inlineDescend at done
    split at done
    case h_1 e => cases e
    case h_3 => cases done; exact sound
    case h_2 e =>
      cases e
      dsimp only at done
      split at done
      case h_1 absent =>
        obtain ⟨child, went, e⟩ := exists_of_bind_eq_ok done
        cases e
        exact sound.append absent (ih _ _ _ .empty went)
      case h_2 found =>
        obtain ⟨child, went, e⟩ := exists_of_bind_eq_ok done
        cases e
        exact sound.replace (ih _ _ _ (sound.find? found) went)
      case h_3 => cases done
      case h_4 => cases done

/-- An inline table of sound values is sound. -/
lemma inlineTable_sound {span : Span} {pairs : List (KeyPath × Key × Node)}
    (all : ∀ pair ∈ pairs, Sound document pair.2.2) (done : inlineTable span pairs = .ok node) :
    Sound document node := by
  unfold inlineTable at done
  generalize start : Node.table .inline (some span) [] = table at done
  have sound : Sound document table := start ▸ .empty
  clear start
  induction pairs generalizing table with
  | nil => cases done; exact sound
  | cons pair pairs ih =>
    obtain ⟨first, others⟩ := List.forall_mem_cons.mp all
    obtain ⟨table, one, rest⟩ := exists_of_bind_eq_ok done
    exact ih others table rest (inlineDescend_keeps (insertEntry_keeps first _ _ _) _ _ _ _ sound one)

namespace Draft
variable {key : Key} {owner : List String}

/-- Placing a sound table keeps the one around it sound. -/
lemma place_keeps (sound : Sound document node) (repeated : Bool) :
    Keeps (Sound document) (place repeated key node owner) := by
  intro table next tableSound done
  unfold place at done
  split at done
  case h_2 => cases done; exact tableSound
  case h_1 =>
    split at done
    case h_1 absent =>
      cases done
      refine tableSound.append absent ?_
      split
      case isTrue => exact .tables (List.forall_mem_singleton.mpr sound)
      case isFalse => exact sound
    case h_2 found =>
      split at done
      case isTrue => cases done; exact tableSound.replace ((tableSound.find? found).tables_append sound)
      case isFalse => cases done
    case h_3 => cases done

/-- Opening a table again keeps the one around it sound. -/
lemma reopen_keeps : Keeps (Sound document) (reopen key owner) := by
  intro table next sound done
  unfold reopen at done
  split at done
  case h_2 => cases done; exact sound
  case h_1 =>
    split at done
    case h_1 => cases done; exact sound
    case h_2 => cases done; exact sound.erase
    case h_3 => cases done

/-- A check for repeated tables changes nothing. -/
lemma checkRepeated_keeps : Keeps (Sound document) (checkRepeated key owner) := by
  intro table next sound done
  unfold checkRepeated at done
  split at done
  case h_2 => cases done; exact sound
  case h_1 =>
    split at done
    case h_1 absent => cases done; exact sound.append absent (.tables nofun)
    case h_2 found => cases done; exact sound.replace (sound.find? found)
    case h_3 => cases done

/-- A table is sound wherever it ends. -/
lemma stretch_sound (value : Node) (sound : Sound document node) :
    Sound document (stretch value node) := by
  unfold stretch
  split
  case h_2 => exact sound
  case h_1 =>
    split
    case h_1 => exact sound.reframe _ _
    case h_2 => exact sound

/-- A table that leads to a sound value is sound. -/
lemma entriesAt_sound {path : KeyPath} (sound : Sound document node) :
    Sound document (.table origin span (entriesAt key path node)) := by
  induction path generalizing node with
  | nil =>
    unfold entriesAt
    split
    case h_1 =>
      split
      case h_1 found => exact (sound.find? found).reframe _ _
      case h_2 => exact .empty
    case h_2 e => cases e
    case h_3 => exact .empty
  | cons step path ih =>
    unfold entriesAt
    split
    case h_1 e => cases e
    case h_2 e =>
      cases e
      split
      case h_1 found =>
        split
        case h_1 last => exact ih ((sound.find? found).getLast? last)
        case h_2 => exact .empty
      case h_2 found => exact ih (sound.find? found)
      case h_3 => exact .empty
    case h_3 => exact .empty

/-! ## Documents while they are read -/

/-- The tables of a document that is read are sound, the one that entries go to among them. -/
structure IsSound (document : List Char) (draft : Draft) : Prop where
  root : Sound document draft.root
  current : Sound document draft.current

variable {draft next : Draft}

/-- A draft stays sound with a sound entry. -/
lemma IsSound.addEntry (sound : draft.IsSound document) {path : KeyPath} {value : Node}
    (valueSound : Sound document value) (done : draft.addEntry path key value = .ok next) :
    next.IsSound document := by
  obtain ⟨current, went, e⟩ := exists_of_bind_eq_ok done
  cases e
  have keeps := insertEntry_keeps valueSound (some draft.path.names) (path ≠ []) key
  exact ⟨sound.root, descend_keeps keeps _ _ _ _ _ _ (stretch_sound value sound.current) went⟩

/-- The root of a sound draft is sound. -/
lemma IsSound.close (sound : draft.IsSound document) {root : Node} (done : draft.close = .ok root) :
    Sound document root := by
  unfold Draft.close at done
  split at done
  case h_1 => cases done; exact sound.current
  case h_2 => exact descend_keeps (place_keeps sound.current _) _ _ _ _ _ _ sound.root done

/-- A draft stays sound with a new table. -/
lemma IsSound.openTable (sound : draft.IsSound document) {repeated : Bool} {path : KeyPath}
    {span : Span} (done : draft.openTable repeated path span = .ok next) :
    next.IsSound document := by
  obtain ⟨root, closed, done⟩ := exists_of_bind_eq_ok done
  have rootSound := sound.close closed
  split at done
  case h_1 => cases done; exact sound
  case h_2 =>
    dsimp only at done
    split at done
    case isTrue =>
      obtain ⟨root, went, e⟩ := exists_of_bind_eq_ok done
      cases e
      exact ⟨descend_keeps checkRepeated_keeps _ _ _ _ _ _ rootSound went, .empty⟩
    case isFalse =>
      obtain ⟨root, went, e⟩ := exists_of_bind_eq_ok done
      cases e
      exact ⟨descend_keeps reopen_keeps _ _ _ _ _ _ rootSound went, entriesAt_sound rootSound⟩

end Draft

/-! ## Values -/

variable {cs rest : List Char}

/-- A scalar that is read as an integer is written as that integer, within its bounds. -/
lemma readScalar_integer {n : Int} (read : readScalar cs = .ok (.integer n, rest)) :
    ∃ text, cs = text ++ rest ∧ IntegerText text n ∧ minInteger ≤ n ∧ n ≤ maxInteger := by
  have word {word : String} {value : Scalar} (other : ∀ n, value ≠ .integer n) :
      readWord word value cs ≠ .ok (.integer n, rest) := by
    unfold readWord
    split
    case isTrue =>
      intro e
      exact other n (Prod.mk.inj (Except.ok.inj e)).1
    case isFalse => exact nofun
  unfold readScalar at read
  split at read
  case h_1 => cases read
  case h_2 =>
    split at read
    case isTrue =>
      obtain ⟨⟨text, rest⟩, -, e⟩ := exists_of_map_eq_ok read
      cases e
    case isFalse =>
      split at read
      case isTrue => exact readNumber_sound read
      case isFalse =>
        iterate 2
          split at read
          · cases read
        iterate 4
          split at read
          · exact absurd read (word nofun)
        cases read

section
variable {value : List Char → Scan Node}
  (value_suffix : ∀ {cs node rest}, value cs = .ok (node, rest) → rest <:+ cs)
  (value_sound : ∀ {cs node rest}, cs <:+ document → value cs = .ok (node, rest) → Sound document node)

include value_sound in
/-- A value behind an equals sign is sound. -/
lemma readAssigned_sound (part : cs <:+ document) (read : readAssigned value cs = .ok (node, rest)) :
    Sound document node := by
  unfold readAssigned at read
  split at read
  case h_1 others =>
    have part := (skipBlanks_suffix others).trans ((List.suffix_cons _ _).trans part)
    exact value_sound part (eq_ok_of_commit read)
  case h_2 => cases read

include value_suffix value_sound

/-- The items of an array are sound. -/
lemma readItems_sound {fuel : Nat} {items : List Node} (part : cs <:+ document)
    (read : readItems value fuel cs = .ok (items, rest)) : ∀ item ∈ items, Sound document item := by
  induction fuel generalizing cs items rest with
  | zero => cases read
  | succ fuel ih =>
    obtain ⟨start, skipped, read⟩ := exists_of_bind_eq_ok read
    have part := (skipBetween_suffix skipped).trans part
    split at read
    case h_1 =>
      split at read
      case isTrue => cases read
      case isFalse =>
        split at read
        case h_1 => cases read; exact nofun
        case h_2 => cases read
    case h_2 one =>
      have first := value_sound part one
      obtain ⟨after, between, read⟩ := exists_of_bind_eq_ok read
      have part := (skipBetween_suffix between).trans ((value_suffix one).trans part)
      split at read
      case h_1 =>
        obtain ⟨⟨items, rest⟩, others, read⟩ := exists_of_bind_eq_ok read
        cases read
        exact List.forall_mem_cons.mpr ⟨first, ih ((List.suffix_cons _ _).trans part) others⟩
      case h_2 => cases read; exact List.forall_mem_singleton.mpr first
      case h_3 => cases read

/-- The values of an inline table are sound. -/
lemma readPairs_sound {fuel : Nat} {pairs : List (KeyPath × Key × Node)} (part : cs <:+ document)
    (read : readPairs value fuel cs = .ok (pairs, rest)) :
    ∀ pair ∈ pairs, Sound document pair.2.2 := by
  induction fuel generalizing cs pairs rest with
  | zero => cases read; exact nofun
  | succ fuel ih =>
    unfold readPairs at read
    split at read
    case h_1 =>
      split at read
      case isTrue => cases read
      case isFalse => cases read; exact nofun
    case h_2 keys =>
      obtain ⟨⟨item, after⟩, assigned, read⟩ := exists_of_bind_eq_ok read
      have part := (readKeys_suffix keys).trans part
      have first := readAssigned_sound value_sound part assigned
      have part := (skipBlanks_suffix after).trans ((readAssigned_suffix value_suffix assigned).trans part)
      dsimp only at read
      split at read
      case h_1 e =>
        rw [e] at part
        obtain ⟨⟨pairs, rest⟩, others, read⟩ := exists_of_bind_eq_ok read
        dsimp only at read
        split at read
        case isTrue => cases read; exact List.forall_mem_singleton.mpr first
        case isFalse =>
          cases read
          exact List.forall_mem_cons.mpr ⟨first, ih ((List.suffix_cons _ _).trans part) others⟩
      case h_2 => cases read; exact List.forall_mem_singleton.mpr first

end

/-- Every value that is read is sound. -/
lemma readValue_sound {depth : Nat} (part : cs <:+ document)
    (read : readValue depth cs = .ok (node, rest)) : Sound document node := by
  have scalar {cs rest : List Char} {node : Node} (part : cs <:+ document)
      (read : (readScalar cs).map (fun r => (Node.scalar (.between cs r.2) r.1, r.2)) =
        .ok (node, rest)) : Sound document node := by
    obtain ⟨⟨value, rest⟩, single, e⟩ := exists_of_map_eq_ok read
    cases e
    refine .scalar fun n e => ?_
    cases e
    obtain ⟨before, rfl⟩ := part
    obtain ⟨text, rfl, written⟩ := readScalar_integer single
    exact ⟨before, text, rest, (List.append_assoc _ _ _).symm, rfl, written⟩
  induction depth generalizing cs node rest with
  | zero =>
    unfold readValue at read
    split at read
    case h_1 => cases read
    case h_2 => cases read
    case h_3 => exact scalar part read
  | succ depth ih =>
    unfold readValue at read
    split at read
    case h_1 => cases read; exact .array (List.forall_mem_nil _)
    case h_2 =>
      obtain ⟨⟨items, rest⟩, inside, read⟩ := exists_of_bind_eq_ok read
      cases read
      have part := (List.suffix_cons _ _).trans part
      exact .array (readItems_sound readValue_suffix ih part (eq_ok_of_commit inside))
    case h_3 =>
      obtain ⟨⟨pairs, after⟩, inside, read⟩ := exists_of_bind_eq_ok read
      have part := (List.suffix_cons _ _).trans part
      have all := readPairs_sound readValue_suffix ih part (eq_ok_of_commit inside)
      dsimp only at read
      split at read
      case h_1 => cases read
      case h_2 made =>
        split at read
        case h_1 => cases read; exact inlineTable_sound all made
        case h_2 => cases read
    case h_4 => exact scalar part read

end

/-! ## Lines -/

namespace Document
variable {document cs rest : List Char} {draft next : Draft}

/-- A draft stays sound with an entry that is read. -/
lemma readEntry_sound (sound : draft.IsSound document) (part : cs <:+ document)
    (read : readEntry draft cs = .ok (next, rest)) : next.IsSound document := by
  obtain ⟨⟨⟨path, key⟩, after⟩, keys, read⟩ := exists_of_bind_eq_ok read
  obtain ⟨⟨value, after⟩, assigned, read⟩ := exists_of_bind_eq_ok read
  obtain ⟨rest, -, read⟩ := exists_of_bind_eq_ok read
  split at read
  case h_1 added =>
    cases read
    have part := (readKeys_suffix (eq_ok_of_commit keys)).trans part
    exact sound.addEntry (readAssigned_sound readValue_sound part assigned) added
  case h_2 => cases read

/-- A draft stays sound with a header that is read. -/
lemma readHeader_sound (sound : draft.IsSound document)
    (read : readHeader draft cs = .ok (next, rest)) : next.IsSound document := by
  have body {start cs : List Char} {repeated : Bool} {brackets : String}
      (read : readHeaderBody draft start repeated brackets cs = .ok (next, rest)) :
      next.IsSound document := by
    obtain ⟨⟨⟨path, key⟩, after⟩, -, read⟩ := exists_of_bind_eq_ok read
    obtain ⟨behind, -, read⟩ := exists_of_bind_eq_ok read
    obtain ⟨rest, -, read⟩ := exists_of_bind_eq_ok read
    split at read
    case h_1 opened => cases read; exact sound.openTable opened
    case h_2 => cases read
  have read := eq_ok_of_labelled read
  split at read
  case h_1 => exact body read
  case h_2 => exact body read
  case h_3 => cases read

/-- A draft stays sound to the end of the document. -/
lemma readLines_sound {fuel : Nat} (sound : draft.IsSound document) (part : cs <:+ document)
    (read : readLines fuel draft cs = .ok next) : next.IsSound document := by
  induction fuel generalizing draft cs with
  | zero => cases read; exact sound
  | succ fuel ih =>
    have part := (skipBlanks_suffix cs).trans part
    unfold readLines at read
    split at read
    case h_1 => cases read; exact sound
    case h_2 e =>
      rw [e] at part
      dsimp only at read
      split at read
      case h_1 found =>
        exact ih sound ((lineEnd?_suffix found).trans <| (List.dropWhile_suffix _).trans <|
          (List.suffix_cons _ _).trans part) read
      case h_2 => cases read
    case h_3 e =>
      rw [e] at part
      exact ih sound ((List.suffix_cons _ _).trans part) read
    case h_4 e =>
      rw [e] at part
      exact ih sound ((List.suffix_append [_, _] _).trans part) read
    case h_5 => cases read
    case h_6 e =>
      rw [e] at part
      split at read
      case h_1 header =>
        exact ih (readHeader_sound sound header) ((readHeader_suffix header).trans part) read
      case h_2 => cases read
    case h_7 =>
      split at read
      case h_1 entry =>
        exact ih (readEntry_sound sound part entry) ((readEntry_suffix entry).trans part) read
      case h_2 => cases read

/-- What is read of a document is sound. -/
theorem read_sound {text : String} {root : Node} (read : Document.read text = .ok root) :
    Sound text.toList root := by
  have part : dropByteOrderMark text.toList <:+ text.toList := by
    unfold dropByteOrderMark
    split
    case h_1 e => rw [e]; exact List.suffix_cons _ _
    case h_2 => exact List.suffix_refl _
  have start : (Draft.start (octets text.toList)).IsSound text.toList := ⟨.empty, .empty⟩
  simp only [Document.read] at read
  split at read
  case h_1 => cases read
  case h_2 lines =>
    have sound := readLines_sound start part lines
    split at read
    case h_1 closed => cases read; exact sound.close closed
    case h_2 => cases read

end Document
end RecipientCallout.Toml
