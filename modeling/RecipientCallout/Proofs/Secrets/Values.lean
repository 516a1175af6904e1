import RecipientCallout.Proofs.Secrets.Blocks
import RecipientCallout.Proofs.Secrets.Keys

/-!
# Values in documents that differ in secrets

Values are read alike in both copies of a document: the same halt at the same place, or values that are
the same but for secrets. A secret is read without complaint in each copy, as a text.
-/

namespace RecipientCallout.Toml
open RecipientCallout.Text

variable {d : Copies} {s s' : List Char} {hidden : Bool}

/-- What agrees does so where there is no way back. -/
lemma Copies.Reads.commit {α α' : Type} {R : α → α' → Prop} {result : Except Halt α}
    {result' : Except Halt α'} (read : d.Reads R result result') :
    d.Reads R (commit result) (commit result') := by
  cases read with
  | ok related => exact .ok related
  | error halts => exact .error ⟨halts.place, halts.complaint, rfl⟩

/-! ## Reading with fuel -/

/-- Induction on the fuel of two readers that start at the same place. A reader is only out of fuel where
nothing is left, and there it is in both documents. -/
lemma Copies.fuel_induction {H : List Char → List Char → Prop}
    {P : Nat → List Char → Nat → List Char → Prop}
    (level : ∀ s s', H s s' → d.Level s s')
    (nil : ∀ fuel fuel', H [] [] → P fuel [] fuel' [])
    (step : ∀ fuel s fuel' s', H s s' → s.length ≤ fuel + 1 → s'.length ≤ fuel' + 1 →
      (∀ t t', H t t' → t.length ≤ fuel → t'.length ≤ fuel' → P fuel t fuel' t') →
      P (fuel + 1) s (fuel' + 1) s')
    {fuel fuel' : Nat} (here : H s s') (enough : s.length ≤ fuel) (enough' : s'.length ≤ fuel') :
    P fuel s fuel' s' := by
  induction fuel generalizing fuel' s s' with
  | zero =>
    obtain rfl := List.length_eq_zero_iff.mp (Nat.le_zero.mp enough)
    obtain ⟨_, place⟩ := level _ _ here
    obtain rfl := place.eq_nil
    exact nil _ _ here
  | succ fuel ih =>
    cases fuel' with
    | zero =>
      obtain rfl := List.length_eq_zero_iff.mp (Nat.le_zero.mp enough')
      obtain ⟨_, place⟩ := level _ _ here
      obtain rfl := place.swap.eq_nil
      exact nil _ _ here
    | succ fuel' => exact step _ _ _ _ here enough enough' fun t t' there less less' => ih there less less'

/-! ## Values without parts -/

/-- Nothing is read as a word that does not begin with it. -/
lemma readWord_none {word : String} {cs : List Char} (other : ∀ rest, cs ≠ word.toList ++ rest)
    (value : Scalar) : readWord word value cs = Halt.fail cs (some "string") quotesExpected := by
  rw [readWord, if_neg]
  intro begins
  obtain ⟨rest, rfl⟩ := List.isPrefixOf_iff_prefix.mp begins
  exact other rest rfl

namespace Copies

/-- The same word is read. -/
lemma Open.reads_readWord (here : d.Open s s') {word : String}
    (ordinary : word.toList.all isOrdinary = true) (value : Scalar) :
    d.Reads d.Told (readWord word value s) (readWord word value s') := by
  obtain ⟨t, t', rfl, rfl, there⟩ | ⟨other, other'⟩ := here.begins_or word.toList ordinary
  · have begins (cs : List Char) : word.toList.isPrefixOf (word.toList ++ cs) = true :=
      List.isPrefixOf_iff_prefix.mpr (List.prefix_append _ _)
    rw [readWord, readWord, if_pos (begins t), if_pos (begins t'), ← String.length_toList,
      List.drop_left, List.drop_left]
    exact .ok ⟨rfl, there⟩
  · rw [readWord_none other, readWord_none other']
    exact here.level.fail

/-- The same scalar is read. -/
lemma Open.reads_readScalar (here : d.Open s s') :
    d.Reads d.Told (readScalar s) (readScalar s') := by
  have level := here.level
  cases s with
  | nil =>
    obtain rfl := here.eq_nil
    exact level.pass
  | cons c s =>
    have stay := here
    obtain ⟨past, here⟩ := here
    obtain ⟨t', rfl, next⟩ := here.cons rfl
    simp only [readScalar]
    split_ifs with quote
    case pos =>
      have opening : (Mode.plain past).step c = .opening c (past ++ [c]) := if_pos quote
      rw [opening] at next
      exact (next.reads_readText quote).map fun _ _ told => ⟨by rw [told.1], told.2⟩
    · exact stay.reads_readNumber
    · exact level.pass
    · exact level.pass
    · exact stay.reads_readWord (by decide) _
    · exact stay.reads_readWord (by decide) _
    · exact stay.reads_readWord (by decide) _
    · exact stay.reads_readWord (by decide) _
    · exact level.pass

/-! ## Blanks, line ends and comments -/

/-- Behind a comment there is the same line end, or none. -/
lemma At.comment (here : d.At .comment s s') :
    d.Level (s.dropWhile isCommentChar) (s'.dropWhile isCommentChar) ∧
      Option.Rel (fun t t' => d.At (.plain []) t t' ∧ t.length ≤ s.length ∧ t'.length ≤ s'.length)
        (newline? (s.dropWhile isCommentChar)) (newline? (s'.dropWhile isCommentChar)) := by
  have there := here.dropWhile (p := isCommentChar) rfl fun c kind => if_neg (by rintro rfl; cases kind)
  refine ⟨there.level, ?_⟩
  have found := there.lineEnd (.plain []) rfl rfl rfl rfl
  have less := (List.dropWhile_suffix isCommentChar (l := s)).length_le
  have less' := (List.dropWhile_suffix isCommentChar (l := s')).length_le
  generalize newline? (s.dropWhile isCommentChar) = rest at found ⊢
  generalize newline? (s'.dropWhile isCommentChar) = rest' at found ⊢
  cases found with
  | none => exact .none
  | some there => exact .some ⟨there.1, by omega, by omega⟩

/-- A line ends in both copies or in neither. -/
lemma Open.lineEnd (here : d.Open s s') :
    Option.Rel (fun t t' => d.At (.plain []) t t' ∧ t.length < s.length ∧ t'.length < s'.length)
      (newline? s) (newline? s') := by
  obtain ⟨past, here⟩ := here
  exact here.lineEnd (.plain []) rfl rfl rfl rfl

end Copies

section
variable {fuel : Nat} {cs rest : List Char} {c : Char}

/-- Between items, a comment is skipped with the end of its line. -/
lemma skipBetween_comment (start : skipBlanks cs = '#' :: rest) :
    skipBetween (fuel + 1) cs =
      match newline? (rest.dropWhile isCommentChar) with
      | some after => skipBetween fuel after
      | none => Halt.fail (rest.dropWhile isCommentChar) none [] := by
  cases found : newline? (rest.dropWhile isCommentChar) with
  | none => simp only [skipBetween, start, found]
  | some after => simp only [skipBetween, start, found]

/-- Between items, anything else ends what is skipped, unless a line ends there. -/
lemma skipBetween_other (start : skipBlanks cs = c :: rest) (sharp : c ≠ '#') :
    skipBetween (fuel + 1) cs =
      match newline? (c :: rest) with
      | some after => skipBetween fuel after
      | none => if c = '\r' then Halt.fail rest none [] else .ok (c :: rest) := by
  simp only [skipBetween, start]
  by_cases lineFeed : c = '\n'
  case pos => subst lineFeed; rfl
  by_cases both : c = '\r' ∧ rest.head? = some '\n'
  case pos =>
    obtain ⟨rfl, next⟩ := both
    obtain ⟨rest, rfl⟩ := List.head?_eq_some_iff.mp next
    rfl
  rw [newline?_none lineFeed (fun e next => both ⟨e, next⟩)]
  split
  case h_1 e => exact absurd (List.cons.inj e).1 sharp
  case h_2 e => exact absurd (List.cons.inj e).1 lineFeed
  case h_3 e => exact absurd ⟨(List.cons.inj e).1, by rw [(List.cons.inj e).2]; rfl⟩ both
  case h_4 e => rw [if_pos (List.cons.inj e).1, (List.cons.inj e).2]
  case h_5 other => rw [if_neg fun e => other _ (by rw [e])]

end

namespace Copies

/-- What may stand between items is skipped in both copies. -/
lemma Open.reads_skipBetween {fuel fuel' : Nat} (here : d.Open s s') (enough : s.length ≤ fuel)
    (enough' : s'.length ≤ fuel') :
    d.Reads d.Open (skipBetween fuel s) (skipBetween fuel' s') := by
  have nil (fuel : Nat) : skipBetween fuel [] = .ok [] := by cases fuel <;> rfl
  refine fuel_induction (H := d.Open)
    (P := fun fuel s fuel' s' => d.Reads d.Open (skipBetween fuel s) (skipBetween fuel' s'))
    (fun _ _ here => here.level) ?nil ?step here enough enough'
  case nil =>
    intro fuel fuel' here
    rw [nil, nil]
    exact .ok here
  case step =>
    intro fuel s fuel' s' here enough enough' ih
    have there := here.skipBlanks
    have less := (skipBlanks_suffix s).length_le
    have less' := (skipBlanks_suffix s').length_le
    generalize start : Toml.skipBlanks s = b at there less
    generalize start' : Toml.skipBlanks s' = b' at there less'
    cases b with
    | nil =>
      obtain rfl := there.eq_nil
      simp only [skipBetween, start, start']
      exact .ok there
    | cons c b =>
      have stay := there
      have found := there.lineEnd
      obtain ⟨t', rfl, after, -⟩ := there.cons
      simp only [List.length_cons] at less less' found
      by_cases sharp : c = '#'
      case pos =>
        subst sharp
        obtain ⟨past, there⟩ := stay
        obtain ⟨_, ⟨⟩, next⟩ := there.cons rfl
        obtain ⟨level, found⟩ := At.comment next
        rw [skipBetween_comment start, skipBetween_comment start']
        generalize newline? (b.dropWhile isCommentChar) = rest at found ⊢
        generalize newline? (t'.dropWhile isCommentChar) = rest' at found ⊢
        cases found with
        | none => exact level.fail
        | some there => exact ih _ _ ⟨[], there.1⟩ (by omega) (by omega)
      case neg =>
        rw [skipBetween_other start sharp, skipBetween_other start' sharp]
        generalize newline? (c :: b) = rest at found ⊢
        generalize newline? (c :: t') = rest' at found ⊢
        cases found with
        | some there => exact ih _ _ ⟨[], there.1⟩ (by omega) (by omega)
        | none =>
          dsimp only
          split
          case isTrue => exact after.fail
          case isFalse => exact .ok stay

/-! ## Values -/

/-- The same value but for secrets, and the same open place behind it. -/
def SameNode (d : Copies) (hidden : Bool) (r r' : Node × List Char) : Prop :=
  r.1.view d.view hidden = r'.1.view d.view' hidden ∧ d.Open r.2 r'.2

/-- A reader of values that reads alike where no secret stands, and reads every secret. -/
structure Follows (d : Copies) (value : List Char → Scan Node) : Prop where
  plain {s s' : List Char} : d.Open s s' → d.Reads (d.SameNode false) (value s) (value s')
  secret {p text : List Char} (rest : List Char) : BasicText p text → p ≠ [] →
    value ('"' :: p ++ '"' :: rest) =
      .ok (.scalar (.between ('"' :: p ++ '"' :: rest) rest) (.text (String.ofList text)), rest)
  nothing : value [] = Halt.pass [] none []
  suffix {cs rest : List Char} {node : Node} : value cs = .ok (node, rest) → rest <:+ cs

end Copies

/-- What a node shows if it stands under the key of the secrets. -/
def Node.hide : Node → Node
  | .scalar span value => .scalar span (value.view true)
  | node => node

/-- A view hides a node or shows it. -/
lemma Node.hide_view (v : View) (hidden : Bool) (node : Node) :
    (if hidden then (node.view v false).hide else node.view v false) = node.view v hidden := by
  cases hidden with
  | false => rfl
  | true =>
    cases node with
    | scalar span value => cases value <;> simp [hide, Scalar.view]
    | _ => simp [hide]

/-- A value has to come behind an equals sign. -/
lemma readAssigned_other {c : Char} (ne : c ≠ '=') (value : List Char → Scan Node) (cs : List Char) :
    readAssigned value (c :: cs) = Halt.fail (c :: cs) none ["`.`", "`=`"] := by
  rw [readAssigned]
  intro rest e
  exact ne (List.cons.inj e).1

namespace Copies

/-- Nodes that are seen to be the same are so where they are hidden. -/
lemma SameNode.under {r r' : Node × List Char} (same : d.SameNode false r r') : d.SameNode hidden r r' := by
  refine ⟨?_, same.2⟩
  rw [← Node.hide_view d.view, ← Node.hide_view d.view', same.1]

/-- Behind a key, values are read that may differ only if the key is the secret one. -/
lemma Behind.reads_readAssigned {value : List Char → Scan Node} (follows : d.Follows value) {name : String}
    (here : d.Behind name s s') :
    d.Reads (d.SameNode (name == d.key)) (readAssigned value s) (readAssigned value s') := by
  have level := here.level
  cases s with
  | nil =>
    obtain rfl := here.eq_nil
    exact level.fail
  | cons c s =>
    obtain ⟨t', rfl, next⟩ := here.cons
    by_cases equals : c = '='
    case neg =>
      rw [readAssigned_other equals, readAssigned_other equals]
      exact level.fail
    case pos =>
      subst equals
      obtain ⟨past, there, named⟩ := next (by decide) (by decide)
      have start := At.assigned_blanks there
      have begins : ∀ c, (Toml.skipBlanks s).head? = some c → isBlank c = false := by
        intro c first
        have stops := List.head?_dropWhile_not isBlank s
        rw [← Toml.skipBlanks, first] at stops
        exact stops
      simp only [readAssigned]
      obtain plain | ⟨p, p', text, text', t, t', e, e', key, written, written', some, some', after⟩ :=
        start.secret_or_open begins
      case inl => exact (follows.plain plain).commit.imp fun _ _ => SameNode.under
      case inr =>
        have same := start.span_eq t t'
        obtain rfl := named _ key
        rw [e, e'] at same ⊢
        rw [follows.secret t written some, follows.secret t' written' some']
        exact .ok ⟨by simpa [Scalar.view] using same, after⟩

/-- The same values of an array, and the same open place behind them. -/
def SameItems (d : Copies) (r r' : List Node × List Char) : Prop :=
  r.1.map (Node.view d.view false) = r'.1.map (Node.view d.view' false) ∧ d.Open r.2 r'.2

/-- Behind an item: a comma and further items, the end of the array, or neither. -/
lemma Open.reads_moreItems {value : List Char → Scan Node} {fuel fuel' : Nat} {item item' : Node}
    (same : item.view d.view false = item'.view d.view' false) :
    d.Open s s' →
    (∀ t t', s = ',' :: t → s' = ',' :: t' → d.Open t t' →
      d.Reads d.SameItems (readItems value fuel t) (readItems value fuel' t')) →
    d.Reads d.SameItems
      (match s with
        | ',' :: rest => (readItems value fuel rest).bind fun (items, rest) => .ok (item :: items, rest)
        | ']' :: rest => .ok ([item], rest)
        | rest => Halt.fail rest (some "array") ["`]`"])
      (match s' with
        | ',' :: rest => (readItems value fuel' rest).bind fun (items, rest) => .ok (item' :: items, rest)
        | ']' :: rest => .ok ([item'], rest)
        | rest => Halt.fail rest (some "array") ["`]`"]) := by
  intro here more
  have level := here.level
  obtain ⟨rest, rest', rfl, rfl, after⟩ | ⟨comma, comma'⟩ := here.begins_or [','] (by decide)
  · refine (more _ _ rfl rfl after).bind fun r r' others => .ok ⟨?_, others.2⟩
    rw [List.map_cons, List.map_cons, same, others.1]
  obtain ⟨rest, rest', rfl, rfl, after⟩ | ⟨close, close'⟩ := here.begins_or [']'] (by decide)
  · exact .ok ⟨by rw [List.map_singleton, List.map_singleton, same], after⟩
  · split
    case h_1 => exact absurd rfl (comma _)
    case h_2 => exact absurd rfl (close _)
    case h_3 =>
      split
      case h_1 => exact absurd rfl (comma' _)
      case h_2 => exact absurd rfl (close' _)
      case h_3 => exact level.fail

/-- The same items are read. -/
lemma Open.reads_readItems {value : List Char → Scan Node} (follows : d.Follows value)
    {fuel fuel' : Nat} (here : d.Open s s') (enough : s.length ≤ fuel) (enough' : s'.length ≤ fuel') :
    d.Reads d.SameItems (readItems value fuel s) (readItems value fuel' s') := by
  have nil (fuel : Nat) : readItems value fuel [] = Halt.fail [] (some "array") ["`]`"] := by
    cases fuel with
    | zero => rfl
    | succ fuel =>
      simp only [readItems, skipBetween, List.length_nil, bind, Except.bind, follows.nothing]
      rfl
  refine fuel_induction (H := d.Open)
    (P := fun fuel s fuel' s' => d.Reads d.SameItems (readItems value fuel s) (readItems value fuel' s'))
    (fun _ _ here => here.level) ?nil ?step here enough enough'
  case nil =>
    intro fuel fuel' here
    rw [nil, nil]
    exact here.level.fail
  case step =>
    intro fuel s fuel' s' here enough enough' ih
    simp only [readItems]
    have between := here.reads_skipBetween (Nat.le_refl _) (Nat.le_refl _)
    generalize e : skipBetween s.length s = first at between ⊢
    generalize e' : skipBetween s'.length s' = first' at between ⊢
    cases between with
    | error halts => exact .error halts
    | @ok t t' there =>
      have less := (skipBetween_suffix e).length_le
      have less' := (skipBetween_suffix e').length_le
      have read := follows.plain there
      simp only [bind, Except.bind]
      generalize e : value t = result at read ⊢
      generalize e' : value t' = result' at read ⊢
      cases read with
      | @error h h' halts =>
        dsimp only
        rw [halts.committed]
        split
        case isTrue => exact .error halts
        case isFalse =>
          have level := there.level
          obtain ⟨rest, rest', rfl, rfl, after⟩ | ⟨other, other'⟩ := there.begins_or [']'] (by decide)
          · exact .ok ⟨rfl, after⟩
          · split
            case h_1 => exact absurd rfl (other _)
            case h_2 =>
              split
              case h_1 => exact absurd rfl (other' _)
              case h_2 => exact level.fail
      | @ok r r' same =>
        obtain ⟨item, rest⟩ := r
        obtain ⟨item', rest'⟩ := r'
        obtain ⟨same, behind⟩ := same
        have shorter := (follows.suffix e).length_le
        have shorter' := (follows.suffix e').length_le
        dsimp only at same behind ⊢
        have between := behind.reads_skipBetween (Nat.le_refl _) (Nat.le_refl _)
        generalize e : skipBetween rest.length rest = next at between ⊢
        generalize e' : skipBetween rest'.length rest' = next' at between ⊢
        cases between with
        | error halts => exact .error halts
        | @ok b b' there =>
          have least := (skipBetween_suffix e).length_le
          have least' := (skipBetween_suffix e').length_le
          refine Open.reads_moreItems same there fun t t' e e' after => ih _ _ after ?_ ?_
          · rw [e, List.length_cons] at least
            omega
          · rw [e', List.length_cons] at least'
            omega

/-- The same entries of a table in braces, and the same open place behind them. -/
def SamePairs (d : Copies) (r r' : List (KeyPath × Key × Node) × List Char) : Prop :=
  r.1.map d.view.pair = r'.1.map d.view'.pair ∧ d.Open r.2 r'.2

/-- A place where a key can begin is open. -/
lemma Fresh.isOpen (here : d.Fresh s s') : d.Open s s' := by
  obtain ⟨past, -, here⟩ := here
  exact ⟨past, here⟩

/-- Behind a sign nothing stands yet. -/
lemma Open.fresh {c : Char} (here : d.Open (c :: s) (c :: s'))
    (sign : ∀ past, (Mode.plain past).step c = .plain []) : d.Fresh s s' := by
  obtain ⟨past, here⟩ := here
  obtain ⟨t', e, next⟩ := here.cons rfl
  obtain rfl := (List.cons.inj e).2
  exact At.fresh (sign past ▸ next)

/-- Behind an entry: a comma and further entries, or the end. -/
lemma Open.reads_morePairs {value : List Char → Scan Node} {fuel fuel' : Nat}
    {pair pair' : KeyPath × Key × Node} (same : d.view.pair pair = d.view'.pair pair') :
    d.Open s s' →
    (∀ t t', s = ',' :: t → s' = ',' :: t' → d.Fresh t t' →
      d.Reads d.SamePairs (readPairs value fuel t) (readPairs value fuel' t')) →
    d.Reads d.SamePairs
      (match s with
        | ',' :: after =>
          (readPairs value fuel after).bind fun (pairs, rest) =>
            if pairs.isEmpty then .ok ([pair], ',' :: after) else .ok (pair :: pairs, rest)
        | rest => .ok ([pair], rest))
      (match s' with
        | ',' :: after =>
          (readPairs value fuel' after).bind fun (pairs, rest) =>
            if pairs.isEmpty then .ok ([pair'], ',' :: after) else .ok (pair' :: pairs, rest)
        | rest => .ok ([pair'], rest)) := by
  intro here more
  obtain ⟨rest, rest', rfl, rfl, -⟩ | ⟨other, other'⟩ := here.begins_or [','] (by decide)
  · refine (more _ _ rfl rfl (here.fresh fun _ => rfl)).bind fun r r' others => ?_
    -- A comma without an entry behind it is left, and in both documents alike.
    have empty : r'.1.isEmpty = r.1.isEmpty := by
      rw [← List.isEmpty_map (f := d.view'.pair), ← others.1, List.isEmpty_map]
    dsimp only
    rw [empty]
    split
    case isTrue => exact .ok ⟨by rw [List.map_singleton, List.map_singleton, same], here⟩
    case isFalse => exact .ok ⟨by rw [List.map_cons, List.map_cons, same, others.1], others.2⟩
  · split
    case h_1 => exact absurd rfl (other _)
    case h_2 =>
      split
      case h_1 => exact absurd rfl (other' _)
      case h_2 => exact .ok ⟨by rw [List.map_singleton, List.map_singleton, same], here⟩

/-- The same pairs are read. -/
lemma Fresh.reads_readPairs {value : List Char → Scan Node} (follows : d.Follows value)
    {fuel fuel' : Nat} (here : d.Fresh s s') (enough : s.length ≤ fuel) (enough' : s'.length ≤ fuel') :
    d.Reads d.SamePairs (readPairs value fuel s) (readPairs value fuel' s') := by
  have nil (fuel : Nat) : readPairs value fuel [] = .ok ([], []) := by cases fuel <;> rfl
  refine fuel_induction (H := d.Fresh)
    (P := fun fuel s fuel' s' => d.Reads d.SamePairs (readPairs value fuel s) (readPairs value fuel' s'))
    (fun _ _ here => here.level) ?nil ?step here enough enough'
  case nil =>
    intro fuel fuel' here
    rw [nil, nil]
    exact .ok ⟨rfl, here.isOpen⟩
  case step =>
    intro fuel s fuel' s' here enough enough' ih
    have keys := here.reads_readKeys
    simp only [readPairs]
    generalize e : readKeys s = result at keys ⊢
    generalize e' : readKeys s' = result' at keys ⊢
    cases keys with
    | @error h h' halts =>
      dsimp only
      rw [halts.committed]
      split
      case isTrue => exact .error halts
      case isFalse => exact .ok ⟨rfl, here.isOpen⟩
    | @ok r r' same =>
      obtain ⟨⟨path, key⟩, rest⟩ := r
      obtain ⟨⟨path', key'⟩, rest'⟩ := r'
      obtain ⟨paths, keys, behind⟩ := same
      have less := readKeys_length e
      have less' := readKeys_length e'
      have assigned := behind.reads_readAssigned follows
      dsimp only at paths keys assigned ⊢
      generalize e : readAssigned value rest = result at assigned ⊢
      generalize e' : readAssigned value rest' = result' at assigned ⊢
      cases assigned with
      | error halts => exact .error halts
      | @ok r r' same =>
        obtain ⟨item, after⟩ := r
        obtain ⟨item', after'⟩ := r'
        obtain ⟨same, there⟩ := same
        have shorter := (readAssigned_suffix follows.suffix e).length_le
        have shorter' := (readAssigned_suffix follows.suffix e').length_le
        have blanks := (skipBlanks_suffix after).length_le
        have blanks' := (skipBlanks_suffix after').length_le
        have entry : d.view.pair (path, key, item) = d.view'.pair (path', key', item') := by
          have name : (d.view.key key).name = (d.view'.key key').name := congrArg Key.name keys
          simp only [View.key_name] at name
          simp only [View.pair, View.entry, paths, keys, ← name]
          exact congrArg _ (congrArg _ same)
        refine Open.reads_morePairs entry there.skipBlanks fun t t' e e' fresh => ih _ _ fresh ?_ ?_
        · rw [e, List.length_cons] at blanks
          omega
        · rw [e', List.length_cons] at blanks'
          omega

/-- A value without parts as a node. -/
def readLeaf (cs : List Char) : Scan Node :=
  (readScalar cs).map fun (value, rest) => (.scalar (.between cs rest) value, rest)

/-- The same value is read if it is no array and no table. -/
lemma Open.reads_readLeaf (here : d.Open s s') : d.Reads (d.SameNode false) (readLeaf s) (readLeaf s') := by
  obtain ⟨past, at'⟩ := id here
  refine here.reads_readScalar.map fun r r' told => ⟨?_, told.2⟩
  rw [Node.view_scalar, Node.view_scalar, told.1, at'.span_eq r.2 r'.2]

/-- Without a bracket or a brace in front, a value is neither. -/
lemma readValue_leaf {c : Char} (bracket : c ≠ '[') (brace : c ≠ '\x7b') (depth : Nat) (cs : List Char) :
    readValue depth (c :: cs) = readLeaf (c :: cs) := by
  cases depth with
  | zero =>
    rw [readValue]
    · rfl
    · exact fun _ e => bracket (List.cons.inj e).1
    · exact fun _ e => brace (List.cons.inj e).1
  | succ depth =>
    rw [readValue]
    · rfl
    · exact fun _ e => bracket (List.cons.inj e).1
    · exact fun _ e => bracket (List.cons.inj e).1
    · exact fun _ e => brace (List.cons.inj e).1

/-- A bracket opens an array. -/
lemma readValue_array {cs : List Char} (some : ∀ rest, cs ≠ [']'] ++ rest) (depth : Nat) :
    readValue (depth + 1) ('[' :: cs) =
      (commit (readItems (readValue depth) cs.length cs)).bind fun (items, rest) =>
        .ok (.array (.between ('[' :: cs) rest) items, rest) := by
  rw [readValue]
  · rfl
  · exact some

/-- The same array is read. -/
lemma Open.reads_array {depth : Nat} (follows : d.Follows (readValue depth))
    (here : d.Open ('[' :: s) ('[' :: s')) :
    d.Reads (d.SameNode false) (readValue (depth + 1) ('[' :: s)) (readValue (depth + 1) ('[' :: s')) := by
  obtain ⟨past, at'⟩ := id here
  have there : d.Open s s' := (here.fresh fun _ => rfl).isOpen
  obtain ⟨rest, rest', rfl, rfl, after⟩ | ⟨some, some'⟩ := there.begins_or [']'] (by decide)
  · have span := at'.span_eq rest rest'
    refine .ok ⟨?_, after⟩
    rw [Node.view_array, Node.view_array]
    exact congrArg (Node.array · []) span
  · have items := (there.reads_readItems follows (Nat.le_refl _) (Nat.le_refl _)).commit
    rw [readValue_array some, readValue_array some']
    refine items.bind fun r r' same => .ok ⟨?_, same.2⟩
    rw [Node.view_array, Node.view_array, at'.span_eq r.2 r'.2, same.1]

/-- The same inline table is read. -/
lemma Open.reads_inlineTable {depth : Nat} (follows : d.Follows (readValue depth))
    (here : d.Open ('\x7b' :: s) ('\x7b' :: s')) :
    d.Reads (d.SameNode false) (readValue (depth + 1) ('\x7b' :: s))
      (readValue (depth + 1) ('\x7b' :: s')) := by
  obtain ⟨past, at'⟩ := id here
  have fresh : d.Fresh s s' := here.fresh fun _ => rfl
  refine (fresh.reads_readPairs follows (Nat.le_refl _) (Nat.le_refl _)).commit.bind fun r r' same => ?_
  obtain ⟨pairs, after⟩ := r
  obtain ⟨pairs', after'⟩ := r'
  obtain ⟨same, there⟩ := same
  dsimp only at same there ⊢
  have close := there.skipBlanks
  have span := at'.span_eq (Toml.skipBlanks after).tail (Toml.skipBlanks after').tail
  have table := inlineTable_view d.view false (.between ('\x7b' :: s) (Toml.skipBlanks after).tail) pairs
  rw [span, same, inlineTable_view d.view' false] at table
  generalize inlineTable (.between ('\x7b' :: s) (Toml.skipBlanks after).tail) pairs = made at table ⊢
  generalize inlineTable (.between ('\x7b' :: s') (Toml.skipBlanks after').tail) pairs' = made' at table ⊢
  generalize Toml.skipBlanks after = place at close ⊢
  generalize Toml.skipBlanks after' = place' at close ⊢
  cases Agree.of_map_eq table.symm with
  | error same => exact same ▸ fresh.level.because
  | ok same =>
    have level := close.level
    obtain ⟨rest, rest', rfl, rfl, after⟩ | ⟨other, other'⟩ := close.begins_or ['\x7d'] (by decide)
    · exact .ok ⟨same, after⟩
    · dsimp only
      split
      case h_1 => exact absurd rfl (other _)
      case h_2 =>
        split
        case h_1 => exact absurd rfl (other' _)
        case h_2 => exact level.fail

/-- The same value is read, if that holds of what is nested in it. -/
lemma Open.reads_readValue {depth : Nat} (follows : ∀ less < depth, d.Follows (readValue less))
    (here : d.Open s s') :
    d.Reads (d.SameNode false) (readValue depth s) (readValue depth s') := by
  have level := here.level
  cases s with
  | nil =>
    obtain rfl := here.eq_nil
    cases depth <;> exact level.pass
  | cons c s =>
    have stay := here
    obtain ⟨t', rfl, -⟩ := here.cons
    by_cases bracket : c = '['
    case pos =>
      subst bracket
      cases depth with
      | zero => exact level.because
      | succ depth => exact stay.reads_array (follows depth (Nat.lt_succ_self _))
    by_cases brace : c = '\x7b'
    case pos =>
      subst brace
      cases depth with
      | zero => exact level.because
      | succ depth => exact stay.reads_inlineTable (follows depth (Nat.lt_succ_self _))
    rw [readValue_leaf bracket brace, readValue_leaf bracket brace]
    exact stay.reads_readLeaf

/-- The same value is read at any depth. -/
lemma follows_readValue (d : Copies) (depth : Nat) : d.Follows (readValue depth) := by
  induction depth using Nat.strongRecOn with
  | ind depth ih =>
    refine ⟨fun here => here.reads_readValue ih, ?_, ?_, readValue_suffix⟩
    · intro p text rest written some
      have read : readScalar ('"' :: p ++ '"' :: rest) = .ok (.text (String.ofList text), rest) := by
        rw [List.cons_append, readScalar, if_pos (.inl rfl), ← List.cons_append,
          readText_secret written some]
        rfl
      rw [List.cons_append, readValue_leaf (by decide) (by decide), readLeaf, ← List.cons_append, read]
      rfl
    · cases depth <;> rfl

end Copies
end RecipientCallout.Toml
