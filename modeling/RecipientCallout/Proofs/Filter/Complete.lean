import RecipientCallout.Proofs.Filter.Sound
import RecipientCallout.Proofs.Text.Separators

/-!
# What the reader of search filters finds

The reader of filters finds whatever the grammar derives, provided that no character is kept as nothing.
Its parts take as much text as they can, so that each lemma asks what may follow: behind a name no
further character of names, behind a comparison only a closing parenthesis, behind a list of filters no
further one. With the other direction this gives the headline `parseWith?_eq_some_iff`.
-/

namespace RecipientCallout.Filter
open RecipientCallout.Text

/-- A number is read up to the first character that is no digit. -/
lemma readNumber?_complete {digits rest} (number : NumberText digits)
    (stop : ∀ c ∈ rest.head?, isDigit c = false) :
    readNumber? (digits ++ rest) = some (digits, rest) := by
  unfold readNumber?
  rw [takeWhile_append_of_stop number.isDigit stop, dropWhile_append_of_stop number.isDigit stop]
  split
  case h_1 => exact absurd rfl number.ne_nil
  case h_2 => rfl
  case h_3 tail other => exact absurd (List.cons.inj (number.zero rfl)).2 other
  case h_4 => rfl

/-- No digit follows where further numbers may begin. -/
lemma ArcsText.digit_stop {arcs rest} (arcsText : ArcsText arcs)
    (stop : ∀ c ∈ rest.head?, isDigit c = false ∧ c ≠ '.') :
    ∀ c ∈ (arcs ++ rest).head?, isDigit c = false := by
  intro c first
  cases arcsText with
  | nil => exact (stop c first).1
  | cons =>
    cases first
    decide

/-- Further numbers are read up to the first character that is no digit and no dot. -/
lemma readArcs_complete {arcs rest} (arcsText : ArcsText arcs)
    (stop : ∀ c ∈ rest.head?, isDigit c = false ∧ c ≠ '.') {fuel} (enough : arcs.length ≤ fuel) :
    readArcs fuel (arcs ++ rest) = (arcs, rest) := by
  induction arcsText generalizing fuel with
  | nil =>
    cases fuel with
    | zero => rfl
    | succ fuel =>
      rw [List.nil_append]
      unfold readArcs
      split
      case h_1 e => cases e
      case h_2 => exact absurd rfl (stop _ rfl).2
      case h_3 => rfl
  | @cons digits arcs number arcsText ih =>
    cases fuel with
    | zero => simp at enough
    | succ fuel =>
      have behind : arcs.length ≤ fuel := by
        simp at enough
        omega
      simp [readArcs, readNumber?_complete number (arcsText.digit_stop stop), ih behind]

/-- Digits can stand in names. -/
lemma isKeyChar_of_isDigit {c} (digit : isDigit c = true) : isKeyChar c = true := by
  simp [isKeyChar, digit]

/-- What cannot stand in names is no digit. -/
lemma isDigit_eq_false {c} (stop : isKeyChar c = false) : isDigit c = false := by
  cases digit : isDigit c with
  | false => rfl
  | true => rw [isKeyChar_of_isDigit digit] at stop; cases stop

/-- No digit is a letter. -/
lemma isLetter_eq_false {c} (digit : isDigit c = true) : isLetter c = false := by
  simp [isDigit, isLetter, Char.le_def, UInt32.le_iff_toNat_le] at *
  omega

/-- A name is read up to the first character that is none of names and no dot. -/
lemma readName?_complete {name rest} (nameText : NameText name)
    (stop : ∀ c ∈ rest.head?, isKeyChar c = false ∧ c ≠ '.') :
    readName? (name ++ rest) = some (name, rest) := by
  cases nameText with
  | @key c cs letter others =>
    have kind : ∀ d ∈ c :: cs, isKeyChar d = true := by
      rintro d (_ | ⟨_, mem⟩)
      · exact isKeyChar_of_isLetter letter
      · exact others d mem
    have stop' : ∀ d ∈ rest.head?, isKeyChar d = false := fun d first => (stop d first).1
    simp only [readName?, List.cons_append, letter, if_true]
    rw [← List.cons_append, takeWhile_append_of_stop kind stop', dropWhile_append_of_stop kind stop']
  | @dotted digits arcs number arcsText =>
    -- numbers end where names do, as digits may stand in names
    have arcsStop : ∀ c ∈ rest.head?, isDigit c = false ∧ c ≠ '.' :=
      fun c first => ⟨isDigit_eq_false (stop c first).1, (stop c first).2⟩
    have read := readNumber?_complete number (arcsText.digit_stop arcsStop)
    have read' : readArcs (arcs ++ rest).length (arcs ++ rest) = (arcs, rest) :=
      readArcs_complete arcsText arcsStop (by simp)
    cases digits with
    | nil => exact absurd rfl number.ne_nil
    | cons d digits =>
      have notLetter : isLetter d = false := isLetter_eq_false (number.isDigit d (by simp))
      rw [List.append_assoc]
      rw [List.cons_append] at read ⊢
      simp only [readName?, notLetter, Bool.false_eq_true, if_false, read, read']

/-- Options are read up to the first character that is none of names and no semicolon. -/
lemma readOptions_complete {options rest} (optionsText : OptionsText options)
    (stop : ∀ c ∈ rest.head?, isKeyChar c = false ∧ c ≠ ';') {fuel}
    (enough : options.length ≤ fuel) : readOptions fuel (options ++ rest) = (options, rest) := by
  induction optionsText generalizing fuel with
  | nil =>
    cases fuel with
    | zero => rfl
    | succ fuel =>
      rw [List.nil_append]
      unfold readOptions
      split
      case h_1 e => cases e
      case h_2 => exact absurd rfl (stop _ rfl).2
      case h_3 => rfl
  | @cons name options ne kind optionsText ih =>
    cases fuel with
    | zero => simp at enough
    | succ fuel =>
      have nameStop : ∀ c ∈ (options ++ rest).head?, isKeyChar c = false := by
        intro c first
        cases optionsText with
        | nil => exact (stop c first).1
        | cons =>
          cases first
          decide
      have behind : options.length ≤ fuel := by
        simp at enough
        omega
      have read := ih behind
      rw [List.append_assoc, List.cons_append]
      simp only [readOptions, takeWhile_append_of_stop kind nameStop,
        dropWhile_append_of_stop kind nameStop, read]

/-- An attribute is read up to the first character that cannot continue one. -/
lemma readAttribute?_complete {name rest} (attributeText : AttributeText name)
    (stop : ∀ c ∈ rest.head?, isKeyChar c = false ∧ c ≠ '.' ∧ c ≠ ';') :
    readAttribute? (name ++ rest) = some (String.ofList name, rest) := by
  obtain ⟨nameText, optionsText⟩ := attributeText
  rename_i name options
  have nameStop : ∀ c ∈ (options ++ rest).head?, isKeyChar c = false ∧ c ≠ '.' := by
    intro c first
    cases optionsText with
    | nil => exact ⟨(stop c first).1, (stop c first).2.1⟩
    | cons =>
      cases first
      decide
  have optionsStop : ∀ c ∈ rest.head?, isKeyChar c = false ∧ c ≠ ';' :=
    fun c first => ⟨(stop c first).1, (stop c first).2.2⟩
  have enough : options.length ≤ (options ++ rest).length := by simp
  unfold readAttribute?
  rw [List.append_assoc, readName?_complete nameText nameStop]
  simp only [readOptions_complete optionsText optionsStop enough]

variable {α : Type} {symbols : Symbols α}

/-- A plain character belongs to the value. -/
lemma readValue?_cons {c} (plain : isSpecial c = false) (cs : List Char) :
    readValue? symbols (c :: cs) =
      (readValue? symbols cs).map fun (value, rest) => (symbols.ofChar c ++ value, rest) := by
  simp only [isSpecial, Bool.or_eq_false_iff, decide_eq_false_iff_not] at plain
  obtain ⟨⟨⟨⟨notBackslash, notStar⟩, notOpen⟩, notClose⟩, notNul⟩ := plain
  rw [readValue?.eq_def]
  split
  case h_1 e => cases e
  case h_2 e =>
    cases e
    exact absurd rfl notBackslash
  case h_3 c' cs' other e =>
    cases e
    simp [notBackslash, notStar, notOpen, notClose, notNul]

/-- A value is read up to an asterisk or a closing parenthesis. -/
lemma readValue?_complete {cs value rest} (valueText : ValueText symbols cs value)
    (stop : ∀ c ∈ rest.head?, c = ')' ∨ c = '*') :
    readValue? symbols (cs ++ rest) = some (value, rest) := by
  induction valueText with
  | nil =>
    cases rest with
    | nil => rfl
    | cons c rest =>
      rcases stop c rfl with rfl | rfl
      · simp [readValue?]
      · simp [readValue?]
  | char plain _ ih => rw [List.cons_append, readValue?_cons plain, ih, Option.map_some]
  | octet hx hy _ ih => simp [readValue?, hx, hy, ih]

/-- Where the parts of a value may begin, its first part ends. -/
lemma PartsText.stop {ds parts rest} (partsText : PartsText symbols ds parts)
    (stop : ∀ c ∈ rest.head?, c = ')') : ∀ c ∈ (ds ++ rest).head?, c = ')' ∨ c = '*' := by
  intro c first
  cases partsText with
  | nil => exact .inl (stop c first)
  | empty =>
    cases first
    exact .inr rfl
  | cons =>
    cases first
    exact .inr rfl

/-- If no character is kept as nothing, then only nothing is an empty value. -/
lemma ValueText.ne_nil (kept : ∀ c, symbols.ofChar c ≠ []) {cs value}
    (valueText : ValueText symbols cs value) (ne : cs ≠ []) : value ≠ [] := by
  cases valueText with
  | nil => exact absurd rfl ne
  | char => simp [kept]
  | octet => simp

/-- Parts are read up to a closing parenthesis. -/
lemma readParts?_complete (kept : ∀ c, symbols.ofChar c ≠ []) {ds parts rest}
    (partsText : PartsText symbols ds parts) (stop : ∀ c ∈ rest.head?, c = ')') {fuel}
    (enough : ds.length ≤ fuel) : readParts? symbols fuel (ds ++ rest) = some (parts, rest) := by
  induction partsText generalizing fuel with
  | nil =>
    cases fuel with
    | zero => rfl
    | succ fuel =>
      rw [List.nil_append]
      unfold readParts?
      split
      case h_1 e => cases e
      case h_2 => exact absurd (stop _ rfl) (by decide)
      case h_3 => rfl
  | empty =>
    cases fuel with
    | zero => simp at enough
    | succ fuel =>
      have read : readValue? symbols ([] ++ rest) = some ([], rest) :=
        readValue?_complete .nil fun c first => .inl (stop c first)
      rw [List.nil_append] at read
      simp [readParts?, read]
  | @cons cs value ds parts valueText ne partsText ih =>
    cases fuel with
    | zero => simp at enough
    | succ fuel =>
      have behind : ds.length ≤ fuel := by
        simp at enough
        omega
      have read := readValue?_complete valueText (partsText.stop stop)
      have read' := ih behind
      -- a part with text has symbols, so the reader does not take it for the last one
      have valueNe := valueText.ne_nil kept ne
      rw [List.append_assoc, List.cons_append]
      cases value with
      | nil => exact absurd rfl valueNe
      | cons => simp [readParts?, read, read']

/-- The mark is found if it stands there, and otherwise not unless the text continues like one. -/
lemma readMark_complete {dnAttributes cs} (unmarked : dnAttributes = false → ¬ [':', 'd', 'n'] <+: cs) :
    readMark (dnText dnAttributes ++ cs) = (dnAttributes, cs) := by
  cases dnAttributes with
  | true => rfl
  | false =>
    simp only [dnText, Bool.false_eq_true, if_false, List.nil_append]
    unfold readMark
    split
    case h_1 tail => exact absurd ⟨tail, rfl⟩ (unmarked rfl)
    case h_2 => rfl

/-- A matching rule is read up to the value. -/
lemma readRule_complete {rule : Option (List Char)} (ruleNameText : ∀ r ∈ rule, NameText r)
    (cs : List Char) : readRule (ruleText rule ++ ':' :: '=' :: cs) = (rule, ':' :: '=' :: cs) := by
  cases rule with
  | none => rfl
  | some r =>
    have stop : ∀ c ∈ (':' :: '=' :: cs).head?, isKeyChar c = false ∧ c ≠ '.' := by
      rintro c ⟨⟩
      decide
    simp only [ruleText, List.cons_append, readRule, readName?_complete (ruleNameText r rfl) stop]

/-- A rule and what follows it look like the mark only if the rule does. -/
lemma ruleText_unmarked {rule : Option (List Char)} (unmarked : ∀ r ∈ rule, ¬ ['d', 'n'] <+: r)
    (cs : List Char) : ¬ [':', 'd', 'n'] <+: ruleText rule ++ ':' :: '=' :: cs := by
  rintro ⟨tail, e⟩
  match rule with
  | none => simp [ruleText] at e
  | some [] => simp [ruleText] at e
  | some [_] => simp [ruleText] at e
  | some (_ :: _ :: others) =>
    simp only [ruleText, List.cons_append, List.nil_append, List.cons.injEq] at e
    obtain ⟨_, rfl, rfl, _⟩ := e
    exact unmarked _ rfl ⟨others, rfl⟩

/-- A value behind the mark and the rule of an extensible comparison is found. -/
lemma readExtensible?_complete (name : Option String) {dnAttributes} {rule : Option (List Char)} {cs value rest}
    (ruleNameText : ∀ r ∈ rule, NameText r) (named : name = none → rule ≠ none)
    (unmarked : dnAttributes = false → ∀ r ∈ rule, ¬ ['d', 'n'] <+: r)
    (valueText : ValueText symbols cs value) (stop : ∀ c ∈ rest.head?, c = ')') :
    readExtensible? symbols name (dnText dnAttributes ++ (ruleText rule ++ ':' :: '=' :: (cs ++ rest))) =
      some (.extensible (rule.map String.ofList) name value dnAttributes, rest) := by
  have mark := readMark_complete fun plain => ruleText_unmarked (unmarked plain) (cs ++ rest)
  have read := readValue?_complete valueText fun c first => .inl (stop c first)
  have present : ¬ (name = none ∧ rule.map String.ofList = none) :=
    fun ⟨e, e'⟩ => named e (Option.map_eq_none_iff.mp e')
  rw [readExtensible?_eq, mark]
  simp only [readRule_complete ruleNameText, if_neg present, read, Option.map_some]

/-- Behind the attribute, an extensible comparison begins with a colon. -/
lemma extensible_colon (dnAttributes : Bool) (rule : Option (List Char)) (cs : List Char) :
    ∃ tail, dnText dnAttributes ++ (ruleText rule ++ ':' :: cs) = ':' :: tail := by
  cases dnAttributes with
  | true => exact ⟨_, rfl⟩
  | false =>
    cases rule with
    | none => exact ⟨_, rfl⟩
    | some r => exact ⟨_, rfl⟩

/-- A comparison is read up to a closing parenthesis. -/
lemma readItem?_complete (kept : ∀ c, symbols.ofChar c ≠ []) {cs filter rest}
    (item : ItemText symbols cs filter) (stop : ∀ c ∈ rest.head?, c = ')') :
    readItem? symbols (cs ++ rest) = some (filter, rest) := by
  have valueStop : ∀ c ∈ rest.head?, c = ')' ∨ c = '*' := fun c first => .inl (stop c first)
  cases item with
  | @equality name cs first ds parts attributeText valueText partsText =>
    have name' : readAttribute? (name ++ '=' :: (cs ++ (ds ++ rest))) = _ :=
      readAttribute?_complete attributeText (by rintro c ⟨⟩; decide)
    have first' := readValue?_complete valueText (partsText.stop stop)
    have parts' : readParts? symbols (ds ++ rest).length (ds ++ rest) = some (parts, rest) :=
      readParts?_complete kept partsText stop (by simp)
    simp only [List.append_assoc, List.cons_append]
    simp only [readItem?, name', readComparison?, first', parts', Option.map_some]
  | @atLeast name cs value attributeText valueText =>
    have name' : readAttribute? (name ++ '>' :: '=' :: (cs ++ rest)) = _ :=
      readAttribute?_complete attributeText (by rintro c ⟨⟩; decide)
    have value' := readValue?_complete valueText valueStop
    simp only [List.append_assoc, List.cons_append]
    simp only [readItem?, name', readComparison?, value', Option.map_some]
  | @atMost name cs value attributeText valueText =>
    have name' : readAttribute? (name ++ '<' :: '=' :: (cs ++ rest)) = _ :=
      readAttribute?_complete attributeText (by rintro c ⟨⟩; decide)
    have value' := readValue?_complete valueText valueStop
    simp only [List.append_assoc, List.cons_append]
    simp only [readItem?, name', readComparison?, value', Option.map_some]
  | @approximate name cs value attributeText valueText =>
    have name' : readAttribute? (name ++ '~' :: '=' :: (cs ++ rest)) = _ :=
      readAttribute?_complete attributeText (by rintro c ⟨⟩; decide)
    have value' := readValue?_complete valueText valueStop
    simp only [List.append_assoc, List.cons_append]
    simp only [readItem?, name', readComparison?, value', Option.map_some]
  | @extensible name dnAttributes rule cs value attributeText ruleNameText named unmarked valueText =>
    simp only [List.append_assoc, List.cons_append]
    have found :=
      readExtensible?_complete (name.map String.ofList) ruleNameText (by simpa using named) unmarked
        valueText stop
    obtain ⟨tail, colon⟩ := extensible_colon dnAttributes rule ('=' :: (cs ++ rest))
    rw [colon] at found ⊢
    cases name with
    | none => exact found
    | some n =>
      have name' : readAttribute? (n ++ ':' :: tail) = _ :=
        readAttribute?_complete (attributeText n rfl) (by rintro c ⟨⟩; decide)
      simp only [Option.getD_some, readItem?, name', readComparison?]
      exact found

/-- A name begins with a character of names. -/
lemma NameText.head {name} (nameText : NameText name) :
    ∃ c tail, name = c :: tail ∧ isKeyChar c = true := by
  cases nameText with
  | key letter => exact ⟨_, _, rfl, isKeyChar_of_isLetter letter⟩
  | @dotted digits arcs number =>
    cases digits with
    | nil => exact absurd rfl number.ne_nil
    | cons d digits => exact ⟨_, _, rfl, isKeyChar_of_isDigit (number.isDigit d (by simp))⟩

/-- A comparison begins with a character of names or with a colon. -/
lemma ItemText.head {cs filter} (item : ItemText symbols cs filter) :
    ∃ c tail, cs = c :: tail ∧ (isKeyChar c = true ∨ c = ':') := by
  have named : ∀ {name}, AttributeText name → ∀ behind : List Char,
      ∃ c tail, name ++ behind = c :: tail ∧ (isKeyChar c = true ∨ c = ':') := by
    rintro _ ⟨nameText, _⟩ behind
    obtain ⟨c, tail, rfl, key⟩ := nameText.head
    exact ⟨_, _, rfl, .inl key⟩
  cases item with
  | equality attributeText =>
    rw [List.append_assoc]
    exact named attributeText _
  | atLeast attributeText => exact named attributeText _
  | atMost attributeText => exact named attributeText _
  | approximate attributeText => exact named attributeText _
  | @extensible name dnAttributes rule cs value attributeText =>
    simp only [List.append_assoc]
    cases name with
    | none =>
      obtain ⟨tail, colon⟩ := extensible_colon dnAttributes rule ('=' :: cs)
      exact ⟨_, _, colon, .inr rfl⟩
    | some n => exact named (attributeText n rfl) _

/-- A filter in parentheses begins with one. -/
lemma readGroup?_eq_none {depth cs} (stop : ∀ c ∈ cs.head?, c ≠ '(') :
    readGroup? symbols depth cs = none := by
  unfold readGroup?
  split
  case h_1 => rfl
  case h_2 => exact absurd rfl (stop _ rfl)
  case h_3 => rfl

/-- A comparison in parentheses is read as such. -/
lemma readGroup?_item (kept : ∀ c, symbols.ofChar c ≠ []) {cs filter} (item : ItemText symbols cs filter)
    (depth : Nat) (rest : List Char) :
    readGroup? symbols (depth + 1) ('(' :: (cs ++ ')' :: rest)) = some (filter, rest) := by
  have read : readItem? symbols (cs ++ ')' :: rest) = some (filter, ')' :: rest) :=
    readItem?_complete kept item (by rintro c ⟨⟩; rfl)
  obtain ⟨c, tail, rfl, first⟩ := item.head
  rw [List.cons_append] at read ⊢
  unfold readGroup?
  split
  case h_1 e => cases e
  case h_2 e =>
    cases e
    -- the characters of groups are none that a comparison begins with
    split
    case h_1 e =>
      cases e
      exact absurd first (by decide)
    case h_2 e =>
      cases e
      exact absurd first (by decide)
    case h_3 e =>
      cases e
      exact absurd first (by decide)
    case h_4 =>
      rw [read]
      rfl
  case h_3 other => exact absurd rfl (other _)

/-- Filters in a row are the first of them and the others. -/
lemma readMany_cons {one : List Char → Option (Filter α × List Char)} {fuel cs filter behind filters rest}
    (first : one cs = some (filter, behind)) (others : readMany one fuel behind = (filters, rest)) :
    readMany one (fuel + 1) cs = (filter :: filters, rest) := by
  simp only [readMany, first, others]

/-- Where no filter is read in a row, nothing is left out. -/
lemma readMany_eq_nil {one : List Char → Option (Filter α × List Char)} {fuel cs rest}
    (read : readMany one fuel cs = ([], rest)) : cs = rest := by
  cases fuel with
  | zero =>
    cases read
    rfl
  | succ fuel =>
    unfold readMany at read
    cases first : one cs with
    | none =>
      rw [first] at read
      cases read
      rfl
    | some found =>
      rw [first] at read
      cases read

/-- Where one filter is read in a row, it is the one that is read there. -/
lemma readMany_eq_singleton {one : List Char → Option (Filter α × List Char)} {fuel cs filter rest}
    (read : readMany one fuel cs = ([filter], rest)) : one cs = some (filter, rest) := by
  cases fuel with
  | zero => cases read
  | succ fuel =>
    unfold readMany at read
    cases first : one cs with
    | none =>
      rw [first] at read
      cases read
    | some found =>
      rw [first] at read
      obtain ⟨filter', behind⟩ := found
      cases more : readMany one fuel behind with
      | mk filters rest' =>
        simp only [more] at read
        cases read
        rw [readMany_eq_nil more]

/-- A conjunction is read if what is inside is. -/
lemma readGroup?_all {depth cs filters rest}
    (inside : ∀ {fuel}, cs.length ≤ fuel →
      readMany (readGroup? symbols depth) fuel (cs ++ ')' :: rest) = (filters, ')' :: rest)) :
    readGroup? symbols (depth + 1) ('(' :: '&' :: (cs ++ ')' :: rest)) = some (.all filters, rest) := by
  have enough : cs.length ≤ (cs ++ ')' :: rest).length := by simp
  simp only [readGroup?, inside enough, close?]

/-- So is a disjunction. -/
lemma readGroup?_any {depth cs filters rest}
    (inside : ∀ {fuel}, cs.length ≤ fuel →
      readMany (readGroup? symbols depth) fuel (cs ++ ')' :: rest) = (filters, ')' :: rest)) :
    readGroup? symbols (depth + 1) ('(' :: '|' :: (cs ++ ')' :: rest)) = some (.any filters, rest) := by
  have enough : cs.length ≤ (cs ++ ')' :: rest).length := by simp
  simp only [readGroup?, inside enough, close?]

/-- So is a negation. -/
lemma readGroup?_negation {depth cs filter rest}
    (inside : ∀ {fuel}, cs.length ≤ fuel →
      readMany (readGroup? symbols depth) fuel (cs ++ ')' :: rest) = ([filter], ')' :: rest)) :
    readGroup? symbols (depth + 1) ('(' :: '!' :: (cs ++ ')' :: rest)) =
      some (.negation filter, rest) := by
  have read := readMany_eq_singleton (inside (Nat.le_refl _))
  simp only [readGroup?, read, Option.bind_some, close?]

/-- The row of filters inside parentheses is read up to the closing one. -/
lemma readMany_group {text ds : List Char} {filter : Filter α} {filters rest depth fuel}
    (ne : text ≠ []) (deep : (text ++ ds).length ≤ depth) (enough : (text ++ ds).length ≤ fuel)
    (first : ∀ {d}, text.length ≤ d + 1 →
      readGroup? symbols (d + 1) (text ++ (ds ++ rest)) = some (filter, ds ++ rest))
    (others : ∀ {fuel}, ds.length ≤ depth → ds.length ≤ fuel →
      readMany (readGroup? symbols depth) fuel (ds ++ rest) = (filters, rest)) :
    readMany (readGroup? symbols depth) fuel (text ++ ds ++ rest) = (filter :: filters, rest) := by
  have some_text : 0 < text.length := List.length_pos_iff.mpr ne
  rw [List.length_append] at deep enough
  cases depth with
  | zero => omega
  | succ depth =>
    cases fuel with
    | zero => omega
    | succ fuel =>
      rw [List.append_assoc]
      exact readMany_cons (first (by omega)) (others (by omega) (by omega))

/-- Filters in parentheses are read as long as another one follows. -/
lemma readMany_complete (kept : ∀ c, symbols.ofChar c ≠ []) {cs filters rest}
    (groups : GroupsText symbols cs filters) (stop : ∀ c ∈ rest.head?, c ≠ '(') {depth fuel}
    (deep : cs.length ≤ depth) (enough : cs.length ≤ fuel) :
    readMany (readGroup? symbols depth) fuel (cs ++ rest) = (filters, rest) := by
  have closing : ∀ behind : List Char, ∀ c ∈ (')' :: behind).head?, c ≠ '(' := by
    rintro behind c ⟨⟩
    decide
  have within : ∀ {a : Char} {cs : List Char} {d : Nat},
      ('(' :: a :: cs ++ [')']).length ≤ d + 1 → cs.length ≤ d := by
    intro a cs d le
    simp at le
    omega
  -- what is inside a filter is shorter than the filter, so depth and fuel suffice for it
  induction groups generalizing rest depth fuel with
  | nil =>
    cases fuel with
    | zero => rfl
    | succ fuel => simp only [List.nil_append, readMany, readGroup?_eq_none stop]
  | @all cs filters ds others _ _ ihInner ih =>
    rw [List.append_cons] at deep enough ⊢
    refine readMany_group (by simp) deep enough (fun {d} le => ?_) (ih stop)
    have inside := readGroup?_all (ihInner (closing (ds ++ rest)) (within le))
    simpa using inside
  | @any cs filters ds others _ _ ihInner ih =>
    rw [List.append_cons] at deep enough ⊢
    refine readMany_group (by simp) deep enough (fun {d} le => ?_) (ih stop)
    have inside := readGroup?_any (ihInner (closing (ds ++ rest)) (within le))
    simpa using inside
  | @negation cs filter ds others _ _ ihInner ih =>
    rw [List.append_cons] at deep enough ⊢
    refine readMany_group (by simp) deep enough (fun {d} le => ?_) (ih stop)
    have inside := readGroup?_negation (ihInner (closing (ds ++ rest)) (within le))
    simpa using inside
  | @item cs filter ds others item _ ih =>
    rw [List.append_cons] at deep enough ⊢
    refine readMany_group (by simp) deep enough (fun {d} le => ?_) (ih stop)
    simpa using readGroup?_item kept item d (ds ++ rest)

/-- A group begins with a parenthesis. -/
lemma GroupsText.head {cs filter others} (groups : GroupsText symbols cs (filter :: others)) :
    ∃ tail, cs = '(' :: tail := by
  cases groups with
  | all => exact ⟨_, rfl⟩
  | any => exact ⟨_, rfl⟩
  | negation => exact ⟨_, rfl⟩
  | item => exact ⟨_, rfl⟩

/-- What stands for a filter is read as that filter. -/
lemma parseWith?_complete (kept : ∀ c, symbols.ofChar c ≠ []) {text filter}
    (filterText : FilterText symbols text filter) : parseWith? symbols text = some filter := by
  have read : read? symbols text = some (filter, []) := by
    cases filterText with
    | group groups =>
      have row : readMany (readGroup? symbols text.length) text.length (text ++ []) = ([filter], []) :=
        readMany_complete kept groups (by simp) (Nat.le_refl _) (Nat.le_refl _)
      rw [List.append_nil] at row
      -- a text of one filter in a row is a text of that filter
      have first := readMany_eq_singleton row
      obtain ⟨tail, rfl⟩ := groups.head
      exact first
    | item item =>
      have found : readItem? symbols (text ++ []) = some (filter, []) :=
        readItem?_complete kept item nofun
      rw [List.append_nil] at found
      obtain ⟨c, tail, rfl, first⟩ := item.head
      unfold read?
      split
      case h_1 e =>
        cases e
        exact absurd first (by decide)
      case h_2 => exact found
  rw [parseWith?, read]

/-- **The reader and the grammar.** If no character is kept as nothing, then a text is read as a filter
exactly if it stands for that filter. -/
theorem parseWith?_eq_some_iff (kept : ∀ c, symbols.ofChar c ≠ []) {text filter} :
    parseWith? symbols text = some filter ↔ FilterText symbols text filter :=
  ⟨parseWith?_sound, parseWith?_complete kept⟩

end RecipientCallout.Filter
