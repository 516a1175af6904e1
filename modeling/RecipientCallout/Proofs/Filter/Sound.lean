import Mathlib.Data.List.TakeWhile
import RecipientCallout.Proofs.Filter.Grammar

/-!
# What the reader of search filters reads

The reader of filters gives only what the grammar derives: one lemma for each part of the reader, up to
the headline `parseWith?_sound` for a whole text. The reader of extensible comparisons is cut into its
steps on the way (`readExtensible?_eq`).
-/

namespace RecipientCallout.Filter
open RecipientCallout.Text

/-- What is read as a number is one. -/
lemma readNumber?_sound {cs digits rest} (read : readNumber? cs = some (digits, rest)) :
    cs = digits ++ rest ∧ NumberText digits := by
  have whole : cs.takeWhile isDigit ++ cs.dropWhile isDigit = cs := List.takeWhile_append_dropWhile
  have allDigits : ∀ c ∈ cs.takeWhile isDigit, isDigit c = true := fun c => List.mem_takeWhile_imp
  unfold readNumber? at read
  split at read
  case h_1 => cases read
  case h_2 zero =>
    cases read
    rw [zero] at whole
    rw [← whole]
    refine ⟨rfl, List.cons_ne_nil _ _, fun c mem => ?_, fun _ => rfl⟩
    rw [List.mem_singleton.mp mem]
    rfl
  case h_3 => cases read
  case h_4 ne notZero notLeading =>
    cases read
    refine ⟨whole.symm, ne, allDigits, fun zero => ?_⟩
    obtain ⟨tail, e⟩ := List.head?_eq_some_iff.mp zero
    exact absurd e (notLeading tail)

/-- What is read as further numbers is a list of them. -/
lemma readArcs_sound {fuel cs arcs rest} (read : readArcs fuel cs = (arcs, rest)) :
    cs = arcs ++ rest ∧ ArcsText arcs := by
  induction fuel generalizing cs arcs rest with
  | zero =>
    cases read
    exact ⟨rfl, .nil⟩
  | succ fuel ih =>
    unfold readArcs at read
    split at read
    case h_1 e => cases e
    case h_2 cs' e =>
      cases e
      cases number : readNumber? cs' with
      | none =>
        rw [number] at read
        cases read
        exact ⟨rfl, .nil⟩
      | some read' =>
        obtain ⟨digits, rest'⟩ := read'
        rw [number] at read
        cases read
        obtain ⟨rfl, numberText⟩ := readNumber?_sound number
        obtain ⟨e, arcsText⟩ := ih (Prod.eta (readArcs fuel rest')).symm
        refine ⟨?_, .cons numberText arcsText⟩
        rw [List.append_assoc, ← e, List.cons_append]
    case h_3 =>
      cases read
      exact ⟨rfl, .nil⟩

/-- Letters can stand in names. -/
lemma isKeyChar_of_isLetter {c} (letter : isLetter c = true) : isKeyChar c = true := by
  simp [isKeyChar, letter]

/-- What is read as a name is one. -/
lemma readName?_sound {cs name rest} (read : readName? cs = some (name, rest)) :
    cs = name ++ rest ∧ NameText name := by
  unfold readName? at read
  split at read
  case h_1 => cases read
  case h_2 c cs =>
    split at read
    case isTrue letter =>
      cases read
      refine ⟨List.takeWhile_append_dropWhile.symm, ?_⟩
      rw [List.takeWhile_cons_of_pos (isKeyChar_of_isLetter letter)]
      exact .key letter fun d => List.mem_takeWhile_imp
    case isFalse =>
      cases number : readNumber? (c :: cs) with
      | none =>
        rw [number] at read
        cases read
      | some read' =>
        obtain ⟨digits, rest'⟩ := read'
        rw [number] at read
        cases read
        obtain ⟨e, numberText⟩ := readNumber?_sound number
        obtain ⟨e', arcsText⟩ := readArcs_sound (Prod.eta (readArcs rest'.length rest')).symm
        refine ⟨?_, .dotted numberText arcsText⟩
        rw [e, List.append_assoc, ← e']

/-- Options that are read stand in front of what is left. -/
lemma readOptions_sound {fuel cs options rest} (read : readOptions fuel cs = (options, rest)) :
    cs = options ++ rest ∧ OptionsText options := by
  induction fuel generalizing cs options rest with
  | zero =>
    cases read
    exact ⟨rfl, .nil⟩
  | succ fuel ih =>
    unfold readOptions at read
    split at read
    case h_1 e => cases e
    case h_2 cs' e =>
      cases e
      split at read
      case h_1 =>
        cases read
        exact ⟨rfl, .nil⟩
      case h_2 ne =>
        cases read
        obtain ⟨e, optionsText⟩ := ih (Prod.eta (readOptions fuel (cs'.dropWhile isKeyChar))).symm
        refine ⟨?_, .cons ne (fun c => List.mem_takeWhile_imp) optionsText⟩
        rw [List.append_assoc, ← e, List.cons_append, List.takeWhile_append_dropWhile]
    case h_3 =>
      cases read
      exact ⟨rfl, .nil⟩

/-- An attribute that is read stands in front of what is left. -/
lemma readAttribute?_sound {cs name rest} (read : readAttribute? cs = some (name, rest)) :
    ∃ text, cs = text ++ rest ∧ name = String.ofList text ∧ AttributeText text := by
  unfold readAttribute? at read
  cases first : readName? cs with
  | none =>
    rw [first] at read
    cases read
  | some read' =>
    obtain ⟨text, rest'⟩ := read'
    rw [first] at read
    cases read
    obtain ⟨e, nameText⟩ := readName?_sound first
    obtain ⟨e', optionsText⟩ := readOptions_sound (Prod.eta (readOptions rest'.length rest')).symm
    refine ⟨_, ?_, rfl, .intro nameText optionsText⟩
    rw [List.append_assoc, ← e', e]

variable {α : Type} {symbols : Symbols α}

/-- What is read as a value is one. -/
lemma readValue?_sound {cs value rest} (read : readValue? symbols cs = some (value, rest)) :
    ∃ text, cs = text ++ rest ∧ ValueText symbols text value := by
  fun_induction readValue? symbols cs generalizing value rest with
  | case1 =>
    cases read
    exact ⟨[], rfl, .nil⟩
  | case2 a b cs x y hy hx ih =>
    obtain ⟨⟨value', rest'⟩, read', e⟩ := Option.map_eq_some_iff.mp read
    cases e
    obtain ⟨text, rfl, valueText⟩ := ih read'
    exact ⟨'\\' :: a :: b :: text, rfl, .octet hx hy valueText⟩
  | case3 => cases read
  | case4 => cases read
  | case5 c cs =>
    cases read
    exact ⟨[], rfl, .nil⟩
  | case6 c cs notEscape notBackslash notStop ih =>
    obtain ⟨⟨value', rest'⟩, read', e⟩ := Option.map_eq_some_iff.mp read
    cases e
    obtain ⟨text, rfl, valueText⟩ := ih read'
    have plain : isSpecial c = false := by
      simp only [not_or] at notStop
      simp [isSpecial, notBackslash, notStop]
    exact ⟨c :: text, rfl, .char plain valueText⟩

/-- What is made of a value that is read is made of one that stands there. -/
lemma readValue?_map_sound (make : List α → Filter α) {cs filter rest}
    (read : (readValue? symbols cs).map (fun (value, rest) => (make value, rest)) = some (filter, rest)) :
    ∃ text value, cs = text ++ rest ∧ filter = make value ∧ ValueText symbols text value := by
  obtain ⟨⟨value, rest'⟩, found, e⟩ := Option.map_eq_some_iff.mp read
  cases e
  obtain ⟨text, rfl, valueText⟩ := readValue?_sound found
  exact ⟨text, value, rfl, rfl, valueText⟩

/-- An empty text is an empty value. -/
lemma ValueText.eq_nil {value} (text : ValueText symbols [] value) : value = [] := by
  cases text
  rfl

/-- What is read as parts is a list of them. -/
lemma readParts?_sound {fuel cs parts rest}
    (read : readParts? symbols fuel cs = some (parts, rest)) :
    ∃ text, cs = text ++ rest ∧ PartsText symbols text parts := by
  induction fuel generalizing cs parts rest with
  | zero =>
    cases read
    exact ⟨[], rfl, .nil⟩
  | succ fuel ih =>
    unfold readParts? at read
    split at read
    case h_1 e => cases e
    case h_2 cs' e =>
      cases e
      split at read
      case h_1 => cases read
      case h_2 rest' first =>
        cases read
        obtain ⟨text, rfl, valueText⟩ := readValue?_sound first
        cases text with
        | nil => exact ⟨['*'], rfl, .empty⟩
        | cons c text => exact ⟨'*' :: c :: text ++ [], by simp, .cons valueText (by simp) .nil⟩
      case h_3 part rest' ne first =>
        obtain ⟨⟨parts', rest''⟩, read', e⟩ := Option.map_eq_some_iff.mp read
        cases e
        obtain ⟨text, rfl, valueText⟩ := readValue?_sound first
        obtain ⟨more, rfl, partsText⟩ := ih read'
        refine ⟨'*' :: text ++ more, by simp, .cons valueText ?_ partsText⟩
        rintro rfl
        exact ne valueText.eq_nil
    case h_3 =>
      cases read
      exact ⟨[], rfl, .nil⟩

/-- Reads the mark of an extensible comparison. -/
def readMark : List Char → Bool × List Char
  | ':' :: 'd' :: 'n' :: cs => (true, cs)
  | cs => (false, cs)

/-- Reads the matching rule of an extensible comparison, if it names one. -/
def readRule (cs : List Char) : Option (List Char) × List Char :=
  match cs with
  | ':' :: rest =>
    match readName? rest with
    | some (rule, rest) => (some rule, rest)
    | none => (none, cs)
  | cs => (none, cs)

/-- An extensible comparison is its mark, its rule and its value. -/
lemma readExtensible?_eq (name : Option String) (cs : List Char) :
    readExtensible? symbols name cs =
      if name = none ∧ (readRule (readMark cs).2).1.map String.ofList = none then none
      else
        match (readRule (readMark cs).2).2 with
        | ':' :: '=' :: rest =>
          (readValue? symbols rest).map fun (value, rest) =>
            (.extensible ((readRule (readMark cs).2).1.map String.ofList) name value (readMark cs).1, rest)
        | _ => none := by
  unfold readExtensible?
  split
  case h_1 dnAttributes cs' read =>
    -- the reader has both steps written out; each of them is found again by what it gives
    have mark : readMark cs = (dnAttributes, cs') := by
      rw [← read]
      rfl
    rw [mark]
    split
    case h_1 rule rest read' =>
      have rule' : ((readRule cs').1.map String.ofList, (readRule cs').2) = (rule, rest) := by
        rw [← read']
        cases cs' with
        | nil => rfl
        | cons c behind =>
          by_cases colon : c = ':'
          · subst colon
            cases found : readName? behind with
            | none => simp [readRule, found]
            | some name => simp [readRule, found]
          · simp [readRule, colon]
      cases rule'
      rfl

/-- A mark that is read stands there, and one that is not does not. -/
lemma readMark_sound {cs dnAttributes rest} (read : readMark cs = (dnAttributes, rest)) :
    cs = dnText dnAttributes ++ rest ∧ (dnAttributes = false → ¬ [':', 'd', 'n'] <+: cs) := by
  unfold readMark at read
  split at read
  case h_1 =>
    cases read
    exact ⟨rfl, nofun⟩
  case h_2 other =>
    cases read
    refine ⟨rfl, fun _ => ?_⟩
    rintro ⟨tail, rfl⟩
    exact other tail rfl

/-- What is read as a matching rule has a name. -/
lemma readRule_sound {cs rule rest} (read : readRule cs = (rule, rest)) :
    cs = ruleText rule ++ rest ∧ ∀ r ∈ rule, NameText r := by
  unfold readRule at read
  split at read
  case h_1 behind =>
    cases name : readName? behind with
    | none =>
      rw [name] at read
      cases read
      exact ⟨rfl, nofun⟩
    | some found =>
      rw [name] at read
      cases read
      obtain ⟨rfl, nameText⟩ := readName?_sound name
      refine ⟨rfl, fun r e => ?_⟩
      cases e
      exact nameText
  case h_2 =>
    cases read
    exact ⟨rfl, nofun⟩

/-- What is read as an extensible comparison is one. -/
lemma readExtensible?_sound (name : Option (List Char)) {cs filter rest}
    (nameText : ∀ n ∈ name, AttributeText n)
    (read : readExtensible? symbols (name.map String.ofList) cs = some (filter, rest)) :
    ∃ text, name.getD [] ++ cs = text ++ rest ∧ ItemText symbols text filter := by
  rw [readExtensible?_eq] at read
  cases mark : readMark cs with
  | mk dnAttributes cs' =>
  rw [mark] at read
  cases rule' : readRule cs' with
  | mk rule behind =>
  rw [rule'] at read
  obtain ⟨e, unmarked⟩ := readMark_sound mark
  obtain ⟨e', ruleNameText⟩ := readRule_sound rule'
  split at read
  case isTrue => cases read
  case isFalse named =>
    split at read
    case h_1 behind' e'' =>
      cases e''
      obtain ⟨text, value, rfl, rfl, valueText⟩ := readValue?_map_sound
        (fun value => .extensible (rule.map String.ofList) (name.map String.ofList) value dnAttributes) read
      refine ⟨name.getD [] ++ dnText dnAttributes ++ ruleText rule ++ ':' :: '=' :: text, ?_, ?_⟩
      · rw [e, e']
        simp
      -- the reader takes the mark wherever it can, so none is left over in the rule
      · refine .extensible nameText ruleNameText ?_ ?_ valueText
        · rintro rfl rfl
          exact named ⟨rfl, rfl⟩
        · rintro rfl r rfl ⟨tail, rfl⟩
          refine unmarked rfl ⟨tail ++ ':' :: '=' :: (text ++ rest), ?_⟩
          rw [e, e']
          rfl
    case h_2 => cases read

/-- What is read behind an attribute makes a comparison with it. -/
lemma readComparison?_sound {name cs filter rest} (nameText : AttributeText name)
    (read : readComparison? symbols (String.ofList name) cs = some (filter, rest)) :
    ∃ text, name ++ cs = text ++ rest ∧ ItemText symbols text filter := by
  unfold readComparison? at read
  split at read
  case h_1 cs' =>
    cases first : readValue? symbols cs' with
    | none =>
      rw [first] at read
      cases read
    | some found =>
      rw [first] at read
      obtain ⟨⟨parts, rest'⟩, read', e⟩ := Option.map_eq_some_iff.mp read
      cases e
      obtain ⟨text, rfl, valueText⟩ := readValue?_sound first
      obtain ⟨more, e, partsText⟩ := readParts?_sound read'
      exact ⟨name ++ '=' :: text ++ more, by simp [e], .equality nameText valueText partsText⟩
  case h_2 =>
    obtain ⟨text, value, rfl, rfl, valueText⟩ := readValue?_map_sound _ read
    exact ⟨name ++ '>' :: '=' :: text, by simp, .atLeast nameText valueText⟩
  case h_3 =>
    obtain ⟨text, value, rfl, rfl, valueText⟩ := readValue?_map_sound _ read
    exact ⟨name ++ '<' :: '=' :: text, by simp, .atMost nameText valueText⟩
  case h_4 =>
    obtain ⟨text, value, rfl, rfl, valueText⟩ := readValue?_map_sound _ read
    exact ⟨name ++ '~' :: '=' :: text, by simp, .approximate nameText valueText⟩
  case h_5 =>
    refine readExtensible?_sound (some name) ?_ read
    rintro n ⟨⟩
    exact nameText

/-- What is read as a comparison is one. -/
lemma readItem?_sound {cs filter rest} (read : readItem? symbols cs = some (filter, rest)) :
    ∃ text, cs = text ++ rest ∧ ItemText symbols text filter := by
  unfold readItem? at read
  split at read
  case h_1 name rest' read' =>
    obtain ⟨text, rfl, rfl, nameText⟩ := readAttribute?_sound read'
    exact readComparison?_sound nameText read
  case h_2 => exact readExtensible?_sound none nofun read

/-- Filters one after the other make a list of filters. -/
lemma GroupsText.append {cs filters ds others} (first : GroupsText symbols cs filters)
    (second : GroupsText symbols ds others) :
    GroupsText symbols (cs ++ ds) (filters ++ others) := by
  induction first with
  | nil => exact second
  | all inner _ _ ih => simpa using GroupsText.all inner ih
  | any inner _ _ ih => simpa using GroupsText.any inner ih
  | negation inner _ _ ih => simpa using GroupsText.negation inner ih
  | item inner _ ih => simpa using GroupsText.item inner ih

/-- What a sound reader reads one after the other is a list of filters. -/
lemma readMany_sound {one : List Char → Option (Filter α × List Char)}
    (sound : ∀ {cs filter rest}, one cs = some (filter, rest) →
      ∃ text, cs = text ++ rest ∧ GroupsText symbols text [filter])
    {fuel cs filters rest} (read : readMany one fuel cs = (filters, rest)) :
    ∃ text, cs = text ++ rest ∧ GroupsText symbols text filters := by
  induction fuel generalizing cs filters rest with
  | zero =>
    cases read
    exact ⟨[], rfl, .nil⟩
  | succ fuel ih =>
    unfold readMany at read
    cases first : one cs with
    | none =>
      rw [first] at read
      cases read
      exact ⟨[], rfl, .nil⟩
    | some found =>
      rw [first] at read
      cases read
      obtain ⟨text, rfl, filterText⟩ := sound first
      obtain ⟨more, e, othersText⟩ := ih (Prod.eta (readMany one fuel found.2)).symm
      refine ⟨text ++ more, ?_, filterText.append othersText⟩
      rw [List.append_assoc, ← e]

/-- A filter that is closed is followed by the closing parenthesis. -/
lemma close?_eq_some {filter filter' : Filter α} {cs rest}
    (read : close? filter cs = some (filter', rest)) : cs = ')' :: rest ∧ filter' = filter := by
  unfold close? at read
  split at read
  case h_1 =>
    cases read
    exact ⟨rfl, rfl⟩
  case h_2 => cases read

/-- What is read in parentheses is a filter. -/
lemma readGroup?_sound {depth cs filter rest}
    (read : readGroup? symbols depth cs = some (filter, rest)) :
    ∃ text, cs = text ++ rest ∧ GroupsText symbols text [filter] := by
  -- what is inside parentheses is read with one level less
  induction depth generalizing cs filter rest with
  | zero => cases read
  | succ depth ih =>
    unfold readGroup? at read
    split at read
    case h_1 e => cases e
    case h_2 cs' e =>
      cases e
      split at read
      case h_1 cs'' =>
        obtain ⟨text, e, inner⟩ :=
          readMany_sound ih (Prod.eta (readMany (readGroup? symbols depth) cs''.length cs'')).symm
        obtain ⟨e', rfl⟩ := close?_eq_some read
        rw [e'] at e
        exact ⟨'(' :: '&' :: text ++ [')'], by simp [e], .all inner .nil⟩
      case h_2 cs'' =>
        obtain ⟨text, e, inner⟩ :=
          readMany_sound ih (Prod.eta (readMany (readGroup? symbols depth) cs''.length cs'')).symm
        obtain ⟨e', rfl⟩ := close?_eq_some read
        rw [e'] at e
        exact ⟨'(' :: '|' :: text ++ [')'], by simp [e], .any inner .nil⟩
      case h_3 cs'' =>
        obtain ⟨⟨filter', rest'⟩, read', closed⟩ := Option.bind_eq_some_iff.mp read
        obtain ⟨text, e, inner⟩ := ih read'
        obtain ⟨e', rfl⟩ := close?_eq_some closed
        exact ⟨'(' :: '!' :: text ++ [')'], by simp [e, e'], .negation inner .nil⟩
      case h_4 =>
        obtain ⟨⟨filter', rest'⟩, read', closed⟩ := Option.bind_eq_some_iff.mp read
        obtain ⟨text, e, inner⟩ := readItem?_sound read'
        obtain ⟨e', rfl⟩ := close?_eq_some closed
        exact ⟨'(' :: text ++ [')'], by simp [e, e'], .item inner .nil⟩
    case h_3 => cases read

/-- **Soundness of the reader.** A text stands for the filter that is read from it. -/
theorem parseWith?_sound {text filter} (read : parseWith? symbols text = some filter) :
    FilterText symbols text filter := by
  unfold parseWith? at read
  split at read
  case h_1 filter' read' =>
    cases read
    unfold read? at read'
    split at read'
    case h_1 =>
      obtain ⟨text', e, inner⟩ := readGroup?_sound read'
      rw [e, List.append_nil]
      exact .group inner
    case h_2 =>
      obtain ⟨text', e, inner⟩ := readItem?_sound read'
      rw [e, List.append_nil]
      exact .item inner
  case h_2 => cases read

end RecipientCallout.Filter
