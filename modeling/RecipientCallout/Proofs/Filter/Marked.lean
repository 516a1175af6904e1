import RecipientCallout.Filter.Template
import RecipientCallout.Proofs.Filter.Grammar

/-!
# Templates as filters with marks

A template is read like a filter, except that a question mark in a value is kept as a mark of its own: the
octet that a template writes as the code of a question mark is none. What stands for a filter stands for
one with marks as well (`FilterText.change`), and that one has a mark for each question mark of the text
(`FilterText.marks_eq`): question marks occur in values only.
-/

namespace RecipientCallout.Filter
open RecipientCallout.Text

/-- A symbol in a value of a template: an octet, or the mark that a value goes to. -/
inductive Mark where
  | octet (b : UInt8)
  | slot
  deriving DecidableEq

/-- Values with marks: a question mark is a mark, any other character its octets. -/
def markSymbols : Symbols Mark where
  ofChar c := if c = slot then [.slot] else (String.utf8EncodeChar c).map .octet
  ofOctet := .octet

section Values
variable {α β : Type}

mutual

/-- The filter with its values changed and nothing else. -/
def mapValues (f : List α → List β) : Filter α → Filter β
  | .all filters => .all (mapValuesAll f filters)
  | .any filters => .any (mapValuesAll f filters)
  | .negation filter => .negation (mapValues f filter)
  | .equal name value => .equal name (f value)
  | .present name => .present name
  | .substrings name initial middle final => .substrings name (f initial) (middle.map f) (f final)
  | .atLeast name value => .atLeast name (f value)
  | .atMost name value => .atMost name (f value)
  | .approximate name value => .approximate name (f value)
  | .extensible rule name value dnAttributes => .extensible rule name (f value) dnAttributes

/-- The filters of a list with their values changed. -/
def mapValuesAll (f : List α → List β) : List (Filter α) → List (Filter β)
  | [] => []
  | filter :: filters => mapValues f filter :: mapValuesAll f filters

end

mutual

/-- The values of a filter, in the order of its text. -/
def values : Filter α → List (List α)
  | .all filters => valuesAll filters
  | .any filters => valuesAll filters
  | .negation filter => values filter
  | .equal _ value => [value]
  | .present _ => []
  | .substrings _ initial middle final => initial :: middle ++ [final]
  | .atLeast _ value => [value]
  | .atMost _ value => [value]
  | .approximate _ value => [value]
  | .extensible _ _ value _ => [value]

/-- The values of the filters of a list. -/
def valuesAll : List (Filter α) → List (List α)
  | [] => []
  | filter :: filters => values filter ++ valuesAll filters

end

end Values

/-- The octets of a text. -/
def octetsOf (text : String) : List UInt8 := text.toUTF8.data.toList

/-- The octets that a symbol stands for once a value is there. -/
def Mark.fill (octets : List UInt8) : Mark → List UInt8
  | .octet b => [b]
  | .slot => octets

/-- The value with the octets of a text at every mark. -/
def fillValue (text : String) (value : List Mark) : List UInt8 := value.flatMap (Mark.fill (octetsOf text))

/-- The filter with the octets of a text at every mark. -/
def fillMarks (text : String) (tree : Filter Mark) : Filter UInt8 := tree.mapValues (fillValue text)

/-- The number of marks in the values of a filter. -/
def marks (tree : Filter Mark) : Nat := tree.values.flatten.count .slot

/-! ## Question marks in names -/

/-- There are no question marks in what consists of characters of names. -/
lemma slot_notMem {name : List Char} (kind : ∀ c ∈ name, isKeyChar c = true) : slot ∉ name := by
  intro mem
  exact absurd (kind slot mem) (by decide)

/-- Numbers have no slot. -/
lemma NumberText.slot_notMem {digits} (number : NumberText digits) : slot ∉ digits := by
  intro mem
  exact absurd (number.isDigit slot mem) (by decide)

/-- Nor have the numbers behind the dots of an identifier. -/
lemma ArcsText.slot_notMem {arcs} (arcsText : ArcsText arcs) : slot ∉ arcs := by
  induction arcsText with
  | nil => exact List.not_mem_nil
  | cons number _ ih =>
    simp only [List.cons_append, List.mem_cons, List.mem_append, not_or]
    exact ⟨by decide, number.slot_notMem, ih⟩

/-- Nor have names. -/
lemma NameText.slot_notMem {name} (nameText : NameText name) : slot ∉ name := by
  cases nameText with
  | key letter others =>
    simp only [List.mem_cons, not_or]
    refine ⟨?_, Filter.slot_notMem others⟩
    rintro rfl
    exact absurd letter (by decide)
  | dotted number arcsText =>
    simp only [List.mem_append, not_or]
    exact ⟨number.slot_notMem, arcsText.slot_notMem⟩

/-- Nor have the options behind a name. -/
lemma OptionsText.slot_notMem {options} (optionsText : OptionsText options) : slot ∉ options := by
  induction optionsText with
  | nil => exact List.not_mem_nil
  | cons _ kind _ ih =>
    simp only [List.cons_append, List.mem_cons, List.mem_append, not_or]
    exact ⟨by decide, Filter.slot_notMem kind, ih⟩

/-- Nor have attributes as a whole. -/
lemma AttributeText.slot_notMem {name} (attributeText : AttributeText name) : slot ∉ name := by
  obtain ⟨nameText, optionsText⟩ := attributeText
  simp only [List.mem_append, not_or]
  exact ⟨nameText.slot_notMem, optionsText.slot_notMem⟩

/-- There are no question marks in front of the value of an extensible comparison. -/
lemma extensible_slot_notMem {name : Option (List Char)} {rule : Option (List Char)}
    (attributeText : ∀ n ∈ name, AttributeText n) (ruleNameText : ∀ r ∈ rule, NameText r)
    (dnAttributes : Bool) : slot ∉ name.getD [] ++ dnText dnAttributes ++ ruleText rule := by
  simp only [List.mem_append, not_or]
  refine ⟨⟨?_, ?_⟩, ?_⟩
  · cases name with
    | none => exact List.not_mem_nil
    | some n => exact (attributeText n rfl).slot_notMem
  · cases dnAttributes with
    | true => decide
    | false => decide
  · cases rule with
    | none => exact List.not_mem_nil
    | some r =>
      simp only [ruleText, List.mem_cons, not_or]
      exact ⟨by decide, (ruleNameText r rfl).slot_notMem⟩

/-! ## Reading with marks -/

section Symbols
variable {α β : Type} {symbols : Symbols α}

/-- The text of a value is one in any symbols. -/
lemma ValueText.change {cs value} (valueText : ValueText symbols cs value) (symbols' : Symbols β) :
    ∃ value', ValueText symbols' cs value' := by
  induction valueText with
  | nil => exact ⟨_, .nil⟩
  | char plain _ ih =>
    obtain ⟨_, rest⟩ := ih
    exact ⟨_, .char plain rest⟩
  | octet hx hy _ ih =>
    obtain ⟨_, rest⟩ := ih
    exact ⟨_, .octet hx hy rest⟩

/-- The parts of a substring comparison are so with any other symbols. -/
lemma PartsText.change {ds parts} (partsText : PartsText symbols ds parts) (symbols' : Symbols β) :
    ∃ parts', PartsText symbols' ds parts' := by
  induction partsText with
  | nil => exact ⟨_, .nil⟩
  | empty => exact ⟨_, .empty⟩
  | cons valueText ne _ ih =>
    obtain ⟨_, rest⟩ := ih
    obtain ⟨_, first⟩ := valueText.change symbols'
    exact ⟨_, .cons first ne rest⟩

/-- A comparison is one with any other symbols. -/
lemma ItemText.change {cs filter} (item : ItemText symbols cs filter) (symbols' : Symbols β) :
    ∃ filter', ItemText symbols' cs filter' := by
  cases item with
  | equality attributeText valueText partsText =>
    obtain ⟨_, first⟩ := valueText.change symbols'
    obtain ⟨_, parts⟩ := partsText.change symbols'
    exact ⟨_, .equality attributeText first parts⟩
  | atLeast attributeText valueText =>
    obtain ⟨_, value⟩ := valueText.change symbols'
    exact ⟨_, .atLeast attributeText value⟩
  | atMost attributeText valueText =>
    obtain ⟨_, value⟩ := valueText.change symbols'
    exact ⟨_, .atMost attributeText value⟩
  | approximate attributeText valueText =>
    obtain ⟨_, value⟩ := valueText.change symbols'
    exact ⟨_, .approximate attributeText value⟩
  | extensible attributeText ruleNameText named unmarked valueText =>
    obtain ⟨_, value⟩ := valueText.change symbols'
    exact ⟨_, .extensible attributeText ruleNameText named unmarked value⟩

/-- The text of a list of filters is one in any symbols, and of equally many filters. -/
lemma GroupsText.change {cs filters} (groups : GroupsText symbols cs filters) (symbols' : Symbols β) :
    ∃ filters', GroupsText symbols' cs filters' ∧ filters'.length = filters.length := by
  induction groups with
  | nil => exact ⟨_, .nil, rfl⟩
  | all _ _ ihInner ih =>
    obtain ⟨_, inner, _⟩ := ihInner
    obtain ⟨_, others, length⟩ := ih
    exact ⟨_, .all inner others, congrArg (· + 1) length⟩
  | any _ _ ihInner ih =>
    obtain ⟨_, inner, _⟩ := ihInner
    obtain ⟨_, others, length⟩ := ih
    exact ⟨_, .any inner others, congrArg (· + 1) length⟩
  | negation _ _ ihInner ih =>
    obtain ⟨_, inner, single⟩ := ihInner
    obtain ⟨_, others, length⟩ := ih
    -- a negation has one filter inside, and the number of filters stays
    obtain ⟨_, rfl⟩ := List.length_eq_one_iff.mp single
    exact ⟨_, .negation inner others, congrArg (· + 1) length⟩
  | item item _ ih =>
    obtain ⟨_, first⟩ := item.change symbols'
    obtain ⟨_, others, length⟩ := ih
    exact ⟨_, .item first others, congrArg (· + 1) length⟩

/-- What stands for a filter stands for one in any symbols. -/
lemma FilterText.change {text filter} (filterText : FilterText symbols text filter)
    (symbols' : Symbols β) : ∃ filter', FilterText symbols' text filter' := by
  cases filterText with
  | group groups =>
    obtain ⟨_, groups', single⟩ := groups.change symbols'
    obtain ⟨_, rfl⟩ := List.length_eq_one_iff.mp single
    exact ⟨_, .group groups'⟩
  | item item =>
    obtain ⟨_, item'⟩ := item.change symbols'
    exact ⟨_, .item item'⟩

end Symbols

/-! ## A mark for each question mark -/

/-- A hexadecimal digit is no question mark. -/
lemma ne_slot_of_hexDigit? {c x} (digit : hexDigit? c = some x) : c ≠ slot := by
  rintro rfl
  cases digit

/-- A character is kept with a mark exactly if it is a question mark. -/
lemma count_ofChar (c : Char) : (markSymbols.ofChar c).count .slot = [c].count slot := by
  by_cases h : c = slot
  · subst h
    rfl
  · have none_there : Mark.slot ∉ (String.utf8EncodeChar c).map Mark.octet := by simp
    simp only [markSymbols, if_neg h, List.count_eq_zero_of_not_mem none_there]
    rw [List.count_eq_zero_of_not_mem (by simpa using Ne.symm h)]

/-- A value has a mark for each question mark. -/
lemma ValueText.count_slot {cs value} (valueText : ValueText markSymbols cs value) :
    value.count .slot = cs.count slot := by
  induction valueText with
  | nil => rfl
  | @char c cs value _ _ ih =>
    rw [List.count_append, ih, count_ofChar, ← List.count_append, List.singleton_append]
  | octet hx hy _ ih =>
    rw [List.count_cons_of_ne (by simp [markSymbols]), List.count_cons_of_ne (by decide),
      List.count_cons_of_ne (ne_slot_of_hexDigit? hx), List.count_cons_of_ne (ne_slot_of_hexDigit? hy), ih]

/-- A substring comparison has as many marks in its parts as slots in its text. -/
lemma PartsText.count_slot {ds parts} (partsText : PartsText markSymbols ds parts) :
    parts.flatten.count .slot = ds.count slot := by
  induction partsText with
  | nil => rfl
  | empty => rfl
  | cons valueText _ _ ih =>
    rw [List.flatten_cons, List.count_append, valueText.count_slot, ih, List.cons_append,
      List.count_cons_of_ne (by decide), List.count_append]

/-- A comparison for equality has the values of its parts. -/
lemma flatten_values_equality {α : Type} (name : String) (first : List α) (parts : List (List α)) :
    (equality name first parts).values.flatten = first ++ parts.flatten := by
  unfold equality
  split
  case h_1 => simp [values]
  case h_2 last =>
    split
    case isTrue empty =>
      simp only [Bool.and_eq_true, List.isEmpty_iff] at empty
      simp [values, empty]
    case isFalse => simp [values]
  case h_3 notNil notSingle =>
    have whole : parts.dropLast ++ [parts.getLastD []] = parts := by
      rw [List.getLastD_eq_getLast?, List.getLast?_eq_some_getLast notNil, Option.getD_some,
        List.dropLast_concat_getLast]
    rw [values, List.cons_append, whole, List.flatten_cons]

/-- In front of a value there are no question marks. -/
lemma count_slot_behind {name : List Char} (named : slot ∉ name) (sign : List Char) (signed : slot ∉ sign)
    (cs : List Char) : (name ++ (sign ++ cs)).count slot = cs.count slot := by
  rw [List.count_append, List.count_append, List.count_eq_zero_of_not_mem named,
    List.count_eq_zero_of_not_mem signed, Nat.zero_add, Nat.zero_add]

/-- A comparison has as many marks in its values as slots in its text. -/
lemma ItemText.count_slot {cs filter} (item : ItemText markSymbols cs filter) :
    filter.values.flatten.count .slot = cs.count slot := by
  cases item with
  | @equality name cs first ds parts attributeText valueText partsText =>
    have behind := count_slot_behind attributeText.slot_notMem ['='] (by decide) (cs ++ ds)
    rw [flatten_values_equality, List.count_append, valueText.count_slot, partsText.count_slot,
      ← List.count_append, ← behind, List.append_assoc]
    rfl
  | @atLeast name cs value attributeText valueText =>
    have behind := count_slot_behind attributeText.slot_notMem ['>', '='] (by decide) cs
    rw [values, List.flatten_singleton, valueText.count_slot, ← behind]
    rfl
  | @atMost name cs value attributeText valueText =>
    have behind := count_slot_behind attributeText.slot_notMem ['<', '='] (by decide) cs
    rw [values, List.flatten_singleton, valueText.count_slot, ← behind]
    rfl
  | @approximate name cs value attributeText valueText =>
    have behind := count_slot_behind attributeText.slot_notMem ['~', '='] (by decide) cs
    rw [values, List.flatten_singleton, valueText.count_slot, ← behind]
    rfl
  | @extensible name dnAttributes rule cs value attributeText ruleNameText _ _ valueText =>
    have front := extensible_slot_notMem attributeText ruleNameText dnAttributes
    have behind := count_slot_behind front [':', '='] (by decide) cs
    rw [values, List.flatten_singleton, valueText.count_slot, ← behind]
    rfl

/-- A list of filters has a mark for each question mark. -/
lemma GroupsText.count_slot {cs filters} (groups : GroupsText markSymbols cs filters) :
    (valuesAll filters).flatten.count .slot = cs.count slot := by
  have around : ∀ sign : List Char, slot ∉ sign → ∀ cs ds : List Char,
      (sign ++ (cs ++ ')' :: ds)).count slot = cs.count slot + ds.count slot := by
    intro sign signed cs ds
    rw [List.count_append, List.count_eq_zero_of_not_mem signed, Nat.zero_add, List.count_append,
      List.count_cons_of_ne (by decide)]
  induction groups with
  | nil => rfl
  | @all cs filters ds others _ _ ihInner ih =>
    have text := around ['(', '&'] (by decide) cs ds
    rw [valuesAll, values, List.flatten_append, List.count_append, ihInner, ih, ← text]
    rfl
  | @any cs filters ds others _ _ ihInner ih =>
    have text := around ['(', '|'] (by decide) cs ds
    rw [valuesAll, values, List.flatten_append, List.count_append, ihInner, ih, ← text]
    rfl
  | @negation cs filter ds others _ _ ihInner ih =>
    have text := around ['(', '!'] (by decide) cs ds
    rw [valuesAll, valuesAll, List.append_nil] at ihInner
    rw [valuesAll, values, List.flatten_append, List.count_append, ihInner, ih, ← text]
    rfl
  | @item cs filter ds others item _ ih =>
    have text := around ['('] (by decide) cs ds
    rw [valuesAll, List.flatten_append, List.count_append, item.count_slot, ih, ← text]
    rfl

/-- What stands for a filter with marks has a question mark for each mark. -/
lemma FilterText.marks_eq {text filter} (filterText : FilterText markSymbols text filter) :
    filter.marks = text.count slot := by
  cases filterText with
  | group groups =>
    have count := groups.count_slot
    rw [valuesAll, valuesAll, List.append_nil] at count
    exact count
  | item item => exact item.count_slot

end RecipientCallout.Filter
