import RecipientCallout.Proofs.Filter.Complete
import RecipientCallout.Proofs.Filter.Marked

/-!
# Filling search filter templates

A filled template is read as the template itself, with the octets of the value, uninterpreted, at each of
its question marks: the headline `Template.parse?_fill`. The text of every phrase of the grammar with the
escaped value at its question marks is again such a phrase (`ValueText.expand` up to `FilterText.expand`),
since an escaped value is the text of its octets (`ValueText.escape`).
-/

namespace RecipientCallout.Filter
open RecipientCallout.Text

/-- The text with the escaped value at every question mark. -/
def expand (value : String) (cs : List Char) : List Char :=
  cs.flatMap fun c => if c = slot then escape value.toList else [c]

/-- What was split at a separator is joined with something else in its place. -/
lemma joinWith_splitOn_eq (sep : Char) (glue cs : List Char) :
    joinWith glue (splitOn sep cs) = cs.flatMap fun c => if c = sep then glue else [c] := by
  induction cs with
  | nil => rfl
  | cons c cs ih =>
    rw [List.flatMap_cons, ← ih]
    by_cases h : c = sep
    · rw [splitOn, if_pos h, if_pos h, joinWith_cons _ _ (splitOn_ne_nil sep cs), List.nil_append]
    · rw [splitOn, if_neg h, if_neg h]
      cases split : splitOn sep cs with
      | nil => exact absurd split (splitOn_ne_nil sep cs)
      | cons piece pieces => exact joinWith_cons_cons glue c piece pieces

/-- A filled template is its text with the escaped value at every question mark. -/
lemma Template.fill_eq (t : Template) (value : String) :
    t.fill value = String.ofList (expand value t.source) :=
  congrArg String.ofList (joinWith_splitOn_eq slot (escape value.toList) t.source)

/-! ## Escaped values -/

/-- The octets of a text are those of its characters. -/
lemma octetsOf_eq (text : String) : octetsOf text = text.toList.flatMap String.utf8EncodeChar := by
  have encoded : text.toByteArray = (text.toList.flatMap String.utf8EncodeChar).toByteArray :=
    String.utf8Encode_toList.symm
  rw [octetsOf, String.toUTF8_eq_toByteArray, encoded, List.toList_data_toByteArray]

section Symbols
variable {α : Type} {symbols : Symbols α}

/-- A value behind a value is a value. -/
lemma ValueText.append {cs first ds second} (firstText : ValueText symbols cs first)
    (secondText : ValueText symbols ds second) : ValueText symbols (cs ++ ds) (first ++ second) := by
  induction firstText with
  | nil => exact secondText
  | char plain _ ih =>
    rw [List.append_assoc]
    exact .char plain ih
  | octet hx hy _ ih => exact .octet hx hy ih

end Symbols

/-- A code in hexadecimal digits is the text of one octet. -/
lemma ValueText.escapeCode {n} (small : n < 256) :
    ValueText octetSymbols (escapeCode n) [UInt8.ofNat n] := by
  have digit : ∀ d < 16, hexDigit? (Nat.digitChar d) = some d := by decide
  have text : ValueText octetSymbols (Filter.escapeCode n) [UInt8.ofNat (16 * (n / 16) + n % 16)] :=
    .octet (digit (n / 16) (by omega)) (digit (n % 16) (by omega)) .nil
  rw [Nat.div_add_mod] at text
  exact text

/-- An escaped character is the text of its octets. -/
lemma ValueText.escapeChar (c : Char) :
    ValueText octetSymbols (escapeChar c) (String.utf8EncodeChar c) := by
  unfold Filter.escapeChar
  split
  case isTrue special =>
    simp only [isSpecial, Bool.or_eq_true, decide_eq_true_eq] at special
    obtain (((rfl | rfl) | rfl) | rfl) | rfl := special
    all_goals exact .escapeCode (by decide)
  case isFalse plain =>
    have text : ValueText octetSymbols [c] (String.utf8EncodeChar c ++ []) :=
      .char (Bool.eq_false_iff.mpr plain) .nil
    rw [List.append_nil] at text
    exact text

/-- An escaped text is the text of its octets. -/
lemma ValueText.escape (value : String) :
    ValueText octetSymbols (escape value.toList) (octetsOf value) := by
  rw [octetsOf_eq]
  unfold Filter.escape
  induction value.toList with
  | nil => exact .nil
  | cons c cs ih => exact (ValueText.escapeChar c).append ih

/-! ## Phrases with the value in them -/

section Expand
variable (v : String)

/-- Where there is no question mark, nothing changes. -/
lemma expand_of_notMem {cs} (notMem : slot ∉ cs) : expand v cs = cs := by
  induction cs with
  | nil => rfl
  | cons c cs ih =>
    rw [List.mem_cons, not_or] at notMem
    rw [expand, List.flatMap_cons, if_neg (Ne.symm notMem.1), ← expand, ih notMem.2]
    rfl

/-- Parts of a text are filled one by one. -/
lemma expand_append (cs ds : List Char) : expand v (cs ++ ds) = expand v cs ++ expand v ds :=
  List.flatMap_append

/-- A slot is filled with the escaped value. -/
lemma expand_slot (cs : List Char) : expand v (slot :: cs) = escape v.toList ++ expand v cs := rfl

/-- Any other character stays. -/
lemma expand_cons {c} (ne : c ≠ slot) (cs : List Char) : expand v (c :: cs) = c :: expand v cs := by
  rw [expand, List.flatMap_cons, if_neg ne]
  rfl

/-- What stands in front of a value stays. -/
lemma expand_behind {name : List Char} (named : slot ∉ name) (sign : List Char) (signed : slot ∉ sign)
    (cs : List Char) : expand v (name ++ (sign ++ cs)) = name ++ (sign ++ expand v cs) := by
  rw [expand_append, expand_append, expand_of_notMem v named, expand_of_notMem v signed]

/-- The parentheses around filters stay. -/
lemma expand_around (sign : List Char) (signed : slot ∉ sign) (cs ds : List Char) :
    expand v (sign ++ (cs ++ ')' :: ds)) = sign ++ (expand v cs ++ ')' :: expand v ds) := by
  rw [expand_append, expand_append, expand_of_notMem v signed, expand_cons v (by decide)]

/-- Parts of a value are filled one by one. -/
lemma fillValue_append (first second : List Mark) :
    fillValue v (first ++ second) = fillValue v first ++ fillValue v second :=
  List.flatMap_append

/-- A character that is no question mark is filled with its octets. -/
lemma fillValue_ofChar {c} (ne : c ≠ slot) :
    fillValue v (markSymbols.ofChar c) = String.utf8EncodeChar c := by
  simp [markSymbols, ne, fillValue, Mark.fill, List.flatMap_map]

variable {v}

/-- Only the empty text has no octets. -/
lemma octetsOf_ne_nil (ne : v ≠ "") : octetsOf v ≠ [] := by
  rw [octetsOf_eq]
  cases chars : v.toList with
  | nil => exact absurd (String.toList_eq_nil_iff.mp chars) ne
  | cons c cs => simp [String.utf8EncodeChar_ne_nil]

/-- A filled value is empty only if it was, unless it is filled with nothing. -/
lemma fillValue_eq_nil (ne : v ≠ "") (value : List Mark) : fillValue v value = [] ↔ value = [] := by
  cases value with
  | nil => exact ⟨fun _ => rfl, fun _ => rfl⟩
  | cons mark value =>
    refine ⟨fun empty => ?_, nofun⟩
    have first : Mark.fill (octetsOf v) mark = [] := (List.append_eq_nil_iff.mp empty).1
    cases mark with
    | octet b => cases first
    | slot => exact absurd first (octetsOf_ne_nil ne)

/-- A text with the value in it is empty only if it was, unless the value is. -/
lemma expand_ne_nil (ne : v ≠ "") {cs} (some_text : cs ≠ []) : expand v cs ≠ [] := by
  cases cs with
  | nil => exact absurd rfl some_text
  | cons c cs =>
    by_cases h : c = slot
    · subst h
      rw [expand_slot]
      intro empty
      -- no text at all is the text of no octets
      have escaped := ValueText.escape v
      rw [(List.append_eq_nil_iff.mp empty).1] at escaped
      exact octetsOf_ne_nil ne escaped.eq_nil
    · rw [expand_cons v h]
      exact List.cons_ne_nil _ _

/-- A value with the value in it is the filled value. -/
lemma ValueText.expand {cs value} (valueText : ValueText markSymbols cs value) :
    ValueText octetSymbols (expand v cs) (fillValue v value) := by
  induction valueText with
  | nil => exact .nil
  | @char c cs value plain _ ih =>
    rw [fillValue_append]
    by_cases h : c = slot
    · subst h
      rw [expand_slot]
      -- the only character that changes, in the text as among the symbols
      have filled : fillValue v (markSymbols.ofChar slot) = octetsOf v := by
        simp [markSymbols, fillValue, Mark.fill]
      rw [filled]
      exact (ValueText.escape v).append ih
    · rw [expand_cons v h, fillValue_ofChar v h]
      exact .char plain ih
  | octet hx hy _ ih =>
    rw [expand_cons v (by decide), expand_cons v (ne_slot_of_hexDigit? hx),
      expand_cons v (ne_slot_of_hexDigit? hy)]
    exact .octet hx hy ih

/-- The parts of a substring comparison are filled with a value that is not empty. -/
lemma PartsText.expand (ne : v ≠ "") {ds parts} (partsText : PartsText markSymbols ds parts) :
    PartsText octetSymbols (expand v ds) (parts.map (fillValue v)) := by
  induction partsText with
  | nil => exact .nil
  | empty => exact .empty
  | cons valueText some_text _ ih =>
    rw [List.cons_append, expand_cons v (by decide), expand_append]
    exact .cons valueText.expand (expand_ne_nil ne some_text) ih

/-- Filling keeps the kind of a comparison for equality: plain, for presence, or with gaps. -/
lemma fillMarks_equality (ne : v ≠ "") (name : String) (first : List Mark) (parts : List (List Mark)) :
    fillMarks v (equality name first parts) =
      equality name (fillValue v first) (parts.map (fillValue v)) := by
  -- presence is told from equality by empty values, and these stay empty
  have kept : ∀ value, (fillValue v value).isEmpty = value.isEmpty := fun value => by
    rw [Bool.eq_iff_iff, List.isEmpty_iff, List.isEmpty_iff, fillValue_eq_nil ne]
  match parts with
  | [] => rfl
  | [last] =>
    simp only [equality, List.map_cons, List.map_nil, kept]
    split
    case isTrue => rfl
    case isFalse => rfl
  | part :: next :: parts =>
    have final : fillValue v ((part :: next :: parts).getLastD []) =
        ((part :: next :: parts).map (fillValue v)).getLastD [] := by
      rw [List.getLastD_eq_getLast?, List.getLastD_eq_getLast?, List.getLast?_map,
        List.getLast?_eq_some_getLast (List.cons_ne_nil _ _)]
      rfl
    have middle := List.map_dropLast (f := fillValue v) (l := part :: next :: parts)
    simp only [List.map_cons] at final middle ⊢
    rw [equality, equality, fillMarks, mapValues, final, middle]
    all_goals simp

/-- A comparison with the value in it is the filled comparison. -/
lemma ItemText.expand (ne : v ≠ "") {cs filter} (item : ItemText markSymbols cs filter) :
    ItemText octetSymbols (expand v cs) (fillMarks v filter) := by
  cases item with
  | @equality name cs first ds parts attributeText valueText partsText =>
    rw [fillMarks_equality ne, expand_append]
    show ItemText octetSymbols (Filter.expand v (name ++ (['='] ++ cs)) ++ Filter.expand v ds) _
    rw [expand_behind v attributeText.slot_notMem _ (by decide)]
    exact .equality attributeText valueText.expand (partsText.expand ne)
  | @atLeast name cs value attributeText valueText =>
    show ItemText octetSymbols (Filter.expand v (name ++ (['>', '='] ++ cs))) _
    rw [expand_behind v attributeText.slot_notMem _ (by decide)]
    exact .atLeast attributeText valueText.expand
  | @atMost name cs value attributeText valueText =>
    show ItemText octetSymbols (Filter.expand v (name ++ (['<', '='] ++ cs))) _
    rw [expand_behind v attributeText.slot_notMem _ (by decide)]
    exact .atMost attributeText valueText.expand
  | @approximate name cs value attributeText valueText =>
    show ItemText octetSymbols (Filter.expand v (name ++ (['~', '='] ++ cs))) _
    rw [expand_behind v attributeText.slot_notMem _ (by decide)]
    exact .approximate attributeText valueText.expand
  | @extensible name dnAttributes rule cs value attributeText ruleNameText named unmarked valueText =>
    have front := extensible_slot_notMem attributeText ruleNameText dnAttributes
    show ItemText octetSymbols (Filter.expand v (_ ++ ([':', '='] ++ cs))) _
    rw [expand_behind v front _ (by decide)]
    exact .extensible attributeText ruleNameText named unmarked valueText.expand

/-- A list of filters with the value in it is the list of the filled filters. -/
lemma GroupsText.expand (ne : v ≠ "") {cs filters} (groups : GroupsText markSymbols cs filters) :
    GroupsText octetSymbols (expand v cs) (mapValuesAll (fillValue v) filters) := by
  induction groups with
  | nil => exact .nil
  | @all cs filters ds others _ _ ihInner ih =>
    show GroupsText octetSymbols (Filter.expand v (['(', '&'] ++ (cs ++ ')' :: ds))) _
    rw [expand_around v _ (by decide)]
    exact .all ihInner ih
  | @any cs filters ds others _ _ ihInner ih =>
    show GroupsText octetSymbols (Filter.expand v (['(', '|'] ++ (cs ++ ')' :: ds))) _
    rw [expand_around v _ (by decide)]
    exact .any ihInner ih
  | @negation cs filter ds others _ _ ihInner ih =>
    show GroupsText octetSymbols (Filter.expand v (['(', '!'] ++ (cs ++ ')' :: ds))) _
    rw [expand_around v _ (by decide)]
    exact .negation ihInner ih
  | @item cs filter ds others item _ ih =>
    show GroupsText octetSymbols (Filter.expand v (['('] ++ (cs ++ ')' :: ds))) _
    rw [expand_around v _ (by decide)]
    exact .item (item.expand ne) ih

/-- A filter with the value in it is the filled filter. -/
lemma FilterText.expand (ne : v ≠ "") {text filter} (filterText : FilterText markSymbols text filter) :
    FilterText octetSymbols (expand v text) (fillMarks v filter) := by
  cases filterText with
  | group groups => exact .group (groups.expand ne)
  | item item => exact .item (item.expand ne)

end Expand

/-! ## Filled templates -/

/-- Every character has an octet. -/
lemma octetSymbols_kept (c : Char) : octetSymbols.ofChar c ≠ [] := String.utf8EncodeChar_ne_nil

/-- Every character has a mark. -/
lemma markSymbols_kept (c : Char) : markSymbols.ofChar c ≠ [] := by
  by_cases h : c = slot
  · simp [markSymbols, h]
  · simp [markSymbols, h, String.utf8EncodeChar_ne_nil]

/-- A text is its own with question marks at its question marks. -/
lemma expand_self (cs : List Char) : expand "?" cs = cs := by
  induction cs with
  | nil => rfl
  | cons c cs ih =>
    by_cases h : c = slot
    · subst h
      rw [expand_slot, ih]
      rfl
    · rw [expand_cons "?" h, ih]

/-- A template is made of its text. -/
lemma Template.source_of_parse? {text t} (template : Template.parse? text = some t) :
    t.source = text.toList := by
  unfold Template.parse? at template
  split at template
  case isTrue =>
    cases template
    rfl
  case isFalse => cases template

/-- **Filling in values.** Let a text with question marks be accepted as a filter. Then it reads as a filter
`tree` with a mark for each question mark, its own filter is `tree` with question marks at the marks, and
for any value that is not empty, the filled template is accepted, as `tree` with the octets of the value at
the marks. So a value can neither change what is compared nor how, nor can it break the filter. -/
theorem Template.parse?_fill {text : String} {t : Template} {filter : Filter UInt8} {v : String}
    (template : Template.parse? text = some t) (accepted : Filter.parse? text = some filter)
    (ne : v ≠ "") :
    ∃ tree : Filter Mark,
      parseWith? markSymbols text.toList = some tree ∧
      tree.marks = text.toList.count slot ∧
      filter = fillMarks "?" tree ∧
      Filter.parse? (t.fill v) = some (fillMarks v tree) := by
  have filterText := (parseWith?_eq_some_iff octetSymbols_kept).mp accepted
  obtain ⟨tree, marked⟩ := filterText.change markSymbols
  have filled : ∀ {v : String}, v ≠ "" →
      parseWith? octetSymbols (expand v text.toList) = some (fillMarks v tree) :=
    fun ne => (parseWith?_eq_some_iff octetSymbols_kept).mpr (marked.expand ne)
  refine ⟨tree, (parseWith?_eq_some_iff markSymbols_kept).mpr marked, marked.marks_eq, ?_, ?_⟩
  · -- the filter itself is the one filled with a question mark
    have own := filled (v := "?") (by decide)
    rw [expand_self] at own
    exact Option.some.inj (accepted.symm.trans own)
  · rw [Filter.parse?, Template.fill_eq, Template.source_of_parse? template, String.toList_ofList]
    exact filled ne

/-- A value of characters with a meaning in filters, some of them in digits. -/
def hostile : String := "smtp:?*)(|(cn=*\\3f\x00é@example.com"

/-- Both templates that are used by default fill as they should, even with such a value. -/
theorem Template.parse?_fill_defaults :
    (∃ t filter tree,
      Template.parse? defaultUsers = some t ∧
      Filter.parse? defaultUsers = some filter ∧
      parseWith? markSymbols defaultUsers.toList = some tree ∧
      tree.marks = 1 ∧
      filter = fillMarks "?" tree ∧
      Filter.parse? (t.fill hostile) = some (fillMarks hostile tree)) ∧
    (∃ t filter tree,
      Template.parse? defaultFolders = some t ∧
      Filter.parse? defaultFolders = some filter ∧
      parseWith? markSymbols defaultFolders.toList = some tree ∧
      tree.marks = 1 ∧
      filter = fillMarks "?" tree ∧
      Filter.parse? (t.fill hostile) = some (fillMarks hostile tree)) := by
  have ne : hostile ≠ "" := by decide
  refine ⟨?_, ?_⟩
  · obtain ⟨t, template⟩ := Option.isSome_iff_exists.mp
      (by decide +kernel : (Template.parse? defaultUsers).isSome)
    obtain ⟨filter, accepted⟩ := Option.isSome_iff_exists.mp
      (by decide +kernel : (Filter.parse? defaultUsers).isSome)
    obtain ⟨tree, marked, marks, own, filled⟩ := Template.parse?_fill template accepted ne
    exact ⟨t, filter, tree, template, accepted, marked, marks, own, filled⟩
  · obtain ⟨t, template⟩ := Option.isSome_iff_exists.mp
      (by decide +kernel : (Template.parse? defaultFolders).isSome)
    obtain ⟨filter, accepted⟩ := Option.isSome_iff_exists.mp
      (by decide +kernel : (Filter.parse? defaultFolders).isSome)
    obtain ⟨tree, marked, marks, own, filled⟩ := Template.parse?_fill template accepted ne
    exact ⟨t, filter, tree, template, accepted, marked, marks, own, filled⟩

-- the code of a question mark is no mark
example : parseWith? markSymbols "cn=\\3f?".toList = some (.equal "cn" [.octet 63, .slot]) := by
  rfl

end RecipientCallout.Filter
