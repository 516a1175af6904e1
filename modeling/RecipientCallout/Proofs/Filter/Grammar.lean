import Mathlib.Tactic.Lemma
import RecipientCallout.Filter.Escape
import RecipientCallout.Filter.Tree

/-!
# The grammar of search filters

Which texts stand for which filters, as relations without a reader: numbers, names and options; values
and their parts; comparisons; groups. A list of groups is one relation, `GroupsText`, so that an
induction over a filter is an induction over a single derivation.

The symbols in which values are kept are left open throughout.
-/

namespace RecipientCallout.Filter
open RecipientCallout.Text

/-- The text of a number: digits, the first of which is zero only if it stands alone. -/
structure NumberText (digits : List Char) : Prop where
  ne_nil : digits ≠ []
  isDigit : ∀ c ∈ digits, isDigit c = true
  zero : digits.head? = some '0' → digits = ['0']

/-- The text of the further numbers of a dotted identifier. -/
inductive ArcsText : List Char → Prop where
  | nil : ArcsText []
  | cons {digits arcs} :
    NumberText digits →
    ArcsText arcs →
    ArcsText ('.' :: digits ++ arcs)

/-- The text of a name or of a dotted identifier. -/
inductive NameText : List Char → Prop where
  | key {c cs} :
    isLetter c = true →
    (∀ d ∈ cs, isKeyChar d = true) →
    NameText (c :: cs)
  | dotted {digits arcs} :
    NumberText digits →
    ArcsText arcs →
    NameText (digits ++ arcs)

/-- The text of the options of an attribute. -/
inductive OptionsText : List Char → Prop where
  | nil : OptionsText []
  | cons {name options} :
    name ≠ [] →
    (∀ c ∈ name, isKeyChar c = true) →
    OptionsText options →
    OptionsText (';' :: name ++ options)

/-- The text of an attribute: its name and its options. -/
inductive AttributeText : List Char → Prop where
  | intro {name options} :
    NameText name →
    OptionsText options →
    AttributeText (name ++ options)

variable {α : Type}

/-- The text of a value: characters without a meaning of their own, and octets as a backslash and two
hexadecimal digits. -/
inductive ValueText (symbols : Symbols α) : List Char → List α → Prop where
  | nil : ValueText symbols [] []
  | char {c cs value} :
    isSpecial c = false →
    ValueText symbols cs value →
    ValueText symbols (c :: cs) (symbols.ofChar c ++ value)
  | octet {a b x y cs value} :
    hexDigit? a = some x →
    hexDigit? b = some y →
    ValueText symbols cs value →
    ValueText symbols ('\\' :: a :: b :: cs) (symbols.ofOctet (UInt8.ofNat (16 * x + y)) :: value)

/-- The text of the parts of a value behind asterisks, of which only the last may be empty. -/
inductive PartsText (symbols : Symbols α) : List Char → List (List α) → Prop where
  | nil : PartsText symbols [] []
  | empty : PartsText symbols ['*'] [[]]
  | cons {cs value ds parts} :
    ValueText symbols cs value →
    cs ≠ [] →
    PartsText symbols ds parts →
    PartsText symbols ('*' :: cs ++ ds) (value :: parts)

/-- The mark of an extensible comparison that takes in the attributes of names. -/
def dnText (dnAttributes : Bool) : List Char := if dnAttributes then [':', 'd', 'n'] else []

/-- The matching rule of an extensible comparison, if it names one. -/
def ruleText : Option (List Char) → List Char
  | some rule => ':' :: rule
  | none => []

/-- The text of a comparison. -/
inductive ItemText (symbols : Symbols α) : List Char → Filter α → Prop where
  | equality {name cs first ds parts} :
    AttributeText name →
    ValueText symbols cs first →
    PartsText symbols ds parts →
    ItemText symbols (name ++ '=' :: cs ++ ds) (equality (String.ofList name) first parts)
  | atLeast {name cs value} :
    AttributeText name →
    ValueText symbols cs value →
    ItemText symbols (name ++ '>' :: '=' :: cs) (.atLeast (String.ofList name) value)
  | atMost {name cs value} :
    AttributeText name →
    ValueText symbols cs value →
    ItemText symbols (name ++ '<' :: '=' :: cs) (.atMost (String.ofList name) value)
  | approximate {name cs value} :
    AttributeText name →
    ValueText symbols cs value →
    ItemText symbols (name ++ '~' :: '=' :: cs) (.approximate (String.ofList name) value)
  | extensible {name : Option (List Char)} {dnAttributes} {rule : Option (List Char)} {cs value} :
    (∀ n ∈ name, AttributeText n) →
    (∀ r ∈ rule, NameText r) →
    (name = none → rule ≠ none) →
    -- without the mark, a rule whose name begins like the mark would be read as the mark
    (dnAttributes = false → ∀ r ∈ rule, ¬ ['d', 'n'] <+: r) →
    ValueText symbols cs value →
    ItemText symbols
      (name.getD [] ++ dnText dnAttributes ++ ruleText rule ++ ':' :: '=' :: cs)
      (.extensible (rule.map String.ofList) (name.map String.ofList) value dnAttributes)

/-- The text of a list of filters in parentheses. -/
inductive GroupsText (symbols : Symbols α) : List Char → List (Filter α) → Prop where
  | nil : GroupsText symbols [] []
  | all {cs filters ds others} :
    GroupsText symbols cs filters →
    GroupsText symbols ds others →
    GroupsText symbols ('(' :: '&' :: cs ++ ')' :: ds) (.all filters :: others)
  | any {cs filters ds others} :
    GroupsText symbols cs filters →
    GroupsText symbols ds others →
    GroupsText symbols ('(' :: '|' :: cs ++ ')' :: ds) (.any filters :: others)
  | negation {cs filter ds others} :
    GroupsText symbols cs [filter] →
    GroupsText symbols ds others →
    GroupsText symbols ('(' :: '!' :: cs ++ ')' :: ds) (.negation filter :: others)
  | item {cs filter ds others} :
    ItemText symbols cs filter →
    GroupsText symbols ds others →
    GroupsText symbols ('(' :: cs ++ ')' :: ds) (filter :: others)

/-- The text of a filter: in parentheses, or a comparison alone. -/
inductive FilterText (symbols : Symbols α) : List Char → Filter α → Prop where
  | group {cs filter} :
    GroupsText symbols cs [filter] →
    FilterText symbols cs filter
  | item {cs filter} :
    ItemText symbols cs filter →
    FilterText symbols cs filter

end RecipientCallout.Filter
