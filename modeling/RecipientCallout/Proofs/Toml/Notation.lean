import RecipientCallout.Proofs.Text.Decimals
import RecipientCallout.Toml.Document

/-!
# Notation of values

How texts, integers and truth values are written in a document, as relations between characters and what
they stand for, with no reader in them. Integers have a base, a sign and underscores; texts stand in
double quotes, with escapes. `exists_scalarText` says that every such value can be written.
-/

namespace RecipientCallout.Toml
open RecipientCallout.Text

/-- Digits of a base, perhaps with underscores between them, and the number that they stand for. -/
inductive DigitsText (base : Nat) : List Char → Nat → Prop where
  | digit {c d} :
    hexDigit? c = some d →
    d < base →
    DigitsText base [c] d
  | more {cs n c d} :
    DigitsText base cs n →
    hexDigit? c = some d →
    d < base →
    DigitsText base (cs ++ [c]) (base * n + d)
  | spaced {cs n c d} :
    DigitsText base cs n →
    hexDigit? c = some d →
    d < base →
    DigitsText base (cs ++ ['_', c]) (base * n + d)

/-- A decimal number: only the number zero begins with a zero. -/
def DecimalText (cs : List Char) (n : Nat) : Prop :=
  DigitsText 10 cs n ∧ (cs.head? = some '0' → cs = ['0'])

/-- The notations of an integer. -/
inductive IntegerText : List Char → Int → Prop where
  | decimal {cs n} :
    DecimalText cs n →
    IntegerText cs n
  | positive {cs n} :
    DecimalText cs n →
    IntegerText ('+' :: cs) n
  | negative {cs n} :
    DecimalText cs n →
    IntegerText ('-' :: cs) (-n)
  | hexadecimal {cs n} :
    DigitsText 16 cs n →
    IntegerText ('0' :: 'x' :: cs) n
  | octal {cs n} :
    DigitsText 8 cs n →
    IntegerText ('0' :: 'o' :: cs) n
  | binary {cs n} :
    DigitsText 2 cs n →
    IntegerText ('0' :: 'b' :: cs) n

/-- What may stand behind a backslash, and the character that it stands for. -/
inductive EscapeText : List Char → Char → Prop where
  | backspace : EscapeText ['b'] '\x08'
  | formFeed : EscapeText ['f'] '\x0c'
  | lineFeed : EscapeText ['n'] '\n'
  | carriageReturn : EscapeText ['r'] '\r'
  | tab : EscapeText ['t'] '\t'
  | backslash : EscapeText ['\\'] '\\'
  | quote : EscapeText ['"'] '"'
  | short {cs c} :
    DigitsText 16 cs c.toNat →
    '_' ∉ cs →
    cs.length = 4 →
    EscapeText ('u' :: cs) c
  | long {cs c} :
    DigitsText 16 cs c.toNat →
    '_' ∉ cs →
    cs.length = 8 →
    EscapeText ('U' :: cs) c

/-- Whether a character can stand for itself in double quotes. Of control characters only the tab can. -/
def IsPlain (c : Char) : Prop :=
  c ≠ '"' ∧ c ≠ '\\' ∧ (c = '\t' ∨ 0x20 ≤ c.toNat ∧ c.toNat ≠ 0x7F)

instance : DecidablePred IsPlain := fun c =>
  inferInstanceAs (Decidable (c ≠ '"' ∧ c ≠ '\\' ∧ (c = '\t' ∨ 0x20 ≤ c.toNat ∧ c.toNat ≠ 0x7F)))

/-- What stands between double quotes, and the text that it stands for. -/
inductive BasicText : List Char → List Char → Prop where
  | nil : BasicText [] []
  | plain {c cs text} :
    IsPlain c →
    BasicText cs text →
    BasicText (c :: cs) (c :: text)
  | escape {escaped c cs text} :
    EscapeText escaped c →
    BasicText cs text →
    BasicText ('\\' :: escaped ++ cs) (c :: text)

/-- How values without parts are written. Integers have 64 bits. -/
inductive ScalarText : List Char → Scalar → Prop where
  | text {cs text} :
    BasicText cs text →
    ScalarText ('"' :: cs ++ ['"']) (.text (String.ofList text))
  | integer {cs n} :
    IntegerText cs n →
    minInteger ≤ n →
    n ≤ maxInteger →
    ScalarText cs (.integer n)
  | yes : ScalarText ['t', 'r', 'u', 'e'] (.boolean true)
  | no : ScalarText ['f', 'a', 'l', 's', 'e'] (.boolean false)

/-- Whether a name can stand without quotes. -/
def IsBare (name : String) : Prop := name.toList ≠ [] ∧ ∀ c ∈ name.toList, isBareChar c = true

/-- Lines with one entry each, and the entries. -/
inductive LinesText : List Char → List (String × Scalar) → Prop where
  | nil : LinesText [] []
  | line {name value scalar cs entries} :
    IsBare name →
    ScalarText value scalar →
    LinesText cs entries →
    LinesText (name.toList ++ ' ' :: '=' :: ' ' :: value ++ '\n' :: cs) ((name, scalar) :: entries)

/-! ## Everything can be written -/

/-- The digits of a number write it. -/
lemma digitsText_toDigits (n : Nat) : DigitsText 10 (Nat.toDigits 10 n) n := by
  have digit : ∀ d < 10, hexDigit? (Nat.digitChar d) = some d := by decide
  induction n using Nat.strongRecOn with
  | ind n ih =>
    by_cases large : 10 ≤ n
    case pos =>
      have last : n % 10 < 10 := Nat.mod_lt n (by decide)
      have written := (ih (n / 10) (by omega)).more (digit (n % 10) last) last
      rwa [← toDigits_step large, Nat.div_add_mod] at written
    case neg =>
      rw [Nat.toDigits_of_lt_base (by omega)]
      exact .digit (digit n (by omega)) (by omega)

/-- The digits of a number write it without a zero in front. -/
lemma decimalText_toDigits (n : Nat) : DecimalText (Nat.toDigits 10 n) n :=
  ⟨digitsText_toDigits n, (isDecimal_toDigits n).leading⟩

/-- Characters that are not plain have an escape. -/
lemma exists_escapeText {c : Char} (special : ¬ IsPlain c) : ∃ escaped, EscapeText escaped c := by
  have small : c.toNat < 128 := by
    refine Nat.lt_of_not_le fun large => ?_
    have ne (d : Char) (ascii : d.toNat < 128) : c ≠ d := by
      rintro rfl
      omega
    exact special ⟨ne _ (by decide), ne _ (by decide), .inr ⟨by omega, by omega⟩⟩
  have digit : ∀ d < 16, hexDigit? (Nat.digitChar d) = some d ∧ Nat.digitChar d ≠ '_' := by decide
  obtain ⟨first, firstPlain⟩ := digit (c.toNat / 16) (by omega)
  obtain ⟨second, secondPlain⟩ := digit (c.toNat % 16) (by omega)
  obtain ⟨zero, -⟩ := digit 0 (by decide)
  have base : 0 < 16 := by decide
  have zeros := (DigitsText.digit zero base).more zero base
  have written := (zeros.more first (by omega)).more second (by omega)
  rw [show 16 * (16 * (16 * 0 + 0) + c.toNat / 16) + c.toNat % 16 = c.toNat by omega] at written
  exact ⟨_, .short written (by simp [firstPlain.symm, secondPlain.symm]) rfl⟩

/-- Plain characters are written as they are. -/
lemma BasicText.of_plain {cs : List Char} (plain : ∀ c ∈ cs, IsPlain c) : BasicText cs cs := by
  induction cs with
  | nil => exact .nil
  | cons c cs ih =>
    rw [List.forall_mem_cons] at plain
    exact .plain plain.1 (ih plain.2)

/-- Every text can be quoted. -/
lemma exists_basicText (text : List Char) : ∃ cs, BasicText cs text := by
  induction text with
  | nil => exact ⟨[], .nil⟩
  | cons c text ih =>
    obtain ⟨cs, written⟩ := ih
    by_cases plain : IsPlain c
    case pos => exact ⟨_, .plain plain written⟩
    case neg =>
      obtain ⟨escaped, escape⟩ := exists_escapeText plain
      exact ⟨_, .escape escape written⟩

/-- Texts, truth values and numbers of 64 bits can be written. -/
lemma exists_scalarText (scalar : Scalar)
    (kind : (∃ text, scalar = .text text) ∨ (∃ b, scalar = .boolean b) ∨
      ∃ n : Nat, scalar = .integer n ∧ (n : Int) ≤ maxInteger) :
    ∃ cs, ScalarText cs scalar := by
  obtain ⟨text, rfl⟩ | ⟨b, rfl⟩ | ⟨n, rfl, bounded⟩ := kind
  · obtain ⟨cs, written⟩ := exists_basicText text.toList
    have quoted := ScalarText.text written
    rw [String.ofList_toList] at quoted
    exact ⟨_, quoted⟩
  · cases b with
    | false => exact ⟨_, .no⟩
    | true => exact ⟨_, .yes⟩
  · have least : minInteger ≤ (n : Int) := by
      have : minInteger ≤ 0 := by decide
      omega
    exact ⟨_, .integer (.decimal (decimalText_toDigits n)) least bounded⟩

/-- Every list of bare keys with values that can be written has a document. -/
lemma exists_linesText {pairs : List (String × Scalar)} (bare : ∀ pair ∈ pairs, IsBare pair.1)
    (writable : ∀ pair ∈ pairs, ∃ cs, ScalarText cs pair.2) : ∃ cs, LinesText cs pairs := by
  induction pairs with
  | nil => exact ⟨[], .nil⟩
  | cons pair pairs ih =>
    obtain ⟨name, names⟩ := List.forall_mem_cons.mp bare
    obtain ⟨⟨value, written⟩, values⟩ := List.forall_mem_cons.mp writable
    obtain ⟨cs, lines⟩ := ih names values
    exact ⟨_, .line name written lines⟩

end RecipientCallout.Toml
