import Mathlib.Data.List.Basic
import RecipientCallout.Proofs.Steps
import RecipientCallout.Proofs.Toml.Notation

/-!
# Reading integers

The reader of numbers against the notations of integers, in both directions. `readNumber_complete`: every
notation of an integer of 64 bits is read as that integer, up to the end of its line.
`readNumber_sound`: where an integer was read, there stood a notation of it, and it has 64 bits.
-/

namespace RecipientCallout.Toml
open RecipientCallout.Text

/-! ## Digits -/

/-- The digits of a base are the hexadecimal ones below it. -/
lemma isDigitOf_iff {base : Nat} {c : Char} :
    isDigitOf base c = true ↔ ∃ d, hexDigit? c = some d ∧ d < base := by
  unfold isDigitOf
  cases hexDigit? c <;> simp

/-- Decimal digits by their numbers. -/
lemma isDigit_iff {c : Char} : isDigit c = true ↔ 48 ≤ c.toNat ∧ c.toNat ≤ 57 := by
  simp [isDigit, Char.le_def, UInt32.le_iff_toNat_le]

/-- The value of a decimal digit. -/
lemma hexDigit?_of_isDigit {c : Char} (digit : isDigit c = true) :
    hexDigit? c = some (c.toNat - 48) := by
  have bounds : '0' ≤ c ∧ c ≤ '9' := by simpa [isDigit] using digit
  rw [hexDigit?, if_pos bounds]

/-- A digit with a value below ten is a decimal one. -/
lemma isDigit_of_hexDigit? {c : Char} {d : Nat} (found : hexDigit? c = some d) (small : d < 10) :
    isDigit c = true := by
  unfold hexDigit? at found
  split at found
  case isTrue bounds => simpa [isDigit] using bounds
  case isFalse =>
    have least (b : Char) (le : b ≤ c) : b.toNat ≤ c.toNat := UInt32.le_iff_toNat_le.mp le
    split at found
    case isTrue bounds =>
      have lower : 97 ≤ c.toNat := least 'a' bounds.1
      cases found
      omega
    case isFalse =>
      split at found
      case isTrue bounds =>
        have lower : 65 ≤ c.toNat := least 'A' bounds.1
        cases found
        omega
      case isFalse => cases found

/-- The digits of the base ten are the decimal ones. -/
lemma isDigitOf_ten : isDigitOf 10 = isDigit := by
  funext c
  rw [Bool.eq_iff_iff, isDigitOf_iff]
  constructor
  · rintro ⟨d, found, small⟩
    exact isDigit_of_hexDigit? found small
  · intro digit
    have bounds := isDigit_iff.mp digit
    exact ⟨_, hexDigit?_of_isDigit digit, by omega⟩

/-- Digits differ from all that are none. -/
lemma ne_of_isDigitOf {base : Nat} {c sign : Char} (digit : isDigitOf base c = true)
    (other : hexDigit? sign = none) : c ≠ sign := by
  rintro rfl
  obtain ⟨d, found, -⟩ := isDigitOf_iff.mp digit
  rw [other] at found
  cases found

/-- The last digit of a number counts once. -/
lemma valueIn_append (base : Nat) (digits : List Char) (c : Char) :
    valueIn base (digits ++ [c]) = base * valueIn base digits + (hexDigit? c).getD 0 := by
  simp [valueIn]

/-- The value of decimal digits is that in the base ten. -/
lemma decimalValue_eq {digits : List Char} (all : ∀ c ∈ digits, isDigitOf 10 c = true) :
    decimalValue digits = valueIn 10 digits := by
  refine List.foldl_ext _ _ 0 fun n c mem => ?_
  have digit := all c mem
  rw [isDigitOf_ten] at digit
  rw [hexDigit?_of_isDigit digit, Option.getD_some]

/-! ## Further digits -/

section
variable {isDigit : Char → Bool} {label : String} {c : Char} {rest : List Char}

/-- A further digit is taken. -/
lemma moreDigits_digit (ne : c ≠ '_') (digit : isDigit c = true) :
    moreDigits isDigit label (c :: rest) =
      (moreDigits isDigit label rest).map fun (digits, rest) => (c :: digits, rest) := by
  rw [moreDigits, if_pos digit]
  · intro e; exact absurd e ne
  · intro _ _ e; exact absurd e ne

/-- An underscore is taken with the digit behind it. -/
lemma moreDigits_spaced (digit : isDigit c = true) :
    moreDigits isDigit label ('_' :: c :: rest) =
      (moreDigits isDigit label rest).map fun (digits, rest) => (c :: digits, rest) := by
  rw [moreDigits, if_pos digit]

/-- Anything else ends the digits. -/
lemma moreDigits_stop (ne : c ≠ '_') (stop : isDigit c = false) :
    moreDigits isDigit label (c :: rest) = .ok ([], c :: rest) := by
  rw [moreDigits, if_neg (by simp [stop])]
  · intro e; exact absurd e ne
  · intro _ _ e; exact absurd e ne

end

/-- What the reader of digits makes of a notation: a first digit, and the digits that it takes from the
rest of it, whatever follows. -/
def ReadsAs (base : Nat) (cs : List Char) (n : Nat) : Prop :=
  ∃ d more digits, cs = d :: more ∧ (∀ c ∈ d :: digits, isDigitOf base c = true) ∧
    valueIn base (d :: digits) = n ∧
    ∀ label rest, moreDigits (isDigitOf base) label (more ++ rest) =
      (moreDigits (isDigitOf base) label rest).map fun (others, rest) => (digits ++ others, rest)

/-- One more digit, which the reader takes from the end `tail`. -/
lemma ReadsAs.append {base : Nat} {cs tail : List Char} {n d : Nat} {c : Char} (reads : ReadsAs base cs n)
    (found : hexDigit? c = some d) (small : d < base)
    (one : ∀ label rest, moreDigits (isDigitOf base) label (tail ++ rest) =
      (moreDigits (isDigitOf base) label rest).map fun (digits, rest) => (c :: digits, rest)) :
    ReadsAs base (cs ++ tail) (base * n + d) := by
  obtain ⟨first, others, digits, rfl, all, value, read⟩ := reads
  refine ⟨first, others ++ tail, digits ++ [c], rfl, ?_, ?_, ?_⟩
  · rw [← List.cons_append, List.forall_mem_append]
    exact ⟨all, List.forall_mem_singleton.mpr (isDigitOf_iff.mpr ⟨d, found, small⟩)⟩
  · rw [← List.cons_append, valueIn_append, value, found, Option.getD_some]
  · intro label rest
    rw [List.append_assoc, read, one]
    cases moreDigits (isDigitOf base) label rest <;> simp [Except.map]

/-- Digits are read as they were written. -/
lemma DigitsText.read {base : Nat} {cs : List Char} {n : Nat} (written : DigitsText base cs n) :
    ReadsAs base cs n := by
  induction written with
  | @digit c d found small =>
    refine ⟨c, [], [], rfl, ?_, ?_, ?_⟩
    · exact List.forall_mem_singleton.mpr (isDigitOf_iff.mpr ⟨d, found, small⟩)
    · simp [valueIn, found]
    · intro label rest
      rw [List.nil_append]
      cases moreDigits (isDigitOf base) label rest <;> rfl
  | @more cs n c d _ found small ih =>
    have digit := isDigitOf_iff.mpr ⟨d, found, small⟩
    exact ih.append found small fun _ _ => moreDigits_digit (ne_of_isDigitOf digit rfl) digit
  | @spaced cs n c d _ found small ih =>
    have digit := isDigitOf_iff.mpr ⟨d, found, small⟩
    exact ih.append found small fun _ _ => moreDigits_spaced digit

/-- Further digits go on with a notation before them. -/
lemma moreDigits_sound {base : Nat} {label : String} {cs digits rest : List Char}
    (read : moreDigits (isDigitOf base) label cs = .ok (digits, rest)) {before : List Char} {n : Nat}
    (written : DigitsText base before n) :
    ∃ more, cs = more ++ rest ∧
      DigitsText base (before ++ more)
        (digits.foldl (fun n c => base * n + (hexDigit? c).getD 0) n) := by
  fun_induction moreDigits (isDigitOf base) label cs generalizing before n digits with
  | case1 =>
    cases read
    exact ⟨[], rfl, by simpa using written⟩
  | case2 => cases read
  | case3 c cs digit ih =>
    obtain ⟨others, behind, rfl⟩ := exists_of_map_fst_eq_ok read
    obtain ⟨d, found, small⟩ := isDigitOf_iff.mp digit
    obtain ⟨more, rfl, written⟩ := ih behind (written.spaced found small)
    refine ⟨'_' :: c :: more, rfl, ?_⟩
    simpa [found] using written
  | case4 => cases read
  | case5 c cs _ _ digit ih =>
    obtain ⟨others, behind, rfl⟩ := exists_of_map_fst_eq_ok read
    obtain ⟨d, found, small⟩ := isDigitOf_iff.mp digit
    obtain ⟨more, rfl, written⟩ := ih behind (written.more found small)
    refine ⟨c :: more, rfl, ?_⟩
    simpa [found] using written
  | case6 =>
    cases read
    exact ⟨[], rfl, by simpa using written⟩

/-- Only digits are taken. -/
lemma forall_mem_moreDigits {isDigit : Char → Bool} {label : String} {cs digits rest : List Char}
    (read : moreDigits isDigit label cs = .ok (digits, rest)) : ∀ c ∈ digits, isDigit c = true := by
  fun_induction moreDigits isDigit label cs generalizing digits with
  | case1 => cases read; exact nofun
  | case2 => cases read
  | case3 c cs digit ih =>
    obtain ⟨others, behind, rfl⟩ := exists_of_map_fst_eq_ok read
    exact List.forall_mem_cons.mpr ⟨digit, ih behind⟩
  | case4 => cases read
  | case5 c cs _ _ digit ih =>
    obtain ⟨others, behind, rfl⟩ := exists_of_map_fst_eq_ok read
    exact List.forall_mem_cons.mpr ⟨digit, ih behind⟩
  | case6 => cases read; exact nofun

/-- Digits that are taken were written so. -/
lemma digitsText_of_moreDigits {base : Nat} {label : String} {d : Char} {cs digits rest : List Char}
    (digit : isDigitOf base d = true)
    (read : moreDigits (isDigitOf base) label cs = .ok (digits, rest)) :
    ∃ more, cs = more ++ rest ∧ DigitsText base (d :: more) (valueIn base (d :: digits)) := by
  obtain ⟨v, found, small⟩ := isDigitOf_iff.mp digit
  obtain ⟨more, rfl, written⟩ := moreDigits_sound read (.digit found small)
  refine ⟨more, rfl, ?_⟩
  simpa [valueIn, found] using written

/-! ## Signs and decimals -/

/-- A sign, or none, and whether it is a minus. -/
inductive SignText : List Char → Bool → Prop where
  | none : SignText [] false
  | plus : SignText ['+'] false
  | minus : SignText ['-'] true

/-- A number with the sign that a decimal has. -/
def signed (negative : Bool) (n : Nat) : Int := if negative then -n else n

/-- A sign before a decimal number makes an integer. -/
lemma SignText.integerText {sign cs : List Char} {negative : Bool} {n : Nat}
    (signs : SignText sign negative) (written : DecimalText cs n) :
    IntegerText (sign ++ cs) (signed negative n) := by
  cases signs with
  | none => exact .decimal written
  | plus => exact .positive written
  | minus => exact .negative written

/-- A sign that is taken was written. -/
lemma takeSign_sound (cs : List Char) :
    ∃ sign, cs = sign ++ (takeSign cs).2 ∧ SignText sign (takeSign cs).1 := by
  unfold takeSign
  split
  · exact ⟨['+'], rfl, .plus⟩
  · exact ⟨['-'], rfl, .minus⟩
  · exact ⟨[], rfl, .none⟩

/-- A sign before a digit is taken. -/
lemma SignText.takeSign {sign : List Char} {negative : Bool} (signs : SignText sign negative) {c : Char}
    (digit : isDigit c = true) (cs : List Char) :
    takeSign (sign ++ c :: cs) = (negative, c :: cs) := by
  have plain (other : Char) (none : isDigit other = false) : c ≠ other := by
    rintro rfl
    rw [digit] at none
    cases none
  cases signs with
  | none =>
    unfold Toml.takeSign
    split
    case h_1 e => exact absurd (List.cons.inj e).1 (plain '+' rfl)
    case h_2 e => exact absurd (List.cons.inj e).1 (plain '-' rfl)
    case h_3 => rfl
  | plus => rfl
  | minus => rfl

/-- A decimal that was read, with its sign. -/
lemma readDecimals?_sound {cs rest : List Char} {d : Decimals}
    (read : readDecimals? cs = .ok (some (d, rest))) :
    ∃ sign digits, cs = sign ++ digits ++ rest ∧ SignText sign d.negative ∧
      DecimalText digits (decimalValue d.digits) := by
  obtain ⟨sign, split, signs⟩ := takeSign_sound cs
  simp only [readDecimals?] at read
  split at read
  case h_1 others e =>
    cases read
    have zero : DecimalText ['0'] 0 := ⟨.digit (by decide) (by decide), fun _ => rfl⟩
    refine ⟨sign, ['0'], ?_, signs, zero⟩
    rw [List.append_assoc, List.singleton_append, ← e]
    exact split
  case h_2 first others nonzero e =>
    split at read
    case isFalse => cases read
    case isTrue digit =>
      obtain ⟨⟨digits, rest⟩, more, same⟩ := exists_of_map_eq_ok read
      cases same
      rw [← isDigitOf_ten] at digit more
      have all : ∀ c ∈ first :: digits, isDigitOf 10 c = true :=
        List.forall_mem_cons.mpr ⟨digit, forall_mem_moreDigits more⟩
      obtain ⟨others, rfl, written⟩ := digitsText_of_moreDigits digit more
      rw [← decimalValue_eq all] at written
      refine ⟨sign, first :: others, ?_, signs, written, fun zero => ?_⟩
      · rw [List.append_assoc, List.cons_append, ← e]
        exact split
      · exact absurd (Option.some.inj zero) nonzero
  case h_3 => cases read

/-- A zero stands alone. -/
lemma readDecimals?_zero {cs rest : List Char} {negative : Bool}
    (signs : takeSign cs = (negative, '0' :: rest)) :
    readDecimals? cs = .ok (some (⟨negative, ['0']⟩, rest)) := by
  simp only [readDecimals?, signs]

/-- Any other digit begins a number. -/
lemma readDecimals?_digit {cs rest : List Char} {negative : Bool} {c : Char}
    (signs : takeSign cs = (negative, c :: rest)) (digit : isDigit c = true) (nonzero : c ≠ '0') :
    readDecimals? cs = (moreDigits isDigit integerLabel rest).map fun (digits, rest) =>
      some (⟨negative, c :: digits⟩, rest) := by
  rw [readDecimals?, signs]
  simp only [digit, if_true]

/-- The reader of decimals on one of them, up to the end of its line. -/
lemma readDecimals?_complete {sign digits : List Char} {negative : Bool} {n : Nat}
    (signs : SignText sign negative) (written : DecimalText digits n) (rest : List Char) :
    ∃ d, readDecimals? (sign ++ digits ++ '\n' :: rest) = .ok (some (d, '\n' :: rest)) ∧
      d.negative = negative ∧ decimalValue d.digits = n := by
  obtain ⟨first, more, values, rfl, all, value, read⟩ := written.1.read
  have digit := all first List.mem_cons_self
  rw [isDigitOf_ten] at digit
  have taken := signs.takeSign digit (more ++ '\n' :: rest)
  have stops : moreDigits (isDigitOf 10) integerLabel ('\n' :: rest) = .ok ([], '\n' :: rest) :=
    moreDigits_stop (by decide) (by decide)
  have others := read integerLabel ('\n' :: rest)
  rw [stops] at others
  rw [List.append_assoc, List.cons_append]
  by_cases zero : first = '0'
  case pos =>
    cases zero
    obtain rfl : more = [] := (List.cons.inj (written.2 rfl)).2
    obtain rfl : values = [] := by
      rw [List.nil_append, stops] at others
      simpa [Except.map] using others
    exact ⟨⟨negative, ['0']⟩, readDecimals?_zero taken, rfl, (decimalValue_eq all).trans value⟩
  case neg =>
    refine ⟨⟨negative, first :: values⟩, ?_, rfl, (decimalValue_eq all).trans value⟩
    rw [readDecimals?_digit taken digit zero, ← isDigitOf_ten, others]
    simp [Except.map]

/-! ## Integers -/

/-- An integer has a value within its bounds. -/
lemma integerValue_eq_ok {start : List Char} {n : Int} {scalar : Scalar} :
    integerValue start n = .ok scalar ↔ scalar = .integer n ∧ minInteger ≤ n ∧ n ≤ maxInteger := by
  unfold integerValue
  split
  case isTrue large => exact iff_of_false nofun fun ⟨_, _, le⟩ => by omega
  case isFalse small =>
    split
    case isTrue little => exact iff_of_false nofun fun ⟨_, le, _⟩ => by omega
    case isFalse great =>
      rw [Except.ok.injEq, eq_comm]
      exact iff_self_and.mpr fun _ => ⟨by omega, by omega⟩

/-- A number that is read in a base was written in it. -/
lemma readBased_sound {start cs rest : List Char} {base : Nat} {label : String} {scalar : Scalar}
    (read : readBased start base label cs = .ok (scalar, rest)) :
    ∃ digits n, cs = digits ++ rest ∧ DigitsText base digits n ∧ scalar = .integer n ∧
      minInteger ≤ n ∧ (n : Int) ≤ maxInteger := by
  unfold readBased at read
  split at read
  case h_2 => cases read
  case h_1 d others =>
    split at read
    case isFalse => cases read
    case isTrue digit =>
      obtain ⟨⟨digits, rest⟩, more, read⟩ := exists_of_bind_eq_ok read
      obtain ⟨scalar, value, read⟩ := exists_of_bind_eq_ok read
      cases read
      obtain ⟨others, rfl, written⟩ := digitsText_of_moreDigits digit more
      exact ⟨d :: others, _, rfl, written, integerValue_eq_ok.mp value⟩

/-- A number that is written in a base is read in it. -/
lemma readBased_complete {start digits : List Char} {base n : Nat} (label : String)
    (written : DigitsText base digits n) (bounded : (n : Int) ≤ maxInteger) (rest : List Char) :
    readBased start base label (digits ++ '\n' :: rest) = .ok (.integer n, '\n' :: rest) := by
  obtain ⟨first, more, values, rfl, all, value, read⟩ := written.read
  have stops : moreDigits (isDigitOf base) label ('\n' :: rest) = .ok ([], '\n' :: rest) := by
    refine moreDigits_stop (by decide) ?_
    rw [← Bool.not_eq_true]
    exact fun digit => ne_of_isDigitOf digit (by decide) rfl
  have others := read label ('\n' :: rest)
  rw [stops] at others
  have least : minInteger ≤ 0 := by decide
  have kept : integerValue start n = .ok (.integer n) :=
    integerValue_eq_ok.mpr ⟨rfl, by omega, bounded⟩
  rw [List.cons_append, readBased, if_pos (all first List.mem_cons_self), others]
  simp only [Except.map, List.append_nil, Except.bind, bind, value, kept, pure, Except.pure]

/-- Where an integer was read there stood one. -/
lemma readInteger_sound {cs rest : List Char} {scalar : Scalar}
    (read : readInteger cs = .ok (scalar, rest)) :
    ∃ text n, cs = text ++ rest ∧ IntegerText text n ∧ scalar = .integer n ∧
      minInteger ≤ n ∧ n ≤ maxInteger := by
  unfold readInteger at read
  split at read
  case h_1 =>
    obtain ⟨digits, n, rfl, written, e, bounds⟩ := readBased_sound read
    exact ⟨_, n, rfl, .hexadecimal written, e, bounds⟩
  case h_2 =>
    obtain ⟨digits, n, rfl, written, e, bounds⟩ := readBased_sound read
    exact ⟨_, n, rfl, .octal written, e, bounds⟩
  case h_3 =>
    obtain ⟨digits, n, rfl, written, e, bounds⟩ := readBased_sound read
    exact ⟨_, n, rfl, .binary written, e, bounds⟩
  case h_4 =>
    obtain ⟨found, decimals, read⟩ := exists_of_bind_eq_ok read
    cases found with
    | none => cases read
    | some found =>
      obtain ⟨d, rest⟩ := found
      obtain ⟨scalar, value, read⟩ := exists_of_bind_eq_ok read
      cases read
      obtain ⟨sign, digits, e, signs, written⟩ := readDecimals?_sound decimals
      exact ⟨sign ++ digits, _, e, signs.integerText written, integerValue_eq_ok.mp value⟩

/-- A decimal does not go on behind a zero. -/
lemma DecimalText.ne_marked {sign digits rest others : List Char} {negative : Bool} {n : Nat}
    (written : DecimalText digits n) (signs : SignText sign negative) {mark : Char} (ne : mark ≠ '\n') :
    sign ++ digits ++ '\n' :: rest ≠ '0' :: mark :: others := by
  intro e
  cases signs with
  | none =>
    obtain ⟨first, more, values, rfl, -⟩ := written.1.read
    obtain rfl : first = '0' := (List.cons.inj e).1
    obtain rfl : more = [] := (List.cons.inj (written.2 rfl)).2
    exact ne (List.cons.inj (List.cons.inj e).2).1.symm
  | plus => exact absurd (List.cons.inj e).1 (by decide)
  | minus => exact absurd (List.cons.inj e).1 (by decide)

/-- A decimal number with its sign is read as it was written. -/
lemma readInteger_decimal {sign digits : List Char} {negative : Bool} {n : Nat}
    (signs : SignText sign negative) (written : DecimalText digits n)
    (bounds : minInteger ≤ signed negative n ∧ signed negative n ≤ maxInteger) (rest : List Char) :
    readInteger (sign ++ digits ++ '\n' :: rest) =
      .ok (.integer (signed negative n), '\n' :: rest) := by
  obtain ⟨d, read, rfl, rfl⟩ := readDecimals?_complete signs written rest
  unfold readInteger
  split
  case h_1 e => exact absurd e (written.ne_marked signs (by decide))
  case h_2 e => exact absurd e (written.ne_marked signs (by decide))
  case h_3 e => exact absurd e (written.ne_marked signs (by decide))
  case h_4 =>
    have kept (start : List Char) :
        integerValue start (if d.negative = true then -(decimalValue d.digits : Int)
          else decimalValue d.digits) = .ok (.integer (signed d.negative (decimalValue d.digits))) :=
      integerValue_eq_ok.mpr ⟨rfl, bounds⟩
    simp only [read, bind, Except.bind, kept, pure, Except.pure]

/-- Every notation of an integer of 64 bits is read. -/
lemma readInteger_complete {text : List Char} {n : Int} (written : IntegerText text n)
    (least : minInteger ≤ n) (greatest : n ≤ maxInteger) (rest : List Char) :
    readInteger (text ++ '\n' :: rest) = .ok (.integer n, '\n' :: rest) := by
  cases written with
  | decimal written => exact readInteger_decimal .none written ⟨least, greatest⟩ rest
  | positive written => exact readInteger_decimal .plus written ⟨least, greatest⟩ rest
  | negative written => exact readInteger_decimal .minus written ⟨least, greatest⟩ rest
  | hexadecimal written => exact readBased_complete _ written greatest rest
  | octal written => exact readBased_complete _ written greatest rest
  | binary written => exact readBased_complete _ written greatest rest

/-! ## No other numbers -/

/-- A written number has only digits and underscores. -/
lemma DigitsText.forall_mem {base : Nat} {cs : List Char} {n : Nat} (written : DigitsText base cs n) :
    ∀ c ∈ cs, hexDigit? c ≠ none ∨ c = '_' := by
  induction written with
  | digit found => simp [found]
  | more _ found _ ih => simpa [or_imp, forall_and, found] using ih
  | spaced _ found _ ih => simpa [or_imp, forall_and, found] using ih

/-- Behind its first character an integer has no mark of a date or a time. -/
lemma IntegerText.forall_mem_tail {text : List Char} {n : Int} (written : IntegerText text n) :
    ∀ c ∈ text.tail, c ≠ '-' ∧ c ≠ ':' := by
  have plain {base : Nat} {cs : List Char} {n : Nat} (written : DigitsText base cs n) :
      ∀ c ∈ cs, c ≠ '-' ∧ c ≠ ':' := by
    intro c mem
    obtain digit | rfl := written.forall_mem c mem
    · constructor <;> rintro rfl <;> exact digit rfl
    · decide
  cases written with
  | decimal written => exact fun c mem => plain written.1 c (List.mem_of_mem_tail mem)
  | positive written => exact plain written.1
  | negative written => exact plain written.1
  | hexadecimal written => exact List.forall_mem_cons.mpr ⟨by decide, plain written⟩
  | octal written => exact List.forall_mem_cons.mpr ⟨by decide, plain written⟩
  | binary written => exact List.forall_mem_cons.mpr ⟨by decide, plain written⟩

/-- What stands behind digits stands on their line, unless it is the end of it. -/
lemma mem_tail_of_digits {text rest digits after : List Char} {mark : Char}
    (all : ∀ c ∈ digits, isDigit c = true) (some : digits ≠ []) (ne : mark ≠ '\n')
    (e : text ++ '\n' :: rest = digits ++ mark :: after) : mark ∈ text.tail := by
  have mem {digits text : List Char} (all : ∀ c ∈ digits, isDigit c = true)
      (e : text ++ '\n' :: rest = digits ++ mark :: after) : mark ∈ text := by
    induction digits generalizing text with
    | nil =>
      cases text with
      | nil => exact absurd (List.cons.inj e).1.symm ne
      | cons c text => exact (List.cons.inj e).1 ▸ List.mem_cons_self
    | cons d digits ih =>
      obtain ⟨digit, all⟩ := List.forall_mem_cons.mp all
      cases text with
      | nil => cases (List.cons.inj e).1; cases digit
      | cons c text => exact List.mem_cons_of_mem _ (ih all (List.cons.inj e).2)
  cases digits with
  | nil => exact absurd rfl some
  | cons d digits =>
    obtain ⟨digit, all⟩ := List.forall_mem_cons.mp all
    cases text with
    | nil => cases (List.cons.inj e).1; cases digit
    | cons c text => exact mem all (List.cons.inj e).2

/-- Two digits that are read were written. -/
lemma twoDigits_sound {lo hi n : Nat} {cs rest : List Char}
    (read : twoDigits lo hi cs = .ok (n, rest)) :
    ∃ digits, cs = digits ++ rest ∧ digits ≠ [] ∧ ∀ c ∈ digits, isDigit c = true := by
  unfold twoDigits at read
  split at read
  case h_2 => cases read
  case h_1 a b others =>
    split at read
    case isFalse => cases read
    case isTrue all =>
      dsimp only at read
      split at read
      case isFalse => cases read
      case isTrue =>
        cases read
        exact ⟨[a, b], rfl, nofun, by simpa using all⟩

/-- An integer is no date and no time. -/
lemma IntegerText.readMoment? {text : List Char} {n : Int} (written : IntegerText text n)
    (rest : List Char) : readMoment? (text ++ '\n' :: rest) = .ok none := by
  have date : readDate? (text ++ '\n' :: rest) = .ok none := by
    unfold readDate?
    split
    case h_1 a b c d after e =>
      refine if_neg fun all => ?_
      have hyphen : '-' ∈ text.tail :=
        mem_tail_of_digits (List.all_eq_true.mp all) nofun (by decide) e
      exact (written.forall_mem_tail _ hyphen).1 rfl
    case h_2 => rfl
  have time (label : String) : readTime? label (text ++ '\n' :: rest) = .ok none := by
    unfold readTime?
    split
    case h_1 hour after two =>
      obtain ⟨digits, e, some, all⟩ := twoDigits_sound two
      have colon := mem_tail_of_digits all some (by decide) e
      exact absurd rfl (written.forall_mem_tail _ colon).2
    case h_2 => rfl
  simp only [Toml.readMoment?, date, time, bind, Except.bind]

/-- A number without a fraction and an exponent is none that is read inexactly. -/
lemma readFloat?_decimals {cs rest : List Char} {d : Decimals} {c : Char}
    (read : readDecimals? cs = .ok (some (d, c :: rest))) (point : c ≠ '.') (e : c ≠ 'e')
    (E : c ≠ 'E') : readFloat? cs = .ok none := by
  have exponent : readExponent? (c :: rest) = .ok none := by
    simp only [readExponent?, e, E, or_self, if_false]
    rfl
  unfold readFloat?
  rw [read]
  simp only [bind, Except.bind]
  split
  case h_1 => rfl
  case h_2 same => exact absurd (List.cons.inj (Prod.mk.inj (Option.some.inj same)).2).1 point
  case h_3 same =>
    obtain ⟨-, rfl⟩ := Prod.mk.inj (Option.some.inj same)
    simp only [exponent]
    rfl

/-- An integer has neither of them. -/
lemma IntegerText.readFloat? {text : List Char} {n : Int} (written : IntegerText text n)
    (rest : List Char) : readFloat? (text ++ '\n' :: rest) = .ok none := by
  have decimals {sign digits : List Char} {negative : Bool} {n : Nat} (signs : SignText sign negative)
      (written : DecimalText digits n) :
      Toml.readFloat? (sign ++ digits ++ '\n' :: rest) = .ok none := by
    obtain ⟨d, read, -⟩ := readDecimals?_complete signs written rest
    exact readFloat?_decimals read (by decide) (by decide) (by decide)
  cases written with
  | decimal written => exact decimals .none written
  | positive written => exact decimals .plus written
  | negative written => exact decimals .minus written
  | hexadecimal => exact readFloat?_decimals rfl (by decide) (by decide) (by decide)
  | octal => exact readFloat?_decimals rfl (by decide) (by decide) (by decide)
  | binary => exact readFloat?_decimals rfl (by decide) (by decide) (by decide)

/-- An integer is no word. -/
lemma IntegerText.readSpecial? {text : List Char} {n : Int} (written : IntegerText text n)
    (rest : List Char) : readSpecial? (text ++ '\n' :: rest) = none := by
  have decimals {sign digits : List Char} {negative : Bool} {n : Nat} (signs : SignText sign negative)
      (written : DecimalText digits n) :
      Toml.readSpecial? (sign ++ digits ++ '\n' :: rest) = none := by
    obtain ⟨first, more, values, rfl, all, -⟩ := written.1.read
    have digit := all first List.mem_cons_self
    rw [isDigitOf_ten] at digit
    rw [List.append_assoc, List.cons_append, Toml.readSpecial?, signs.takeSign digit]
    dsimp only
    split
    case h_1 e => cases (List.cons.inj e).1; cases digit
    case h_2 e => cases (List.cons.inj e).1; cases digit
    case h_3 => rfl
  cases written with
  | decimal written => exact decimals .none written
  | positive written => exact decimals .plus written
  | negative written => exact decimals .minus written
  | hexadecimal => rfl
  | octal => rfl
  | binary => rfl

/-- An integer is read as it was written. -/
lemma readNumber_complete {text : List Char} {n : Int} (written : IntegerText text n)
    (least : minInteger ≤ n) (greatest : n ≤ maxInteger) (rest : List Char) :
    readNumber (text ++ '\n' :: rest) = .ok (.integer n, '\n' :: rest) := by
  simp only [readNumber, written.readMoment?, written.readFloat?, written.readSpecial?,
    readInteger_complete written least greatest, bind, Except.bind]

/-- No floating-point number is an integer. -/
lemma readFloat?_float {cs rest : List Char} {scalar : Scalar}
    (read : readFloat? cs = .ok (some (scalar, rest))) : ∃ x, scalar = .float x := by
  have value {start : List Char} {d : Decimals} {fraction : List Char} {exponent : Int}
      {scalar : Scalar} (given : floatValue start d fraction exponent = .ok scalar) :
      ∃ x, scalar = .float x := by
    simp only [floatValue] at given
    split at given
    case isTrue => cases given
    case isFalse => exact ⟨_, (Except.ok.inj given).symm⟩
  obtain ⟨found, -, read⟩ := exists_of_bind_eq_ok read
  split at read
  case h_1 => cases read
  case h_2 =>
    obtain ⟨⟨fraction, rest⟩, -, read⟩ := exists_of_bind_eq_ok read
    obtain ⟨exponent, -, read⟩ := exists_of_bind_eq_ok read
    split at read <;>
    · obtain ⟨scalar, given, read⟩ := exists_of_bind_eq_ok read
      cases read
      exact value given
  case h_3 =>
    obtain ⟨exponent, -, read⟩ := exists_of_bind_eq_ok read
    split at read
    case h_1 => cases read
    case h_2 =>
      obtain ⟨scalar, given, read⟩ := exists_of_bind_eq_ok read
      cases read
      exact value given

/-- A word is no integer. -/
lemma readSpecial?_float {cs rest : List Char} {scalar : Scalar}
    (read : readSpecial? cs = some (scalar, rest)) : ∃ x, scalar = .float x := by
  simp only [readSpecial?] at read
  split at read
  case h_1 => cases read; exact ⟨_, rfl⟩
  case h_2 => cases read; exact ⟨_, rfl⟩
  case h_3 => cases read

/-- A number that is read as an integer was written as that. -/
lemma readNumber_sound {cs rest : List Char} {n : Int}
    (read : readNumber cs = .ok (.integer n, rest)) :
    ∃ text, cs = text ++ rest ∧ IntegerText text n ∧ minInteger ≤ n ∧ n ≤ maxInteger := by
  obtain ⟨moment, -, read⟩ := exists_of_bind_eq_ok read
  split at read
  case h_1 => cases read
  case h_2 =>
    obtain ⟨found, float, read⟩ := exists_of_bind_eq_ok read
    split at read
    case h_1 =>
      cases read
      obtain ⟨x, e⟩ := readFloat?_float float
      cases e
    case h_2 =>
      split at read
      case h_1 special =>
        cases read
        obtain ⟨x, e⟩ := readSpecial?_float special
        cases e
      case h_2 =>
        obtain ⟨text, m, rfl, written, e, bounds⟩ := readInteger_sound read
        cases e
        exact ⟨text, rfl, written, bounds⟩

end RecipientCallout.Toml
