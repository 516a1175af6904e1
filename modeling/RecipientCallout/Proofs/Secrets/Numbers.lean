import Mathlib.Data.Option.Basic
import RecipientCallout.Proofs.Secrets.Alike
import RecipientCallout.Proofs.Steps

/-!
# Dates and numbers in documents that differ in secrets

Dates, times and numbers hold no secrets: where two copies of a document are read at the same open place,
the same number is found in both, or the same complaint at the same place.
-/

namespace RecipientCallout.Toml
open RecipientCallout.Text

namespace Copies

/-- The same halt in both documents. -/
structure Halts (d : Copies) (h h' : Halt) : Prop where
  place : d.Level h.place h'.place
  complaint : h.complaint = h'.complaint
  committed : h.committed = h'.committed

/-- What is read agrees in both documents: the same halt, or values that are related. -/
abbrev Reads (d : Copies) {α α' : Type} (R : α → α' → Prop) : Except Halt α → Except Halt α' → Prop :=
  Agree d.Halts R

/-- The same value, and the same open place behind it. -/
def Told (d : Copies) {α : Type} (r r' : α × List Char) : Prop := r.1 = r'.1 ∧ d.Open r.2 r'.2

variable {d : Copies} {s s' : List Char} {α α' : Type} {R : α → α' → Prop}

section
variable {label : Option String} {expected : List String}

/-- A failure at one place is the same halt in both copies. -/
lemma Level.fail (here : d.Level s s') :
    d.Reads R (Halt.fail s label expected) (Halt.fail s' label expected) := .error ⟨here, rfl, rfl⟩

/-- So is a halt that leaves room for something else. -/
lemma Level.pass (here : d.Level s s') :
    d.Reads R (Halt.pass s label expected) (Halt.pass s' label expected) := .error ⟨here, rfl, rfl⟩

/-- So is one with a cause. -/
lemma Level.because (here : d.Level s s') {cause : Cause} :
    d.Reads R (Halt.because s label cause) (Halt.because s' label cause) := .error ⟨here, rfl, rfl⟩

end

/-- The same character in front of what is read. -/
lemma reads_cons {result result' : Scan (List Char)} (read : d.Reads d.Told result result') (c : Char) :
    d.Reads d.Told (result.map fun (text, rest) => (c :: text, rest))
      (result'.map fun (text, rest) => (c :: text, rest)) :=
  read.map fun _ _ told => ⟨congrArg (c :: ·) told.1, told.2⟩

/-- Digits are ordinary. -/
lemma isOrdinary_of_isDigit {c : Char} (digit : isDigit c = true) : isOrdinary c = true := by
  have ne (other : Char) (apart : isDigit other = false) : c ≠ other := by
    rintro rfl
    exact Bool.false_ne_true (apart.symm.trans digit)
  simp [isOrdinary, ne '"' rfl, ne '\'' rfl, ne '#' rfl, ne '=' rfl]

/-! ## Dates and times -/

/-- There are no two digits where there is not one. -/
lemma twoDigits_absent {c : Char} (stop : isDigit c = false) (lo hi : Nat) (cs : List Char) :
    twoDigits lo hi (c :: cs) = .error .absent := by
  cases cs with
  | nil => rfl
  | cons => simp only [twoDigits, stop, Bool.false_and, Bool.false_eq_true, if_false]

/-- Without a point there is no fraction to skip. -/
lemma skipFraction_of_ne {c : Char} (ne : c ≠ '.') (cs : List Char) :
    skipFraction (c :: cs) = c :: cs := by
  unfold skipFraction
  split
  case h_1 e => exact absurd (List.cons.inj e).1 ne
  case h_2 => rfl

/-- A year and the hyphen behind it. -/
def BeginsDate (cs rest : List Char) : Prop :=
  ∃ a b c d, cs = [a, b, c, d, '-'] ++ rest ∧ [a, b, c, d].all isDigit = true

/-- Nothing is read as a date that does not begin as one. -/
lemma readDate?_none {cs : List Char} (other : ∀ rest, ¬ BeginsDate cs rest) :
    readDate? cs = .ok none := by
  unfold readDate?
  split
  case h_1 =>
    split
    case isTrue digits => exact absurd ⟨_, _, _, _, rfl, digits⟩ (other _)
    case isFalse => rfl
  case h_2 => rfl

/-- Without a sign none is taken. -/
lemma takeSign_unsigned {c : Char} (plus : c ≠ '+') (minus : c ≠ '-') (cs : List Char) :
    takeSign (c :: cs) = (false, c :: cs) := by
  unfold takeSign
  split
  case h_1 e => exact absurd (List.cons.inj e).1 plus
  case h_2 e => exact absurd (List.cons.inj e).1 minus
  case h_3 => rfl

/-- Nothing else is read as a special number. -/
lemma readSpecial?_none {cs : List Char} (infinite : ∀ rest, (takeSign cs).2 ≠ ['i', 'n', 'f'] ++ rest)
    (nan : ∀ rest, (takeSign cs).2 ≠ ['n', 'a', 'n'] ++ rest) : readSpecial? cs = none := by
  simp only [readSpecial?]
  split
  case h_1 e => exact absurd e (infinite _)
  case h_2 e => exact absurd e (nan _)
  case h_3 => rfl

/-- An integer without the mark of a base is a decimal one. -/
lemma readInteger_unmarked {cs : List Char} (hexadecimal : ∀ rest, cs ≠ ['0', 'x'] ++ rest)
    (octal : ∀ rest, cs ≠ ['0', 'o'] ++ rest) (binary : ∀ rest, cs ≠ ['0', 'b'] ++ rest) :
    readInteger cs = (readDecimals? cs).bind fun
      | none => Halt.pass (takeSign cs).2 (some integerLabel) []
      | some (number, rest) =>
        (integerValue cs (if number.negative then -(decimalValue number.digits : Int)
          else decimalValue number.digits)).bind fun value => .ok (value, rest) := by
  unfold readInteger
  split
  case h_1 => exact absurd rfl (hexadecimal _)
  case h_2 => exact absurd rfl (octal _)
  case h_3 => exact absurd rfl (binary _)
  case h_4 => rfl

namespace Open

/-- The same two digits are read. -/
lemma reads_twoDigits (here : d.Open s s') (lo hi : Nat) :
    Agree Eq d.Told (twoDigits lo hi s) (twoDigits lo hi s') := by
  cases s with
  | nil =>
    obtain rfl := here.eq_nil
    exact .error rfl
  | cons a s =>
    obtain ⟨t', rfl, -, next⟩ := here.cons
    cases digit : isDigit a with
    | false =>
      rw [twoDigits_absent digit, twoDigits_absent digit]
      exact .error rfl
    | true =>
      have next := next (isOrdinary_of_isDigit digit)
      cases s with
      | nil =>
        obtain rfl := next.eq_nil
        exact .error rfl
      | cons b s =>
        obtain ⟨t', rfl, -, after⟩ := next.cons
        cases digit' : isDigit b with
        | false =>
          simp only [twoDigits, digit, digit', Bool.and_false, Bool.false_eq_true, if_false]
          exact .error rfl
        | true =>
          simp only [twoDigits, digit, digit', Bool.and_true, if_true]
          split
          · exact .ok ⟨rfl, after (isOrdinary_of_isDigit digit')⟩
          · exact .error rfl

/-- The same two digits are read where they must come. -/
lemma reads_requireTwo (here : d.Open s s') (label : String) (lo hi : Nat) :
    d.Reads d.Told (requireTwo label lo hi s) (requireTwo label lo hi s') := by
  have agree := here.reads_twoDigits lo hi
  unfold requireTwo
  generalize twoDigits lo hi s = result at agree ⊢
  generalize twoDigits lo hi s' = result' at agree ⊢
  cases agree with
  | ok told => exact .ok told
  | @error problem _ same =>
    subst same
    cases problem with
    | absent => exact here.level.fail
    | outOfRange => exact here.level.because

/-- The same character is found where it must come. -/
lemma reads_requireChar (here : d.Open s s') (label : String) {wanted : Char}
    (ordinary : isOrdinary wanted = true) :
    d.Reads d.Open (requireChar label wanted s) (requireChar label wanted s') := by
  cases s with
  | nil =>
    obtain rfl := here.eq_nil
    exact here.level.fail
  | cons c s =>
    have level := here.level
    obtain ⟨t', rfl, -, next⟩ := here.cons
    simp only [requireChar]
    split
    case isTrue e => exact .ok (next (e ▸ ordinary))
    case isFalse => exact level.fail

/-- Behind ordinary characters that are dropped, the place is open still. -/
lemma dropWhile (here : d.Open s s') {p : Char → Bool} (ordinary : ∀ c, p c = true → isOrdinary c = true) :
    d.Open (s.dropWhile p) (s'.dropWhile p) := by
  induction s generalizing s' with
  | nil =>
    obtain rfl := here.eq_nil
    exact here
  | cons c s ih =>
    have stay := here
    obtain ⟨t', rfl, -, next⟩ := here.cons
    cases taken : p c with
    | false =>
      rw [List.dropWhile_cons_of_neg (by simp [taken]), List.dropWhile_cons_of_neg (by simp [taken])]
      exact stay
    | true =>
      rw [List.dropWhile_cons_of_pos taken, List.dropWhile_cons_of_pos taken]
      exact ih (next (ordinary c taken))

/-- So it is behind a fraction of a second. -/
lemma skipFraction (here : d.Open s s') : d.Open (skipFraction s) (skipFraction s') := by
  have stay := here
  cases s with
  | nil =>
    obtain rfl := here.eq_nil
    exact here
  | cons c s =>
    obtain ⟨t', rfl, -, next⟩ := here.cons
    by_cases point : c = '.'
    case neg => rwa [skipFraction_of_ne point, skipFraction_of_ne point]
    case pos =>
      subst point
      have next := next rfl
      cases s with
      | nil =>
        obtain rfl := next.eq_nil
        exact stay
      | cons c s =>
        have there := next
        obtain ⟨t', rfl, -, next⟩ := next.cons
        simp only [Toml.skipFraction]
        split
        case isTrue digit =>
          exact (next (isOrdinary_of_isDigit digit)).dropWhile fun _ => isOrdinary_of_isDigit
        case isFalse => exact stay

/-- A time is read in both copies or in neither. -/
lemma reads_readTime? (here : d.Open s s') (label : String) :
    d.Reads (Option.Rel d.Open) (readTime? label s) (readTime? label s') := by
  have agree := here.reads_twoDigits 0 23
  unfold readTime?
  generalize twoDigits 0 23 s = result at agree ⊢
  generalize twoDigits 0 23 s' = result' at agree ⊢
  cases agree with
  | error => exact .ok .none
  | @ok r r' told =>
    obtain ⟨n, rest⟩ := r
    obtain ⟨n', rest'⟩ := r'
    obtain ⟨-, there⟩ := told
    dsimp only at there
    cases rest with
    | nil =>
      obtain rfl := there.eq_nil
      exact .ok .none
    | cons c rest =>
      obtain ⟨t', rfl, -, next⟩ := there.cons
      by_cases colon : c = ':'
      case neg =>
        split
        case h_1 e =>
          cases e
          exact absurd rfl colon
        case h_2 =>
          split
          case h_1 e =>
            cases e
            exact absurd rfl colon
          case h_2 => exact .ok .none
      case pos =>
        subst colon
        refine (reads_requireTwo (next rfl) label 0 59).bind fun _ _ told => ?_
        refine (told.2.reads_requireChar label rfl).bind fun _ _ there => ?_
        refine (there.reads_requireTwo label 0 60).bind fun _ _ told => ?_
        exact .ok (.some told.2.skipFraction)

/-- So is the offset of a time. -/
lemma reads_skipOffset (here : d.Open s s') : d.Reads d.Open (skipOffset s) (skipOffset s') := by
  have stay := here
  cases s with
  | nil =>
    obtain rfl := here.eq_nil
    exact .ok here
  | cons c s =>
    obtain ⟨t', rfl, -, next⟩ := here.cons
    by_cases upper : c = 'Z'
    case pos => subst upper; exact .ok (next rfl)
    by_cases lower : c = 'z'
    case pos => subst lower; exact .ok (next rfl)
    simp only [skipOffset]
    split
    case isTrue sign =>
      have ordinary : isOrdinary c = true := by
        obtain rfl | rfl := sign
        all_goals rfl
      refine (reads_requireTwo (next ordinary) "time offset" 0 23).bind fun _ _ told => ?_
      refine (told.2.reads_requireChar "time offset" rfl).bind fun _ _ there => ?_
      refine (there.reads_requireTwo "time offset" 0 59).bind fun _ _ told => ?_
      exact .ok told.2
    case isFalse => exact .ok stay

/-- A date begins in both copies or in neither. -/
lemma beginsDate (here : d.Open s s') {rest : List Char} (date : BeginsDate s rest) :
    ∃ rest', BeginsDate s' rest' := by
  obtain ⟨a, b, c, e, rfl, digits⟩ := date
  have ordinary : ∀ x ∈ [a, b, c, e, '-'], isOrdinary x = true := by
    simp only [List.all_cons, List.all_nil, Bool.and_true, Bool.and_eq_true] at digits
    simp [isOrdinary_of_isDigit, digits, show isOrdinary '-' = true from rfl]
  obtain ⟨t', rfl, -⟩ := here.append ordinary
  exact ⟨t', a, b, c, e, rfl, digits⟩

/-- A date is read in both copies or in neither. -/
lemma reads_readDate? (here : d.Open s s') :
    d.Reads (Option.Rel d.Open) (readDate? s) (readDate? s') := by
  by_cases date : ∃ rest, BeginsDate s rest
  case neg =>
    have other : ¬ ∃ rest', BeginsDate s' rest' := fun ⟨_, date'⟩ => date (here.swap.beginsDate date')
    rw [readDate?_none (not_exists.mp date), readDate?_none (not_exists.mp other)]
    exact .ok .none
  case pos =>
    obtain ⟨rest, a, b, c, e, rfl, digits⟩ := date
    have ordinary : ∀ x ∈ [a, b, c, e, '-'], isOrdinary x = true := by
      simp only [List.all_cons, List.all_nil, Bool.and_true, Bool.and_eq_true] at digits
      simp [isOrdinary_of_isDigit, digits, show isOrdinary '-' = true from rfl]
    obtain ⟨t', rfl, there⟩ := here.append ordinary
    simp only [readDate?, List.cons_append, List.nil_append, digits, if_true]
    refine (there.reads_requireTwo "date-time" 1 12).bind fun ⟨month, _⟩ ⟨month', _⟩ told => ?_
    obtain ⟨rfl, there⟩ := told
    refine (there.reads_requireChar "date-time" rfl).bind fun _ _ there => ?_
    refine (there.reads_requireTwo "date-time" 1 31).bind fun ⟨day, _⟩ ⟨day', _⟩ told => ?_
    obtain ⟨rfl, after⟩ := told
    dsimp only
    split
    case isTrue => exact .ok (.some after)
    case isFalse => exact there.level.because

/-- So is a date with a time, or either of them. -/
lemma reads_readMoment? (here : d.Open s s') :
    d.Reads (Option.Rel d.Open) (readMoment? s) (readMoment? s') := by
  refine here.reads_readDate?.bind fun _ _ found => ?_
  cases found with
  | none => exact here.reads_readTime? "time"
  | @some rest rest' there =>
    have stay := there
    cases rest with
    | nil =>
      obtain rfl := there.eq_nil
      exact .ok (.some there)
    | cons c rest =>
      obtain ⟨t', rfl, -, next⟩ := there.cons
      dsimp only
      split
      case isFalse => exact .ok (.some stay)
      case isTrue mark =>
        have ordinary : isOrdinary c = true := by
          obtain rfl | rfl | rfl := mark
          all_goals rfl
        refine (reads_readTime? (next ordinary) "date-time").bind fun _ _ found => ?_
        cases found with
        | none => exact .ok (.some stay)
        | some there => exact there.reads_skipOffset.bind fun _ _ there => .ok (.some there)

/-! ## Numbers -/

/-- The same digits are read. -/
lemma reads_moreDigits {isDigit : Char → Bool} (ordinary : ∀ c, isDigit c = true → isOrdinary c = true)
    (label : String) (here : d.Open s s') :
    d.Reads d.Told (moreDigits isDigit label s) (moreDigits isDigit label s') := by
  generalize length : s.length = n
  induction n using Nat.strongRecOn generalizing s s' with
  | ind n ih =>
    subst length
    have stay := here
    cases s with
    | nil =>
      obtain rfl := here.eq_nil
      exact .ok ⟨rfl, here⟩
    | cons c s =>
      obtain ⟨t', rfl, -, next⟩ := here.cons
      by_cases underscore : c = '_'
      case pos =>
        subst underscore
        have next := next rfl
        cases s with
        | nil =>
          obtain rfl := next.eq_nil
          exact next.level.fail
        | cons c s =>
          have there := next
          obtain ⟨t', rfl, -, next⟩ := next.cons
          cases digit : isDigit c with
          | true =>
            rw [moreDigits_spaced digit, moreDigits_spaced digit]
            exact reads_cons (ih _ (by simp only [List.length_cons]; omega) (next (ordinary c digit)) rfl) c
          | false =>
            simp only [moreDigits, digit, Bool.false_eq_true, if_false]
            exact there.level.fail
      case neg =>
        cases digit : isDigit c with
        | true =>
          rw [moreDigits_digit underscore digit, moreDigits_digit underscore digit]
          exact reads_cons (ih _ (Nat.lt_succ_self _) (next (ordinary c digit)) rfl) c
        | false =>
          rw [moreDigits_stop underscore digit, moreDigits_stop underscore digit]
          exact .ok ⟨rfl, stay⟩

/-- The same sign is taken. -/
lemma told_takeSign (here : d.Open s s') : d.Told (takeSign s) (takeSign s') := by
  have stay := here
  cases s with
  | nil =>
    obtain rfl := here.eq_nil
    exact ⟨rfl, here⟩
  | cons c s =>
    obtain ⟨t', rfl, -, next⟩ := here.cons
    by_cases plus : c = '+'
    case pos => subst plus; exact ⟨rfl, next rfl⟩
    by_cases minus : c = '-'
    case pos => subst minus; exact ⟨rfl, next rfl⟩
    rw [takeSign_unsigned plus minus, takeSign_unsigned plus minus]
    exact ⟨rfl, stay⟩

/-- The same decimal number is read, or none. -/
lemma reads_readDecimals? (here : d.Open s s') :
    d.Reads (Option.Rel d.Told) (readDecimals? s) (readDecimals? s') := by
  have told := here.told_takeSign
  unfold readDecimals?
  generalize takeSign s = signed at told ⊢
  generalize takeSign s' = signed' at told ⊢
  obtain ⟨negative, rest⟩ := signed
  obtain ⟨negative', rest'⟩ := signed'
  obtain ⟨rfl, there⟩ := told
  dsimp only at there ⊢
  cases rest with
  | nil =>
    obtain rfl := there.eq_nil
    exact .ok .none
  | cons c rest =>
    obtain ⟨t', rfl, -, next⟩ := there.cons
    by_cases zero : c = '0'
    case pos => subst zero; exact .ok (.some ⟨rfl, next rfl⟩)
    simp only
    split
    case isTrue digit =>
      have digits := (next (isOrdinary_of_isDigit digit)).reads_moreDigits
        (fun _ => isOrdinary_of_isDigit) integerLabel
      exact digits.map fun r r' told => .some ⟨by rw [told.1], told.2⟩
    case isFalse => exact .ok .none

/-- The same fraction is read. -/
lemma reads_readPart (here : d.Open s s') (expected : List String) :
    d.Reads d.Told (readPart s expected) (readPart s' expected) := by
  have level := here.level
  cases s with
  | nil =>
    obtain rfl := here.eq_nil
    exact level.fail
  | cons c s =>
    obtain ⟨t', rfl, -, next⟩ := here.cons
    simp only [readPart]
    split
    case isTrue digit =>
      have digits := (next (isOrdinary_of_isDigit digit)).reads_moreDigits
        (fun _ => isOrdinary_of_isDigit) floatLabel
      exact digits.map fun r r' told => ⟨congrArg (c :: ·) told.1, told.2⟩
    case isFalse => exact level.fail

/-- The same exponent is read, or none. -/
lemma reads_readExponent? (here : d.Open s s') :
    d.Reads (Option.Rel d.Told) (readExponent? s) (readExponent? s') := by
  cases s with
  | nil =>
    obtain rfl := here.eq_nil
    exact .ok .none
  | cons c s =>
    obtain ⟨t', rfl, -, next⟩ := here.cons
    simp only [readExponent?]
    split
    case isFalse => exact .ok .none
    case isTrue mark =>
      have ordinary : isOrdinary c = true := by
        obtain rfl | rfl := mark
        all_goals rfl
      obtain ⟨sign, there⟩ := (next ordinary).told_takeSign
      rw [sign]
      refine (there.reads_readPart []).bind fun r r' told => ?_
      exact .ok (.some ⟨by rw [told.1], told.2⟩)

/-- The same parts have the same value, or are complained of at one place. -/
lemma reads_floatValue (here : d.Open s s') (number : Decimals) (fraction : List Char) (exponent : Int) :
    d.Reads Eq (floatValue s number fraction exponent) (floatValue s' number fraction exponent) := by
  unfold floatValue
  dsimp only
  split
  · exact here.level.fail
  · exact .ok rfl

/-- A number without a fraction, behind its digits. -/
lemma reads_scaled {t t' : List Char} (here : d.Open s s') (there : d.Open t t') (number : Decimals) :
    d.Reads (Option.Rel d.Told)
      ((readExponent? t).bind fun
        | none => .ok none
        | some (exponent, rest) => (floatValue s number [] exponent).bind fun v => .ok (some (v, rest)))
      ((readExponent? t').bind fun
        | none => .ok none
        | some (exponent, rest) => (floatValue s' number [] exponent).bind fun v => .ok (some (v, rest))) := by
  refine there.reads_readExponent?.bind fun _ _ found => ?_
  cases found with
  | none => exact .ok .none
  | @some r r' told =>
    obtain ⟨exponent, after⟩ := told
    dsimp only
    rw [exponent]
    exact (here.reads_floatValue number [] r'.1).bind fun _ _ same => .ok (.some ⟨same, after⟩)

/-- The same number with a fraction or an exponent is read, or none. -/
lemma reads_readFloat? (here : d.Open s s') :
    d.Reads (Option.Rel d.Told) (readFloat? s) (readFloat? s') := by
  refine here.reads_readDecimals?.bind fun _ _ found => ?_
  cases found with
  | none => exact .ok .none
  | @some r r' told =>
    obtain ⟨number, rest⟩ := r
    obtain ⟨number', rest'⟩ := r'
    obtain ⟨rfl, there⟩ := told
    dsimp only at there
    have exponent := here.reads_scaled there number
    cases rest with
    | nil =>
      obtain rfl := there.eq_nil
      exact exponent
    | cons c rest =>
      obtain ⟨t', rfl, -, next⟩ := there.cons
      by_cases point : c = '.'
      case neg =>
        split
        case h_1 e => cases e
        case h_2 e =>
          cases e
          exact absurd rfl point
        case h_3 e =>
          cases e
          split
          case h_1 e => cases e
          case h_2 e =>
            cases e
            exact absurd rfl point
          case h_3 e =>
            cases e
            exact exponent
      case pos =>
        subst point
        refine (reads_readPart (next rfl) ["digit"]).bind fun r r' told => ?_
        obtain ⟨fraction, there⟩ := told
        dsimp only
        rw [fraction]
        refine there.reads_readExponent?.bind fun _ _ found => ?_
        cases found with
        | none => exact (here.reads_floatValue number r'.1 0).bind fun _ _ same => .ok (.some ⟨same, there⟩)
        | @some e e' told =>
          obtain ⟨exponent, after⟩ := told
          dsimp only
          rw [exponent]
          exact (here.reads_floatValue number r'.1 e'.1).bind fun _ _ same => .ok (.some ⟨same, after⟩)

/-- The same special number is read, or none. -/
lemma told_readSpecial? (here : d.Open s s') :
    Option.Rel d.Told (readSpecial? s) (readSpecial? s') := by
  obtain ⟨sign, there⟩ := here.told_takeSign
  obtain ⟨rest, rest', e, e', after⟩ | ⟨infinite, infinite'⟩ := there.begins_or ['i', 'n', 'f'] (by decide)
  · simp only [readSpecial?, e, e', sign]
    exact .some ⟨rfl, after⟩
  obtain ⟨rest, rest', e, e', after⟩ | ⟨nan, nan'⟩ := there.begins_or ['n', 'a', 'n'] (by decide)
  · simp only [readSpecial?, e, e']
    exact .some ⟨rfl, after⟩
  rw [readSpecial?_none infinite nan, readSpecial?_none infinite' nan']
  exact .none

/-- The same digits are the same integer, or too large a one at one place. -/
lemma reads_integerValue (here : d.Open s s') (value : Int) :
    d.Reads Eq (integerValue s value) (integerValue s' value) := by
  unfold integerValue
  split
  · exact here.level.because
  · split
    · exact here.level.because
    · exact .ok rfl

/-- The digits of all bases are ordinary. -/
lemma isOrdinary_of_isDigitOf {base : Nat} {c : Char} (digit : isDigitOf base c = true) :
    isOrdinary c = true := by
  have ne (other : Char) (none : hexDigit? other = none) : c ≠ other := ne_of_isDigitOf digit none
  simp [isOrdinary, ne '"' rfl, ne '\'' rfl, ne '#' rfl, ne '=' rfl]

/-- The same integer is read in a base. -/
lemma reads_readBased {start start' : List Char} (first : d.Open start start') (here : d.Open s s')
    (base : Nat) (label : String) :
    d.Reads d.Told (readBased start base label s) (readBased start' base label s') := by
  have level := here.level
  cases s with
  | nil =>
    obtain rfl := here.eq_nil
    exact level.fail
  | cons c s =>
    obtain ⟨t', rfl, -, next⟩ := here.cons
    simp only [readBased]
    split
    case isFalse => exact level.fail
    case isTrue digit =>
      refine ((next (isOrdinary_of_isDigitOf digit)).reads_moreDigits
        (fun _ => isOrdinary_of_isDigitOf) label).bind fun r r' told => ?_
      obtain ⟨digits, rest⟩ := told
      rw [digits]
      exact (first.reads_integerValue _).bind fun _ _ same => .ok ⟨same, rest⟩

/-- The same integer is read. -/
lemma reads_readInteger (here : d.Open s s') :
    d.Reads d.Told (readInteger s) (readInteger s') := by
  have based {mark : List Char} {base : Nat} {label : String} (ordinary : mark.all isOrdinary = true)
      (reads : ∀ rest, readInteger (mark ++ rest) = readBased (mark ++ rest) base label rest)
      (marked : ∃ rest rest', s = mark ++ rest ∧ s' = mark ++ rest' ∧ d.Open rest rest') :
      d.Reads d.Told (readInteger s) (readInteger s') := by
    obtain ⟨rest, rest', rfl, rfl, there⟩ := marked
    rw [reads, reads]
    exact here.reads_readBased there base label
  obtain marked | ⟨hexadecimal, hexadecimal'⟩ := here.begins_or ['0', 'x'] (by decide)
  · exact based (by decide) (fun _ => rfl) marked
  obtain marked | ⟨octal, octal'⟩ := here.begins_or ['0', 'o'] (by decide)
  · exact based (by decide) (fun _ => rfl) marked
  obtain marked | ⟨binary, binary'⟩ := here.begins_or ['0', 'b'] (by decide)
  · exact based (by decide) (fun _ => rfl) marked
  rw [readInteger_unmarked hexadecimal octal binary, readInteger_unmarked hexadecimal' octal' binary']
  refine here.reads_readDecimals?.bind fun _ _ found => ?_
  cases found with
  | none => exact here.told_takeSign.2.level.pass
  | @some r r' told =>
    obtain ⟨number, rest⟩ := r
    obtain ⟨number', rest'⟩ := r'
    obtain ⟨rfl, after⟩ := told
    exact (here.reads_integerValue _).bind fun _ _ same => .ok ⟨same, after⟩

/-- The same number is read. -/
lemma reads_readNumber (here : d.Open s s') :
    d.Reads d.Told (readNumber s) (readNumber s') := by
  refine here.reads_readMoment?.bind fun _ _ found => ?_
  cases found with
  | some there => exact .ok ⟨rfl, there⟩
  | none =>
    refine here.reads_readFloat?.bind fun _ _ found => ?_
    cases found with
    | some told => exact .ok told
    | none =>
      have special := here.told_readSpecial?
      dsimp only
      generalize readSpecial? s = special at special ⊢
      generalize readSpecial? s' = special' at special ⊢
      cases special with
      | some told => exact .ok told
      | none => exact here.reads_readInteger

end Open
end Copies
end RecipientCallout.Toml
