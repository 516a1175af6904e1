import RecipientCallout.Proofs.Steps
import RecipientCallout.Proofs.Toml.Numbers

/-!
# What readers leave

Every reader of a part of a document leaves a suffix of what it was given, so that what it has read is
a stretch of the document.
-/

namespace RecipientCallout.Toml
open RecipientCallout.Text

variable {cs rest : List Char}

/-- What succeeds where there is no way back succeeds anyway. -/
lemma eq_ok_of_commit {α : Type} {result : Except Halt α} {a : α} (read : commit result = .ok a) :
    result = .ok a := by
  cases result with
  | error h => cases read
  | ok a => exact read

/-- What succeeds under a label succeeds without it. -/
lemma eq_ok_of_labelled {α : Type} {name : String} {result : Except Halt α} {a : α}
    (read : labelled name result = .ok a) : result = .ok a := by
  cases result with
  | error h => simp only [labelled] at read; split at read <;> cases read
  | ok a => exact read

/-! ## Blanks, comments, line ends -/

/-- Blanks are skipped at the front. -/
lemma skipBlanks_suffix (cs : List Char) : skipBlanks cs <:+ cs := List.dropWhile_suffix _

/-- A line end is taken at the front. -/
lemma newline?_suffix (read : newline? cs = some rest) : rest <:+ cs := by
  unfold newline? at read
  split at read
  case h_1 => cases read; exact List.suffix_cons _ _
  case h_2 => cases read; exact List.suffix_append [_, _] _
  case h_3 => cases read

/-- A comment is skipped at the front. -/
lemma skipComment_suffix (cs : List Char) : skipComment cs <:+ cs := by
  unfold skipComment
  split
  case h_1 => exact (List.dropWhile_suffix _).trans (List.suffix_cons _ _)
  case h_2 => exact List.suffix_refl _

/-- So is a line end, or there is nothing behind. -/
lemma lineEnd?_suffix (read : lineEnd? cs = some rest) : rest <:+ cs := by
  cases cs with
  | nil => cases read; exact List.suffix_refl _
  | cons c cs => exact newline?_suffix read

/-- The end of a line is read at the front. -/
lemma finishLine_suffix (read : finishLine cs = .ok rest) : rest <:+ cs := by
  simp only [finishLine] at read
  split at read
  case h_1 found =>
    cases read
    exact (lineEnd?_suffix found).trans ((skipComment_suffix _).trans (skipBlanks_suffix cs))
  case h_2 => cases read

/-- Empty lines are skipped at the front. -/
lemma skipLines_suffix (cs : List Char) : skipLines cs <:+ cs := by
  fun_induction skipLines cs with
  | case1 rest ih => exact ih.trans (List.suffix_cons _ _)
  | case2 rest ih => exact ih.trans (List.suffix_cons _ _)
  | case3 rest ih => exact ih.trans (List.suffix_cons _ _)
  | case4 rest ih => exact ih.trans (List.suffix_append [_, _] _)
  | case5 => exact List.suffix_refl _

/-- What may stand between items is skipped at the front. -/
lemma skipBetween_suffix {fuel : Nat} (read : skipBetween fuel cs = .ok rest) : rest <:+ cs := by
  induction fuel generalizing cs with
  | zero => cases read; exact List.suffix_refl _
  | succ fuel ih =>
    have blanks := skipBlanks_suffix cs
    unfold skipBetween at read
    split at read
    case h_1 e =>
      dsimp only at read
      split at read
      case h_1 found =>
        rw [e] at blanks
        exact (ih read).trans <| (newline?_suffix found).trans <|
          (List.dropWhile_suffix _).trans <| (List.suffix_cons _ _).trans blanks
      case h_2 => cases read
    case h_2 e =>
      rw [e] at blanks
      exact (ih read).trans ((List.suffix_cons _ _).trans blanks)
    case h_3 e =>
      rw [e] at blanks
      exact (ih read).trans ((List.suffix_append [_, _] _).trans blanks)
    case h_4 => cases read
    case h_5 => cases read; exact blanks

/-! ## Texts -/

/-- A character's number leaves what is behind its digits. -/
lemma readCode_suffix {count : Nat} {label : String} {c : Char}
    (read : readCode count label cs = .ok (c, rest)) : rest <:+ cs := by
  simp only [readCode] at read
  split at read
  case isFalse => cases read
  case isTrue =>
    split at read
    case h_1 => cases read; exact List.drop_suffix _ _
    case h_2 => cases read

/-- An escape leaves what is behind it. -/
lemma readEscape_suffix {c : Char} (read : readEscape cs = .ok (c, rest)) : rest <:+ cs := by
  unfold readEscape at read
  split at read
  case h_8 => exact (readCode_suffix read).trans (List.suffix_cons _ _)
  case h_9 => exact (readCode_suffix read).trans (List.suffix_cons _ _)
  case h_10 => cases read
  case h_11 => cases read
  all_goals
    cases read
    exact List.suffix_cons _ _

/-- A quoted text leaves what is behind its quote. -/
lemma readBasicBody_suffix {fuel : Nat} {text : List Char}
    (read : readBasicBody fuel cs = .ok (text, rest)) : rest <:+ cs := by
  induction fuel generalizing cs text with
  | zero => cases read
  | succ fuel ih =>
    unfold readBasicBody at read
    split at read
    case h_1 => cases read; exact List.suffix_cons _ _
    case h_2 =>
      split at read
      case h_1 => split at read <;> cases read
      case h_2 escape =>
        obtain ⟨text, read, -⟩ := exists_of_map_fst_eq_ok read
        exact (ih read).trans ((readEscape_suffix escape).trans (List.suffix_cons _ _))
    case h_3 =>
      split at read
      case isTrue =>
        obtain ⟨text, read, -⟩ := exists_of_map_fst_eq_ok read
        exact (ih read).trans (List.suffix_cons _ _)
      case isFalse => cases read
    case h_4 => cases read

/-- So does one over several lines. -/
lemma readMultilineBody_suffix {fuel : Nat} {text : List Char}
    (read : readMultilineBody fuel cs = .ok (text, rest)) : rest <:+ cs := by
  induction fuel generalizing cs text rest with
  | zero => cases read
  | succ fuel ih =>
    have more {c : Char} {cs after : List Char}
        (read : ((readMultilineBody fuel cs).map fun r => (c :: r.1, r.2)) =
          .ok (text, rest)) (suffix : cs <:+ after) : rest <:+ after := by
      obtain ⟨text, read, -⟩ := exists_of_map_fst_eq_ok read
      exact (ih read).trans suffix
    unfold readMultilineBody at read
    split at read
    case h_1 => cases read; exact List.suffix_append [_, _, _, _, _] _
    case h_2 => cases read; exact List.suffix_append [_, _, _, _] _
    case h_3 => cases read; exact List.suffix_append [_, _, _] _
    case h_4 =>
      split at read
      case isTrue => cases read
      case isFalse => exact more read (List.suffix_cons _ _)
    case h_5 others =>
      split at read
      case h_1 found =>
        exact (ih read).trans <| (skipLines_suffix _).trans <| (newline?_suffix found).trans <|
          (skipBlanks_suffix others).trans (List.suffix_cons _ _)
      case h_2 =>
        split at read
        case h_1 => split at read <;> cases read
        case h_2 escape =>
          exact more read ((readEscape_suffix escape).trans (List.suffix_cons _ _))
    case h_6 => exact more read (List.suffix_cons _ _)
    case h_7 => exact more read (List.suffix_append [_, _] _)
    case h_8 =>
      split at read
      case isTrue => exact more read (List.suffix_cons _ _)
      case isFalse => cases read
    case h_9 => cases read

/-- So does a literal one over several lines. -/
lemma readMultilineLiteralBody_suffix {text : List Char}
    (read : readMultilineLiteralBody cs = .ok (text, rest)) : rest <:+ cs := by
  fun_induction readMultilineLiteralBody cs generalizing text with
  | case1 => cases read; exact List.suffix_append [_, _, _, _, _] _
  | case2 => cases read; exact List.suffix_append [_, _, _, _] _
  | case3 => cases read; exact List.suffix_append [_, _, _] _
  | case5 _ _ _ _ _ _ _ _ ih =>
    obtain ⟨text, read, -⟩ := exists_of_map_fst_eq_ok read
    exact (ih read).trans (List.suffix_cons _ _)
  | case7 _ ih =>
    obtain ⟨text, read, -⟩ := exists_of_map_fst_eq_ok read
    exact (ih read).trans (List.suffix_append [_, _] _)
  | case8 _ _ _ _ _ _ _ _ ih =>
    obtain ⟨text, read, -⟩ := exists_of_map_fst_eq_ok read
    exact (ih read).trans (List.suffix_cons _ _)
  | case4 => cases read
  | case6 => cases read
  | case9 => cases read
  | case10 => cases read

/-- Quoted texts of either kind leave what is behind them. -/
lemma readBasic_suffix {text : List Char} (read : readBasic cs = .ok (text, rest)) : rest <:+ cs := by
  unfold readBasic at read
  split at read
  case h_1 => exact (readBasicBody_suffix read).trans (List.suffix_cons _ _)
  case h_2 => cases read

/-- So do literal texts. -/
lemma readLiteral_suffix {text : List Char} (read : readLiteral cs = .ok (text, rest)) :
    rest <:+ cs := by
  unfold readLiteral at read
  split at read
  case h_1 others =>
    have dropped : others.dropWhile isLiteralChar <:+ others := List.dropWhile_suffix _
    split at read
    case h_1 e =>
      cases read
      rw [e] at dropped
      exact (List.suffix_cons _ _).trans (dropped.trans (List.suffix_cons _ _))
    case h_2 => cases read
  case h_2 => cases read

/-- A first line end is dropped at the front. -/
lemma dropFirstNewline_suffix (cs : List Char) : dropFirstNewline cs <:+ cs := by
  unfold dropFirstNewline
  cases found : newline? cs with
  | none => exact List.suffix_refl _
  | some rest => exact newline?_suffix found

/-- Texts of all kinds leave what is behind them. -/
lemma readText_suffix {text : List Char} (read : readText cs = .ok (text, rest)) : rest <:+ cs := by
  unfold readText at read
  split at read
  case h_1 =>
    exact (readMultilineBody_suffix read).trans <|
      (dropFirstNewline_suffix _).trans (List.suffix_append [_, _, _] _)
  case h_2 =>
    exact (readMultilineLiteralBody_suffix read).trans <|
      (dropFirstNewline_suffix _).trans (List.suffix_append [_, _, _] _)
  case h_3 => exact readBasic_suffix read
  case h_4 => exact readLiteral_suffix read

/-! ## Dates and times -/

/-- Two digits leave what is behind them. -/
lemma twoDigits_suffix {lo hi n : Nat} (read : twoDigits lo hi cs = .ok (n, rest)) : rest <:+ cs := by
  obtain ⟨digits, rfl, -⟩ := twoDigits_sound read
  exact List.suffix_append digits rest

/-- So do two digits that must come. -/
lemma requireTwo_suffix {label : String} {lo hi n : Nat}
    (read : requireTwo label lo hi cs = .ok (n, rest)) : rest <:+ cs := by
  unfold requireTwo at read
  split at read
  case h_1 two => cases read; exact twoDigits_suffix two
  case h_2 => cases read
  case h_3 => cases read

/-- So does a character that must come. -/
lemma requireChar_suffix {label : String} {wanted : Char}
    (read : requireChar label wanted cs = .ok rest) : rest <:+ cs := by
  unfold requireChar at read
  split at read
  case h_1 =>
    split at read
    case isTrue => cases read; exact List.suffix_cons _ _
    case isFalse => cases read
  case h_2 => cases read

/-- A fraction of a second is skipped at the front. -/
lemma skipFraction_suffix (cs : List Char) : skipFraction cs <:+ cs := by
  unfold skipFraction
  split
  case h_1 =>
    split
    case isTrue => exact (List.dropWhile_suffix _).trans (List.suffix_append [_, _] _)
    case isFalse => exact List.suffix_refl _
  case h_2 => exact List.suffix_refl _

/-- A time leaves what is behind it. -/
lemma readTime?_suffix {label : String} (read : readTime? label cs = .ok (some rest)) :
    rest <:+ cs := by
  unfold readTime? at read
  split at read
  case h_1 hour =>
    obtain ⟨⟨_, minute⟩, minutes, read⟩ := exists_of_bind_eq_ok read
    obtain ⟨colon, between, read⟩ := exists_of_bind_eq_ok read
    obtain ⟨⟨_, second⟩, seconds, read⟩ := exists_of_bind_eq_ok read
    cases read
    exact (skipFraction_suffix _).trans <| (requireTwo_suffix seconds).trans <|
      (requireChar_suffix between).trans <| (requireTwo_suffix minutes).trans <|
      (List.suffix_cons _ _).trans (twoDigits_suffix hour)
  case h_2 => cases read

/-- So does the offset of a time. -/
lemma skipOffset_suffix (read : skipOffset cs = .ok rest) : rest <:+ cs := by
  unfold skipOffset at read
  split at read
  case h_1 => cases read; exact List.suffix_cons _ _
  case h_2 => cases read; exact List.suffix_cons _ _
  case h_3 =>
    split at read
    case isTrue =>
      obtain ⟨⟨_, hour⟩, hours, read⟩ := exists_of_bind_eq_ok read
      obtain ⟨colon, between, read⟩ := exists_of_bind_eq_ok read
      obtain ⟨⟨_, minute⟩, minutes, read⟩ := exists_of_bind_eq_ok read
      cases read
      exact (requireTwo_suffix minutes).trans <| (requireChar_suffix between).trans <|
        (requireTwo_suffix hours).trans (List.suffix_cons _ _)
    case isFalse => cases read; exact List.suffix_refl _
  case h_4 => cases read; exact List.suffix_refl _

/-- So does a date. -/
lemma readDate?_suffix (read : readDate? cs = .ok (some rest)) : rest <:+ cs := by
  unfold readDate? at read
  split at read
  case h_1 =>
    split at read
    case isTrue =>
      obtain ⟨⟨_, month⟩, months, read⟩ := exists_of_bind_eq_ok read
      obtain ⟨hyphen, between, read⟩ := exists_of_bind_eq_ok read
      obtain ⟨⟨_, day⟩, days, read⟩ := exists_of_bind_eq_ok read
      dsimp only at read
      split at read
      case isTrue =>
        cases read
        exact (requireTwo_suffix days).trans <| (requireChar_suffix between).trans <|
          (requireTwo_suffix months).trans (List.suffix_append [_, _, _, _, _] _)
      case isFalse => cases read
    case isFalse => cases read
  case h_2 => cases read

/-- So does a date with a time, or either of them. -/
lemma readMoment?_suffix (read : readMoment? cs = .ok (some rest)) : rest <:+ cs := by
  obtain ⟨found, date, read⟩ := exists_of_bind_eq_ok read
  split at read
  case h_1 => exact readTime?_suffix read
  case h_2 =>
    have after := readDate?_suffix date
    split at read
    case h_1 =>
      split at read
      case isTrue =>
        obtain ⟨found, time, read⟩ := exists_of_bind_eq_ok read
        split at read
        case h_1 =>
          obtain ⟨rest, zone, read⟩ := exists_of_bind_eq_ok read
          cases read
          exact (skipOffset_suffix zone).trans <| (readTime?_suffix time).trans <|
            (List.suffix_cons _ _).trans after
        case h_2 => cases read; exact after
      case isFalse => cases read; exact after
    case h_2 => cases read; exact after

/-! ## Numbers -/

/-- Further digits leave what is behind them. -/
lemma moreDigits_suffix {isDigit : Char → Bool} {label : String} {digits : List Char}
    (read : moreDigits isDigit label cs = .ok (digits, rest)) : rest <:+ cs := by
  fun_induction moreDigits isDigit label cs generalizing digits with
  | case1 => cases read; exact List.suffix_refl _
  | case2 => cases read
  | case3 _ _ _ ih =>
    obtain ⟨digits, read, -⟩ := exists_of_map_fst_eq_ok read
    exact (ih read).trans (List.suffix_append [_, _] _)
  | case4 => cases read
  | case5 _ _ _ _ _ ih =>
    obtain ⟨digits, read, -⟩ := exists_of_map_fst_eq_ok read
    exact (ih read).trans (List.suffix_cons _ _)
  | case6 => cases read; exact List.suffix_refl _

/-- A sign leaves what is behind it. -/
lemma takeSign_suffix (cs : List Char) : (takeSign cs).2 <:+ cs := by
  obtain ⟨sign, split, -⟩ := takeSign_sound cs
  exact ⟨sign, split.symm⟩

/-- A decimal number leaves what is behind it. -/
lemma readDecimals?_suffix {d : Decimals} (read : readDecimals? cs = .ok (some (d, rest))) :
    rest <:+ cs := by
  obtain ⟨sign, digits, rfl, -⟩ := readDecimals?_sound read
  exact List.suffix_append (sign ++ digits) rest

/-- So does the fraction of a number. -/
lemma readPart_suffix {expected : List String} {digits : List Char}
    (read : readPart cs expected = .ok (digits, rest)) : rest <:+ cs := by
  unfold readPart at read
  split at read
  case h_1 =>
    split at read
    case isTrue =>
      obtain ⟨digits, read, -⟩ := exists_of_map_fst_eq_ok read
      exact (moreDigits_suffix read).trans (List.suffix_cons _ _)
    case isFalse => cases read
  case h_2 => cases read

/-- So does its exponent. -/
lemma readExponent?_suffix {n : Int} (read : readExponent? cs = .ok (some (n, rest))) :
    rest <:+ cs := by
  unfold readExponent? at read
  split at read
  case h_1 others =>
    split at read
    case isTrue =>
      obtain ⟨⟨digits, rest⟩, part, read⟩ := exists_of_bind_eq_ok read
      cases read
      exact (readPart_suffix part).trans ((takeSign_suffix others).trans (List.suffix_cons _ _))
    case isFalse => cases read
  case h_2 => cases read

/-- So does a number with either of them. -/
lemma readFloat?_suffix {scalar : Scalar} (read : readFloat? cs = .ok (some (scalar, rest))) :
    rest <:+ cs := by
  obtain ⟨found, decimals, read⟩ := exists_of_bind_eq_ok read
  split at read
  case h_1 => cases read
  case h_2 =>
    have point := (List.suffix_cons _ _).trans (readDecimals?_suffix decimals)
    obtain ⟨⟨fraction, after⟩, part, read⟩ := exists_of_bind_eq_ok read
    obtain ⟨exponent, power, read⟩ := exists_of_bind_eq_ok read
    split at read
    case h_1 =>
      obtain ⟨scalar, -, read⟩ := exists_of_bind_eq_ok read
      cases read
      exact (readPart_suffix part).trans point
    case h_2 =>
      obtain ⟨scalar, -, read⟩ := exists_of_bind_eq_ok read
      cases read
      exact (readExponent?_suffix power).trans ((readPart_suffix part).trans point)
  case h_3 =>
    obtain ⟨exponent, power, read⟩ := exists_of_bind_eq_ok read
    split at read
    case h_1 => cases read
    case h_2 =>
      obtain ⟨scalar, -, read⟩ := exists_of_bind_eq_ok read
      cases read
      exact (readExponent?_suffix power).trans (readDecimals?_suffix decimals)

/-- So does a number that is a word. -/
lemma readSpecial?_suffix {scalar : Scalar} (read : readSpecial? cs = some (scalar, rest)) :
    rest <:+ cs := by
  have sign := takeSign_suffix cs
  simp only [readSpecial?] at read
  split at read
  case h_1 e => cases read; rw [e] at sign; exact (List.suffix_append [_, _, _] _).trans sign
  case h_2 e => cases read; rw [e] at sign; exact (List.suffix_append [_, _, _] _).trans sign
  case h_3 => cases read

/-- Numbers of all kinds leave what is behind them. -/
lemma readNumber_suffix {scalar : Scalar} (read : readNumber cs = .ok (scalar, rest)) :
    rest <:+ cs := by
  obtain ⟨moment, found, read⟩ := exists_of_bind_eq_ok read
  split at read
  case h_1 => cases read; exact readMoment?_suffix found
  case h_2 =>
    obtain ⟨found, float, read⟩ := exists_of_bind_eq_ok read
    split at read
    case h_1 => cases read; exact readFloat?_suffix float
    case h_2 =>
      split at read
      case h_1 special => cases read; exact readSpecial?_suffix special
      case h_2 =>
        obtain ⟨text, n, rfl, -⟩ := readInteger_sound read
        exact List.suffix_append text rest

/-! ## Keys and values -/

/-- A key leaves what is behind it. -/
lemma readKey_suffix {key : Key} (read : readKey cs = .ok (key, rest)) : rest <:+ cs := by
  simp only [readKey] at read
  split at read
  case h_1 =>
    obtain ⟨⟨name, rest⟩, quoted, e⟩ := exists_of_map_eq_ok read
    cases e
    exact readBasic_suffix quoted
  case h_2 =>
    obtain ⟨⟨name, rest⟩, quoted, e⟩ := exists_of_map_eq_ok read
    cases e
    exact readLiteral_suffix quoted
  case h_3 =>
    split at read
    case h_1 => cases read
    case h_2 => cases read; exact List.dropWhile_suffix _

/-- So do the keys behind its dots. -/
lemma readMoreKeys_suffix {fuel : Nat} {keys : KeyPath}
    (read : readMoreKeys fuel cs = .ok (keys, rest)) : rest <:+ cs := by
  induction fuel generalizing cs keys with
  | zero => cases read; exact List.suffix_refl _
  | succ fuel ih =>
    unfold readMoreKeys at read
    split at read
    case h_1 others _ =>
      split at read
      case h_1 one =>
        obtain ⟨keys, read, -⟩ := exists_of_map_fst_eq_ok read
        cases ‹_ + 1 = _›
        exact (ih read).trans <| (skipBlanks_suffix _).trans <| (readKey_suffix one).trans <|
          (skipBlanks_suffix others).trans (List.suffix_cons _ _)
      case h_2 =>
        split at read
        case isTrue => cases read
        case isFalse => cases read; exact List.suffix_refl _
    case h_2 => cases read; exact List.suffix_refl _

/-- So does a dotted key. -/
lemma readKeys_suffix {keys : KeyPath × Key} (read : readKeys cs = .ok (keys, rest)) :
    rest <:+ cs := by
  obtain ⟨⟨first, after⟩, one, read⟩ := exists_of_bind_eq_ok read
  obtain ⟨⟨more, rest⟩, others, read⟩ := exists_of_bind_eq_ok read
  dsimp only at read
  split at read
  case isTrue => cases read
  case isFalse =>
    cases read
    exact (readMoreKeys_suffix others).trans <| (skipBlanks_suffix after).trans <|
      (readKey_suffix one).trans (skipBlanks_suffix cs)

/-- A word leaves what is behind it. -/
lemma readWord_suffix {word : String} {value scalar : Scalar}
    (read : readWord word value cs = .ok (scalar, rest)) : rest <:+ cs := by
  unfold readWord at read
  split at read
  case isTrue => cases read; exact List.drop_suffix _ _
  case isFalse => cases read

/-- A value that is no array or table leaves what is behind it. -/
lemma readScalar_suffix {scalar : Scalar} (read : readScalar cs = .ok (scalar, rest)) :
    rest <:+ cs := by
  unfold readScalar at read
  split at read
  case h_1 => cases read
  case h_2 =>
    split at read
    case isTrue =>
      obtain ⟨⟨text, rest⟩, quoted, e⟩ := exists_of_map_eq_ok read
      cases e
      exact readText_suffix quoted
    case isFalse =>
      split at read
      case isTrue => exact readNumber_suffix read
      case isFalse =>
        iterate 2
          split at read
          · cases read
        iterate 4
          split at read
          · exact readWord_suffix read
        cases read

section
variable {value : List Char → Scan Node}
  (value_suffix : ∀ {cs node rest}, value cs = .ok (node, rest) → rest <:+ cs)
include value_suffix

/-- The items of an array leave what is behind them. -/
lemma readItems_suffix {fuel : Nat} {items : List Node}
    (read : readItems value fuel cs = .ok (items, rest)) : rest <:+ cs := by
  induction fuel generalizing cs items rest with
  | zero => cases read
  | succ fuel ih =>
    obtain ⟨start, skipped, read⟩ := exists_of_bind_eq_ok read
    have before := skipBetween_suffix skipped
    split at read
    case h_1 =>
      split at read
      case isTrue => cases read
      case isFalse =>
        split at read
        case h_1 => cases read; exact (List.suffix_cons _ _).trans before
        case h_2 => cases read
    case h_2 one =>
      obtain ⟨after, between, read⟩ := exists_of_bind_eq_ok read
      have first := (skipBetween_suffix between).trans ((value_suffix one).trans before)
      split at read
      case h_1 =>
        obtain ⟨⟨items, rest⟩, others, read⟩ := exists_of_bind_eq_ok read
        cases read
        exact (ih others).trans ((List.suffix_cons _ _).trans first)
      case h_2 => cases read; exact (List.suffix_cons _ _).trans first
      case h_3 => cases read

/-- An equals sign and a value leave what is behind them. -/
lemma readAssigned_suffix {node : Node} (read : readAssigned value cs = .ok (node, rest)) :
    rest <:+ cs := by
  unfold readAssigned at read
  split at read
  case h_1 others =>
    exact (value_suffix (eq_ok_of_commit read)).trans <|
      (skipBlanks_suffix others).trans (List.suffix_cons _ _)
  case h_2 => cases read

/-- The pairs of an inline table leave what is behind them. -/
lemma readPairs_suffix {fuel : Nat} {pairs : List (KeyPath × Key × Node)}
    (read : readPairs value fuel cs = .ok (pairs, rest)) : rest <:+ cs := by
  induction fuel generalizing cs pairs rest with
  | zero => cases read; exact List.suffix_refl _
  | succ fuel ih =>
    unfold readPairs at read
    split at read
    case h_1 =>
      split at read
      case isTrue => cases read
      case isFalse => cases read; exact List.suffix_refl _
    case h_2 keys =>
      obtain ⟨⟨item, after⟩, assigned, read⟩ := exists_of_bind_eq_ok read
      have first := (skipBlanks_suffix after).trans <|
        (readAssigned_suffix value_suffix assigned).trans (readKeys_suffix keys)
      dsimp only at read
      split at read
      case h_1 e =>
        rw [e] at first
        obtain ⟨⟨pairs, rest⟩, others, read⟩ := exists_of_bind_eq_ok read
        dsimp only at read
        split at read
        case isTrue => cases read; exact first
        case isFalse =>
          cases read
          exact (ih others).trans ((List.suffix_cons _ _).trans first)
      case h_2 => cases read; exact first

end

/-- Values of all kinds leave what is behind them. -/
lemma readValue_suffix {depth : Nat} {node : Node} (read : readValue depth cs = .ok (node, rest)) :
    rest <:+ cs := by
  have scalar {cs rest : List Char} {node : Node}
      (read : (readScalar cs).map (fun r => (Node.scalar (.between cs r.2) r.1, r.2)) =
        .ok (node, rest)) : rest <:+ cs := by
    obtain ⟨⟨value, rest⟩, single, e⟩ := exists_of_map_eq_ok read
    cases e
    exact readScalar_suffix single
  induction depth generalizing cs node rest with
  | zero =>
    unfold readValue at read
    split at read
    case h_1 => cases read
    case h_2 => cases read
    case h_3 => exact scalar read
  | succ depth ih =>
    unfold readValue at read
    split at read
    case h_1 => cases read; exact List.suffix_append [_, _] _
    case h_2 =>
      obtain ⟨⟨items, rest⟩, inside, read⟩ := exists_of_bind_eq_ok read
      cases read
      exact (readItems_suffix ih (eq_ok_of_commit inside)).trans (List.suffix_cons _ _)
    case h_3 =>
      obtain ⟨⟨pairs, after⟩, inside, read⟩ := exists_of_bind_eq_ok read
      have blanks := skipBlanks_suffix after
      have brace := readPairs_suffix ih (eq_ok_of_commit inside)
      dsimp only at read
      split at read
      case h_1 => cases read
      case h_2 =>
        split at read
        case h_1 e =>
          cases read
          rw [e] at blanks
          exact (List.suffix_cons _ _).trans (blanks.trans (brace.trans (List.suffix_cons _ _)))
        case h_2 => cases read
    case h_4 => exact scalar read

/-! ## Lines -/

/-- An entry leaves the lines behind it. -/
lemma readEntry_suffix {draft next : Draft}
    (read : Document.readEntry draft cs = .ok (next, rest)) : rest <:+ cs := by
  obtain ⟨⟨⟨path, key⟩, after⟩, keys, read⟩ := exists_of_bind_eq_ok read
  obtain ⟨⟨value, after⟩, assigned, read⟩ := exists_of_bind_eq_ok read
  obtain ⟨rest, finished, read⟩ := exists_of_bind_eq_ok read
  split at read
  case h_1 =>
    cases read
    exact (finishLine_suffix finished).trans <| (readAssigned_suffix readValue_suffix assigned).trans
      (readKeys_suffix (eq_ok_of_commit keys))
  case h_2 => cases read

/-- What stands in the brackets of a header leaves what is behind it. -/
lemma readHeaderBody_suffix {draft next : Draft} {start : List Char} {repeated : Bool}
    {brackets : String} (read : Document.readHeaderBody draft start repeated brackets cs = .ok (next, rest)) :
    rest <:+ cs := by
  obtain ⟨⟨⟨path, key⟩, after⟩, keys, read⟩ := exists_of_bind_eq_ok read
  obtain ⟨behind, closed, read⟩ := exists_of_bind_eq_ok read
  obtain ⟨rest, finished, read⟩ := exists_of_bind_eq_ok read
  have bracket : behind <:+ after := by
    unfold Document.closeHeader at closed
    split at closed
    case isTrue => cases closed; exact List.drop_suffix _ _
    case isFalse => cases closed
  split at read
  case h_1 =>
    cases read
    exact (finishLine_suffix finished).trans (bracket.trans (readKeys_suffix (eq_ok_of_commit keys)))
  case h_2 => cases read

/-- A header leaves the lines behind it. -/
lemma readHeader_suffix {draft next : Draft}
    (read : Document.readHeader draft cs = .ok (next, rest)) : rest <:+ cs := by
  have body := eq_ok_of_labelled read
  split at body
  case h_1 => exact (readHeaderBody_suffix body).trans (List.suffix_append [_, _] _)
  case h_2 => exact (readHeaderBody_suffix body).trans (List.suffix_cons _ _)
  case h_3 => cases body

end RecipientCallout.Toml
