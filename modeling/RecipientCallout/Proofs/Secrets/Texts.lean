import RecipientCallout.Proofs.Secrets.Numbers

/-!
# Texts in documents that differ in secrets

Texts on one line that are no secrets are the same in both copies of a document, and reading them keeps to
the modes: behind the closing quote both copies are at the same place.
-/

namespace RecipientCallout.Toml
open RecipientCallout.Text

variable {d : Copies} {s s' : List Char} {past : List Char}

/-! ## Escapes -/

/-- Any other character is no escape. -/
lemma readEscape_other {c : Char} (simple : ∀ r, ¬ EscapeText [c] r) (short : c ≠ 'u') (long : c ≠ 'U')
    (cs : List Char) :
    readEscape (c :: cs) =
      Halt.fail (if c.toNat < 0x80 then cs else c :: cs) (some "escape sequence")
        ["`b`", "`f`", "`n`", "`r`", "`t`", "`u`", "`U`", "`\\`", "`\"`"] := by
  unfold readEscape
  split
  case h_1 e => cases e; exact absurd .backspace (simple _)
  case h_2 e => cases e; exact absurd .formFeed (simple _)
  case h_3 e => cases e; exact absurd .lineFeed (simple _)
  case h_4 e => cases e; exact absurd .carriageReturn (simple _)
  case h_5 e => cases e; exact absurd .tab (simple _)
  case h_6 e => cases e; exact absurd .backslash (simple _)
  case h_7 e => cases e; exact absurd .quote (simple _)
  case h_8 e => cases e; exact absurd rfl short
  case h_9 e => cases e; exact absurd rfl long
  case h_10 e => cases e
  case h_11 e => cases e; rfl

/-- As many digits as there must be are the number of a character, or of none. -/
lemma readCode_digits {digits : List Char} (all : ∀ c ∈ digits, (hexDigit? c).isSome) (label : String)
    (rest : List Char) :
    readCode digits.length label (digits ++ rest) =
      match codeChar? (readHex 0 digits).1 with
      | some c => .ok (c, rest)
      | none => Halt.because (digits ++ rest) (some label) .outOfRange := by
  have whole : (digits.takeWhile fun c => (hexDigit? c).isSome) = digits :=
    List.takeWhile_eq_self_iff.mpr all
  cases code : codeChar? (readHex 0 digits).1 with
  | none => simp only [readCode, List.take_left, whole, if_true, code]
  | some c => simp only [readCode, List.take_left, List.drop_left, whole, if_true, code]

/-- Fewer digits are a failure. -/
lemma readCode_fail {count : Nat} {cs : List Char}
    (other : ∀ digits rest, cs = digits ++ rest → (∀ c ∈ digits, (hexDigit? c).isSome) →
      digits.length ≠ count) (label : String) :
    readCode count label cs = Halt.fail cs (some label) [] := by
  simp only [readCode]
  rw [if_neg]
  intro full
  have part : ((cs.take count).takeWhile fun c => (hexDigit? c).isSome) <+: cs.take count :=
    List.takeWhile_prefix _
  have length := part.length_le
  rw [List.length_take] at length
  have whole := part.eq_of_length (by rw [full, List.length_take]; omega)
  refine other (cs.take count) (cs.drop count) (List.take_append_drop _ _).symm ?_ (whole ▸ full)
  exact List.takeWhile_eq_self_iff.mp whole

/-! ## Modes within texts -/

/-- A character of a text in double quotes leaves the text open. -/
lemma textStep_of_isBasicChar {c : Char} (plain : isBasicChar c = true) (past : List Char) :
    Mode.textStep '"' past c = .text '"' (past ++ [c]) := by
  have lineFeed : c ≠ '\n' := by
    rintro rfl
    cases plain
  simp only [isBasicChar, Bool.and_eq_true, decide_eq_true_eq] at plain
  simp [Mode.textStep, plain.1.2, plain.2, lineFeed]

/-- So does one of a text in single quotes. -/
lemma textStep_of_isLiteralChar {c : Char} (plain : isLiteralChar c = true) (past : List Char) :
    Mode.textStep '\'' past c = .text '\'' (past ++ [c]) := by
  have lineFeed : c ≠ '\n' := by
    rintro rfl
    cases plain
  simp only [isLiteralChar, Bool.and_eq_true, decide_eq_true_eq] at plain
  simp [Mode.textStep, plain.2, lineFeed]

/-- Hexadecimal digits differ from all that are none. -/
lemma ne_of_hexDigit {c : Char} (digit : (hexDigit? c).isSome) (other : Char)
    (none : hexDigit? other = none) : c ≠ other := by
  rintro rfl
  rw [none] at digit
  cases digit

/-- The digits of an escape leave the text open. -/
lemma textStep_of_hexDigit {c : Char} (digit : (hexDigit? c).isSome) (past : List Char) :
    Mode.textStep '"' past c = .text '"' (past ++ [c]) := by
  simp [Mode.textStep, ne_of_hexDigit digit '"' rfl, ne_of_hexDigit digit '\\' rfl,
    ne_of_hexDigit digit '\n' rfl]

/-- Without a quote and a backslash, a character is taken as it is or refused. -/
lemma readBasicBody_other {c : Char} (quote : c ≠ '"') (backslash : c ≠ '\\') (fuel : Nat)
    (cs : List Char) :
    readBasicBody (fuel + 1) (c :: cs) =
      if isBasicChar c then (readBasicBody fuel cs).map fun (text, rest) => (c :: text, rest)
      else Halt.fail (c :: cs) (some "basic string") [] := by
  rw [readBasicBody]
  · exact fun e => absurd e quote
  · exact fun e => absurd e backslash

namespace Copies

/-- The same value, read from the same characters and a closing text, behind which both copies are at the
same place; `mode` gives the mode there by what stands in front of the closing text. -/
def Taken (d : Copies) {α : Type} (mode : List Char → Mode) (close past s s' : List Char)
    (r r' : α × List Char) : Prop :=
  r.1 = r'.1 ∧ ∃ cs, s = cs ++ (close ++ r.2) ∧ s' = cs ++ (close ++ r'.2) ∧
    d.At (mode (past ++ cs)) r.2 r'.2

/-- The same characters in front of what is taken. -/
lemma Taken.append {α β : Type} {mode : List Char → Mode} {close : List Char} {r r' : α × List Char}
    (cs : List Char) (taken : d.Taken mode close (past ++ cs) s s' r r') (f : α → β) :
    d.Taken mode close past (cs ++ s) (cs ++ s') (f r.1, r.2) (f r'.1, r'.2) := by
  obtain ⟨same, others, rfl, rfl, there⟩ := taken
  refine ⟨congrArg f same, cs ++ others, (List.append_assoc _ _ _).symm, (List.append_assoc _ _ _).symm, ?_⟩
  rwa [List.append_assoc] at there

/-- The same quote in both documents, where no text may begin. -/
def Stuck (d : Copies) (quote : Char) (s s' : List Char) : Prop :=
  d.Level s s' ∧ s.head? = some quote ∧ s'.head? = some quote

/-- The same text, read from what stands between the same quotes. Behind an empty text a third quote may
follow. -/
def Quoted (d : Copies) (past s : List Char) (r r' : List Char × List Char) : Prop :=
  r.1 = r'.1 ∧ ∃ q cs, (q = '"' ∨ q = '\'') ∧ s = q :: cs ++ q :: r.2 ∧
    (d.At (.plain (past ++ (q :: cs ++ [q]))) r.2 r'.2 ∨ cs = [] ∧ d.Stuck q r.2 r'.2)

namespace At

/-- The same character is read by its number. -/
lemma reads_readCode {mode : List Char → Mode} (here : d.At (mode past) s s')
    (stays : ∀ c, (hexDigit? c).isSome → ∀ past, (mode past).step c = mode (past ++ [c]))
    (free : ∀ past, (mode past).isAssigned = false) (count : Nat) (label : String) :
    d.Reads (d.Taken mode [] past s s') (readCode count label s) (readCode count label s') := by
  have digits {d : Copies} {cs t t' : List Char} (here : d.At (mode past) (cs ++ t) t')
      (all : ∀ c ∈ cs, (hexDigit? c).isSome) := here.append mode free fun c mem => stays c (all c mem)
  by_cases full : ∃ cs rest, s = cs ++ rest ∧ (∀ c ∈ cs, (hexDigit? c).isSome) ∧ cs.length = count
  case pos =>
    obtain ⟨cs, rest, rfl, all, rfl⟩ := full
    obtain ⟨t', rfl, there⟩ := digits here all
    rw [readCode_digits all, readCode_digits all]
    split
    case h_1 => exact .ok ⟨rfl, cs, rfl, rfl, there⟩
    case h_2 => exact here.level.because
  case neg =>
    rw [readCode_fail, readCode_fail]
    · exact here.level.fail
    · rintro cs rest rfl all length
      obtain ⟨t', rfl, -⟩ := digits here.swap all
      exact full ⟨cs, t', rfl, all, length⟩
    · rintro cs rest rfl all length
      exact full ⟨cs, rest, rfl, all, length⟩

/-- The same escape is read. -/
lemma reads_readEscape {mode : Mode} (after : List Char → Mode) (past : List Char) (here : d.At mode s s')
    (free : mode.isAssigned = false) (step : ∀ c, c ≠ '\n' → mode.step c = after (past ++ [c]))
    (stays : ∀ c, (hexDigit? c).isSome → ∀ past, (after past).step c = after (past ++ [c]))
    (free' : ∀ past, (after past).isAssigned = false) :
    d.Reads (d.Taken after [] past s s') (readEscape s) (readEscape s') := by
  have level := here.level
  cases s with
  | nil =>
    obtain rfl := here.eq_nil
    exact level.pass
  | cons c s =>
    obtain ⟨t', rfl, next⟩ := here.cons free
    have code {count : Nat} {label : String} (ne : c ≠ '\n') :
        d.Reads (d.Taken after [] past (c :: s) (c :: t')) (readCode count label s)
          (readCode count label t') := by
      rw [step c ne] at next
      exact (next.reads_readCode stays free' count label).imp fun _ _ taken => taken.append [c] id
    by_cases simple : ∃ r, EscapeText [c] r
    case pos =>
      obtain ⟨r, escape⟩ := simple
      have ne : c ≠ '\n' := fun e => escape.lineFeed_notMem (e ▸ List.mem_cons_self)
      have read (cs : List Char) : readEscape (c :: cs) = .ok (r, cs) := escape.read cs
      rw [read, read]
      rw [step c ne] at next
      exact .ok ⟨rfl, [c], rfl, rfl, next⟩
    by_cases short : c = 'u'
    case pos => subst short; exact code (by decide)
    by_cases long : c = 'U'
    case pos => subst long; exact code (by decide)
    rw [readEscape_other (not_exists.mp simple) short long,
      readEscape_other (not_exists.mp simple) short long]
    split
    · exact next.level.fail
    · exact level.fail

/-! ## Texts on one line -/

/-- The same text is read up to its closing quote. -/
lemma reads_readBasicBody {fuel fuel' : Nat} (here : d.At (.text '"' past) s s') (enough : s.length < fuel)
    (enough' : s'.length < fuel') :
    d.Reads (d.Taken (fun past => .plain (past ++ ['"'])) ['"'] past s s') (readBasicBody fuel s)
      (readBasicBody fuel' s') := by
  induction fuel generalizing fuel' past s s' with
  | zero => cases enough
  | succ fuel ih =>
    obtain ⟨fuel', rfl⟩ := Nat.exists_eq_succ_of_ne_zero (Nat.ne_zero_of_lt enough')
    have level := here.level
    cases s with
    | nil =>
      obtain rfl := here.eq_nil
      exact level.fail
    | cons c s =>
      obtain ⟨t', rfl, next⟩ := here.cons rfl
      have less := Nat.lt_of_succ_lt_succ enough
      have less' := Nat.lt_of_succ_lt_succ enough'
      by_cases quote : c = '"'
      case pos =>
        subst quote
        exact .ok ⟨rfl, [], rfl, rfl, by rwa [List.append_nil]⟩
      by_cases backslash : c = '\\'
      case pos =>
        subst backslash
        have agree := next.reads_readEscape (.text '"') (past ++ ['\\']) rfl
          (fun c ne => if_neg ne) (fun c digit past => textStep_of_hexDigit digit past) fun _ => rfl
        simp only [readBasicBody]
        generalize readEscape s = result at agree ⊢
        generalize readEscape t' = result' at agree ⊢
        cases agree with
        | @error h h' halts =>
          dsimp only
          rw [halts.committed]
          split
          · exact .error halts
          · exact level.fail
        | @ok r r' taken =>
          obtain ⟨c, rest⟩ := r
          obtain ⟨c', rest'⟩ := r'
          obtain ⟨same, cs, e, e', there⟩ := taken
          dsimp only [List.nil_append] at same e e' there
          subst same e e'
          rw [List.append_assoc] at there
          rw [List.length_append] at less less'
          exact (ih there (by omega) (by omega)).map fun r r' taken => taken.append _ (c :: ·)
      case neg =>
        rw [readBasicBody_other quote backslash, readBasicBody_other quote backslash]
        split
        case isFalse => exact level.fail
        case isTrue plain =>
          have there : d.At (.text '"' (past ++ [c])) s t' := textStep_of_isBasicChar plain past ▸ next
          exact (ih there less less').map fun r r' taken => taken.append [c] (c :: ·)

/-- Two quotes are an empty text, but a third one cannot follow them as a text of its own. -/
lemma pair {q : Char} (here : d.At (.pair q past) s s') :
    d.At (.plain past) s s' ∨ d.Stuck q s s' := by
  cases s with
  | nil => exact .inl (here.congr rfl nofun)
  | cons c s =>
    by_cases same : c = q
    case pos =>
      subst same
      have level := here.level
      obtain ⟨t', rfl, -⟩ := here.cons rfl
      exact .inr ⟨level, rfl, rfl⟩
    case neg =>
      refine .inl (here.congr rfl ?_)
      rintro _ ⟨⟩
      exact if_neg same

/-- Behind the quote that opens a text there is a second one, or the text goes on. -/
lemma opening {q : Char} (here : d.At (.opening q past) s s') :
    (∃ t t', s = q :: t ∧ s' = q :: t' ∧ d.At (.pair q (past ++ [q])) t t') ∨
      (∀ t, s ≠ q :: t) ∧ (∀ t', s' ≠ q :: t') ∧ d.At (.text q past) s s' := by
  cases s with
  | nil =>
    obtain rfl := here.eq_nil
    exact .inr ⟨nofun, nofun, here.congr rfl nofun⟩
  | cons c s =>
    have stay := here
    obtain ⟨t', rfl, next⟩ := here.cons rfl
    by_cases same : c = q
    case pos =>
      subst same
      rw [Mode.step, if_pos rfl] at next
      exact .inl ⟨s, t', rfl, rfl, next⟩
    case neg =>
      refine .inr ⟨fun t e => same (List.cons.inj e).1, fun t e => same (List.cons.inj e).1, stay.congr rfl ?_⟩
      rintro _ ⟨⟩
      exact if_neg same

/-- The same text in double quotes is read. -/
lemma reads_readBasic (here : d.At (.opening '"' (past ++ ['"'])) s s') :
    d.Reads (d.Quoted past ('"' :: s)) (readBasic ('"' :: s)) (readBasic ('"' :: s')) := by
  simp only [readBasic]
  obtain ⟨t, t', rfl, rfl, next⟩ | ⟨-, -, there⟩ := here.opening
  case inl =>
    refine .ok ⟨rfl, '"', [], .inl rfl, rfl, ?_⟩
    have after := next.pair
    rw [List.append_assoc] at after
    exact after.imp_right fun stuck => ⟨rfl, stuck⟩
  case inr =>
    refine (there.reads_readBasicBody (Nat.lt_succ_self _) (Nat.lt_succ_self _)).imp fun r r' taken => ?_
    obtain ⟨same, cs, e, -, after⟩ := taken
    refine ⟨same, '"', cs, .inl rfl, by rw [e]; rfl, .inl ?_⟩
    simpa using after

/-- The same text in single quotes is read. -/
lemma reads_readLiteral (here : d.At (.opening '\'' (past ++ ['\''])) s s') :
    d.Reads (d.Quoted past ('\'' :: s)) (readLiteral ('\'' :: s)) (readLiteral ('\'' :: s')) := by
  simp only [readLiteral]
  obtain ⟨t, t', rfl, rfl, next⟩ | ⟨-, -, there⟩ := here.opening
  case inl =>
    refine .ok ⟨rfl, '\'', [], .inr rfl, rfl, ?_⟩
    have after := next.pair
    rw [List.append_assoc] at after
    exact after.imp_right fun stuck => ⟨rfl, stuck⟩
  case inr =>
    obtain ⟨same, after⟩ := there.takeWhile (.text '\'') (fun _ => rfl) fun c plain => textStep_of_isLiteralChar plain
    have whole := (List.takeWhile_append_dropWhile (p := isLiteralChar) (l := s)).symm
    generalize s.takeWhile isLiteralChar = cs at same after whole ⊢
    generalize s.dropWhile isLiteralChar = place at after whole ⊢
    generalize s'.dropWhile isLiteralChar = place' at after ⊢
    have level := after.level
    cases place with
    | nil =>
      obtain rfl := after.eq_nil
      exact level.fail
    | cons c place =>
      obtain ⟨t', rfl, next⟩ := after.cons rfl
      by_cases quote : c = '\''
      case pos =>
        subst quote
        rw [Mode.step, Mode.textStep, if_pos rfl] at next
        refine .ok ⟨same.symm, '\'', cs, .inr rfl, by rw [whole]; rfl, .inl ?_⟩
        simpa using next
      case neg =>
        split
        case h_1 e => exact absurd (List.cons.inj e).1 quote
        case h_2 =>
          split
          case h_1 e => exact absurd (List.cons.inj e).1 quote
          case h_2 => exact level.fail

end At
end Copies
end RecipientCallout.Toml
