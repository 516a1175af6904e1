import Mathlib.Data.List.TakeWhile
import RecipientCallout.Proofs.Toml.Entries

/-!
# Reading lines

Lines that are written with one entry each are read as a table of these entries, in their order, as long
as no name stands there twice: `read_lines`.
-/

namespace RecipientCallout.Toml
open RecipientCallout.Text

/-! ## Texts -/

/-- The value of hexadecimal digits, one by one. -/
lemma readHex_eq {digits : List Char} (all : ∀ c ∈ digits, (hexDigit? c).isSome) (n : Nat) :
    (readHex n digits).1 = digits.foldl (fun n c => 16 * n + (hexDigit? c).getD 0) n := by
  induction digits generalizing n with
  | nil => rfl
  | cons c digits ih =>
    obtain ⟨digit, all⟩ := List.forall_mem_cons.mp all
    obtain ⟨d, found⟩ := Option.isSome_iff_exists.mp digit
    simp only [readHex, found, ih all, List.foldl_cons, Option.getD_some]

/-- Without underscores, all that is written are digits, and they have the value. -/
lemma DigitsText.plain {base : Nat} {cs : List Char} {n : Nat} (written : DigitsText base cs n)
    (plain : '_' ∉ cs) : (∀ c ∈ cs, (hexDigit? c).isSome) ∧ valueIn base cs = n := by
  induction written with
  | digit found => simp [found, valueIn]
  | more _ found _ ih =>
    rw [List.mem_append, not_or] at plain
    obtain ⟨all, value⟩ := ih plain.1
    rw [List.forall_mem_append, valueIn_append, value, found]
    exact ⟨⟨all, List.forall_mem_singleton.mpr (by rw [found]; rfl)⟩, rfl⟩
  | spaced => simp at plain

/-- The number of a character leads to it. -/
lemma codeChar?_toNat (c : Char) : codeChar? c.toNat = some c := by
  have valid : c.toNat < 0xD800 ∨ 0xDFFF < c.toNat ∧ c.toNat < 0x110000 := c.valid
  rw [codeChar?, if_pos valid, Char.ofNat_toNat]

/-- A character that is written by its number is read. -/
lemma readCode_complete {digits : List Char} {c : Char} (written : DigitsText 16 digits c.toNat)
    (plain : '_' ∉ digits) {count : Nat} (length : digits.length = count) (label : String)
    (rest : List Char) : readCode count label (digits ++ rest) = .ok (c, rest) := by
  subst length
  obtain ⟨all, value⟩ := written.plain plain
  have whole : (digits.takeWhile fun c => (hexDigit? c).isSome) = digits :=
    List.takeWhile_eq_self_iff.mpr all
  have code : (readHex 0 digits).1 = c.toNat := (readHex_eq all 0).trans value
  simp only [readCode, List.take_left, List.drop_left, whole, code, codeChar?_toNat, if_true]

/-- An escape is read as the character that it stands for. -/
lemma EscapeText.read {escaped : List Char} {c : Char} (written : EscapeText escaped c)
    (rest : List Char) : readEscape (escaped ++ rest) = .ok (c, rest) := by
  cases written with
  | backspace => rfl
  | formFeed => rfl
  | lineFeed => rfl
  | carriageReturn => rfl
  | tab => rfl
  | backslash => rfl
  | quote => rfl
  | short written plain length => exact readCode_complete written plain length _ rest
  | long written plain length => exact readCode_complete written plain length _ rest

/-- A plain character can stand in a quoted text. -/
lemma IsPlain.isBasicChar {c : Char} (plain : IsPlain c) : isBasicChar c = true := by
  obtain ⟨quote, backslash, printed⟩ := plain
  simpa [Toml.isBasicChar, isCommentChar, quote, backslash] using printed

/-- A plain character in a quoted text is taken as it is. -/
lemma readBasicBody_plain {c : Char} (plain : IsPlain c) (fuel : Nat) (cs : List Char) :
    readBasicBody (fuel + 1) (c :: cs) =
      (readBasicBody fuel cs).map fun (text, rest) => (c :: text, rest) := by
  rw [readBasicBody, if_pos plain.isBasicChar]
  · exact fun e => plain.1 e
  · exact fun e => plain.2.1 e

/-- An escape in a quoted text is taken for its character. -/
lemma readBasicBody_escape {escaped : List Char} {c : Char} (escape : EscapeText escaped c) (fuel : Nat)
    (cs : List Char) :
    readBasicBody (fuel + 1) ('\\' :: (escaped ++ cs)) =
      (readBasicBody fuel cs).map fun (text, rest) => (c :: text, rest) := by
  simp only [readBasicBody, escape.read]

/-- A quoted text is read as it was written. -/
lemma BasicText.read {cs text : List Char} (written : BasicText cs text) (rest : List Char) {fuel : Nat}
    (enough : cs.length < fuel) : readBasicBody fuel (cs ++ '"' :: rest) = .ok (text, rest) := by
  induction written generalizing fuel with
  | nil =>
    obtain ⟨fuel, rfl⟩ := Nat.exists_eq_succ_of_ne_zero (Nat.ne_zero_of_lt enough)
    rfl
  | plain plain _ ih =>
    obtain ⟨fuel, rfl⟩ := Nat.exists_eq_succ_of_ne_zero (Nat.ne_zero_of_lt enough)
    rw [List.cons_append, readBasicBody_plain plain, ih (Nat.lt_of_succ_lt_succ enough)]
    rfl
  | escape escape _ ih =>
    obtain ⟨fuel, rfl⟩ := Nat.exists_eq_succ_of_ne_zero (Nat.ne_zero_of_lt enough)
    rw [List.cons_append, List.cons_append, List.append_assoc, readBasicBody_escape escape, ih]
    · rfl
    · simp only [List.cons_append, List.length_cons, List.length_append] at enough
      omega

/-- Two quotes are an empty text, unless there is a third one. -/
lemma BasicText.readText {cs text : List Char} (written : BasicText cs text) (rest : List Char) :
    readText ('"' :: cs ++ '"' :: '\n' :: rest) = .ok (text, '\n' :: rest) := by
  have body := written.read ('\n' :: rest) (show cs.length < (cs ++ '"' :: '\n' :: rest).length + 1 by
    rw [List.length_append]
    omega)
  have quote (others : List Char) : '"' :: cs ++ '"' :: '\n' :: rest ≠ '"' :: '"' :: '"' :: others := by
    intro e
    cases written with
    | nil => exact absurd (List.cons.inj (List.cons.inj (List.cons.inj e).2).2).1 (by decide)
    | plain plain => exact plain.1 (List.cons.inj (List.cons.inj e).2).1
    | escape => exact absurd (List.cons.inj (List.cons.inj e).2).1 (by decide)
  unfold Toml.readText
  split
  case h_1 e => exact absurd e (quote _)
  case h_2 e => exact absurd (List.cons.inj e).1 (by decide)
  case h_3 => exact body
  case h_4 single => exact absurd rfl (single _)

/-! ## Values -/

/-- With what an integer begins. -/
lemma IntegerText.begins {text : List Char} {n : Int} (written : IntegerText text n) :
    ∃ c cs, text = c :: cs ∧ (c = '+' ∨ c = '-' ∨ isDigit c = true) := by
  cases written with
  | decimal written =>
    obtain ⟨first, more, values, rfl, all, -⟩ := written.1.read
    have digit := all first List.mem_cons_self
    rw [isDigitOf_ten] at digit
    exact ⟨first, more, rfl, .inr (.inr digit)⟩
  | positive => exact ⟨_, _, rfl, .inl rfl⟩
  | negative => exact ⟨_, _, rfl, .inr (.inl rfl)⟩
  | hexadecimal => exact ⟨_, _, rfl, .inr (.inr rfl)⟩
  | octal => exact ⟨_, _, rfl, .inr (.inr rfl)⟩
  | binary => exact ⟨_, _, rfl, .inr (.inr rfl)⟩

/-- A value begins neither with a blank nor with a bracket or a brace. -/
lemma ScalarText.begins {value : List Char} {scalar : Scalar} (written : ScalarText value scalar) :
    ∃ c cs, value = c :: cs ∧ isBlank c = false ∧ c ≠ '[' ∧ c ≠ '\x7b' := by
  cases written with
  | text => exact ⟨_, _, rfl, rfl, by decide, by decide⟩
  | yes => exact ⟨_, _, rfl, rfl, by decide, by decide⟩
  | no => exact ⟨_, _, rfl, rfl, by decide, by decide⟩
  | integer written =>
    obtain ⟨c, cs, rfl, first⟩ := written.begins
    have other {d : Char} (sign : d ≠ '+' ∧ d ≠ '-') (plain : isDigit d = false) : c ≠ d := by
      rintro rfl
      simp [sign, plain] at first
    have space := other (d := ' ') (by decide) (by decide)
    have tab := other (d := '\t') (by decide) (by decide)
    exact ⟨c, cs, rfl, by simp [isBlank, space, tab], other (by decide) (by decide),
      other (by decide) (by decide)⟩

/-- A scalar is read as it was written. -/
lemma ScalarText.readScalar {value : List Char} {scalar : Scalar} (written : ScalarText value scalar)
    (rest : List Char) : readScalar (value ++ '\n' :: rest) = .ok (scalar, '\n' :: rest) := by
  cases written with
  | text written =>
    have read := written.readText rest
    rw [List.append_assoc, List.singleton_append]
    simp only [List.cons_append, Toml.readScalar, true_or, if_true] at read ⊢
    rw [read]
    rfl
  | integer written least greatest =>
    have read := readNumber_complete written least greatest rest
    obtain ⟨c, cs, rfl, first⟩ := written.begins
    have quote : ¬ (c = '"' ∨ c = '\'') := by
      rintro (rfl | rfl) <;> simp [isDigit] at first
    simp only [List.cons_append, Toml.readScalar, if_neg quote, if_pos first] at read ⊢
    exact read
  | yes => rfl
  | no => rfl

/-- A scalar is read as a value at any depth. -/
lemma ScalarText.readValue {value : List Char} {scalar : Scalar} (written : ScalarText value scalar)
    (depth : Nat) (rest : List Char) :
    readValue (depth + 1) (value ++ '\n' :: rest) =
      .ok (.scalar (.between (value ++ '\n' :: rest) ('\n' :: rest)) scalar, '\n' :: rest) := by
  have read := written.readScalar rest
  obtain ⟨c, cs, rfl, -, bracket, brace⟩ := written.begins
  unfold Toml.readValue
  split
  case h_1 e => exact absurd (List.cons.inj e).1 bracket
  case h_2 e => exact absurd (List.cons.inj e).1 bracket
  case h_3 e => exact absurd (List.cons.inj e).1 brace
  case h_4 => rw [read]; rfl

/-! ## Keys -/

/-- The characters of bare keys differ from all others. -/
lemma ne_of_isBareChar {c other : Char} (bare : isBareChar c = true) (apart : isBareChar other = false) :
    c ≠ other := by
  rintro rfl
  rw [bare] at apart
  cases apart

/-- A bare key begins with such a character. -/
lemma IsBare.begins {name : String} (bare : IsBare name) :
    ∃ c cs, name.toList = c :: cs ∧ isBareChar c = true := by
  obtain ⟨some, all⟩ := bare
  obtain ⟨c, cs, e⟩ := List.exists_cons_of_ne_nil some
  exact ⟨c, cs, e, all c (e ▸ List.mem_cons_self)⟩

/-- Nothing is skipped in front of what is not blank. -/
lemma skipBlanks_cons {c : Char} (plain : isBlank c = false) (cs : List Char) :
    skipBlanks (c :: cs) = c :: cs := by
  rw [skipBlanks, List.dropWhile_cons_of_neg (by simp [plain])]

/-- The characters of bare keys are not blank. -/
lemma isBlank_of_isBareChar {c : Char} (bare : isBareChar c = true) : isBlank c = false := by
  have space := ne_of_isBareChar bare (by decide : isBareChar ' ' = false)
  have tab := ne_of_isBareChar bare (by decide : isBareChar '\t' = false)
  simp [isBlank, space, tab]

/-- A bare key is read as it was written. -/
lemma IsBare.readKey {name : String} (bare : IsBare name) (rest : List Char) :
    readKey (name.toList ++ ' ' :: rest) =
      .ok (⟨name, .between (name.toList ++ ' ' :: rest) (' ' :: rest)⟩, ' ' :: rest) := by
  have taken : (name.toList ++ ' ' :: rest).takeWhile isBareChar = name.toList := by
    rw [List.takeWhile_append_of_pos bare.2, List.takeWhile_cons_of_neg (by decide), List.append_nil]
  have dropped : (name.toList ++ ' ' :: rest).dropWhile isBareChar = ' ' :: rest := by
    rw [List.dropWhile_append_of_pos bare.2, List.dropWhile_cons_of_neg (by decide)]
  obtain ⟨c, cs, e, first⟩ := bare.begins
  simp only [Toml.readKey]
  split
  case h_1 same =>
    rw [e] at same
    exact absurd (List.cons.inj same).1 (ne_of_isBareChar first (by decide))
  case h_2 same =>
    rw [e] at same
    exact absurd (List.cons.inj same).1 (ne_of_isBareChar first (by decide))
  case h_3 =>
    rw [taken, dropped]
    split
    case h_1 empty => exact absurd empty bare.1
    case h_2 => rw [String.ofList_toList]

/-- A bare key before an equals sign is a key without dots. -/
lemma IsBare.readKeys {name : String} (bare : IsBare name) (rest : List Char) :
    ∃ span, readKeys (name.toList ++ ' ' :: '=' :: rest) = .ok (([], ⟨name, span⟩), '=' :: rest) := by
  have read := bare.readKey ('=' :: rest)
  obtain ⟨c, cs, e, first⟩ := bare.begins
  have start : skipBlanks (name.toList ++ ' ' :: '=' :: rest) = name.toList ++ ' ' :: '=' :: rest := by
    rw [e]
    exact skipBlanks_cons (isBlank_of_isBareChar first) _
  refine ⟨.between (name.toList ++ ' ' :: '=' :: rest) (' ' :: '=' :: rest), ?_⟩
  simp only [Toml.readKeys, start, read, bind, Except.bind]
  rfl

/-! ## Lines -/

/-- A document that has entries of its own only, while it is read. -/
def Draft.plain (span : Span) (entries : Entries) : Draft :=
  ⟨.emptyTable .header, .table .header (some span) entries, [], false⟩

/-- A new name is added behind the entries that there are. -/
lemma Draft.addEntry_plain {entries : Entries} {key : Key} (absent : entries.find? key.name = none)
    (span place : Span) (value : Scalar) :
    (Draft.plain span entries).addEntry [] key (.scalar place value) =
      .ok (.plain (span.extend place) (entries ++ [(key, .scalar place value)])) := by
  simp [plain, addEntry, descend, insertEntry, stretch, Node.span?, absent, bind, Except.bind, pure,
    Except.pure]

/-- A scalar behind an equals sign is read as it was written. -/
lemma ScalarText.readAssigned {value : List Char} {scalar : Scalar} (written : ScalarText value scalar)
    (depth : Nat) (rest : List Char) :
    ∃ place, readAssigned (Toml.readValue (depth + 1)) ('=' :: ' ' :: value ++ '\n' :: rest) =
      .ok (.scalar place scalar, '\n' :: rest) := by
  have read := written.readValue depth rest
  obtain ⟨c, others, rfl, blank, -⟩ := written.begins
  refine ⟨.between (c :: others ++ '\n' :: rest) ('\n' :: rest), ?_⟩
  have start : skipBlanks (' ' :: c :: others ++ '\n' :: rest) = c :: others ++ '\n' :: rest :=
    skipBlanks_cons blank _
  simp only [List.cons_append, Toml.readAssigned] at read start ⊢
  rw [start, read]
  rfl

namespace Document

/-- A line adds its entry. -/
lemma readEntry_line {name : String} (bare : IsBare name) {value : List Char} {scalar : Scalar}
    (written : ScalarText value scalar) {entries : Entries} (absent : entries.find? name = none)
    (span : Span) (cs : List Char) :
    ∃ whole key place, key.name = name ∧
      readEntry (.plain span entries) (name.toList ++ ' ' :: '=' :: ' ' :: value ++ '\n' :: cs) =
        .ok (.plain whole (entries ++ [(key, .scalar place scalar)]), cs) := by
  obtain ⟨keySpan, keys⟩ := bare.readKeys (' ' :: value ++ '\n' :: cs)
  obtain ⟨place, assigned⟩ := written.readAssigned 78 cs
  have absent : entries.find? (⟨name, keySpan⟩ : Key).name = none := absent
  refine ⟨span.extend place, ⟨name, keySpan⟩, place, rfl, ?_⟩
  simp only [List.append_assoc, List.cons_append] at keys assigned ⊢
  simp only [readEntry, keys, commit, depthLimit, assigned, bind, Except.bind, finishLine,
    Draft.addEntry_plain absent]
  rfl

/-- A line with an entry is no comment, no header and no end of a line. -/
lemma readLines_entry {c : Char} (bare : isBareChar c = true) (fuel : Nat) (draft : Draft)
    (cs : List Char) :
    readLines (fuel + 1) draft (c :: cs) =
      match readEntry draft (c :: cs) with
      | .ok (draft, rest) => readLines fuel draft rest
      | .error h => .error h := by
  have apart {other : Char} {others : List Char} (no : isBareChar other = false) :
      c :: cs ≠ other :: others := by
    intro e
    exact ne_of_isBareChar bare no (List.cons.inj e).1
  rw [readLines, skipBlanks_cons (isBlank_of_isBareChar bare)]
  split
  case h_1 e => cases e
  case h_2 e => exact absurd e (apart (by decide))
  case h_3 e => exact absurd e (apart (by decide))
  case h_4 e => exact absurd e (apart (by decide))
  case h_5 e => exact absurd e (apart (by decide))
  case h_6 e => exact absurd e (apart (by decide))
  case h_7 => rfl

/-- The names that come up must differ from one another and from those that came up before. -/
lemma readLines_complete {cs : List Char} {pairs : List (String × Scalar)} (written : LinesText cs pairs)
    {entries : Entries} (fresh : (entries.map (·.1.name) ++ pairs.map (·.1)).Nodup) (span : Span)
    {fuel : Nat} (enough : cs.length < fuel) :
    ∃ (whole : Span) (others : Entries),
      others.told = pairs.map (fun (name, scalar) => (name, some scalar)) ∧
      readLines fuel (.plain span entries) cs = .ok (.plain whole (entries ++ others)) := by
  induction written generalizing span entries fuel with
  | nil =>
    obtain ⟨fuel, rfl⟩ := Nat.exists_eq_succ_of_ne_zero (Nat.ne_zero_of_lt enough)
    refine ⟨span, [], rfl, ?_⟩
    rw [List.append_nil]
    rfl
  | @line name value scalar cs pairs bare value_written _ ih =>
    obtain ⟨fuel, rfl⟩ := Nat.exists_eq_succ_of_ne_zero (Nat.ne_zero_of_lt enough)
    have absent : entries.find? name = none := by
      refine Entries.find?_eq_none.mpr fun mem => ?_
      exact (List.nodup_append.mp fresh).2.2 name mem name List.mem_cons_self rfl
    obtain ⟨whole, key, place, rfl, entry⟩ := readEntry_line bare value_written absent span cs
    obtain ⟨c, letters, e, first⟩ := bare.begins
    simp only [List.length_append, List.length_cons] at enough
    let more : Entries := entries ++ [(key, .scalar place scalar)]
    have fresh : (more.map (·.1.name) ++ pairs.map (·.1)).Nodup := by
      simpa [more] using fresh
    obtain ⟨whole, others, told, rest⟩ := ih fresh whole (show cs.length < fuel by omega)
    refine ⟨whole, (key, .scalar place scalar) :: others, ?_, ?_⟩
    · rw [List.map_cons, ← told]
      rfl
    · rw [e, List.cons_append, List.cons_append, readLines_entry first, ← List.cons_append,
        ← List.cons_append, ← e, entry]
      simpa [more] using rest

/-- Lines with entries under different names are read as a table of these entries. -/
theorem read_lines {text : String} {pairs : List (String × Scalar)}
    (written : LinesText text.toList pairs) (names : (pairs.map (·.1)).Nodup) :
    ∃ (span : Span) (entries : Entries),
      Document.read text = .ok (.table .header (some span) entries) ∧
      entries.told = pairs.map (fun (name, scalar) => (name, some scalar)) := by
  have plain : dropByteOrderMark text.toList = text.toList := by
    unfold dropByteOrderMark
    split
    case h_2 => rfl
    case h_1 e =>
      rw [e] at written
      generalize whole : '\uFEFF' :: _ = cs at written
      cases written with
      | nil => cases whole
      | line bare =>
        obtain ⟨c, more, e, first⟩ := bare.begins
        rw [e] at whole
        exact absurd (List.cons.inj whole).1.symm (ne_of_isBareChar first (by decide))
  have fresh : (List.map (fun entry => entry.1.name) ([] : Entries) ++ pairs.map (·.1)).Nodup := names
  obtain ⟨span, entries, told, lines⟩ := readLines_complete written fresh
    ⟨octets text.toList, octets text.toList⟩ (Nat.lt_succ_self text.toList.length)
  refine ⟨span, entries, ?_, told⟩
  have start : Draft.start (octets text.toList) =
    .plain ⟨octets text.toList, octets text.toList⟩ [] := rfl
  simp only [Document.read, plain, start, lines]
  rfl

end Document
end RecipientCallout.Toml
