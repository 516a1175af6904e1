import RecipientCallout.Proofs.Secrets.Texts
import RecipientCallout.Proofs.Secrets.Views

/-!
# Keys in documents that differ in secrets

Keys are the same in both copies of a document, and what stands in front of the place behind a key is
nothing but that key, so that a secret may follow only if it is the key of the secrets.
-/

namespace RecipientCallout.Toml
open RecipientCallout.Text

variable {s s' past : List Char}

/-! ## Blanks around keys -/

/-- Blanks at the end make no difference to what is left without them. -/
lemma rdropWhile_append_blanks {cs blanks : List Char} (all : ∀ c ∈ blanks, isBlank c = true) :
    (cs ++ blanks).rdropWhile isBlank = cs.rdropWhile isBlank := by
  induction blanks using List.reverseRecOn with
  | nil => rw [List.append_nil]
  | append_singleton blanks c ih =>
    rw [List.forall_mem_append] at all
    rw [← List.append_assoc, List.rdropWhile_concat_pos _ _ _ (all.2 c List.mem_cons_self), ih all.1]

/-- Blanks behind a key make no difference to it. -/
lemma trimmed_append_blanks {blanks : List Char} (all : ∀ c ∈ blanks, isBlank c = true) :
    trimmed (past ++ blanks) = trimmed past := by
  rw [trimmed, trimmed, skipBlanks, skipBlanks, List.dropWhile_append]
  split
  case isTrue empty =>
    rw [List.isEmpty_iff.mp empty, List.dropWhile_eq_nil_iff.mpr all]
  case isFalse => exact rdropWhile_append_blanks all

/-- What neither begins nor ends in a blank is left when the blanks in front are taken off. -/
lemma trimmed_eq {cs : List Char} (all : ∀ c ∈ past, isBlank c = true)
    (first : ∀ c, cs.head? = some c → isBlank c = false)
    (last : ∀ c, cs.getLast? = some c → isBlank c = false) : trimmed (past ++ cs) = cs := by
  have start : skipBlanks (past ++ cs) = cs := by
    rw [skipBlanks, List.dropWhile_append_of_pos all]
    cases cs with
    | nil => rfl
    | cons c cs => exact skipBlanks_cons (first c rfl) cs
  rw [trimmed, start, List.rdropWhile_eq_self_iff]
  intro some
  simp [last _ (List.getLast?_eq_some_getLast some)]

/-! ## What a key stands for -/

/-- A bare key is written as its name. -/
lemma KeyText.bare_eq {cs : List Char} {name : String} (written : KeyText cs name)
    (bare : ∀ c ∈ cs, isBareChar c = true) : name = String.ofList cs := by
  cases written with
  | bare => rw [String.ofList_toList]
  | basic => exact absurd (bare '"' List.mem_cons_self) (by decide)
  | literal => exact absurd (bare '\'' List.mem_cons_self) (by decide)

/-- A key in double quotes has the name that is read from it. -/
lemma KeyText.basic_eq {cs rest text : List Char} {name : String}
    (written : KeyText ('"' :: cs ++ ['"']) name)
    (read : readBasic ('"' :: cs ++ '"' :: rest) = .ok (text, rest)) : name = String.ofList text := by
  generalize e : '"' :: cs ++ ['"'] = whole at written
  cases written with
  | bare bare =>
    have quote := bare.2 '"' (by rw [← e]; exact List.mem_cons_self)
    exact absurd quote (by decide)
  | literal => exact absurd (List.cons.inj e).1 (by decide)
  | @basic cs' text' written =>
    obtain rfl := List.append_cancel_right (List.cons.inj e).2
    have enough : cs.length < (cs ++ '"' :: rest).length + 1 := by
      rw [List.length_append]
      omega
    have other := written.read rest enough
    rw [List.cons_append, readBasic, other] at read
    cases read
    rfl

/-- So has one in single quotes. -/
lemma KeyText.literal_eq {cs rest text : List Char} {name : String}
    (written : KeyText ('\'' :: cs ++ ['\'']) name)
    (read : readLiteral ('\'' :: cs ++ '\'' :: rest) = .ok (text, rest)) : name = String.ofList text := by
  generalize e : '\'' :: cs ++ ['\''] = whole at written
  cases written with
  | bare bare =>
    have quote := bare.2 '\'' (by rw [← e]; exact List.mem_cons_self)
    exact absurd quote (by decide)
  | basic => exact absurd (List.cons.inj e).1 (by decide)
  | @literal cs' plain =>
    obtain rfl := List.append_cancel_right (List.cons.inj e).2
    have taken : (cs ++ '\'' :: rest).takeWhile isLiteralChar = cs := by
      rw [List.takeWhile_append_of_pos plain, List.takeWhile_cons_of_neg (by decide), List.append_nil]
    have dropped : (cs ++ '\'' :: rest).dropWhile isLiteralChar = '\'' :: rest := by
      rw [List.dropWhile_append_of_pos plain, List.dropWhile_cons_of_neg (by decide)]
    simp only [List.cons_append, readLiteral, taken, dropped] at read
    cases read
    rfl

/-- Without a quote in front, a key is bare. -/
lemma readKey_bare {c : Char} (double : c ≠ '"') (single : c ≠ '\'') (cs : List Char) :
    readKey (c :: cs) =
      if (c :: cs).takeWhile isBareChar = [] then Halt.pass (c :: cs) (some keyLabel) []
      else
        .ok (⟨String.ofList ((c :: cs).takeWhile isBareChar),
          .between (c :: cs) ((c :: cs).dropWhile isBareChar)⟩, (c :: cs).dropWhile isBareChar) := by
  rw [readKey]
  · cases (c :: cs).takeWhile isBareChar <;> rfl
  · intro _ e
    exact double (List.cons.inj e).1
  · intro _ e
    exact single (List.cons.inj e).1

/-- The characters of bare keys are kept as what stands in front. -/
lemma plainStep_of_isBareChar {c : Char} (bare : isBareChar c = true) (past : List Char) :
    (Mode.plain past).step c = .plain (past ++ [c]) := by
  have double := ne_of_isBareChar bare (by decide : isBareChar '"' = false)
  have single := ne_of_isBareChar bare (by decide : isBareChar '\'' = false)
  have sharp := ne_of_isBareChar bare (by decide : isBareChar '#' = false)
  have equals := ne_of_isBareChar bare (by decide : isBareChar '=' = false)
  simp [Mode.step, Mode.plainStep, double, single, sharp, equals, bare]

namespace Copies
variable {d : Copies}

/-! ## Views of both documents -/

/-- The view of the first document, without its secrets. -/
def view (d : Copies) : View := ⟨d.key, lineOf d.text⟩

/-- The view of the second document. -/
def view' (d : Copies) : View := ⟨d.key, lineOf d.text'⟩

/-- The same place is seen in the same line. -/
lemma At.span_eq {mode : Mode} (here : d.At mode s s') (rest rest' : List Char) :
    d.view.span (.between s rest) = d.view'.span (.between s' rest') :=
  congrArg (Span.mk · 0) here.lineOf_eq

/-- The same place behind a key of this name and blanks, or behind an empty text with a third quote. -/
def Behind (d : Copies) (name : String) (s s' : List Char) : Prop :=
  (∃ past, d.At (.plain past) s s' ∧ ∀ other, KeyText (trimmed past) other → other = name) ∨
    ∃ q, (q = '"' ∨ q = '\'') ∧ d.Stuck q s s'

/-- The same place with nothing but blanks in front of it since the last sign or line end. -/
def Fresh (d : Copies) (s s' : List Char) : Prop :=
  ∃ past, (∀ c ∈ past, isBlank c = true) ∧ d.At (.plain past) s s'

/-- A place with nothing in front is fresh. -/
lemma At.fresh (here : d.At (.plain []) s s') : d.Fresh s s' := ⟨[], List.forall_mem_nil _, here⟩

/-- A fresh place is the same in both documents. -/
lemma Fresh.level (here : d.Fresh s s') : d.Level s s' := by
  obtain ⟨past, -, here⟩ := here
  exact here.level

/-- A fresh place stays so behind blanks. -/
lemma Fresh.skipBlanks (here : d.Fresh s s') : d.Fresh (skipBlanks s) (skipBlanks s') := by
  obtain ⟨past, all, here⟩ := here
  obtain ⟨blanks, all', there⟩ := here.blanks
  exact ⟨past ++ blanks, List.forall_mem_append.mpr ⟨all, all'⟩, there⟩

namespace Behind
variable {name : String}

/-- The place behind a key is the same in both documents. -/
lemma level (here : d.Behind name s s') : d.Level s s' := by
  obtain ⟨_, here, -⟩ | ⟨_, -, here⟩ := here
  · exact here.level
  · exact here.1

/-- The place behind a key stays so behind blanks. -/
lemma skipBlanks (here : d.Behind name s s') : d.Behind name (skipBlanks s) (skipBlanks s') := by
  obtain ⟨past, here, named⟩ | ⟨q, quote, level, first, first'⟩ := here
  · obtain ⟨blanks, all, there⟩ := here.blanks
    exact .inl ⟨past ++ blanks, there, by rwa [trimmed_append_blanks all]⟩
  · obtain ⟨t, rfl⟩ := List.head?_eq_some_iff.mp first
    obtain ⟨t', rfl⟩ := List.head?_eq_some_iff.mp first'
    have plain : isBlank q = false := by obtain rfl | rfl := quote <;> rfl
    rw [skipBlanks_cons plain, skipBlanks_cons plain]
    exact .inr ⟨q, quote, level, rfl, rfl⟩

/-- The next character is the same; if it is no quote, nothing but the key stands in front of it. -/
lemma cons {c : Char} (here : d.Behind name (c :: s) s') :
    ∃ t', s' = c :: t' ∧ (c ≠ '"' → c ≠ '\'' →
      ∃ past, d.At ((Mode.plain past).step c) s t' ∧
        ∀ other, KeyText (trimmed past) other → other = name) := by
  obtain ⟨past, here, named⟩ | ⟨q, quote, -, first, first'⟩ := here
  · obtain ⟨t', rfl, next⟩ := here.cons rfl
    exact ⟨t', rfl, fun _ _ => ⟨past, next, named⟩⟩
  · obtain ⟨t', rfl⟩ := List.head?_eq_some_iff.mp first'
    obtain rfl : c = q := Option.some.inj first
    exact ⟨t', rfl, fun double single => (quote.elim double single).elim⟩

/-- Behind a key, both documents end together. -/
lemma eq_nil (here : d.Behind name [] s') : s' = [] := by
  obtain ⟨past, here, -⟩ | ⟨q, -, -, first, -⟩ := here
  · exact here.eq_nil
  · cases first

end Behind

/-! ## Reading keys -/

/-- The same key, and the place behind it. -/
def SameKey (d : Copies) (r r' : Key × List Char) : Prop :=
  d.view.key r.1 = d.view'.key r'.1 ∧ d.Behind r.1.name r.2 r'.2

/-- A key in quotes of either kind: its name follows from the characters between them. -/
lemma At.reads_quotedKey {past : List Char} {q : Char} {t t' : List Char} {result result' : Scan (List Char)}
    (here : d.At (.plain past) (q :: t) (q :: t')) (all : ∀ c ∈ past, isBlank c = true)
    (read : d.Reads (d.Quoted past (q :: t)) result result')
    (unique : ∀ {cs rest text name}, KeyText (q :: cs ++ [q]) name → result = .ok (text, rest) →
      q :: t = q :: cs ++ q :: rest → name = String.ofList text) (plain : isBlank q = false) :
    d.Reads d.SameKey
      (result.map fun (name, rest) => (⟨String.ofList name, .between (q :: t) rest⟩, rest))
      (result'.map fun (name, rest) => (⟨String.ofList name, .between (q :: t') rest⟩, rest)) := by
  cases read with
  | error halts => exact .error halts
  | @ok r r' quoted =>
    obtain ⟨text, rest⟩ := r
    obtain ⟨text', rest'⟩ := r'
    obtain ⟨same, q', cs, quote, e, there⟩ := quoted
    dsimp only at same e there
    subst same
    obtain rfl : q = q' := (List.cons.inj e).1
    refine .ok ⟨?_, ?_⟩
    · rw [View.key, View.key]
      exact congrArg (Key.mk _) (here.span_eq _ _)
    · obtain there | ⟨-, stuck⟩ := there
      case inr => exact .inr ⟨q, quote, stuck⟩
      refine .inl ⟨_, there, fun other written => ?_⟩
      have last : ∀ c, (q :: cs ++ [q]).getLast? = some c → isBlank c = false := by
        rw [List.getLast?_concat]
        rintro _ ⟨⟩
        exact plain
      rw [trimmed_eq all (by rintro _ ⟨⟩; exact plain) last] at written
      exact unique written rfl e

/-- The same key is read. -/
lemma Fresh.reads_readKey (here : d.Fresh s s') : d.Reads d.SameKey (readKey s) (readKey s') := by
  obtain ⟨past, all, here⟩ := here
  have level := here.level
  cases s with
  | nil =>
    obtain rfl := here.eq_nil
    exact level.pass
  | cons c s =>
    have stay := here
    obtain ⟨t', rfl, next⟩ := here.cons rfl
    by_cases double : c = '"'
    case pos =>
      subst double
      exact stay.reads_quotedKey all next.reads_readBasic (fun written read e => written.basic_eq (e ▸ read)) rfl
    by_cases single : c = '\''
    case pos =>
      subst single
      exact stay.reads_quotedKey all next.reads_readLiteral (fun written read e => written.literal_eq (e ▸ read)) rfl
    obtain ⟨same, after⟩ := stay.takeWhile (p := isBareChar) .plain (fun _ => rfl)
      fun c bare past => plainStep_of_isBareChar bare past
    rw [readKey_bare double single, readKey_bare double single, same]
    split
    case isTrue => exact level.pass
    case isFalse =>
      refine .ok ⟨?_, .inl ⟨_, after, fun other written => ?_⟩⟩
      · rw [View.key, View.key]
        exact congrArg (Key.mk _) (stay.span_eq _ _)
      · have bare : ∀ c' ∈ (c :: s).takeWhile isBareChar, isBareChar c' = true :=
          fun _ => List.mem_takeWhile_imp
        rw [trimmed_eq all (fun c' first => isBlank_of_isBareChar (bare c' (List.mem_of_head? first)))
          (fun c' last => isBlank_of_isBareChar (bare c' (List.mem_of_getLast? last)))] at written
        exact written.bare_eq bare

/-- The same keys behind a first one, and the place behind the last of them. -/
def SameKeys (d : Copies) (first : Key) (r r' : KeyPath × List Char) : Prop :=
  r.1.map d.view.key = r'.1.map d.view'.key ∧ d.Behind (r.1.getLastD first).name r.2 r'.2

/-- Without a dot there are no further keys. -/
lemma readMoreKeys_stop {cs : List Char} (stop : cs.head? ≠ some '.') (fuel : Nat) :
    readMoreKeys fuel cs = .ok ([], cs) := by
  cases fuel with
  | zero => rfl
  | succ fuel =>
    rw [readMoreKeys]
    rintro - rest - rfl
    exact stop rfl

/-- The same further keys are read. -/
lemma Behind.reads_readMoreKeys {first : Key} {fuel fuel' : Nat} (here : d.Behind first.name s s')
    (enough : s.length ≤ fuel) (enough' : s'.length ≤ fuel') :
    d.Reads (d.SameKeys first) (readMoreKeys fuel s) (readMoreKeys fuel' s') := by
  induction fuel generalizing fuel' first s s' with
  | zero =>
    obtain rfl := List.length_eq_zero_iff.mp (Nat.le_zero.mp enough)
    obtain rfl := here.eq_nil
    rw [readMoreKeys_stop (by simp), readMoreKeys_stop (by simp)]
    exact .ok ⟨rfl, here⟩
  | succ fuel ih =>
    cases s with
    | nil =>
      obtain rfl := here.eq_nil
      rw [readMoreKeys_stop (by simp), readMoreKeys_stop (by simp)]
      exact .ok ⟨rfl, here⟩
    | cons c s =>
      have stay := here
      obtain ⟨t', rfl, next⟩ := here.cons
      by_cases dot : c = '.'
      case neg =>
        rw [readMoreKeys_stop (by simpa using dot), readMoreKeys_stop (by simpa using dot)]
        exact .ok ⟨rfl, stay⟩
      case pos =>
        subst dot
        obtain ⟨past, there, -⟩ := next (by decide) (by decide)
        have fresh : d.Fresh s t' := there.fresh
        obtain ⟨fuel', rfl⟩ := Nat.exists_eq_succ_of_ne_zero (Nat.ne_zero_of_lt enough')
        simp only [readMoreKeys]
        have read := fresh.skipBlanks.reads_readKey
        generalize e : readKey (Toml.skipBlanks s) = result at read ⊢
        generalize e' : readKey (Toml.skipBlanks t') = result' at read ⊢
        cases read with
        | @error h h' halts =>
          dsimp only
          rw [halts.committed]
          split
          · exact .error halts
          · exact .ok ⟨rfl, stay⟩
        | @ok r r' same =>
          obtain ⟨key, rest⟩ := r
          obtain ⟨key', rest'⟩ := r'
          obtain ⟨same, behind⟩ := same
          have less := (readKey_suffix e).length_le.trans (skipBlanks_suffix s).length_le
          have less' := (readKey_suffix e').length_le.trans (skipBlanks_suffix t').length_le
          have shorter := (skipBlanks_suffix rest).length_le.trans less
          have shorter' := (skipBlanks_suffix rest').length_le.trans less'
          refine (ih behind.skipBlanks (shorter.trans (Nat.le_of_succ_le_succ enough))
            (shorter'.trans (Nat.le_of_succ_le_succ enough'))).map fun r r' read => ?_
          obtain ⟨others, there⟩ := read
          refine ⟨by rw [List.map_cons, List.map_cons, same, others], ?_⟩
          rwa [List.getLastD_cons]

/-- The same dotted key, and the place behind it. -/
def SameDotted (d : Copies) (r r' : (KeyPath × Key) × List Char) : Prop :=
  r.1.1.map d.view.key = r'.1.1.map d.view'.key ∧ d.view.key r.1.2 = d.view'.key r'.1.2 ∧
    d.Behind r.1.2.name r.2 r'.2

/-- The same dotted key is read. -/
lemma Fresh.reads_readKeys (here : d.Fresh s s') : d.Reads d.SameDotted (readKeys s) (readKeys s') := by
  refine here.skipBlanks.reads_readKey.bind fun r r' same => ?_
  obtain ⟨first, rest⟩ := r
  obtain ⟨first', rest'⟩ := r'
  obtain ⟨same, behind⟩ := same
  refine (behind.skipBlanks.reads_readMoreKeys (skipBlanks_suffix rest).length_le
    (skipBlanks_suffix rest').length_le).bind fun r r' same => ?_
  obtain ⟨more, after⟩ := r
  obtain ⟨more', after'⟩ := r'
  obtain ⟨others, there⟩ := same
  dsimp only at same others there ⊢
  have lengths : more'.length = more.length := by
    rw [← List.length_map d.view'.key, ← others, List.length_map]
  have whole : (first :: more).map d.view.key = (first' :: more').map d.view'.key := by
    rw [List.map_cons, List.map_cons, same, others]
  rw [lengths]
  split
  case isTrue => exact .error ⟨here.level, rfl, rfl⟩
  case isFalse =>
    refine .ok ⟨?_, ?_, there⟩
    · rw [List.map_dropLast, List.map_dropLast, whole]
    · rw [List.getLastD_eq_getLast?, List.getLastD_eq_getLast?, ← Option.getD_map d.view.key,
        ← Option.getD_map d.view'.key, ← List.getLast?_map, ← List.getLast?_map, same, others]

end Copies

/-! ## Keys take characters -/

/-- A key takes at least one character. -/
lemma readKey_length {key : Key} {rest : List Char} (read : readKey s = .ok (key, rest)) :
    rest.length < s.length := by
  simp only [readKey] at read
  split at read
  case h_1 =>
    obtain ⟨⟨name, rest⟩, quoted, e⟩ := exists_of_map_eq_ok read
    cases e
    exact Nat.lt_succ_of_le (readBasicBody_suffix quoted).length_le
  case h_2 tail =>
    obtain ⟨⟨name, rest⟩, quoted, e⟩ := exists_of_map_eq_ok read
    cases e
    simp only [readLiteral] at quoted
    split at quoted
    case h_1 after closed =>
      cases quoted
      have place := (List.dropWhile_suffix isLiteralChar (l := tail)).length_le
      rw [closed] at place
      exact Nat.lt_succ_of_lt place
    case h_2 => cases quoted
  case h_3 =>
    split at read
    case h_1 => cases read
    case h_2 some =>
      cases read
      have whole := congrArg List.length (List.takeWhile_append_dropWhile (p := isBareChar) (l := s))
      have name := List.length_pos_of_ne_nil some
      rw [List.length_append] at whole
      omega

/-- So does a dotted key. -/
lemma readKeys_length {keys : KeyPath × Key} {rest : List Char} (read : readKeys s = .ok (keys, rest)) :
    rest.length < s.length := by
  obtain ⟨⟨first, after⟩, one, read⟩ := exists_of_bind_eq_ok read
  obtain ⟨⟨more, last⟩, others, read⟩ := exists_of_bind_eq_ok read
  dsimp only at read
  split at read
  case isTrue => cases read
  case isFalse =>
    cases read
    have start := (skipBlanks_suffix s).length_le
    have behind := (skipBlanks_suffix after).length_le
    have shorter := readKey_length one
    have rest := (readMoreKeys_suffix others).length_le
    omega

end RecipientCallout.Toml
