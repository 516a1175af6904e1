import RecipientCallout.Proofs.Secrets.Texts

/-!
# Texts of many lines in documents that differ in secrets

Texts between triple quotes hold no secrets. They are the same in both copies of a document, and so are all
texts that are no secrets (`Copies.At.reads_readText`); secrets are read without complaint in each of the
copies (`readText_secret`).
-/

namespace RecipientCallout.Toml
open RecipientCallout.Text

variable {d : Copies} {s s' : List Char} {past : List Char}

/-! ## Line ends -/

/-- No other character ends a line. -/
lemma newline?_none {c : Char} {cs : List Char} (lineFeed : c ≠ '\n')
    (carriageReturn : c = '\r' → cs.head? ≠ some '\n') : newline? (c :: cs) = none := by
  unfold newline?
  split
  case h_1 e => exact absurd (List.cons.inj e).1 lineFeed
  case h_2 e =>
    obtain ⟨rfl, rfl⟩ := List.cons.inj e
    exact absurd rfl (carriageReturn rfl)
  case h_3 => rfl

/-- Empty lines and blanks are skipped one by one. -/
lemma skipLines_cons (c : Char) (cs : List Char) :
    skipLines (c :: cs) =
      if isBlank c then skipLines cs
      else
        match newline? (c :: cs) with
        | some rest => skipLines rest
        | none => c :: cs := by
  by_cases blank : isBlank c
  case pos =>
    rw [if_pos blank]
    obtain rfl | rfl : c = ' ' ∨ c = '\t' := by simpa [isBlank] using blank
    all_goals rfl
  case neg =>
    rw [if_neg blank]
    by_cases lineFeed : c = '\n'
    case pos => subst lineFeed; rfl
    by_cases both : c = '\r' ∧ cs.head? = some '\n'
    case pos =>
      obtain ⟨rfl, next⟩ := both
      obtain ⟨cs, rfl⟩ := List.head?_eq_some_iff.mp next
      rfl
    rw [newline?_none lineFeed (fun e next => both ⟨e, next⟩), skipLines]
    all_goals
      intros
      simp_all [isBlank]

/-- The digits of an escape are characters like others between triple quotes. -/
lemma blockStep_of_hexDigit {c : Char} (digit : (hexDigit? c).isSome) :
    (Mode.block '"' 0).step c = .block '"' 0 := by
  simp [Mode.step, ne_of_hexDigit digit '"' rfl, ne_of_hexDigit digit '\\' rfl]

namespace Copies
namespace At

/-- The same line end is taken off. -/
lemma lineEnd {mode : Mode} (here : d.At mode s s') (mode' : Mode) (lineFeed : mode.step '\n' = mode')
    (both : (mode.step '\r').step '\n' = mode') (free : mode.isAssigned = false)
    (free' : (mode.step '\r').isAssigned = false) :
    Option.Rel (fun t t' => d.At mode' t t' ∧ t.length < s.length ∧ t'.length < s'.length) (newline? s)
      (newline? s') := by
  cases s with
  | nil =>
    obtain rfl := here.eq_nil
    exact .none
  | cons c s =>
    obtain ⟨t', rfl, next⟩ := here.cons free
    by_cases first : c = '\n'
    case pos =>
      subst first
      exact .some ⟨lineFeed ▸ next, Nat.lt_succ_self _, Nat.lt_succ_self _⟩
    case neg =>
      by_cases return' : c = '\r'
      case neg =>
        rw [newline?_none first (absurd · return'), newline?_none first (absurd · return')]
        exact .none
      case pos =>
        subst return'
        cases s with
        | nil =>
          obtain rfl := next.eq_nil
          exact .none
        | cons c s =>
          obtain ⟨t', rfl, after⟩ := next.cons free'
          by_cases second : c = '\n'
          case pos =>
            subst second
            exact .some ⟨both ▸ after, by simp only [List.length_cons]; omega,
              by simp only [List.length_cons]; omega⟩
          case neg =>
            rw [newline?_none first (by simpa using second), newline?_none first (by simpa using second)]
            exact .none

/-- Between triple quotes, a line end leaves the place as it is. -/
lemma blockLineEnd {q : Char} (quote : q = '"' ∨ q = '\'') (here : d.At (.block q 0) s s') :
    Option.Rel (fun t t' => d.At (.block q 0) t t' ∧ t.length < s.length ∧ t'.length < s'.length) (newline? s)
      (newline? s') := by
  obtain rfl | rfl := quote
  all_goals exact here.lineEnd _ rfl rfl rfl rfl

/-- A first line end is dropped in both documents. -/
lemma dropFirstNewline {q : Char} (quote : q = '"' ∨ q = '\'') (here : d.At (.block q 0) s s') :
    d.At (.block q 0) (dropFirstNewline s) (dropFirstNewline s') := by
  have found := here.blockLineEnd quote
  unfold Toml.dropFirstNewline
  generalize newline? s = rest at found ⊢
  generalize newline? s' = rest' at found ⊢
  cases found with
  | none => exact here
  | some there => exact there.1

/-- Empty lines between triple quotes are skipped in both documents. -/
lemma skipLines (here : d.At (.block '"' 0) s s') : d.At (.block '"' 0) (skipLines s) (skipLines s') := by
  generalize length : s.length = n
  induction n using Nat.strongRecOn generalizing s s' with
  | ind n ih =>
    subst length
    cases s with
    | nil =>
      obtain rfl := here.eq_nil
      exact here
    | cons c s =>
      have stay := here
      have found := here.blockLineEnd (.inl rfl)
      obtain ⟨t', rfl, next⟩ := here.cons rfl
      rw [skipLines_cons, skipLines_cons]
      split
      case isTrue blank =>
        have there : d.At (.block '"' 0) s t' := by
          obtain rfl | rfl : c = ' ' ∨ c = '\t' := by simpa [isBlank] using blank
          all_goals exact next
        exact ih _ (Nat.lt_succ_self _) there rfl
      case isFalse =>
        generalize newline? (c :: s) = rest at found ⊢
        generalize newline? (c :: t') = rest' at found ⊢
        cases found with
        | none => exact stay
        | some there => exact ih _ there.2.1 there.1 rfl

/-- Blanks behind a backslash. -/
lemma escaped_blanks (here : d.At .blockEscape s s') :
    ∃ mode, (mode = .blockEscape ∨ mode = .block '"' 0) ∧ d.At mode (skipBlanks s) (skipBlanks s') := by
  cases s with
  | nil =>
    obtain rfl := here.eq_nil
    exact ⟨_, .inl rfl, here⟩
  | cons c s =>
    have stay := here
    obtain ⟨t', rfl, next⟩ := here.cons rfl
    cases blank : isBlank c with
    | false =>
      rw [skipBlanks_cons blank, skipBlanks_cons blank]
      exact ⟨_, .inl rfl, stay⟩
    | true =>
      rw [skipBlanks, skipBlanks, List.dropWhile_cons_of_pos blank, List.dropWhile_cons_of_pos blank]
      refine ⟨_, .inr rfl, next.dropWhile rfl fun c blank => ?_⟩
      obtain rfl | rfl : c = ' ' ∨ c = '\t' := by simpa [isBlank] using blank
      all_goals rfl

end At

/-! ## Texts between triple quotes -/

namespace At

/-- How many quotes stand next between triple quotes. -/
lemma quotes {q : Char} {run : Nat} (here : d.At (.block q run) s s') (few : run < 5) :
    ∃ k t t', s = List.replicate k q ++ t ∧ s' = List.replicate k q ++ t' ∧
      (run + k < 5 ∧ t.head? ≠ some q ∧ d.At (.block q (run + k)) t t' ∨
        run + k = 5 ∧ d.At (.plain []) t t') := by
  induction s generalizing run s' with
  | nil =>
    obtain rfl := here.eq_nil
    exact ⟨0, [], [], rfl, rfl, .inl ⟨few, nofun, here⟩⟩
  | cons c s ih =>
    have stay := here
    obtain ⟨t', rfl, next⟩ := here.cons rfl
    by_cases same : c = q
    case neg => exact ⟨0, c :: s, c :: t', rfl, rfl, .inl ⟨few, by simpa using same, stay⟩⟩
    case pos =>
      subst same
      rw [Mode.step, if_pos rfl] at next
      by_cases last : run = 4
      case pos =>
        rw [if_pos last] at next
        exact ⟨1, s, t', rfl, rfl, .inr ⟨by omega, next⟩⟩
      case neg =>
        rw [if_neg last] at next
        obtain ⟨k, t, t', rfl, rfl, ends⟩ := ih next (by omega)
        refine ⟨k + 1, t, t', rfl, rfl, ?_⟩
        rwa [Nat.add_assoc, Nat.add_comm 1 k] at ends

/-- Fewer than three quotes leave a text between triple quotes as it is. -/
lemma unquoted {q : Char} {run : Nat} (here : d.At (.block q run) s s') (other : s.head? ≠ some q)
    (few : run < 3) (run' : Nat) (few' : run' < 3) : d.At (.block q run') s s' := by
  refine here.congr rfl fun c first => ?_
  have ne : c ≠ q := by
    rintro rfl
    exact other first
  simp only [Mode.step, if_neg ne, if_neg (Nat.not_le_of_lt few), if_neg (Nat.not_le_of_lt few')]

/-- One of a few quotes in a row is taken in both documents. -/
lemma behind_quote {q : Char} {k : Nat}
    (here : d.At (.block q 0) (List.replicate k q ++ s) (List.replicate k q ++ s')) (low : 1 ≤ k)
    (high : k < 3) (there : d.At (.block q k) s s') (other : s.head? ≠ some q) :
    d.At (.block q 0) (List.replicate (k - 1) q ++ s) (List.replicate (k - 1) q ++ s') := by
  obtain rfl | rfl : k = 1 ∨ k = 2 := by omega
  · exact there.unquoted other (by decide) 0 (by decide)
  · obtain ⟨-, ⟨⟩, next⟩ := here.cons rfl
    have behind := there.unquoted other (by decide) 1 (by decide)
    have step : (Mode.block q 0).step q = .block q 1 := by simp [Mode.step]
    exact ⟨.same (step ▸ behind.alike), next.suffix, next.suffix'⟩

/-- Three or four quotes close a text if no further one follows. -/
lemma closed {q : Char} {run : Nat} (here : d.At (.block q run) s s') (other : s.head? ≠ some q)
    (enough : 3 ≤ run) : d.Open s s' := by
  refine ⟨[], here.congr rfl fun c first => ?_⟩
  have ne : c ≠ q := by
    rintro rfl
    exact other first
  simp only [Mode.step, if_neg ne, if_pos enough]

end At

/-- What comes next between triple quotes: quotes that end the text, fewer quotes in front of something else,
the end of the document, or another character. -/
inductive Quotes (d : Copies) (q : Char) : List Char → List Char → Prop where
  | closing {k t t'} :
    3 ≤ k →
    k ≤ 5 →
    (k < 5 → t.head? ≠ some q) →
    (k < 5 → t'.head? ≠ some q) →
    d.Open t t' →
    Quotes d q (List.replicate k q ++ t) (List.replicate k q ++ t')
  | inner {k t t'} :
    1 ≤ k →
    k < 3 →
    t.head? ≠ some q →
    t'.head? ≠ some q →
    d.At (.block q k) t t' →
    d.At (.block q 0) (List.replicate (k - 1) q ++ t) (List.replicate (k - 1) q ++ t') →
    Quotes d q (List.replicate k q ++ t) (List.replicate k q ++ t')
  | nil :
    Quotes d q [] []
  | other {c t t'} :
    c ≠ q →
    d.At ((Mode.block q 0).step c) t t' →
    Quotes d q (c :: t) (c :: t')

/-- What comes next between triple quotes comes in both documents. -/
lemma At.next_quotes {q : Char} (here : d.At (.block q 0) s s') : d.Quotes q s s' := by
  obtain ⟨k, t, t', rfl, rfl, ends⟩ := here.quotes (by decide)
  rw [Nat.zero_add] at ends
  obtain ⟨few, other, there⟩ | ⟨all, there⟩ := ends
  case inr => exact .closing (by omega) (by omega) (by omega) (by omega) ⟨[], there⟩
  have other' : t'.head? ≠ some q := (there.head?_eq rfl) ▸ other
  by_cases closed : 3 ≤ k
  case pos => exact .closing closed (by omega) (fun _ => other) (fun _ => other') (there.closed other closed)
  by_cases none : k = 0
  case neg =>
    exact .inner (by omega) (by omega) other other' there
      (here.behind_quote (by omega) (by omega) there other)
  subst none
  rw [List.replicate_zero, List.nil_append, List.nil_append]
  cases t with
  | nil =>
    obtain rfl := there.eq_nil
    exact .nil
  | cons c t =>
    obtain ⟨t', rfl, next⟩ := there.cons rfl
    exact .other (by simpa using other) next

/-- A line end or another character between triple quotes. -/
lemma At.reads_blockChar {q c : Char} {t t' : List Char} {read read' : List Char → Scan (List Char)}
    (here : d.At (.block q 0) (c :: t) (c :: t')) (quote : q = '"' ∨ q = '\'')
    (next : d.At (.block q 0) t t') (isChar : Char → Bool) (label : String)
    (more : ∀ u u', d.At (.block q 0) u u' → u.length < (c :: t).length → u'.length < (c :: t').length →
      d.Reads d.Told (read u) (read' u')) :
    d.Reads d.Told
      (match newline? (c :: t) with
        | some rest => (read rest).map fun (text, rest) => ('\n' :: text, rest)
        | none =>
          if isChar c then (read t).map fun (text, rest) => (c :: text, rest)
          else Halt.fail (c :: t) (some label) [])
      (match newline? (c :: t') with
        | some rest => (read' rest).map fun (text, rest) => ('\n' :: text, rest)
        | none =>
          if isChar c then (read' t').map fun (text, rest) => (c :: text, rest)
          else Halt.fail (c :: t') (some label) []) := by
  have level := here.level
  have found := here.blockLineEnd quote
  generalize newline? (c :: t) = rest at found ⊢
  generalize newline? (c :: t') = rest' at found ⊢
  cases found with
  | some there => exact reads_cons (more _ _ there.1 there.2.1 there.2.2) _
  | none =>
    dsimp only
    split
    case isTrue => exact reads_cons (more _ _ next (Nat.lt_succ_self _) (Nat.lt_succ_self _)) _
    case isFalse => exact level.fail

end Copies

section
variable {k fuel : Nat} {t : List Char}

/-- Three to five quotes in a row close a text in double quotes, and those before the last three belong to it.
-/
lemma readMultilineBody_closed (low : 3 ≤ k) (high : k ≤ 5) (last : k < 5 → t.head? ≠ some '"') :
    readMultilineBody (fuel + 1) (List.replicate k '"' ++ t) = .ok (List.replicate (k - 3) '"', t) := by
  obtain rfl | rfl | rfl : k = 3 ∨ k = 4 ∨ k = 5 := by omega
  · simp only [List.replicate, List.cons_append, List.nil_append]
    rw [readMultilineBody]
    · rfl
    all_goals
      intro u e
      exact last (by omega) (by simp [e])
  · simp only [List.replicate, List.cons_append, List.nil_append]
    rw [readMultilineBody]
    intro u e
    exact last (by omega) (by simp [e])
  · rfl

/-- Fewer quotes in a row belong to it. -/
lemma readMultilineBody_quotes (low : 1 ≤ k) (high : k < 3) (last : t.head? ≠ some '"') :
    readMultilineBody (fuel + 1) (List.replicate k '"' ++ t) =
      if t = [] then Halt.fail (List.replicate k '"' ++ t) (some multilineBasic) []
      else (readMultilineBody fuel (List.replicate (k - 1) '"' ++ t)).map
        fun (text, rest) => ('"' :: text, rest) := by
  have all : (List.replicate (k - 1) '"' ++ t).all (· = '"') = true ↔ t = [] := by
    cases t with
    | nil => simp
    | cons c t =>
      have ne : c ≠ '"' := by simpa using last
      simp [ne]
  obtain rfl | rfl : k = 1 ∨ k = 2 := by omega
  · simp only [List.replicate, List.cons_append, List.nil_append, Nat.sub_self] at all ⊢
    rw [readMultilineBody]
    · simp only [all]
    all_goals
      intro u e
      exact last (by simp [e])
  · simp only [List.replicate, List.cons_append, List.nil_append, Nat.add_one_sub_one] at all ⊢
    rw [readMultilineBody]
    · simp only [all]
    all_goals
      intro u e
      exact last (by simp [(List.cons.inj e).2])

/-- So do line ends and other characters, as far as they may stand there. -/
lemma readMultilineBody_other {c : Char} (quote : c ≠ '"') (backslash : c ≠ '\\') :
    readMultilineBody (fuel + 1) (c :: t) =
      match newline? (c :: t) with
      | some rest => (readMultilineBody fuel rest).map fun (text, rest) => ('\n' :: text, rest)
      | none =>
        if isBasicChar c then (readMultilineBody fuel t).map fun (text, rest) => (c :: text, rest)
        else Halt.fail (c :: t) (some multilineBasic) [] := by
  by_cases lineFeed : c = '\n'
  case pos => subst lineFeed; rfl
  by_cases both : c = '\r' ∧ t.head? = some '\n'
  case pos =>
    obtain ⟨rfl, next⟩ := both
    obtain ⟨t, rfl⟩ := List.head?_eq_some_iff.mp next
    rfl
  rw [newline?_none lineFeed (fun e next => both ⟨e, next⟩), readMultilineBody]
  all_goals
    intros
    simp_all

end

namespace Copies
namespace At

/-- Behind a backslash: an escape, or the blanks and line ends that it takes away. -/
lemma reads_escaped {fuel fuel' : Nat} {t t' : List Char} (level : d.Level ('\\' :: t) ('\\' :: t'))
    (next : d.At .blockEscape t t')
    (more : ∀ u u', d.At (.block '"' 0) u u' → u.length ≤ t.length → u'.length ≤ t'.length →
      d.Reads d.Told (readMultilineBody fuel u) (readMultilineBody fuel' u')) :
    d.Reads d.Told (readMultilineBody (fuel + 1) ('\\' :: t))
      (readMultilineBody (fuel' + 1) ('\\' :: t')) := by
  obtain ⟨mode, either, there⟩ := next.escaped_blanks
  have found := there.lineEnd (.block '"' 0) (by obtain rfl | rfl := either <;> rfl)
    (by obtain rfl | rfl := either <;> rfl) (by obtain rfl | rfl := either <;> rfl)
    (by obtain rfl | rfl := either <;> rfl)
  have escape := next.reads_readEscape (fun _ => .block '"' 0) [] rfl
    (fun _ _ => rfl) (fun c digit _ => blockStep_of_hexDigit digit) fun _ => rfl
  have blanks := (skipBlanks_suffix t).length_le
  have blanks' := (skipBlanks_suffix t').length_le
  simp only [readMultilineBody]
  generalize newline? (skipBlanks t) = rest at found ⊢
  generalize newline? (skipBlanks t') = rest' at found ⊢
  cases found with
  | @some rest rest' there =>
    obtain ⟨there, less, less'⟩ := there
    have lines := (skipLines_suffix rest).length_le
    have lines' := (skipLines_suffix rest').length_le
    exact more _ _ there.skipLines (by omega) (by omega)
  | none =>
    dsimp only
    generalize readEscape t = result at escape ⊢
    generalize readEscape t' = result' at escape ⊢
    cases escape with
    | @error h h' halts =>
      dsimp only
      rw [halts.committed]
      split
      · exact .error halts
      · exact level.fail
    | @ok r r' taken =>
      obtain ⟨c, rest⟩ := r
      obtain ⟨c', rest'⟩ := r'
      obtain ⟨same, cs, e, e', after⟩ := taken
      dsimp only [List.nil_append] at same e e' after
      subst same e e'
      have shorter (rest : List Char) : rest.length ≤ (cs ++ rest).length := by
        rw [List.length_append]
        omega
      exact reads_cons (more _ _ after (shorter rest) (shorter rest')) _

/-- The same text between triple double quotes is read. -/
lemma reads_readMultilineBody {fuel fuel' : Nat} (here : d.At (.block '"' 0) s s')
    (enough : s.length < fuel) (enough' : s'.length < fuel') :
    d.Reads d.Told (readMultilineBody fuel s) (readMultilineBody fuel' s') := by
  -- The documents have lengths of their own, so each is read with a fuel of its own.
  induction fuel generalizing fuel' s s' with
  | zero => cases enough
  | succ fuel ih =>
    obtain ⟨fuel', rfl⟩ := Nat.exists_eq_succ_of_ne_zero (Nat.ne_zero_of_lt enough')
    have level := here.level
    cases here.next_quotes with
    | closing low high last last' after =>
      rw [readMultilineBody_closed low high last, readMultilineBody_closed low high last']
      exact .ok ⟨rfl, after⟩
    | @inner k t t' low high other other' there behind =>
      rw [readMultilineBody_quotes low high other, readMultilineBody_quotes low high other']
      simp only [there.alike.eq_nil_iff]
      split
      case isTrue => exact level.fail
      case isFalse =>
        simp only [List.length_append, List.length_replicate] at enough enough'
        refine reads_cons (ih behind ?_ ?_) _
        all_goals
          simp only [List.length_append, List.length_replicate]
          omega
    | nil => exact level.fail
    | @other c t t' quote next =>
      rw [List.length_cons] at enough enough'
      by_cases backslash : c = '\\'
      case pos =>
        subst backslash
        exact reads_escaped level next fun u u' there shorter shorter' => ih there (by omega) (by omega)
      case neg =>
        rw [Mode.step, if_neg quote, if_neg (by decide), if_neg (fun e => backslash e.1)] at next
        rw [readMultilineBody_other quote backslash, readMultilineBody_other quote backslash]
        refine here.reads_blockChar (.inl rfl) next isBasicChar multilineBasic fun u u' there less less' => ?_
        rw [List.length_cons] at less less'
        exact ih there (by omega) (by omega)

end At
end Copies

section
variable {k : Nat} {t : List Char}

/-- Three to five quotes in a row close a text in single quotes, and those before the last three belong to it.
-/
lemma readMultilineLiteralBody_closed (low : 3 ≤ k) (high : k ≤ 5) (last : k < 5 → t.head? ≠ some '\'') :
    readMultilineLiteralBody (List.replicate k '\'' ++ t) = .ok (List.replicate (k - 3) '\'', t) := by
  obtain rfl | rfl | rfl : k = 3 ∨ k = 4 ∨ k = 5 := by omega
  · simp only [List.replicate, List.cons_append, List.nil_append]
    rw [readMultilineLiteralBody]
    · rfl
    all_goals
      intro u e
      exact last (by omega) (by simp [e])
  · simp only [List.replicate, List.cons_append, List.nil_append]
    rw [readMultilineLiteralBody]
    intro u e
    exact last (by omega) (by simp [e])
  · rfl

/-- Fewer quotes in a row belong to it. -/
lemma readMultilineLiteralBody_quotes (low : 1 ≤ k) (high : k < 3) (last : t.head? ≠ some '\'') :
    readMultilineLiteralBody (List.replicate k '\'' ++ t) =
      match t with
      | [] => Halt.fail (List.replicate k '\'' ++ t) (some multilineLiteral) []
      | c :: _ =>
        if isLiteralChar c || c = '\n' || c = '\r' then
          (readMultilineLiteralBody (List.replicate (k - 1) '\'' ++ t)).map
            fun (text, rest) => ('\'' :: text, rest)
        else Halt.fail (List.replicate k '\'' ++ t) (some multilineLiteral) [] := by
  have quotes : (List.replicate (k - 1) '\'' ++ t).dropWhile (· = '\'') = t := by
    rw [List.dropWhile_append_of_pos (by simp)]
    cases t with
    | nil => rfl
    | cons c t => exact List.dropWhile_cons_of_neg (by simpa using last)
  obtain rfl | rfl : k = 1 ∨ k = 2 := by omega
  · simp only [List.replicate, List.cons_append, List.nil_append, Nat.sub_self] at quotes ⊢
    rw [readMultilineLiteralBody]
    · rw [quotes]
      cases t <;> rfl
    all_goals
      intro u e
      exact last (by simp [e])
  · simp only [List.replicate, List.cons_append, List.nil_append, Nat.add_one_sub_one] at quotes ⊢
    rw [readMultilineLiteralBody]
    · rw [quotes]
      cases t <;> rfl
    all_goals
      intro u e
      exact last (by simp [(List.cons.inj e).2])

/-- So do line ends and other characters, as far as they may stand there. -/
lemma readMultilineLiteralBody_other {c : Char} (quote : c ≠ '\'') :
    readMultilineLiteralBody (c :: t) =
      match newline? (c :: t) with
      | some rest => (readMultilineLiteralBody rest).map fun (text, rest) => ('\n' :: text, rest)
      | none =>
        if isLiteralChar c then (readMultilineLiteralBody t).map fun (text, rest) => (c :: text, rest)
        else Halt.fail (c :: t) (some multilineLiteral) [] := by
  by_cases lineFeed : c = '\n'
  case pos => subst lineFeed; rfl
  by_cases both : c = '\r' ∧ t.head? = some '\n'
  case pos =>
    obtain ⟨rfl, next⟩ := both
    obtain ⟨t, rfl⟩ := List.head?_eq_some_iff.mp next
    rfl
  rw [newline?_none lineFeed (fun e next => both ⟨e, next⟩), readMultilineLiteralBody]
  · simp only [lineFeed, decide_false, Bool.or_false]
  all_goals
    intros
    simp_all

end

namespace Copies
namespace At

/-- The same text between triple single quotes is read. -/
lemma reads_readMultilineLiteralBody (here : d.At (.block '\'' 0) s s') :
    d.Reads d.Told (readMultilineLiteralBody s) (readMultilineLiteralBody s') := by
  generalize length : s.length = n
  induction n using Nat.strongRecOn generalizing s s' with
  | ind n ih =>
    subst length
    have level := here.level
    cases here.next_quotes with
    | closing low high last last' after =>
      rw [readMultilineLiteralBody_closed low high last, readMultilineLiteralBody_closed low high last']
      exact .ok ⟨rfl, after⟩
    | @inner k t t' low high other other' there behind =>
      rw [readMultilineLiteralBody_quotes low high other,
        readMultilineLiteralBody_quotes low high other']
      cases t with
      | nil =>
        obtain rfl := there.eq_nil
        exact level.fail
      | cons c t =>
        obtain ⟨t', rfl, -⟩ := there.cons rfl
        dsimp only
        split
        case isTrue =>
          refine reads_cons (ih _ ?_ behind rfl) _
          simp only [List.length_append, List.length_replicate]
          omega
        case isFalse => exact level.fail
    | nil => exact level.fail
    | @other c t t' quote next =>
      rw [Mode.step, if_neg quote, if_neg (by decide), if_neg (fun e => absurd e.2 (by decide))] at next
      rw [readMultilineLiteralBody_other quote, readMultilineLiteralBody_other quote]
      exact here.reads_blockChar (.inr rfl) next isLiteralChar multilineLiteral
        fun u u' there less _ => ih _ less there rfl

end At

/-! ## Texts in any quotes -/

end Copies

/-- Behind one double quote stands a text on one line. -/
lemma readText_basic {cs : List Char} (single : ∀ rest, cs ≠ '"' :: '"' :: rest) :
    readText ('"' :: cs) = readBasic ('"' :: cs) := by
  rw [readText]
  · exact fun rest e => single rest e

/-- So it does behind one single quote. -/
lemma readText_literal {cs : List Char} (single : ∀ rest, cs ≠ '\'' :: '\'' :: rest) :
    readText ('\'' :: cs) = readLiteral ('\'' :: cs) := by
  rw [readText]
  · nofun
  · exact fun rest e => single rest (List.cons.inj e).2
  · nofun

/-- A text in double quotes is read without complaint, whatever follows, if it is not empty. -/
lemma readText_secret {cs text : List Char} (written : BasicText cs text) (some : cs ≠ [])
    (rest : List Char) : readText ('"' :: cs ++ '"' :: rest) = .ok (text, rest) := by
  have single : ∀ others, cs ++ '"' :: rest ≠ '"' :: '"' :: others := by
    intro others e
    cases written with
    | nil => exact some rfl
    | plain plain => exact plain.1 (List.cons.inj e).1
    | escape => exact absurd (List.cons.inj e).1 (by decide)
  rw [List.cons_append, readText_basic single]
  refine written.read rest ?_
  rw [List.length_append]
  omega

namespace Copies

/-- A text that was read from single quotes on each side leaves an open place. -/
lemma Quoted.told {q : Char} {r r' : List Char × List Char} (quoted : d.Quoted past (q :: s) r r')
    (single : ∀ rest, s ≠ q :: q :: rest) : d.Told r r' := by
  obtain ⟨same, q, cs, -, e, there⟩ := quoted
  obtain ⟨rfl, rfl⟩ := List.cons.inj e
  refine ⟨same, ?_⟩
  obtain there | ⟨rfl, -, third, -⟩ := there
  · exact ⟨_, there⟩
  · obtain ⟨rest, e⟩ := List.head?_eq_some_iff.mp third
    exact absurd (congrArg (q :: ·) e) (single rest)

namespace At

/-- The same text is read, whatever its quotes, where no secret can start. -/
lemma reads_readText {q : Char} (quote : q = '"' ∨ q = '\'')
    (here : d.At (.opening q (past ++ [q])) s s') :
    d.Reads d.Told (readText (q :: s)) (readText (q :: s')) := by
  have triple {d : Copies} {s s' : List Char} (here : d.At (.opening q (past ++ [q])) (q :: q :: s) s') :
      ∃ t', s' = q :: q :: t' ∧ d.At (.block q 0) s t' := by
    obtain ⟨t', rfl, next⟩ := here.cons rfl
    rw [Mode.step, if_pos rfl] at next
    obtain ⟨t', rfl, after⟩ := next.cons rfl
    rw [Mode.step, if_pos rfl] at after
    exact ⟨t', rfl, after⟩
  by_cases more : ∃ rest, s = q :: q :: rest
  case pos =>
    obtain ⟨t, rfl⟩ := more
    obtain ⟨t', rfl, next⟩ := triple here
    have there := next.dropFirstNewline quote
    obtain rfl | rfl := quote
    · exact there.reads_readMultilineBody (Nat.lt_succ_of_le (dropFirstNewline_suffix t).length_le)
        (Nat.lt_succ_of_le (dropFirstNewline_suffix t').length_le)
    · exact there.reads_readMultilineLiteralBody
  case neg =>
    have single : ∀ rest, s ≠ q :: q :: rest := fun rest e => more ⟨rest, e⟩
    have single' : ∀ rest, s' ≠ q :: q :: rest := by
      rintro rest rfl
      obtain ⟨t', rfl, -⟩ := triple here.swap
      exact single _ rfl
    obtain rfl | rfl := quote
    · rw [readText_basic single, readText_basic single']
      exact here.reads_readBasic.imp fun _ _ quoted => quoted.told single
    · rw [readText_literal single, readText_literal single']
      exact here.reads_readLiteral.imp fun _ _ quoted => quoted.told single

end At
end Copies
end RecipientCallout.Toml
