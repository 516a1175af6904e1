import Mathlib.Data.List.DropRight
import RecipientCallout.Proofs.Toml.Lines

/-!
# Documents that differ in secrets

Two documents are alike (`Alike`) if they differ only within texts in double quotes that stand as values
of one key, at whatever place of the document and however the key is written. What counts as such a text
is said character by character (`Mode.step`), for documents with errors in them as well, and without the
readers of documents. `Copies.At` ties a place in one document to the same place in the other.
-/

namespace RecipientCallout.Toml
open RecipientCallout.Text

/-! ## Keys and modes -/

/-- How a key is written: bare, or in quotes of either kind on one line. -/
inductive KeyText : List Char → String → Prop where
  | bare {name} :
    IsBare name →
    KeyText name.toList name
  | basic {cs text} :
    BasicText cs text →
    KeyText ('"' :: cs ++ ['"']) (String.ofList text)
  | literal {cs} :
    (∀ c ∈ cs, isLiteralChar c = true) →
    KeyText ('\'' :: cs ++ ['\'']) (String.ofList cs)

/-- A text without the blanks around it. -/
def trimmed (cs : List Char) : List Char := (skipBlanks cs).rdropWhile isBlank

/-- What is being read where a document is read character by character. -/
inductive Mode where
  /-- No text and no comment; `past` stands there since the last sign or line end. -/
  | plain (past : List Char)
  | comment
  /-- What stands behind an equals sign and blanks; `past` stands in front of the sign. -/
  | assigned (past : List Char)
  /-- What stands behind the quote that opens a text. -/
  | opening (quote : Char) (past : List Char)
  /-- What stands behind two quotes, which are an empty text unless a third one follows. -/
  | pair (quote : Char) (past : List Char)
  /-- A text on one line. -/
  | text (quote : Char) (past : List Char)
  /-- What stands behind a backslash in a text on one line. -/
  | escape (past : List Char)
  /-- A text between triple quotes, behind `run` quotes in a row. -/
  | block (quote : Char) (run : Nat)
  /-- What stands behind a backslash between triple quotes. -/
  | blockEscape
  deriving DecidableEq

namespace Mode

/-- The mode behind a character outside texts and comments. -/
def plainStep (past : List Char) (c : Char) : Mode :=
  if c = '"' ∨ c = '\'' then .opening c (past ++ [c])
  else if c = '#' then .comment
  else if c = '=' then .assigned past
  else if isBlank c || isBareChar c then .plain (past ++ [c])
  else .plain []

/-- The mode behind a character of a text on one line; the end of the line ends the text as well. -/
def textStep (quote : Char) (past : List Char) (c : Char) : Mode :=
  if c = quote then .plain (past ++ [c])
  else if c = '\\' ∧ quote = '"' then .escape (past ++ [c])
  else if c = '\n' then .plain []
  else .text quote (past ++ [c])

/-- The mode behind a character. Three to five quotes in a row end a text between triple quotes. -/
def step : Mode → Char → Mode
  | .plain past, c => plainStep past c
  | .comment, c => if c = '\n' then .plain [] else .comment
  | .assigned past, c => if isBlank c then .assigned past else plainStep [] c
  | .opening quote past, c => if c = quote then .pair quote (past ++ [c]) else textStep quote past c
  | .pair quote past, c => if c = quote then .block quote 0 else plainStep past c
  | .text quote past, c => textStep quote past c
  | .escape past, c => if c = '\n' then .plain [] else .text '"' (past ++ [c])
  | .block quote run, c =>
    if c = quote then if run = 4 then .plain [] else .block quote (run + 1)
    else if 3 ≤ run then plainStep [] c
    else if c = '\\' ∧ quote = '"' then .blockEscape
    else .block quote 0
  | .blockEscape, _ => .block '"' 0

/-- A secret may start here, and nowhere else. -/
def isAssigned : Mode → Bool
  | .assigned _ => true
  | _ => false

end Mode

/-- Texts that are the same but for the contents of texts in double quotes, not empty, that stand on one
line as values of a key; reading starts in the given mode. -/
inductive Alike (key : String) : Mode → List Char → List Char → Prop where
  | nil {mode} :
    Alike key mode [] []
  | same {mode c cs cs'} :
    Alike key (mode.step c) cs cs' →
    Alike key mode (c :: cs) (c :: cs')
  | secret {past p p' text text' cs cs'} :
    KeyText (trimmed past) key →
    BasicText p text →
    BasicText p' text' →
    p ≠ [] →
    p' ≠ [] →
    Alike key (.plain []) cs cs' →
    Alike key (.assigned past) ('"' :: p ++ '"' :: cs) ('"' :: p' ++ '"' :: cs')

namespace Alike
variable {key : String} {mode : Mode} {s s' : List Char}

/-- Which of the two texts comes first makes no difference. -/
lemma symm (alike : Alike key mode s s') : Alike key mode s' s := by
  induction alike with
  | nil => exact .nil
  | same _ ih => exact .same ih
  | secret named written written' some some' _ ih => exact .secret named written' written some' some ih

/-- A text is like itself. -/
lemma refl (key : String) (mode : Mode) (s : List Char) : Alike key mode s s := by
  induction s generalizing mode with
  | nil => exact .nil
  | cons c s ih => exact .same (ih _)

/-- The same characters in front of alike texts. -/
lemma append (cs : List Char) (alike : Alike key (cs.foldl Mode.step mode) s s') :
    Alike key mode (cs ++ s) (cs ++ s') := by
  induction cs generalizing mode with
  | nil => exact alike
  | cons c cs ih => exact .same (ih alike)

/-- Alike texts end together. -/
lemma eq_nil_iff (alike : Alike key mode s s') : s = [] ↔ s' = [] := by
  cases alike <;> simp

end Alike

/-- There is no line feed in an escape. -/
lemma EscapeText.lineFeed_notMem {escaped : List Char} {c : Char} (escape : EscapeText escaped c) :
    '\n' ∉ escaped := by
  have digits {cs : List Char} {n : Nat} (written : DigitsText 16 cs n) : '\n' ∉ cs := by
    intro mem
    obtain digit | space := written.forall_mem '\n' mem
    · exact absurd digit (by decide)
    · exact absurd space (by decide)
  cases escape with
  | short written => exact List.not_mem_cons_of_ne_of_not_mem (by decide) (digits written)
  | long written => exact List.not_mem_cons_of_ne_of_not_mem (by decide) (digits written)
  | _ => decide

/-- Nor in a text in double quotes. -/
lemma BasicText.lineFeed_notMem {cs text : List Char} (written : BasicText cs text) : '\n' ∉ cs := by
  induction written with
  | nil => exact List.not_mem_nil
  | plain plain _ ih =>
    refine List.not_mem_cons_of_ne_of_not_mem ?_ ih
    rintro rfl
    exact absurd plain (by simp [IsPlain])
  | escape escape _ ih =>
    simp [escape.lineFeed_notMem, ih]

namespace Alike
variable {key : String} {mode : Mode} {s s' : List Char}

/-- Alike texts have the same number of lines. -/
lemma count_lineFeed (alike : Alike key mode s s') : s.count '\n' = s'.count '\n' := by
  induction alike with
  | nil => rfl
  | same _ ih => rw [List.count_cons, List.count_cons, ih]
  | secret _ written written' _ _ _ ih =>
    simp [List.count_eq_zero.mpr written.lineFeed_notMem,
      List.count_eq_zero.mpr written'.lineFeed_notMem, ih]

/-- So they have without their last characters. -/
lemma count_lineFeed_dropLast (alike : Alike key mode s s') :
    s.dropLast.count '\n' = s'.dropLast.count '\n' := by
  have ends {c : Char} {mode : Mode} {s s' : List Char} (alike : Alike key mode s s')
      (same : s.dropLast.count '\n' = s'.dropLast.count '\n') :
      (c :: s).dropLast.count '\n' = (c :: s').dropLast.count '\n' := by
    cases s with
    | nil => rw [alike.eq_nil_iff.mp rfl]
    | cons d s =>
      cases s' with
      | nil => exact absurd (alike.eq_nil_iff.mpr rfl) (List.cons_ne_nil d s)
      | cons d' s' =>
        rw [List.dropLast_cons_cons, List.dropLast_cons_cons, List.count_cons, List.count_cons, same]
  induction alike with
  | nil => rfl
  | same alike ih => exact ends alike ih
  | secret _ written written' _ _ alike ih =>
    rw [List.dropLast_append_of_ne_nil (List.cons_ne_nil _ _),
      List.dropLast_append_of_ne_nil (List.cons_ne_nil _ _), List.count_append, List.count_append,
      ends alike ih]
    simp [List.count_eq_zero.mpr written.lineFeed_notMem,
      List.count_eq_zero.mpr written'.lineFeed_notMem]

end Alike

/-! ## The line of a place -/

/-- The octets of a text are those of its parts. -/
lemma octets_append (cs cs' : List Char) : octets (cs ++ cs') = octets cs + octets cs' := by
  induction cs with
  | nil => exact (Nat.zero_add _).symm
  | cons c cs ih =>
    change c.utf8Size + octets (cs ++ cs') = c.utf8Size + octets cs + octets cs'
    rw [ih, Nat.add_assoc]

/-- The line of the place where so many octets of a document are left, as pictures show it. -/
def lineOf (document : List Char) (left : Nat) : Nat :=
  (Fault.locate document (octets document - left)).1

section
open Fault

/-- A later part of a text begins behind the octets of the earlier one. -/
lemma withOffsets_append (start : Nat) (cs cs' : List Char) :
    withOffsets start (cs ++ cs') = withOffsets start cs ++ withOffsets (start + octets cs) cs' := by
  induction cs generalizing start with
  | nil => rfl
  | cons c cs ih =>
    rw [List.cons_append, withOffsets, withOffsets, ih, List.cons_append, Nat.add_assoc]
    rfl

/-- Offsets take no character away. -/
lemma map_withOffsets (start : Nat) (cs : List Char) : (withOffsets start cs).map (·.2) = cs := by
  induction cs generalizing start with
  | nil => rfl
  | cons c cs ih => rw [withOffsets, List.map_cons, ih]

/-- A character lies within its text. -/
lemma le_of_mem_withOffsets {start : Nat} {cs : List Char} {entry : Nat × Char}
    (mem : entry ∈ withOffsets start cs) :
    start ≤ entry.1 ∧ entry.1 + entry.2.utf8Size ≤ start + octets cs := by
  induction cs generalizing start with
  | nil => cases mem
  | cons c cs ih =>
    have total : octets (c :: cs) = c.utf8Size + octets cs := rfl
    obtain - | ⟨-, mem⟩ := mem
    · exact ⟨Nat.le_refl _, by dsimp only; omega⟩
    · have := ih mem
      omega

/-- The characters that end in front of an octet are those in front of the character with that octet. -/
lemma filter_withOffsets {pre rest : List Char} {c : Char} {index : Nat} (low : octets pre ≤ index)
    (high : index < octets pre + c.utf8Size) :
    ((withOffsets 0 (pre ++ c :: rest)).filter fun (start, c) => start + c.utf8Size ≤ index).map (·.2) =
      pre := by
  rw [withOffsets_append, List.filter_append, List.filter_eq_self.mpr, List.filter_eq_nil_iff.mpr,
    List.append_nil, map_withOffsets]
  · intro entry mem
    rw [withOffsets, List.mem_cons] at mem
    obtain rfl | mem := mem
    · simpa using high
    · have := (le_of_mem_withOffsets mem).1
      simp only [decide_eq_true_eq]
      omega
  · intro entry mem
    have := (le_of_mem_withOffsets mem).2
    simp only [decide_eq_true_eq]
    omega

/-- The line of a character is told by the line feeds in front of it. -/
lemma locate_line {pre rest : List Char} {c : Char} {offset : Nat}
    (low : octets pre ≤ min offset (octets (pre ++ c :: rest) - 1))
    (high : min offset (octets (pre ++ c :: rest) - 1) < octets pre + c.utf8Size) :
    (locate (pre ++ c :: rest) offset).1 = pre.count '\n' := by
  rw [locate, if_neg (List.append_ne_nil_of_right_ne_nil _ (List.cons_ne_nil _ _))]
  dsimp only
  rw [filter_withOffsets low high]

end

/-- So is the line of a place, by what is left of the document there. -/
lemma lineOf_cons (pre rest : List Char) (c : Char) :
    lineOf (pre ++ c :: rest) (octets (c :: rest)) = pre.count '\n' := by
  have size := Char.utf8Size_pos c
  have whole := octets_append pre (c :: rest)
  have part : octets (c :: rest) = c.utf8Size + octets rest := rfl
  refine locate_line ?_ ?_ <;> omega

/-- At the end of a document that is the line of its last character. -/
lemma lineOf_nil (document : List Char) : lineOf document 0 = document.dropLast.count '\n' := by
  obtain rfl | some := eq_or_ne document []
  · rfl
  · rw [← List.dropLast_append_getLast some]
    generalize document.getLast some = c
    generalize document.dropLast = pre
    have size := Char.utf8Size_pos c
    have whole := octets_append pre [c]
    have part : octets [c] = c.utf8Size := rfl
    rw [List.dropLast_concat]
    refine locate_line ?_ ?_ <;> omega

/-! ## Places in two copies -/

/-- Two documents that are alike but for the values of a key. -/
structure Copies where
  key : String
  text : List Char
  text' : List Char
  alike : Alike key (.plain []) text text'

namespace Copies

/-- The two documents the other way round. -/
def swap (d : Copies) : Copies := ⟨d.key, d.text', d.text, d.alike.symm⟩

/-- The same place in both documents, by what is left of them there. -/
structure At (d : Copies) (mode : Mode) (s s' : List Char) : Prop where
  alike : Alike d.key mode s s'
  suffix : s <:+ d.text
  suffix' : s' <:+ d.text'

/-- The same place in both documents, whatever is read there. -/
def Level (d : Copies) (s s' : List Char) : Prop := ∃ mode, d.At mode s s'

/-- The same place in both documents, outside texts and comments. -/
def Open (d : Copies) (s s' : List Char) : Prop := ∃ past, d.At (.plain past) s s'

variable {d : Copies} {mode mode' : Mode} {s s' : List Char} {c : Char}

/-- Reading starts at the same place. -/
lemma start (d : Copies) : d.At (.plain []) d.text d.text' :=
  ⟨d.alike, List.suffix_refl _, List.suffix_refl _⟩

namespace At

/-- The same place has the same line. -/
lemma level (here : d.At mode s s') : d.Level s s' := ⟨mode, here⟩

/-- Which of the two copies comes first makes no difference. -/
lemma swap (here : d.At mode s s') : d.swap.At mode s' s := ⟨here.alike.symm, here.suffix', here.suffix⟩

/-- Both copies end together. -/
lemma eq_nil (here : d.At mode [] s') : s' = [] := here.alike.eq_nil_iff.mp rfl

/-- Where no secret can stand, the next character is the same. -/
lemma cons (here : d.At mode (c :: s) s') (free : mode.isAssigned = false) :
    ∃ t', s' = c :: t' ∧ d.At (mode.step c) s t' := by
  obtain ⟨alike, suffix, suffix'⟩ := here
  cases alike with
  | same alike =>
    exact ⟨_, rfl, alike, (List.suffix_cons _ _).trans suffix, (List.suffix_cons _ _).trans suffix'⟩
  | secret => cases free

/-- Where no secret can start, the next character is the same. -/
lemma head?_eq {mode : Mode} (here : d.At mode s s') (free : mode.isAssigned = false) :
    s'.head? = s.head? := by
  cases s with
  | nil => rw [here.eq_nil]
  | cons c s =>
    obtain ⟨t', rfl, -⟩ := here.cons free
    rfl

/-- Modes are the same if the next character makes no difference between them. -/
lemma congr (here : d.At mode s s') (free : mode.isAssigned = false)
    (same : ∀ c, s.head? = some c → mode.step c = mode'.step c) : d.At mode' s s' := by
  refine ⟨?_, here.suffix, here.suffix'⟩
  cases s with
  | nil =>
    rw [here.eq_nil]
    exact .nil
  | cons c s =>
    obtain ⟨t', rfl, next⟩ := here.cons free
    exact .same (same c rfl ▸ next.alike)

/-- What is read at the same place is on lines with the same number. -/
lemma lineOf_eq (here : d.At mode s s') :
    lineOf d.text (octets s) = lineOf d.text' (octets s') := by
  cases s with
  | nil =>
    rw [here.eq_nil]
    exact (lineOf_nil _).trans (d.alike.count_lineFeed_dropLast.trans (lineOf_nil _).symm)
  | cons c s =>
    cases s' with
    | nil => exact absurd (here.alike.eq_nil_iff.mpr rfl) (List.cons_ne_nil c s)
    | cons c' s' =>
      have whole := d.alike.count_lineFeed
      have rest := here.alike.count_lineFeed
      obtain ⟨pre, e⟩ := here.suffix
      obtain ⟨pre', e'⟩ := here.suffix'
      rw [← e, ← e', lineOf_cons, lineOf_cons]
      rw [← e, ← e', List.count_append, List.count_append] at whole
      omega

/-- Characters that keep to a mode, of which it only remembers them. -/
lemma append (mode : List Char → Mode) {past cs : List Char} (here : d.At (mode past) (cs ++ s) s')
    (free : ∀ past, (mode past).isAssigned = false)
    (stays : ∀ c ∈ cs, ∀ past, (mode past).step c = mode (past ++ [c])) :
    ∃ t', s' = cs ++ t' ∧ d.At (mode (past ++ cs)) s t' := by
  induction cs generalizing past s' with
  | nil => exact ⟨s', rfl, by rwa [List.append_nil]⟩
  | cons c cs ih =>
    rw [List.forall_mem_cons] at stays
    obtain ⟨t', rfl, next⟩ := here.cons (free past)
    obtain ⟨t', rfl, there⟩ := ih (stays.1 past ▸ next) stays.2
    refine ⟨t', rfl, ?_⟩
    rwa [List.append_assoc] at there

/-- The same for all characters of a kind. -/
lemma takeWhile (mode : List Char → Mode) {past : List Char} {p : Char → Bool}
    (here : d.At (mode past) s s') (free : ∀ past, (mode past).isAssigned = false)
    (stays : ∀ c, p c = true → ∀ past, (mode past).step c = mode (past ++ [c])) :
    s'.takeWhile p = s.takeWhile p ∧
      d.At (mode (past ++ s.takeWhile p)) (s.dropWhile p) (s'.dropWhile p) := by
  induction s generalizing past s' with
  | nil =>
    obtain rfl := here.eq_nil
    exact ⟨rfl, by rwa [List.takeWhile_nil, List.append_nil]⟩
  | cons c s ih =>
    have stay := here
    obtain ⟨t', rfl, next⟩ := here.cons (free past)
    cases taken : p c with
    | false =>
      have other : ¬ p c = true := by simp [taken]
      rw [List.takeWhile_cons_of_neg other, List.takeWhile_cons_of_neg other,
        List.dropWhile_cons_of_neg other, List.dropWhile_cons_of_neg other, List.append_nil]
      exact ⟨rfl, stay⟩
    | true =>
      rw [stays c taken past] at next
      obtain ⟨same, there⟩ := ih next
      rw [List.takeWhile_cons_of_pos taken, List.takeWhile_cons_of_pos taken,
        List.dropWhile_cons_of_pos taken, List.dropWhile_cons_of_pos taken, same]
      rw [List.append_assoc] at there
      exact ⟨rfl, there⟩

/-- The same where the mode remembers nothing. -/
lemma dropWhile {p : Char → Bool} (here : d.At mode s s') (free : mode.isAssigned = false)
    (stays : ∀ c, p c = true → mode.step c = mode) : d.At mode (s.dropWhile p) (s'.dropWhile p) :=
  (@takeWhile d s s' (fun _ => mode) [] p here (fun _ => free) fun c kind _ => stays c kind).2

/-- Behind a name, blanks are part of what stands there. -/
lemma blanks {past : List Char} (here : d.At (.plain past) s s') :
    ∃ blanks, (∀ c ∈ blanks, isBlank c = true) ∧
      d.At (.plain (past ++ blanks)) (skipBlanks s) (skipBlanks s') := by
  refine ⟨s.takeWhile isBlank, fun c => List.mem_takeWhile_imp, (here.takeWhile .plain (fun _ => rfl) ?_).2⟩
  intro c blank past
  obtain rfl | rfl : c = ' ' ∨ c = '\t' := by simpa [isBlank] using blank
  all_goals rfl

/-- Blanks behind an equals sign are skipped in both copies. -/
lemma assigned_blanks {past : List Char} (here : d.At (.assigned past) s s') :
    d.At (.assigned past) (skipBlanks s) (skipBlanks s') := by
  have quote (cs : List Char) : skipBlanks ('"' :: cs) = '"' :: cs := skipBlanks_cons (by decide) cs
  induction s generalizing s' with
  | nil =>
    obtain rfl := here.eq_nil
    exact here
  | cons c s ih =>
    obtain ⟨alike, suffix, suffix'⟩ := here
    cases alike' : alike with
    | secret =>
      rw [quote, List.cons_append, quote]
      exact ⟨alike, suffix, suffix'⟩
    | @same _ _ _ t' next =>
      cases blank : isBlank c with
      | false =>
        rw [skipBlanks_cons blank, skipBlanks_cons blank]
        exact ⟨alike, suffix, suffix'⟩
      | true =>
        rw [Mode.step, if_pos blank] at next
        rw [skipBlanks, skipBlanks, List.dropWhile_cons_of_pos blank,
          List.dropWhile_cons_of_pos blank]
        exact ih ⟨next, (List.suffix_cons _ _).trans suffix, (List.suffix_cons _ _).trans suffix'⟩

/-- Behind an equals sign and blanks a secret may stand; else the place is like any other. -/
lemma secret_or_open {past : List Char} (here : d.At (.assigned past) s s')
    (begins : ∀ c, s.head? = some c → isBlank c = false) :
    d.Open s s' ∨
      ∃ p p' text text' t t', s = '"' :: p ++ '"' :: t ∧ s' = '"' :: p' ++ '"' :: t' ∧
        KeyText (trimmed past) d.key ∧ BasicText p text ∧ BasicText p' text' ∧ p ≠ [] ∧ p' ≠ [] ∧
        d.Open t t' := by
  obtain ⟨alike, suffix, suffix'⟩ := here
  cases alike with
  | nil => exact .inl ⟨[], .nil, suffix, suffix'⟩
  | same next =>
    rw [Mode.step, if_neg (by simp [begins _ rfl])] at next
    exact .inl ⟨[], .same next, suffix, suffix'⟩
  | @secret _ p p' _ _ t t' named written written' some some' next =>
    refine .inr ⟨p, p', _, _, t, t', rfl, rfl, named, written, written', some, some', [], next, ?_, ?_⟩
    · exact .trans ⟨'"' :: p ++ ['"'], by simp⟩ suffix
    · exact .trans ⟨'"' :: p' ++ ['"'], by simp⟩ suffix'

end At

/-! ## Open places -/

/-- Whether a character begins no text and no comment, and no value either. -/
def isOrdinary (c : Char) : Bool := c ≠ '"' && c ≠ '\'' && c ≠ '#' && c ≠ '='

/-- An ordinary character outside of texts leaves the mode a plain one. -/
lemma exists_plainStep (ordinary : isOrdinary c = true) (past : List Char) :
    ∃ past', Mode.plainStep past c = .plain past' := by
  simp only [isOrdinary, Bool.and_eq_true, decide_eq_true_eq] at ordinary
  obtain ⟨⟨⟨double, single⟩, sharp⟩, equals⟩ := ordinary
  rw [Mode.plainStep, if_neg (by simp [double, single]), if_neg sharp, if_neg equals]
  split
  · exact ⟨_, rfl⟩
  · exact ⟨_, rfl⟩

namespace Open

/-- An open place has the same line. -/
lemma level (here : d.Open s s') : d.Level s s' := here.elim fun _ here => here.level

/-- Which of the two copies comes first makes no difference here either. -/
lemma swap (here : d.Open s s') : d.swap.Open s' s := here.elim fun _ here => ⟨_, here.swap⟩

/-- Both copies end together here, too. -/
lemma eq_nil (here : d.Open [] s') : s' = [] := here.elim fun _ here => here.eq_nil

/-- The next character at an open place is the same. -/
lemma head?_eq (here : d.Open s s') : s'.head? = s.head? := here.elim fun _ here => here.head?_eq rfl

/-- Blanks are skipped in both copies. -/
lemma skipBlanks (here : d.Open s s') : d.Open (skipBlanks s) (skipBlanks s') := by
  obtain ⟨past, here⟩ := here
  obtain ⟨blanks, -, there⟩ := here.blanks
  exact ⟨_, there⟩

/-- The next character is the same; behind an ordinary one the place is still open. -/
lemma cons (here : d.Open (c :: s) s') :
    ∃ t', s' = c :: t' ∧ d.Level s t' ∧ (isOrdinary c = true → d.Open s t') := by
  obtain ⟨past, here⟩ := here
  obtain ⟨t', rfl, next⟩ := here.cons rfl
  refine ⟨t', rfl, next.level, fun ordinary => ?_⟩
  obtain ⟨past', plain⟩ := exists_plainStep ordinary past
  exact ⟨past', plain ▸ next⟩

/-- Behind ordinary characters, the place is open still. -/
lemma append {cs : List Char} (here : d.Open (cs ++ s) s') (ordinary : ∀ c ∈ cs, isOrdinary c = true) :
    ∃ t', s' = cs ++ t' ∧ d.Open s t' := by
  induction cs generalizing s' with
  | nil => exact ⟨s', rfl, here⟩
  | cons c cs ih =>
    obtain ⟨t', rfl, -, next⟩ := here.cons
    rw [List.forall_mem_cons] at ordinary
    obtain ⟨t', rfl, there⟩ := ih (next ordinary.1) ordinary.2
    exact ⟨t', rfl, there⟩

/-- Either both texts go on with the given ordinary characters, or neither does. -/
lemma begins_or (here : d.Open s s') (cs : List Char) (ordinary : cs.all isOrdinary = true) :
    (∃ t t', s = cs ++ t ∧ s' = cs ++ t' ∧ d.Open t t') ∨
      (∀ t, s ≠ cs ++ t) ∧ ∀ t', s' ≠ cs ++ t' := by
  by_cases begins : ∃ t, s = cs ++ t
  case pos =>
    obtain ⟨t, rfl⟩ := begins
    obtain ⟨t', rfl, there⟩ := here.append (List.all_eq_true.mp ordinary)
    exact .inl ⟨t, t', rfl, rfl, there⟩
  case neg =>
    refine .inr ⟨not_exists.mp begins, ?_⟩
    rintro t' rfl
    obtain ⟨t, rfl, -⟩ := here.swap.append (List.all_eq_true.mp ordinary)
    exact begins ⟨t, rfl⟩

end Open
end Copies
end RecipientCallout.Toml
