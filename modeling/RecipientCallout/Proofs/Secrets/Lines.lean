import RecipientCallout.Proofs.Secrets.Values
import RecipientCallout.Toml.Document

/-!
# Reading documents that differ in secrets

Two documents that are alike are read alike, line by line: `Copies.reads_document` says that they give root
tables that are the same but for secrets, or the same complaint on lines with the same number.
-/

namespace RecipientCallout.Toml
open Document

/-- A fault without where on its line it is. -/
def View.fault (v : View) (fault : Fault) : Fault := ⟨v.span fault.span, fault.complaint⟩

variable {d : Copies} {s s' : List Char} {draft draft' : Draft}

/-! ## Ends of lines -/

/-- Without its mark there is no comment to skip. -/
lemma skipComment_of_ne {c : Char} (sharp : c ≠ '#') (cs : List Char) : skipComment (c :: cs) = c :: cs := by
  unfold skipComment
  split
  case h_1 e => exact absurd (List.cons.inj e).1 sharp
  case h_2 => rfl

namespace Copies

/-- What agrees does so under a label. -/
lemma Reads.labelled {α α' : Type} {R : α → α' → Prop} {result : Except Halt α}
    {result' : Except Halt α'} {name : String} (read : d.Reads R result result') :
    d.Reads R (labelled name result) (labelled name result') := by
  cases read with
  | ok related => exact .ok related
  | error halts =>
    simp only [Toml.labelled, halts.complaint]
    split
    · exact .error ⟨halts.place, rfl, halts.committed⟩
    · exact .error halts

/-- The end of both documents is fresh. -/
lemma Fresh.nil (d : Copies) : d.Fresh [] [] :=
  At.fresh ⟨.nil, List.nil_suffix, List.nil_suffix⟩

/-- The end of the document ends its last line. -/
lemma Level.lineEnd {R : List Char → List Char → Prop} (here : d.Level s s')
    (found : Option.Rel R (newline? s) (newline? s')) (fresh : ∀ t t', R t t' → d.Fresh t t') :
    Option.Rel d.Fresh (lineEnd? s) (lineEnd? s') := by
  obtain ⟨mode, here⟩ := here
  cases s with
  | nil =>
    obtain rfl := here.eq_nil
    exact .some (.nil d)
  | cons c s =>
    cases s' with
    | nil => exact absurd (here.alike.eq_nil_iff.mpr rfl) (List.cons_ne_nil c s)
    | cons c' s' =>
      change Option.Rel d.Fresh (newline? (c :: s)) (newline? (c' :: s'))
      generalize newline? (c :: s) = rest at found ⊢
      generalize newline? (c' :: s') = rest' at found ⊢
      cases found with
      | none => exact .none
      | some there => exact .some (fresh _ _ there)

/-- Behind the sign of a comment, the line ends alike. -/
lemma At.commentEnd (here : d.At .comment s s') :
    d.Level (s.dropWhile isCommentChar) (s'.dropWhile isCommentChar) ∧
      Option.Rel d.Fresh (lineEnd? (s.dropWhile isCommentChar)) (lineEnd? (s'.dropWhile isCommentChar)) := by
  obtain ⟨level, found⟩ := here.comment
  exact ⟨level, level.lineEnd found fun _ _ there => there.1.fresh⟩

/-- Where a line has to end, it ends in both documents or in neither. -/
lemma Level.reads_lineEnd (level : d.Level s s')
    (found : Option.Rel d.Fresh (lineEnd? s) (lineEnd? s')) :
    d.Reads d.Fresh
      (match lineEnd? s with
        | some rest => .ok rest
        | none => Halt.fail s none ["newline", "`#`"])
      (match lineEnd? s' with
        | some rest => .ok rest
        | none => Halt.fail s' none ["newline", "`#`"]) := by
  generalize lineEnd? s = rest at found ⊢
  generalize lineEnd? s' = rest' at found ⊢
  cases found with
  | none => exact level.fail
  | some there => exact .ok there

/-- A line ends in both documents, or there is the same complaint. -/
lemma Open.reads_finishLine (here : d.Open s s') :
    d.Reads d.Fresh (finishLine s) (finishLine s') := by
  have there := here.skipBlanks
  simp only [finishLine]
  generalize Toml.skipBlanks s = t at there ⊢
  generalize Toml.skipBlanks s' = t' at there ⊢
  cases t with
  | nil =>
    obtain rfl := there.eq_nil
    exact .ok (.nil d)
  | cons c t =>
    by_cases sharp : c = '#'
    case pos =>
      subst sharp
      obtain ⟨past, there⟩ := there
      obtain ⟨t', rfl, next⟩ := there.cons rfl
      exact next.commentEnd.1.reads_lineEnd next.commentEnd.2
    case neg =>
      have level := there.level
      have found := level.lineEnd there.lineEnd fun _ _ there => there.1.fresh
      obtain ⟨t', rfl, -⟩ := there.cons
      rw [skipComment_of_ne sharp, skipComment_of_ne sharp]
      exact level.reads_lineEnd found

/-! ## Entries and headers -/

/-- The same tables but for secrets, and the same place at the start of a line. -/
def SameDraft (d : Copies) (r r' : Draft × List Char) : Prop :=
  r.1.view d.view = r'.1.view d.view' ∧ d.Fresh r.2 r'.2

/-- The same entry is read, but for secrets. -/
lemma Fresh.reads_readEntry (here : d.Fresh s s') (same : draft.view d.view = draft'.view d.view') :
    d.Reads d.SameDraft (readEntry draft s) (readEntry draft' s') := by
  refine here.reads_readKeys.commit.bind fun r r' dotted => ?_
  obtain ⟨⟨path, key⟩, rest⟩ := r
  obtain ⟨⟨path', key'⟩, rest'⟩ := r'
  obtain ⟨paths, keys, behind⟩ := dotted
  refine (behind.reads_readAssigned (follows_readValue d _)).bind fun r r' assigned => ?_
  obtain ⟨value, rest⟩ := r
  obtain ⟨value', rest'⟩ := r'
  obtain ⟨values, after⟩ := assigned
  refine after.reads_finishLine.bind fun rest rest' fresh => ?_
  have added := draft.addEntry_view (v := d.view) path key value
  dsimp only at paths keys values
  have name : (d.view.key key).name = (d.view'.key key').name := congrArg Key.name keys
  change value.view d.view (key.name == d.view.secret) = _ at values
  rw [View.key_name, View.key_name] at name
  rw [same, paths, keys, values, name] at added
  have added := added.symm.trans (draft'.addEntry_view path' key' value')
  generalize draft.addEntry path key value = result at added ⊢
  generalize draft'.addEntry path' key' value' = result' at added ⊢
  cases Agree.of_map_eq added with
  | error same => exact same ▸ here.level.because
  | ok same => exact .ok ⟨same, fresh⟩

/-- Brackets close a header in both documents or in neither. -/
lemma Behind.reads_closeHeader {name : String} (here : d.Behind name s s') {brackets : String}
    (closing : brackets = "]" ∨ brackets = "]]") :
    d.Reads d.Open (closeHeader brackets s) (closeHeader brackets s') := by
  have level := here.level
  have begins (cs : List Char) : brackets.toList.isPrefixOf (brackets.toList ++ cs) = true :=
    List.isPrefixOf_iff_prefix.mpr (List.prefix_append _ _)
  have none {cs : List Char} (other : ∀ rest, cs ≠ brackets.toList ++ rest) :
      closeHeader brackets cs = Halt.fail cs none ["`.`", "`" ++ brackets ++ "`"] := by
    rw [closeHeader, if_neg]
    intro begins
    obtain ⟨rest, rfl⟩ := List.isPrefixOf_iff_prefix.mp begins
    exact other rest rfl
  obtain ⟨past, there, -⟩ | ⟨q, quote, -, first, first'⟩ := here
  · have ordinary : brackets.toList.all isOrdinary = true := by
      obtain rfl | rfl := closing <;> decide
    obtain ⟨t, t', rfl, rfl, after⟩ | ⟨other, other'⟩ := Open.begins_or ⟨past, there⟩ brackets.toList ordinary
    · rw [closeHeader, closeHeader, if_pos (begins t), if_pos (begins t'), ← String.length_toList,
        List.drop_left, List.drop_left]
      exact .ok after
    · rw [none other, none other']
      exact level.fail
  · have other {cs : List Char} (first : cs.head? = some q) (rest : List Char) :
        cs ≠ brackets.toList ++ rest := by
      rintro rfl
      obtain rfl | rfl := closing <;> obtain rfl | rfl := quote <;> cases first
    rw [none (other first), none (other first')]
    exact level.fail

/-- The same table is opened by what stands in the brackets of a header. -/
lemma Fresh.reads_readHeaderBody {start start' : List Char} (begin' : d.Open start start')
    (here : d.Fresh s s') (same : draft.view d.view = draft'.view d.view') (repeated : Bool)
    {brackets : String} (closing : brackets = "]" ∨ brackets = "]]") :
    d.Reads d.SameDraft (readHeaderBody draft start repeated brackets s)
      (readHeaderBody draft' start' repeated brackets s') := by
  refine here.reads_readKeys.commit.bind fun r r' dotted => ?_
  obtain ⟨⟨path, key⟩, rest⟩ := r
  obtain ⟨⟨path', key'⟩, rest'⟩ := r'
  obtain ⟨paths, keys, behind⟩ := dotted
  refine (behind.reads_closeHeader closing).bind fun after after' place => ?_
  refine place.reads_finishLine.bind fun rest rest' fresh => ?_
  obtain ⟨past, at'⟩ := id begin'
  have whole : (path ++ [key]).map d.view.key = (path' ++ [key']).map d.view'.key := by
    rw [List.map_append, List.map_append, List.map_singleton, List.map_singleton, paths, keys]
  have opened := draft.openTable_view (v := d.view) repeated (path ++ [key]) (.between start after)
  rw [same, whole, at'.span_eq after after', Draft.openTable_view] at opened
  generalize draft.openTable repeated (path ++ [key]) (.between start after) = result at opened ⊢
  generalize draft'.openTable repeated (path' ++ [key']) (.between start' after') = result' at opened ⊢
  cases Agree.of_map_eq opened.symm with
  | error same => exact same ▸ begin'.level.because
  | ok same => exact .ok ⟨same, fresh⟩

/-- A single bracket opens a table. -/
lemma readHeader_single {cs : List Char} {c : Char} (single : c ≠ '[') :
    readHeader draft ('[' :: c :: cs) =
      labelled headerLabel (readHeaderBody draft ('[' :: c :: cs) false "]" (c :: cs)) := by
  rw [readHeader]
  exact single

/-- The same header is read. -/
lemma Open.reads_readHeader (here : d.Open ('[' :: s) ('[' :: s'))
    (same : draft.view d.view = draft'.view d.view') :
    d.Reads d.SameDraft (readHeader draft ('[' :: s)) (readHeader draft' ('[' :: s')) := by
  have fresh : d.Fresh s s' := here.fresh fun _ => rfl
  cases s with
  | nil =>
    obtain rfl := fresh.isOpen.eq_nil
    exact Reads.labelled here.level.fail
  | cons c s =>
    have inside := fresh
    obtain ⟨t', rfl, -⟩ := fresh.isOpen.cons
    by_cases double : c = '['
    case pos =>
      subst double
      have fresh : d.Fresh s t' := inside.isOpen.fresh fun _ => rfl
      exact (fresh.reads_readHeaderBody here same true (.inr rfl)).labelled
    case neg =>
      rw [readHeader_single double, readHeader_single double]
      exact (inside.reads_readHeaderBody here same false (.inl rfl)).labelled

end Copies

/-! ## Lines -/

section
variable {fuel : Nat} {cs rest : List Char} {c : Char}

/-- An empty rest changes nothing. -/
lemma readLines_nil (fuel : Nat) : readLines fuel draft [] = .ok draft := by
  cases fuel <;> rfl

/-- A line with a comment alone is skipped. -/
lemma readLines_comment (start : skipBlanks cs = '#' :: rest) :
    readLines (fuel + 1) draft cs =
      match lineEnd? (rest.dropWhile isCommentChar) with
      | some after => readLines fuel draft after
      | none => Halt.fail (rest.dropWhile isCommentChar) none [] := by
  cases found : lineEnd? (rest.dropWhile isCommentChar) with
  | none => simp only [readLines, start, found]
  | some after => simp only [readLines, start, found]

/-- A line that is neither empty nor a comment alone. -/
def readLine (draft : Draft) (cs : List Char) : Except Halt (Draft × List Char) :=
  if cs.head? = some '[' then readHeader draft cs else readEntry draft cs

/-- Any other line is skipped if it is empty, and read if it is not. -/
lemma readLines_other (start : skipBlanks cs = c :: rest) (sharp : c ≠ '#') :
    readLines (fuel + 1) draft cs =
      match newline? (c :: rest) with
      | some after => readLines fuel draft after
      | none =>
        if c = '\r' then Halt.fail (c :: rest) none []
        else (readLine draft (c :: rest)).bind fun (draft, after) => readLines fuel draft after := by
  simp only [readLines, start]
  by_cases lineFeed : c = '\n'
  case pos => subst lineFeed; rfl
  by_cases both : c = '\r' ∧ rest.head? = some '\n'
  case pos =>
    obtain ⟨rfl, next⟩ := both
    obtain ⟨rest, rfl⟩ := List.head?_eq_some_iff.mp next
    rfl
  rw [newline?_none lineFeed (fun e next => both ⟨e, next⟩)]
  split
  case h_1 e => cases e
  case h_2 e => exact absurd (List.cons.inj e).1 sharp
  case h_3 e => exact absurd (List.cons.inj e).1 lineFeed
  case h_4 e => exact absurd ⟨(List.cons.inj e).1, by rw [(List.cons.inj e).2]; rfl⟩ both
  case h_5 e => rw [if_pos (List.cons.inj e).1, (List.cons.inj e).1, (List.cons.inj e).2]
  case h_6 e =>
    obtain ⟨rfl, rfl⟩ := List.cons.inj e
    dsimp only
    rw [if_neg (by decide), readLine, if_pos (by rfl)]
    cases readHeader draft ('[' :: rest) <;> rfl
  case h_7 other bracket =>
    rw [if_neg fun e => other _ (by rw [e]), readLine,
      if_neg fun e => bracket rest (by rw [Option.some.inj e])]
    cases readEntry draft (c :: rest) <;> rfl

end

/-- A line takes at least one character. -/
lemma readLine_length {cs rest : List Char} {next : Draft} (read : readLine draft cs = .ok (next, rest)) :
    rest.length < cs.length := by
  unfold readLine at read
  split at read
  case isTrue =>
    have body := eq_ok_of_labelled read
    split at body
    case h_1 => exact Nat.lt_succ_of_lt (Nat.lt_succ_of_le (readHeaderBody_suffix body).length_le)
    case h_2 => exact Nat.lt_succ_of_le (readHeaderBody_suffix body).length_le
    case h_3 => cases body
  case isFalse =>
    obtain ⟨⟨⟨path, key⟩, after⟩, keys, read⟩ := exists_of_bind_eq_ok read
    obtain ⟨⟨value, behind⟩, assigned, read⟩ := exists_of_bind_eq_ok read
    obtain ⟨last, finished, read⟩ := exists_of_bind_eq_ok read
    split at read
    case h_1 =>
      cases read
      have less := readKeys_length (eq_ok_of_commit keys)
      have shorter := (readAssigned_suffix readValue_suffix assigned).length_le
      have end' := (finishLine_suffix finished).length_le
      omega
    case h_2 => cases read

namespace Copies

/-- The same line is read, but for secrets. -/
lemma Fresh.reads_readLine (here : d.Fresh s s') (same : draft.view d.view = draft'.view d.view') :
    d.Reads d.SameDraft (readLine draft s) (readLine draft' s') := by
  rw [readLine, readLine, here.isOpen.head?_eq]
  split
  case isTrue bracket =>
    obtain ⟨t, rfl⟩ := List.head?_eq_some_iff.mp bracket
    obtain ⟨t', rfl, -⟩ := here.isOpen.cons
    exact here.isOpen.reads_readHeader same
  case isFalse => exact here.reads_readEntry same

/-- The same lines are read, but for secrets. -/
lemma Fresh.reads_readLines {fuel fuel' : Nat} (here : d.Fresh s s')
    (same : draft.view d.view = draft'.view d.view') (enough : s.length ≤ fuel)
    (enough' : s'.length ≤ fuel') :
    d.Reads (fun next next' => next.view d.view = next'.view d.view') (readLines fuel draft s)
      (readLines fuel' draft' s') := by
  refine fuel_induction (H := d.Fresh)
    (P := fun fuel s fuel' s' => ∀ {draft draft' : Draft}, draft.view d.view = draft'.view d.view' →
      d.Reads (fun next next' => next.view d.view = next'.view d.view') (readLines fuel draft s)
        (readLines fuel' draft' s'))
    (fun _ _ here => here.level) ?nil ?step here enough enough' same
  case nil =>
    intro fuel fuel' here draft draft' same
    rw [readLines_nil, readLines_nil]
    exact .ok same
  case step =>
    intro fuel s fuel' s' here enough enough' ih draft draft' same
    have there := here.skipBlanks
    have less := (skipBlanks_suffix s).length_le
    have less' := (skipBlanks_suffix s').length_le
    generalize start : Toml.skipBlanks s = b at there less
    generalize start' : Toml.skipBlanks s' = b' at there less'
    cases b with
    | nil =>
      obtain rfl := there.isOpen.eq_nil
      simp only [readLines, start, start']
      exact .ok same
    | cons c b =>
      have stay := there
      have level := there.level
      have found := there.isOpen.lineEnd
      obtain ⟨t', rfl, -⟩ := there.isOpen.cons
      simp only [List.length_cons] at less less' found
      by_cases sharp : c = '#'
      case pos =>
        subst sharp
        obtain ⟨past, -, there⟩ := stay
        obtain ⟨_, ⟨⟩, next⟩ := there.cons rfl
        obtain ⟨level, found⟩ := At.commentEnd next
        have shorter := (List.dropWhile_suffix isCommentChar (l := b)).length_le
        have shorter' := (List.dropWhile_suffix isCommentChar (l := t')).length_le
        rw [readLines_comment start, readLines_comment start']
        generalize e : lineEnd? (b.dropWhile isCommentChar) = rest at found ⊢
        generalize e' : lineEnd? (t'.dropWhile isCommentChar) = rest' at found ⊢
        cases found with
        | none => exact level.fail
        | some fresh =>
          have after := (lineEnd?_suffix e).length_le
          have after' := (lineEnd?_suffix e').length_le
          exact ih _ _ fresh (by omega) (by omega) same
      case neg =>
        rw [readLines_other start sharp, readLines_other start' sharp]
        generalize newline? (c :: b) = rest at found ⊢
        generalize newline? (c :: t') = rest' at found ⊢
        cases found with
        | some there => exact ih _ _ there.1.fresh (by omega) (by omega) same
        | none =>
          dsimp only
          split
          case isTrue => exact level.fail
          case isFalse =>
            have line := stay.reads_readLine same
            generalize e : readLine draft (c :: b) = result at line ⊢
            generalize e' : readLine draft' (c :: t') = result' at line ⊢
            cases line with
            | error halts => exact .error halts
            | @ok r r' next =>
              have after := readLine_length e
              have after' := readLine_length e'
              simp only [List.length_cons] at after after'
              exact ih _ _ next.2 (by omega) (by omega) next.1

/-! ## Documents -/

/-- Without a byte order mark there is none to drop. -/
lemma dropByteOrderMark_eq {cs : List Char} (other : ∀ rest, cs ≠ '\uFEFF' :: rest) :
    dropByteOrderMark cs = cs := by
  unfold dropByteOrderMark
  split
  case h_1 => exact absurd rfl (other _)
  case h_2 => rfl

/-- A byte order mark is dropped from both documents. -/
lemma At.fresh_dropByteOrderMark (here : d.At (.plain []) s s') :
    d.Fresh (dropByteOrderMark s) (dropByteOrderMark s') := by
  have fresh : d.Fresh s s' := here.fresh
  obtain ⟨t, t', rfl, rfl, -⟩ | ⟨other, other'⟩ := fresh.isOpen.begins_or ['\uFEFF'] (by decide)
  · exact fresh.isOpen.fresh fun _ => rfl
  · rw [dropByteOrderMark_eq other, dropByteOrderMark_eq other']
    exact fresh

/-- Documents that are alike give root tables that are the same but for secrets, or the same complaint on
lines with the same number. -/
theorem reads_document (d : Copies) :
    Agree (fun fault fault' => d.view.fault fault = d.view'.fault fault')
      (fun root root' => root.view d.view false = root'.view d.view' false)
      (Document.read (String.ofList d.text)) (Document.read (String.ofList d.text')) := by
  have total : d.view.line (octets d.text) = d.view'.line (octets d.text') := d.start.lineOf_eq
  have start : (Draft.start (octets d.text)).view d.view = (Draft.start (octets d.text')).view d.view' := by
    simp [Draft.start, Draft.view, Draft.isHidden, Node.emptyTable, View.span, total]
  have size (cs : List Char) : (dropByteOrderMark cs).length ≤ cs.length + 1 := by
    unfold dropByteOrderMark
    split
    case h_1 => simp only [List.length_cons]; omega
    case h_2 => omega
  have lines := d.start.fresh_dropByteOrderMark.reads_readLines start (size d.text) (size d.text')
  simp only [Document.read, String.toList_ofList]
  generalize readLines (d.text.length + 1) (.start (octets d.text)) (dropByteOrderMark d.text) = result
    at lines ⊢
  generalize readLines (d.text'.length + 1) (.start (octets d.text')) (dropByteOrderMark d.text') = result'
    at lines ⊢
  cases lines with
  | @error h h' halts =>
    obtain ⟨mode, place⟩ := halts.place
    refine .error ?_
    rw [View.fault, View.fault]
    exact congrArg₂ Fault.mk (place.span_eq _ _) halts.complaint
  | @ok draft draft' same =>
    have closed := draft.close_view (v := d.view)
    rw [same, Draft.close_view] at closed
    dsimp only
    generalize draft.close = root at closed ⊢
    generalize draft'.close = root' at closed ⊢
    cases Agree.of_map_eq closed.symm with
    | ok same => exact .ok same
    | @error cause cause' same =>
      subst same
      obtain ⟨mode, place⟩ := (Fresh.nil d).level
      refine .error ?_
      rw [View.fault, View.fault]
      exact congrArg (Fault.mk · _) (place.span_eq _ _)

end Copies
end RecipientCallout.Toml
