import RecipientCallout.Proofs.Callout.Printed

/-!
# Answers read back

What the relay can tell from an output. An `Answer` is a verdict as far as the relay is concerned: it does
not know why an address was rejected, nor which line ends there were in a text. The relay reads an answer
off the lines of an output (`Answer.ofLines?`), and gets that of the verdict (`read?_render`).

The headline `render_answers` adds the exit codes: no two verdicts with different answers look alike.
-/

namespace RecipientCallout
open RecipientCallout.Text

/-- What a verdict tells the relay. Both kinds of rejection are one. -/
inductive Answer where
  | accepted (mailbox : String)
  | rejected (address : String)
  | temporaryFailure (reason : String)
  | version
  | usageError (reason : String)
  deriving DecidableEq, Repr

namespace Answer
open RecipientCallout.Response (singleLine)

/-- The answer that a verdict amounts to, with spaces for the line ends in its text. -/
def ofVerdict : Verdict → Answer
  | .accepted mailbox => .accepted (singleLine mailbox)
  | .malformed address | .unknownMailbox address => .rejected (singleLine address)
  | .temporaryFailure reason => .temporaryFailure (singleLine reason)
  | .versionQuery => .version
  | .usageError reason => .usageError (singleLine reason)

/-- The exit code with an answer. -/
def exitCode (mode : AcceptMode) : Answer → Nat
  | .accepted _ => mode.exitCode
  | .rejected _ => exitRejected
  | .temporaryFailure _ | .usageError _ => exitTemporary
  | .version => exitAccepted

/-- The lines of an answer. -/
def lines : Answer → List String
  | .accepted mailbox => ["", mailbox]
  | .rejected address => [tokenInvalid, tokenInvalid ++ ": " ++ address]
  | .temporaryFailure reason => [tokenTemporary, reason]
  | .version => [RecipientCallout.version]
  | .usageError reason => [tokenUsage, reason]

/-- The answer that lines stand for. -/
def ofLines? : List String → Option Answer
  | [first] => if first = RecipientCallout.version then some .version else none
  | [first, second] =>
    if first = "" then some (.accepted second)
    else if first = tokenInvalid then
      some (.rejected (String.ofList (second.toList.drop (tokenInvalid ++ ": ").length)))
    else if first = tokenTemporary then some (.temporaryFailure second)
    else if first = tokenUsage then some (.usageError second)
    else none
  | _ => none

/-- The answer that an output stands for: its lines are what stands in front of each line feed. -/
def read? (output : String) : Option Answer :=
  ofLines? ((splitOn '\n' output.toList).dropLast.map String.ofList)

/-- An answer is told by its lines. -/
lemma ofLines?_lines (answer : Answer) : ofLines? answer.lines = some answer := by
  cases answer with
  | accepted mailbox => simp [lines, ofLines?]
  | rejected address =>
    have behind : (tokenInvalid ++ ": " ++ address).toList.drop (tokenInvalid ++ ": ").length =
        address.toList := by
      rw [String.toList_append, ← String.length_toList, List.drop_left]
    simp only [lines, ofLines?, behind, String.ofList_toList]
    rfl
  | temporaryFailure reason => rfl
  | version => rfl
  | usageError reason => rfl

end Answer

namespace Response

/-- The response to a verdict is that to its answer. -/
lemma ofVerdict_eq (mode : AcceptMode) (verdict : Verdict) :
    ofVerdict mode verdict =
      ⟨(Answer.ofVerdict verdict).exitCode mode, (Answer.ofVerdict verdict).lines⟩ := by
  have detail (address : String) : singleLine (tokenInvalid ++ ": " ++ address) =
      tokenInvalid ++ ": " ++ singleLine address := singleLine_append (tokenInvalid ++ ": ") address
  cases verdict with
  | accepted mailbox => rfl
  | malformed address =>
    exact congrArg (fun line => Response.mk exitRejected [tokenInvalid, line]) (detail address)
  | unknownMailbox address =>
    exact congrArg (fun line => Response.mk exitRejected [tokenInvalid, line]) (detail address)
  | temporaryFailure reason => rfl
  | versionQuery => rfl
  | usageError reason => rfl

/-- The texts of a verdict are kept on lines of their own. -/
lemma exists_texts (mode : AcceptMode) (verdict : Verdict) :
    ∃ code texts, ofVerdict mode verdict = ofLines code texts := by
  cases verdict <;> exact ⟨_, _, rfl⟩

/-- The output of a response is its lines. -/
lemma prints_ofVerdict (mode : AcceptMode) (verdict : Verdict) :
    Prints (ofVerdict mode verdict).render (ofVerdict mode verdict).lines := by
  obtain ⟨code, texts, e⟩ := exists_texts mode verdict
  rw [e]
  exact prints_ofLines code texts

/-- No line of a response has a line end in it. -/
lemma lineEnd_notMem_ofVerdict {c : Char} (ends : c = '\r' ∨ c = '\n') {mode verdict line}
    (mem : line ∈ (ofVerdict mode verdict).lines) : c ∉ line.toList := by
  obtain ⟨code, texts, e⟩ := exists_texts mode verdict
  rw [e] at mem
  obtain ⟨text, -, rfl⟩ := List.mem_map.mp mem
  exact lineEnd_notMem ends text

/-- The relay gets the answer of a verdict from the output alone. -/
lemma read?_render (mode : AcceptMode) (verdict : Verdict) :
    Answer.read? (ofVerdict mode verdict).render = some (Answer.ofVerdict verdict) := by
  have printed := prints_ofVerdict mode verdict
  rw [Answer.read?, printed, List.dropLast_concat, List.map_map, ofVerdict_eq]
  simp only [Function.comp_def, String.ofList_toList, List.map_id']
  exact Answer.ofLines?_lines _

/-- Only acceptances for elsewhere have this code. -/
lemma exitCode_eq_one_iff (mode : AcceptMode) (verdict : Verdict) :
    (ofVerdict mode verdict).exitCode = 1 ↔
      mode = .elsewhere ∧ ∃ mailbox, verdict = .accepted mailbox := by
  cases verdict with
  | accepted mailbox =>
    cases mode <;> simp [ofVerdict, ofLines, AcceptMode.exitCode, exitAccepted, exitAcceptedElsewhere]
  | _ => simp [ofVerdict, ofLines, exitAccepted, exitRejected, exitTemporary]

/-- Only temporary verdicts have this code. -/
lemma exitCode_eq_three_iff (mode : AcceptMode) (verdict : Verdict) :
    (ofVerdict mode verdict).exitCode = 3 ↔ verdict.isTemporary = true := by
  cases verdict with
  | accepted mailbox =>
    cases mode <;> simp [ofVerdict, ofLines, AcceptMode.exitCode, exitAccepted, exitAcceptedElsewhere,
      Verdict.isTemporary]
  | _ =>
    simp [ofVerdict, ofLines, exitAccepted, exitRejected, exitTemporary, Verdict.isTemporary]

/-- **Answers.** The output of a response falls at its line feeds into just the lines of the response, one
for the version and two for any other verdict, none of which has a line end in it. From the output the
relay can tell the answer, and responses with the same exit code and output are those to verdicts with the
same answer. The exit code is 1 exactly for a mailbox elsewhere, and 3 exactly for what is temporary. -/
theorem render_answers (mode : AcceptMode) (verdict other : Verdict) :
    let response := ofVerdict mode verdict
    let response' := ofVerdict mode other
    Prints response.render response.lines ∧
    response.lines.length = (if verdict = .versionQuery then 1 else 2) ∧
    (∀ line ∈ response.lines, '\r' ∉ line.toList ∧ '\n' ∉ line.toList) ∧
    Answer.read? response.render = some (Answer.ofVerdict verdict) ∧
    (response.exitCode = response'.exitCode ∧ response.render = response'.render ↔
      Answer.ofVerdict verdict = Answer.ofVerdict other) ∧
    (response.exitCode = 1 ↔ mode = .elsewhere ∧ ∃ mailbox, verdict = .accepted mailbox) ∧
    (response.exitCode = 3 ↔ verdict.isTemporary = true) := by
  intro response response'
  refine ⟨prints_ofVerdict mode verdict, ?_, fun line mem => ?_, read?_render mode verdict, ?_,
    exitCode_eq_one_iff mode verdict, exitCode_eq_three_iff mode verdict⟩
  · cases verdict <;> rfl
  · exact ⟨lineEnd_notMem_ofVerdict (.inl rfl) mem, lineEnd_notMem_ofVerdict (.inr rfl) mem⟩
  · constructor
    · rintro ⟨-, same⟩
      have read := read?_render mode verdict
      rw [same, read?_render mode other] at read
      exact (Option.some.inj read).symm
    · intro same
      simp only [response, response', ofVerdict_eq, same, and_self]

/-- A reason on two lines, which looks like a rejection, and the rejection itself. -/
theorem render_answers_forged :
    let forged : Verdict := .temporaryFailure "no\r\ninvalid mailbox: a@d.example"
    (ofVerdict .elsewhere forged).lines = ["temporary error", "no  invalid mailbox: a@d.example"] ∧
    ('\r' ∉ "no  invalid mailbox: a@d.example".toList ∧
      '\n' ∉ "no  invalid mailbox: a@d.example".toList) ∧
    Answer.read? (ofVerdict .elsewhere forged).render =
      some (.temporaryFailure "no  invalid mailbox: a@d.example") ∧
    ¬ ((ofVerdict .elsewhere forged).exitCode =
        (ofVerdict .elsewhere (.malformed "a@d.example")).exitCode ∧
      (ofVerdict .elsewhere forged).render =
        (ofVerdict .elsewhere (.malformed "a@d.example")).render) := by
  intro forged
  have lines : (ofVerdict .elsewhere forged).lines =
      ["temporary error", "no  invalid mailbox: a@d.example"] := by decide +kernel
  have mem : "no  invalid mailbox: a@d.example" ∈ (ofVerdict .elsewhere forged).lines := by
    rw [lines]
    exact List.mem_cons_of_mem _ List.mem_cons_self
  obtain ⟨-, -, single, read, same, -⟩ :=
    render_answers .elsewhere forged (.malformed "a@d.example")
  refine ⟨lines, single _ mem, read.trans (by decide +kernel), fun alike => ?_⟩
  exact absurd (same.mp alike) (by decide +kernel)

end Response
end RecipientCallout
