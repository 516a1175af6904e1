import RecipientCallout.Proofs.Callout.Session
import RecipientCallout.Proofs.Filter.Filling

/-!
# Filters of different values

Filling a template loses nothing: from the filter the value can be told again. An escaped value is read
back by the reader of filters (`escape_inj`), and how long it is shows in the length of the filter, as
each question mark adds the same to it (`length_expand`); so it is found at the first question mark.

The headline `Template.fill_distinct` says what a filled template is, and that no two addresses are
searched by the same filter.
-/

namespace RecipientCallout.Filter

/-- An escaped value is read back as its octets. -/
lemma readValue?_escape (v : String) :
    readValue? octetSymbols (escape v.toList) = some (octetsOf v, []) := by
  have stop : ∀ c ∈ ([] : List Char).head?, c = ')' ∨ c = '*' := nofun
  have read := readValue?_complete (ValueText.escape v) stop
  rwa [List.append_nil] at read

/-- A text is told by its octets. -/
lemma octetsOf_inj {v w : String} (same : octetsOf v = octetsOf w) : v = w := by
  unfold octetsOf at same
  exact String.toByteArray_inj.mp (ByteArray.ext (Array.toList_inj.mp same))

/-- No two values are escaped alike. -/
lemma escape_inj {v w : String} (same : escape v.toList = escape w.toList) : v = w := by
  have read := readValue?_escape v
  rw [same, readValue?_escape w] at read
  exact octetsOf_inj (congrArg Prod.fst (Option.some.inj read)).symm

/-- Each question mark makes way for an escaped value. -/
lemma length_expand (v : String) (cs : List Char) :
    (expand v cs).length + cs.count slot = cs.length + cs.count slot * (escape v.toList).length := by
  induction cs with
  | nil => simp [expand]
  | cons c cs ih =>
    by_cases h : c = slot
    · subst h
      rw [expand_slot, List.length_append, List.count_cons_self, List.length_cons, Nat.succ_mul]
      omega
    · rw [expand_cons v h, List.length_cons, List.length_cons, List.count_cons_of_ne h]
      omega

/-- In a text with a question mark, an escaped value shows. -/
lemma escape_eq_of_expand {v w : String} {cs : List Char} (mem : slot ∈ cs)
    (same : expand v cs = expand w cs) : escape v.toList = escape w.toList := by
  have counted : cs.count slot * (escape v.toList).length = cs.count slot * (escape w.toList).length := by
    have left := length_expand v cs
    have right := length_expand w cs
    rw [same] at left
    omega
  have length : (escape v.toList).length = (escape w.toList).length :=
    Nat.eq_of_mul_eq_mul_left (List.count_pos_iff.mpr mem) counted
  -- the values stand behind the same text, the one before the first question mark
  obtain ⟨before, behind, rfl, notMem⟩ := List.eq_append_cons_of_mem mem
  rw [expand_append, expand_append, expand_of_notMem v notMem, expand_of_notMem w notMem,
    expand_slot, expand_slot] at same
  exact (List.append_inj (List.append_cancel_left same) length).1

namespace Template

/-- No two values fill a template alike. -/
lemma fill_inj {t : Template} {v w : String} (same : t.fill v = t.fill w) : v = w := by
  rw [fill_eq, fill_eq, String.ofList_inj] at same
  exact escape_inj (escape_eq_of_expand t.slot_mem same)

end Template
end RecipientCallout.Filter

namespace RecipientCallout.Callout
open RecipientCallout.Directory (Call Event Service)

variable {callout : Callout} {recipient : Recipient} {σ : Type}

/-- The filter that one of the two searches for a recipient is made by. -/
inductive Searches (callout : Callout) (recipient : Recipient) : Nat → String → Prop where
  | users : Searches callout recipient 2 (callout.userTemplate.fill (callout.proxyAddress recipient))
  | folders : Searches callout recipient 3 (callout.folderTemplate.fill (callout.proxyAddress recipient))

/-- A search in one of the sequences of calls is the one for users or the one for folders. -/
lemma searches_of_sequences {calls : List Call} (mem : calls ∈ callout.sequences recipient)
    {n base filter attributes} (search : calls[n]? = some (.search base filter attributes)) :
    callout.Searches recipient n filter := by
  simp only [sequences, List.mem_cons, List.not_mem_nil, or_false] at mem
  rcases mem with rfl | rfl | rfl | rfl
  · rcases n with _ | n <;> cases search
  · rcases n with _ | _ | _ | n <;> cases search
  · rcases n with _ | _ | _ | _ | n <;> cases search
    exact .users
  · rcases n with _ | _ | _ | _ | _ | n <;> cases search
    · exact .users
    · exact .folders

/-- A search of a run is one for the recipient that the address stands for. -/
lemma searches_of_calls {address context} {service : Service σ} {state n base filter attributes}
    (search : (callout.calls service (.verify address context) state)[n]? =
      some (.search base filter attributes)) :
    ∃ recipient : Recipient, recipient.address = address ∧ callout.Searches recipient n filter := by
  cases reached : callout.domain.recipient? address with
  | none =>
    rw [calls, events, run_unreached reached] at search
    cases search
  | some recipient =>
    refine ⟨recipient, AcceptedDomain.address_of_recipient? reached, ?_⟩
    exact searches_of_sequences (run_course reached context service state).calls_mem search

/-- An address is told by the value that entries are searched by. -/
lemma proxyAddress_inj {recipient' : Recipient}
    (same : callout.proxyAddress recipient = callout.proxyAddress recipient') :
    recipient.address = recipient'.address :=
  String.append_right_inj _ |>.mp same

/-- Of two recipients, the same search is made by different filters. -/
lemma Searches.address_inj {recipient' : Recipient} {n filter filter'}
    (search : callout.Searches recipient n filter) (search' : callout.Searches recipient' n filter')
    (same : filter = filter') : recipient.address = recipient'.address := by
  cases search with
  | users =>
    cases search'
    exact proxyAddress_inj (Filter.Template.fill_inj same)
  | folders =>
    cases search'
    exact proxyAddress_inj (Filter.Template.fill_inj same)

end RecipientCallout.Callout

namespace RecipientCallout.Filter
open RecipientCallout.Callout (sample)
open RecipientCallout.Directory (Call Prepared Service)

variable {σ τ : Type}

/-- **Filled templates.** A text is a template exactly if it has a question mark. Filling it puts the
escaped value in the place of each question mark and keeps everything else, so that no two values lead to
the same filter. Hence, whatever the directories do, the same search of two runs of a callout is made by
the same filter only if the runs are on the same address. -/
theorem Template.fill_distinct (text : String) (callout : Callout) (service : Service σ) (s : σ)
    (service' : Service τ) (s' : τ) :
    (Template.parse? text = none ↔ slot ∉ text.toList) ∧
    (∀ t, Template.parse? text = some t →
      (∀ v, t.fill v = String.ofList (expand v text.toList)) ∧
      ∀ v w, t.fill v = t.fill w → v = w) ∧
    ∀ address context address' context' (n : Nat) base base' filter attributes attributes',
      (callout.calls service (.verify address context) s)[n]? =
        some (Call.search base filter attributes) →
      (callout.calls service' (.verify address' context') s')[n]? =
        some (Call.search base' filter attributes') →
      address = address' := by
  refine ⟨Template.parse?_eq_none, ?_, ?_⟩
  · intro t template
    refine ⟨fun v => ?_, fun v w => Template.fill_inj⟩
    rw [Template.fill_eq, Template.source_of_parse? template]
  · intro address context address' context' n base base' filter attributes attributes' search search'
    obtain ⟨recipient, rfl, made⟩ := Callout.searches_of_calls search
    obtain ⟨recipient', rfl, made'⟩ := Callout.searches_of_calls search'
    exact made.address_inj made' rfl

/-- A template with two question marks, two values of which one is the other escaped, and the searches for
two users. -/
theorem Template.fill_distinct_repeated :
    (∃ t, Template.parse? "(|(mail=?)(proxyAddresses=?))" = some t ∧
      t.fill "?*" = "(|(mail=?\\2a)(proxyAddresses=?\\2a))" ∧
      t.fill "*" ≠ t.fill "\\2a") ∧
    (sample.calls Prepared.empty.service (.verify "jane@d.example" []) 0)[2]? =
      some (.search "ou=u" "(u=smtp:jane@d.example)" ["mail"]) ∧
    (sample.calls Prepared.empty.service (.verify "joan@d.example" []) 0)[2]? ≠
      some (.search "ou=u" "(u=smtp:jane@d.example)" ["mail"]) := by
  obtain ⟨t, template⟩ := Option.isSome_iff_exists.mp
    (by decide +kernel : (Template.parse? "(|(mail=?)(proxyAddresses=?))").isSome)
  have told := Template.fill_distinct "(|(mail=?)(proxyAddresses=?))" sample Prepared.empty.service 0
    Prepared.empty.service 0
  obtain ⟨filled, distinct⟩ := told.2.1 t template
  have search : (sample.calls Prepared.empty.service (.verify "jane@d.example" []) 0)[2]? =
      some (.search "ou=u" "(u=smtp:jane@d.example)" ["mail"]) := by decide +kernel
  refine ⟨⟨t, template, ?_, ?_⟩, search, ?_⟩
  · rw [filled]
    decide +kernel
  · intro same
    exact absurd (distinct _ _ same) (by decide)
  · intro other
    exact absurd (told.2.2 _ _ _ _ _ _ _ _ _ _ search other) (by decide)

end RecipientCallout.Filter
