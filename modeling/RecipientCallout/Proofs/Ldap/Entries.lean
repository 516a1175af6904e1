import Mathlib.Data.List.Induction
import RecipientCallout.Ldap.Client
import RecipientCallout.Proofs.Directory.Attributes
import RecipientCallout.Proofs.Text.Octets

/-!
# What a client has of entries

A server sends the values of an attribute as octets, and may send attributes of one name several times. What a
client should have of that is said without its decoder: texts stand for the octets that encode them, and an
attribute has the texts that were sent last under its name (`SentEntry.Tells`). The client has just that,
whatever the order in which it keeps the attributes (`SentEntry.shows_received`).
-/

namespace RecipientCallout.Ldap
open RecipientCallout.Directory (Arrangement Entry)

/-! ## Values -/

/-- An octet sequence is read as a text exactly if it encodes that text. -/
lemma fromUTF8?_eq_some_iff {octets : ByteArray} {text : String} :
    String.fromUTF8? octets = some text ↔ octets = text.toUTF8 := by
  constructor
  · intro read
    exact (Text.RawText.toByteArray_of_fromUTF8? read).symm
  · rintro rfl
    exact dif_pos text.isValidUTF8

/-- Values are read as texts exactly if they encode these texts. -/
lemma textValues?_eq_some_iff {values : List ByteArray} {texts : List String} :
    textValues? values = some texts ↔ values = texts.map String.toUTF8 := by
  unfold textValues?
  induction values generalizing texts with
  | nil => cases texts <;> simp
  | cons value values ih =>
    cases texts with
    | nil => simp [List.mapM_cons, Option.bind_eq_some_iff]
    | cons text texts =>
      have read := @fromUTF8?_eq_some_iff value text
      rw [String.toUTF8_eq_toByteArray] at read
      simp [List.mapM_cons, Option.bind_eq_some_iff, ← ih, read]

/-! ## Attributes -/

/-- Whether a server tells texts under a name: an attribute of this name has the octets of these texts as its
values, and all later ones of the name are damaged. -/
def SentEntry.Tells (sent : SentEntry) (name : String) (texts : List String) : Prop :=
  ∃ before later, sent.attributes = before ++ (name, texts.map String.toUTF8) :: later ∧
    ∀ values, (name, values) ∈ later → ∀ others : List String, values ≠ others.map String.toUTF8

/-- Whether an entry is the one that was sent: it has the texts that are told, each under its name, and no
others. -/
structure SentEntry.Shows (sent : SentEntry) (entry : Entry) : Prop where
  dn : entry.dn = sent.dn
  nodup : (entry.attributes.map Prod.fst).Nodup
  values : ∀ name texts, (name, texts) ∈ entry.attributes ↔ sent.Tells name texts

namespace SentEntry
variable {dn name other : String} {values : List ByteArray} {texts : List String}
  {attributes : List (String × List ByteArray)}

/-- A last attribute tells its own texts, and leaves what is told before unless it has the same name and is
text. -/
lemma tells_append :
    Tells ⟨dn, attributes ++ [(name, values)]⟩ other texts ↔
      (name = other ∧ values = texts.map String.toUTF8) ∨
        (name = other → ∀ others : List String, values ≠ others.map String.toUTF8) ∧
          Tells ⟨dn, attributes⟩ other texts := by
  constructor
  · rintro ⟨before, later, split, damaged⟩
    obtain rfl | ⟨later, last, rfl⟩ := List.eq_nil_or_concat later
    · obtain ⟨-, e⟩ := List.append_inj' split rfl
      cases e
      exact .inl ⟨rfl, rfl⟩
    · rw [List.concat_eq_append, ← List.cons_append, ← List.append_assoc] at split
      obtain ⟨front, e⟩ := List.append_inj' split rfl
      cases e
      refine .inr ⟨?_, before, later, front, fun values mem => damaged values (by simp [mem])⟩
      rintro rfl
      exact damaged values (by simp)
  · rintro (⟨rfl, rfl⟩ | ⟨damaged, before, later, split, damaged'⟩)
    · exact ⟨attributes, [], rfl, nofun⟩
    · refine ⟨before, later ++ [(name, values)], ?_, ?_⟩
      · rw [show attributes = _ from split, List.append_assoc, List.cons_append]
      · intro values' mem
        obtain mem | mem := List.mem_append.mp mem
        · exact damaged' values' mem
        · cases List.mem_singleton.mp mem
          exact damaged rfl

/-- An attribute with a damaged value is left out. -/
lemma gathered_damaged (damaged : textValues? values = none) :
    gathered ⟨dn, attributes ++ [(name, values)]⟩ = gathered ⟨dn, attributes⟩ := by
  simp [gathered, damaged]

/-- An attribute that is text takes the place of an earlier one of its name. -/
lemma gathered_texts (read : textValues? values = some texts) :
    gathered ⟨dn, attributes ++ [(name, values)]⟩ =
      (gathered ⟨dn, attributes⟩).replace name texts := by
  simp [gathered, read]

/-- A client gathers each entry as it was sent. -/
lemma shows_gathered (sent : SentEntry) : sent.Shows sent.gathered := by
  obtain ⟨dn, attributes⟩ := sent
  -- attributes are taken over one by one, so the induction takes the last of them off
  induction attributes using List.reverseRecOn with
  | nil => exact ⟨rfl, List.nodup_nil, fun name texts => by simp [gathered, Entry.new, Tells]⟩
  | append_singleton attributes last ih =>
    obtain ⟨name, values⟩ := last
    obtain ⟨same, nodup, told⟩ := ih
    cases read : textValues? values with
    | none =>
      have damaged : ∀ others : List String, values ≠ others.map String.toUTF8 := by
        intro others e
        rw [textValues?_eq_some_iff.mpr e] at read
        cases read
      rw [gathered_damaged read]
      refine ⟨same, nodup, fun other texts => ?_⟩
      rw [told, tells_append]
      simp [damaged]
    | some texts =>
      have nodup' : (((gathered ⟨dn, attributes⟩).replace name texts).attributes.map Prod.fst).Nodup :=
        Entry.nodup_setIn nodup
      rw [gathered_texts read]
      refine ⟨same, nodup', fun other texts' => ?_⟩
      rw [Entry.mem_iff_lookup nodup', Entry.replace, Entry.lookup_setIn, tells_append,
        ← textValues?_eq_some_iff, read]
      by_cases e : other = name
      case pos =>
        subst e
        rw [if_pos rfl]
        constructor
        · intro taken
          exact .inl ⟨rfl, taken⟩
        · rintro (⟨-, taken⟩ | ⟨damaged, -⟩)
          · exact taken
          · exact absurd (textValues?_eq_some_iff.mp read) (damaged rfl texts)
      case neg =>
        rw [if_neg e, ← Entry.mem_iff_lookup nodup, told]
        constructor
        · intro kept
          exact .inr ⟨fun same => absurd same.symm e, kept⟩
        · rintro (⟨same, -⟩ | ⟨-, kept⟩)
          · exact absurd same.symm e
          · exact kept

end SentEntry

/-- An entry shows what was sent in whatever order its attributes are kept. -/
lemma SentEntry.Shows.arranged {sent : SentEntry} {entry : Entry} (shows : sent.Shows entry)
    (arrangement : Arrangement) : sent.Shows (entry.arranged arrangement) where
  dn := shows.dn
  nodup := ((arrangement.perm entry.attributes).map Prod.fst).nodup_iff.mpr shows.nodup
  values name texts := ((arrangement.perm entry.attributes).mem_iff).trans (shows.values name texts)

/-- A client has each entry as it was sent. -/
lemma SentEntry.shows_received (sent : SentEntry) (arrangement : Arrangement) :
    sent.Shows (sent.received arrangement) :=
  sent.shows_gathered.arranged arrangement

end RecipientCallout.Ldap
