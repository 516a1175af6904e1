import Mathlib.Data.List.Induction
import Mathlib.Tactic.Lemma
import RecipientCallout.Directory.Entry

/-!
# Attributes of entries

What an entry has under its names. Values that are set replace those that were there (`lookup_setIn`), and
to append values is to set them behind those that were there (`appendTo_eq_setIn`), so that no name comes
twice. An entry to which values were added one by one has under each name the values that were added under
it, in order (`Gathers`).

The headline `firstValue?_earliest` tells the first value for a name by the additions alone, although the
attributes stand in no order that can be relied on and several of them may have names that differ in case.
-/

namespace RecipientCallout.Directory

/-! ## Names -/

/-- Names are the same if they are so in small letters. -/
lemma sameName_iff {a b : String} :
    sameName a b = true ↔ a.toList.map Char.toLower = b.toList.map Char.toLower :=
  beq_iff_eq

/-- Names that are the same are so to all others. -/
lemma sameName_congr {a b : String} (same : sameName a b = true) (other : String) :
    sameName other a = sameName other b := by
  rw [sameName, sameName, sameName_iff.mp same]

namespace Entry
variable {name other : String} {values : List String} {attributes : List (String × List String)}

/-! ## Setting and appending -/

/-- Values that are set are found under their name, and what was under other names stays. -/
lemma lookup_setIn (name other : String) (values : List String) (attributes) :
    (setIn name values attributes).lookup other =
      if other = name then some values else attributes.lookup other := by
  induction attributes with
  | nil =>
    rw [setIn, List.lookup_cons]
    by_cases h : other = name
    · simp [h]
    · simp [h, beq_false_of_ne h]
  | cons entry attributes ih =>
    obtain ⟨first, present⟩ := entry
    unfold setIn
    split
    case isTrue e =>
      rw [← e, List.lookup_cons, List.lookup_cons]
      by_cases h : other = first
      · simp [h]
      · simp [h, beq_false_of_ne h]
    case isFalse ne =>
      rw [List.lookup_cons, List.lookup_cons, ih]
      by_cases h : other = first
      · simp [h, ne]
      · simp [beq_false_of_ne h]

/-- Setting values brings no other name than theirs. -/
lemma mem_names_setIn (mem : other ∈ (setIn name values attributes).map Prod.fst) :
    other = name ∨ other ∈ attributes.map Prod.fst := by
  induction attributes with
  | nil => simpa [setIn] using mem
  | cons entry attributes ih =>
    unfold setIn at mem
    split at mem
    case isTrue => exact .inr mem
    case isFalse =>
      rw [List.map_cons, List.mem_cons] at mem ⊢
      obtain e | mem := mem
      · exact .inr (.inl e)
      · exact (ih mem).imp_right .inr

/-- Setting values brings no name twice. -/
lemma nodup_setIn (nodup : (attributes.map Prod.fst).Nodup) :
    ((setIn name values attributes).map Prod.fst).Nodup := by
  induction attributes with
  | nil => simp [setIn]
  | cons entry attributes ih =>
    have distinct := List.nodup_cons.mp nodup
    unfold setIn
    split
    case isTrue => exact nodup
    case isFalse ne =>
      refine List.nodup_cons.mpr ⟨fun mem => ?_, ih distinct.2⟩
      obtain e | mem := mem_names_setIn mem
      · exact ne e
      · exact distinct.1 mem

/-- To append values is to set them behind those that are there. -/
lemma appendTo_eq_setIn (name : String) (values : List String) (attributes) :
    appendTo name values attributes =
      setIn name ((attributes.lookup name).getD [] ++ values) attributes := by
  induction attributes with
  | nil => rfl
  | cons entry attributes ih =>
    obtain ⟨first, present⟩ := entry
    rw [appendTo, setIn, List.lookup_cons]
    split
    case isTrue e => simp [e]
    case isFalse ne => rw [ih, beq_false_of_ne (Ne.symm ne)]

/-- Where no name comes twice, an attribute is what is found under its name. -/
lemma mem_iff_lookup (nodup : (attributes.map Prod.fst).Nodup) :
    (name, values) ∈ attributes ↔ attributes.lookup name = some values := by
  induction attributes with
  | nil => simp
  | cons entry attributes ih =>
    obtain ⟨first, present⟩ := entry
    have distinct := List.nodup_cons.mp nodup
    rw [List.mem_cons, List.lookup_cons, ih distinct.2]
    by_cases e : name = first
    case pos =>
      subst e
      have unique : attributes.lookup name ≠ some values := by
        intro found
        exact distinct.1 (List.mem_map.mpr ⟨(name, values), (ih distinct.2).mpr found, rfl⟩)
      simp [unique, eq_comm]
    case neg => simp [e, beq_false_of_ne e]

/-! ## Values that were added one by one -/

/-- The entry to which values were added one by one, each under the name before it. -/
def ofAdditions (dn : String) (additions : List (String × String)) : Entry :=
  additions.foldl (fun e addition => e.append addition.1 [addition.2]) (new dn)

/-- The values that were added under exactly this name, in order. -/
def valuesUnder (name : String) (additions : List (String × String)) : List String :=
  (additions.filter (·.1 = name)).map (·.2)

/-- Whether an addition counts where a name is asked for: it is under this name, in whatever case, and not
empty. -/
def counts (name : String) (addition : String × String) : Bool :=
  sameName addition.1 name && addition.2 ≠ ""

/-- Whether attributes are what additions lead to: no name comes twice, and each has what was added under
it. -/
structure Gathers (additions : List (String × String)) (attributes : List (String × List String)) :
    Prop where
  nodup : (attributes.map Prod.fst).Nodup
  values : ∀ name, (attributes.lookup name).getD [] = valuesUnder name additions

variable {additions : List (String × String)}

/-- An addition comes behind the values under its own name only. -/
lemma valuesUnder_append (name : String) (addition : String × String) :
    valuesUnder name (additions ++ [addition]) =
      valuesUnder name additions ++ if addition.1 = name then [addition.2] else [] := by
  by_cases h : addition.1 = name <;> simp [valuesUnder, h]

/-- The values under a name are those that were added under it. -/
lemma mem_valuesUnder {value : String} :
    value ∈ valuesUnder name additions ↔ (name, value) ∈ additions := by
  simp [valuesUnder]

/-- A value that is appended is gathered. -/
lemma Gathers.append (gathers : Gathers additions attributes) (addition : String × String) :
    Gathers (additions ++ [addition]) (appendTo addition.1 [addition.2] attributes) where
  nodup := by
    rw [appendTo_eq_setIn]
    exact nodup_setIn gathers.nodup
  values name := by
    rw [appendTo_eq_setIn, lookup_setIn, valuesUnder_append, ← gathers.values name]
    by_cases h : name = addition.1
    · simp [h]
    · simp [h, Ne.symm h]

/-- An entry has gathered what was added to it. -/
lemma gathers_ofAdditions (dn : String) (additions : List (String × String)) :
    Gathers additions (ofAdditions dn additions).attributes := by
  -- values are added at the end, so the induction takes the last of them off
  induction additions using List.reverseRecOn with
  | nil => exact ⟨List.nodup_nil, fun name => rfl⟩
  | append_singleton additions addition ih =>
    rw [ofAdditions, List.foldl_append]
    exact ih.append addition

/-- Attributes in another order are gathered from the same additions. -/
lemma Gathers.perm {attributes' : List (String × List String)} (gathers : Gathers additions attributes)
    (order : attributes'.Perm attributes) : Gathers additions attributes' where
  nodup := (order.map Prod.fst).nodup_iff.mpr gathers.nodup
  values name := by
    have nodup := (order.map Prod.fst).nodup_iff.mpr gathers.nodup
    rw [← gathers.values name]
    congr 1
    apply Option.ext
    intro values
    rw [← mem_iff_lookup nodup, ← mem_iff_lookup gathers.nodup, order.mem_iff]

/-- Each attribute has the values that were added under its name. -/
lemma Gathers.eq_valuesUnder (gathers : Gathers additions attributes)
    (mem : (name, values) ∈ attributes) : values = valuesUnder name additions := by
  rw [← gathers.values name, (mem_iff_lookup gathers.nodup).mp mem, Option.getD_some]

/-- There is an attribute for each name under which something was added. -/
lemma Gathers.mem_of_ne_nil (gathers : Gathers additions attributes)
    (added : valuesUnder name additions ≠ []) : (name, valuesUnder name additions) ∈ attributes := by
  rw [mem_iff_lookup gathers.nodup]
  cases found : attributes.lookup name with
  | none =>
    have none := gathers.values name
    rw [found] at none
    exact absurd none.symm added
  | some values => rw [← gathers.values name, found, Option.getD_some]

/-! ## First values -/

/-- What it takes for an addition to count. -/
lemma counts_iff {addition : String × String} :
    counts name addition = true ↔ sameName addition.1 name = true ∧ addition.2 ≠ "" := by
  simp [counts]

/-- An entry has no value for a name if all values under it, in whatever case, are empty. -/
lemma firstValue?_eq_none {e : Entry} :
    e.firstValue? name = none ↔
      ∀ other values, (other, values) ∈ e.attributes → sameName other name = true →
        ∀ value ∈ values, value = "" := by
  simp only [firstValue?, List.find?_eq_none, List.mem_flatMap, List.mem_filter, decide_eq_true_eq,
    Classical.not_not]
  constructor
  · intro empty other values mem same value found
    exact empty value ⟨(other, values), ⟨mem, same⟩, found⟩
  · rintro empty value ⟨⟨other, values⟩, ⟨mem, same⟩, found⟩
    exact empty other values mem same value found

/-- The first value for a name comes first in an attribute of this name, in whatever case. -/
lemma exists_of_firstValue? {e : Entry} {value : String} (found : e.firstValue? name = some value) :
    ∃ other values, (other, values) ∈ e.attributes ∧ sameName other name = true ∧
      values.find? (· ≠ "") = some value := by
  rw [firstValue?, List.find?_flatMap] at found
  obtain ⟨⟨other, values⟩, mem, first⟩ := List.exists_of_findSome?_eq_some found
  obtain ⟨mem, same⟩ := List.mem_filter.mp mem
  exact ⟨other, values, mem, same, first⟩

/-- Whether a name is spelled in one way: of the attributes of this name, in whatever case, only one has a
value that is not empty. -/
def SpelledOnce (e : Entry) (name : String) : Prop :=
  ∀ other values other' values', (other, values) ∈ e.attributes → (other', values') ∈ e.attributes →
    sameName other name = true → sameName other' name = true →
    (∃ value ∈ values, value ≠ "") → (∃ value ∈ values', value ≠ "") → other = other'

/-- The first value for a name that is spelled in one way is the same whatever the order of the attributes. -/
lemma firstValue?_perm {e e' : Entry} (order : e'.attributes.Perm e.attributes)
    (nodup : (e.attributes.map Prod.fst).Nodup) (once : e.SpelledOnce name) :
    e'.firstValue? name = e.firstValue? name := by
  cases found : e.firstValue? name with
  | none =>
    rw [firstValue?_eq_none] at found ⊢
    intro other values mem
    exact found other values (order.mem_iff.mp mem)
  | some value =>
    obtain ⟨other, values, mem, same, first⟩ := exists_of_firstValue? found
    have filled : ∃ value ∈ values, value ≠ "" :=
      ⟨value, List.mem_of_find?_eq_some first, by simpa using List.find?_some first⟩
    cases found' : e'.firstValue? name with
    | none =>
      obtain ⟨value, listed, ne⟩ := filled
      exact absurd (firstValue?_eq_none.mp found' _ _ (order.mem_iff.mpr mem) same value listed) ne
    | some value' =>
      obtain ⟨other', values', mem', same', first'⟩ := exists_of_firstValue? found'
      have filled' : ∃ value ∈ values', value ≠ "" :=
        ⟨value', List.mem_of_find?_eq_some first', by simpa using List.find?_some first'⟩
      -- both are found in one attribute, as there is only one with a value under this name
      have mem' := order.mem_iff.mp mem'
      obtain rfl := once _ _ _ _ mem' mem same' same filled' filled
      have listed := (mem_iff_lookup nodup).mp mem
      rw [(mem_iff_lookup nodup).mp mem'] at listed
      rw [← first, ← first', Option.some.inj listed]

/-- If what counts for a name is spelled in one way, the first of the values under this spelling is the one
that was added first. -/
lemma find?_valuesUnder {spelled : String} (same : sameName spelled name = true)
    (spelling : ∀ addition ∈ additions, counts name addition = true → addition.1 = spelled) :
    (valuesUnder spelled additions).find? (· ≠ "") = (additions.find? (counts name)).map (·.2) := by
  rw [valuesUnder, List.find?_map, List.find?_filter, ← List.head?_filter, ← List.head?_filter]
  congr 2
  apply List.filter_congr
  intro addition mem
  rw [Bool.eq_iff_iff, counts_iff]
  simp only [Function.comp_apply, decide_eq_true_eq]
  constructor
  · rintro ⟨e, filled⟩
    exact ⟨e ▸ same, filled⟩
  · rintro ⟨same', filled⟩
    exact ⟨spelling addition mem (counts_iff.mpr ⟨same', filled⟩), filled⟩

/-- The first value for a name is the one that was added first, in whatever order the attributes stand. -/
lemma Gathers.firstValue?_eq {e : Entry} (gathers : Gathers additions e.attributes)
    (spelling : ∀ a ∈ additions, ∀ b ∈ additions, counts name a = true → counts name b = true → a.1 = b.1) :
    e.firstValue? name = (additions.find? (counts name)).map (·.2) := by
  cases first : additions.find? (counts name) with
  | none =>
    rw [Option.map_none, firstValue?_eq_none]
    intro other values mem same value found
    rw [gathers.eq_valuesUnder mem, mem_valuesUnder] at found
    by_contra filled
    exact List.find?_eq_none.mp first _ found (counts_iff.mpr ⟨same, filled⟩)
  | some addition =>
    obtain ⟨spelled, value⟩ := addition
    have mem := List.mem_of_find?_eq_some first
    have counted := List.find?_some first
    obtain ⟨same, filled⟩ := counts_iff.mp counted
    have found : (valuesUnder spelled additions).find? (· ≠ "") = some value := by
      rw [find?_valuesUnder same fun a mem' counted' => spelling a mem' _ mem counted' counted, first]
      rfl
    cases given : e.firstValue? name with
    | none =>
      -- the attribute that is spelled like the addition has a value
      have added : value ∈ valuesUnder spelled additions := mem_valuesUnder.mpr mem
      have listed := gathers.mem_of_ne_nil (List.ne_nil_of_mem added)
      exact absurd (firstValue?_eq_none.mp given _ _ listed same value added) filled
    | some value' =>
      obtain ⟨other, values, listed, same', found'⟩ := exists_of_firstValue? given
      obtain rfl := gathers.eq_valuesUnder listed
      have mem' := mem_valuesUnder.mp (List.mem_of_find?_eq_some found')
      have filled' : value' ≠ "" := by simpa using List.find?_some found'
      have e : other = spelled := spelling _ mem' _ mem (counts_iff.mpr ⟨same', filled'⟩) counted
      subst e
      rw [← found', found]
      rfl

/-- **First values.** Values were added to an entry one by one, and its attributes stand in any order. If
those that are not empty and were added under a name, in whatever case, were added under one spelling of it,
then the first value for the name, asked for in whatever case, is the one of them that was added first. There
is none if all of them are empty, and nothing else that was added makes a difference. -/
theorem firstValue?_earliest {name : String} {additions : List (String × String)}
    (spelling : ∀ a ∈ additions, ∀ b ∈ additions, counts name a = true → counts name b = true → a.1 = b.1)
    {dn : String} {e : Entry} (order : e.attributes.Perm (ofAdditions dn additions).attributes)
    {asked : String} (same : sameName asked name = true) :
    e.firstValue? asked = (additions.find? (counts name)).map (·.2) ∧
    (e.firstValue? asked = none ↔
      ∀ addition ∈ additions, sameName addition.1 name = true → addition.2 = "") ∧
    ∀ (others : List (String × String)) (dn' : String) (e' : Entry),
      others.filter (counts name) = additions.filter (counts name) →
      e'.attributes.Perm (ofAdditions dn' others).attributes →
      e'.firstValue? asked = e.firstValue? asked := by
  have counts_eq : counts asked = counts name := by
    funext addition
    rw [counts, counts, sameName_congr same]
  have first {additions : List (String × String)} {dn : String} {e : Entry}
      (spelling : ∀ a ∈ additions, ∀ b ∈ additions, counts name a = true → counts name b = true → a.1 = b.1)
      (order : e.attributes.Perm (ofAdditions dn additions).attributes) :
      e.firstValue? asked = (additions.find? (counts name)).map (·.2) := by
    rw [← counts_eq] at spelling ⊢
    exact ((gathers_ofAdditions dn additions).perm order).firstValue?_eq spelling
  refine ⟨first spelling order, ?_, ?_⟩
  · rw [first spelling order, Option.map_eq_none_iff, List.find?_eq_none]
    refine forall₂_congr fun addition mem => ?_
    rw [counts_iff, not_and, Classical.not_not]
  · intro others dn' e' alike order'
    have spelling' : ∀ a ∈ others, ∀ b ∈ others, counts name a = true → counts name b = true →
        a.1 = b.1 := by
      intro a mem b mem' counted counted'
      have kept {c : String × String} (mem : c ∈ others) (counted : counts name c = true) :
          c ∈ additions :=
        (List.mem_filter.mp (alike ▸ List.mem_filter.mpr ⟨mem, counted⟩)).1
      exact spelling a (kept mem counted) b (kept mem' counted') counted counted'
    rw [first spelling' order', first spelling order, ← List.head?_filter, ← List.head?_filter, alike]

/-- Two spellings of a name, one of them with empty values alone, and the name asked for in a third while the
attributes stand in reverse. -/
theorem firstValue?_earliest_spelled :
    let additions := [("Mail", ""), ("cn", "x"), ("mail", ""), ("mail", "a"), ("Mail", ""), ("mail", "b")]
    let e : Entry := ⟨"cn=j", (ofAdditions "cn=j" additions).attributes.reverse⟩
    (∀ a ∈ additions, ∀ b ∈ additions, counts "mail" a = true → counts "mail" b = true → a.1 = b.1) ∧
    sameName "MAIL" "mail" = true ∧
    e.attributes = [("mail", ["", "a", "b"]), ("cn", ["x"]), ("Mail", ["", ""])] ∧
    e.firstValue? "MAIL" = some "a" := by
  intro additions e
  have spelling : ∀ a ∈ additions, ∀ b ∈ additions, counts "mail" a = true → counts "mail" b = true →
      a.1 = b.1 := by
    decide +kernel
  have same : sameName "MAIL" "mail" = true := by rfl
  have order : e.attributes.Perm (ofAdditions "cn=j" additions).attributes := List.reverse_perm _
  refine ⟨spelling, same, by rfl, ?_⟩
  exact (firstValue?_earliest spelling order same).1.trans (by rfl)

end Entry
end RecipientCallout.Directory
