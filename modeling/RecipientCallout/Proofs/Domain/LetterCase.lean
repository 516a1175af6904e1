import Mathlib.Tactic.Lemma
import RecipientCallout.Domain.Match

/-!
# Letter case in domain names

When domain names are compared loosely, the case of ASCII letters makes no difference anywhere in them:
names that are the same but for it (`Recased`) have the same ASCII form or none (`toAscii?_recased`). Case
is lost in the very first step, the mapping of single characters (`mapChar?_toLower`), so that all that
follows, and every way to fail in it, is the same.

For ASCII names without spelled labels, case is also all that makes no difference: their ASCII form is the
name in small letters (`toAscii?_of_plain`). The headline `isMatch_recased` puts both together.
-/

namespace RecipientCallout.Domain
open RecipientCallout.Text

/-- Texts that are the same but for the case of ASCII letters. -/
inductive Recased : List Char → List Char → Prop where
  | nil :
    Recased [] []
  | keep {c cs ds} :
    Recased cs ds →
    Recased (c :: cs) (c :: ds)
  | lower {c cs ds} :
    Recased cs ds →
    Recased (c :: cs) (c.toLower :: ds)
  | upper {c cs ds} :
    Recased cs ds →
    Recased (c :: cs) (c.toUpper :: ds)

/-! ## Single characters -/

/-- What holds of the first 128 characters holds of those in ASCII. -/
lemma ascii_induction {P : Char → Prop} (each : ∀ n < 0x80, P (Char.ofNat n)) {c : Char}
    (ascii : c.toNat < 0x80) : P c := by
  have held := each c.toNat ascii
  rwa [Char.ofNat_toNat] at held

/-- A character beyond ASCII is its own small letter. -/
lemma toLower_of_not_ascii {c : Char} (other : ¬ c.toNat < 0x80) : c.toLower = c := by
  refine dif_neg fun letter => other ?_
  have bound := UInt32.le_iff_toNat_le.mp letter.2
  exact Nat.lt_of_le_of_lt bound (by decide)

/-- A character beyond ASCII is its own capital letter. -/
lemma toUpper_of_not_ascii {c : Char} (other : ¬ c.toNat < 0x80) : c.toUpper = c := by
  refine dif_neg fun letter => other ?_
  have bound := UInt32.le_iff_toNat_le.mp letter.2
  exact Nat.lt_of_le_of_lt bound (by decide)

/-- What holds of ASCII, and of characters that are their own small and capital letters, holds of all. -/
lemma case_induction {P : Char → Prop} (each : ∀ n < 0x80, P (Char.ofNat n))
    (other : ∀ c, Char.toLower c = c → Char.toUpper c = c → P c) (c : Char) : P c := by
  by_cases ascii : c.toNat < 0x80
  case pos => exact ascii_induction each ascii
  case neg => exact other c (toLower_of_not_ascii ascii) (toUpper_of_not_ascii ascii)

/-- Small letters have no smaller ones. -/
lemma toLower_toLower (c : Char) : c.toLower.toLower = c.toLower :=
  case_induction (P := fun c => c.toLower.toLower = c.toLower) (by decide +kernel)
    (fun c lower _ => congrArg Char.toLower lower) c

/-- The capital letter has the same small letter. -/
lemma toLower_toUpper (c : Char) : c.toUpper.toLower = c.toLower :=
  case_induction (P := fun c => c.toUpper.toLower = c.toLower) (by decide +kernel)
    (fun c _ upper => congrArg Char.toLower upper) c

/-- The small letter has the same capital letter. -/
lemma toUpper_toLower (c : Char) : c.toLower.toUpper = c.toUpper :=
  case_induction (P := fun c => c.toLower.toUpper = c.toUpper) (by decide +kernel)
    (fun c lower _ => congrArg Char.toUpper lower) c

/-- A character is its small or its capital letter. -/
lemma eq_toLower_or (c : Char) : c = c.toLower ∨ c = c.toUpper :=
  case_induction (P := fun c => c = c.toLower ∨ c = c.toUpper) (by decide +kernel)
    (fun _ lower _ => .inl lower.symm) c

/-- Small letters belong to ASCII if their capitals do. -/
lemma toNat_toLower_lt {c : Char} (ascii : c.toNat < 0x80) : c.toLower.toNat < 0x80 :=
  ascii_induction (P := fun c => c.toLower.toNat < 0x80) (by decide +kernel) ascii

/-- ASCII is written from left to right, or in either direction. -/
lemma direction_of_ascii {c : Char} (ascii : c.toNat < 0x80) : (direction c).isRightToLeft = false :=
  ascii_induction (P := fun c => (direction c).isRightToLeft = false) (by decide +kernel) ascii

/-! ## Mapping -/

/-- Characters with the same small letter are mapped alike. -/
lemma mapChar?_toLower (c : Char) : mapChar? c.toLower = mapChar? c := by
  by_cases ascii : c.toNat < 0x80
  · rw [mapChar?, mapChar?, if_pos ascii, if_pos (toNat_toLower_lt ascii),
      toLower_toLower]
  · rw [toLower_of_not_ascii ascii]

/-- Characters with the same capital letter are mapped alike. -/
lemma mapChar?_toUpper (c : Char) : mapChar? c.toUpper = mapChar? c := by
  rw [← mapChar?_toLower c.toUpper, toLower_toUpper, mapChar?_toLower]

/-- Texts that are the same but for case are mapped alike. -/
lemma Recased.mapM_mapChar? {cs ds : List Char} (recased : Recased cs ds) :
    ds.mapM mapChar? = cs.mapM mapChar? := by
  induction recased with
  | nil => rfl
  | keep _ ih => rw [List.mapM_cons, List.mapM_cons, ih]
  | lower _ ih => rw [List.mapM_cons, List.mapM_cons, ih, mapChar?_toLower]
  | upper _ ih => rw [List.mapM_cons, List.mapM_cons, ih, mapChar?_toUpper]

/-- Names that are the same but for letter case have the same ASCII form, or none. -/
lemma toAscii?_recased {name name' : String} (recased : Recased name.toList name'.toList) :
    toAscii? name' = toAscii? name := by
  rw [toAscii?, toAscii?, mapText?, mapText?, recased.mapM_mapChar?]

/-! ## Plain names -/

/-- Texts are the same but for letter case exactly if they are the same in small letters. -/
lemma recased_iff {cs ds : List Char} :
    Recased cs ds ↔ cs.map Char.toLower = ds.map Char.toLower := by
  constructor
  · intro recased
    induction recased with
    | nil => rfl
    | keep _ ih => rw [List.map_cons, List.map_cons, ih]
    | lower _ ih => rw [List.map_cons, List.map_cons, ih, toLower_toLower]
    | upper _ ih => rw [List.map_cons, List.map_cons, ih, toLower_toUpper]
  · intro same
    induction cs generalizing ds with
    | nil =>
      rw [List.map_nil, eq_comm, List.map_eq_nil_iff] at same
      exact same ▸ .nil
    | cons c cs ih =>
      cases ds with
      | nil => cases same
      | cons d ds =>
        rw [List.map_cons, List.map_cons, List.cons.injEq] at same
        obtain ⟨first, rest⟩ := same
        obtain small | capital := eq_toLower_or d
        · rw [small, ← first]
          exact .lower (ih rest)
        · rw [capital, ← toUpper_toLower, ← first, toUpper_toLower]
          exact .upper (ih rest)

instance (cs ds : List Char) : Decidable (Recased cs ds) := decidable_of_iff _ recased_iff.symm

/-- An ASCII name in which no label is marked as spelled, in letters of either case. -/
structure Plain (name : String) : Prop where
  ascii : ∀ c ∈ name.toList, c.toNat < 0x80
  unspelled : ∀ label ∈ splitOn '.' (name.toList.map Char.toLower), ¬ spellingMark <+: label

/-- Whether a name is plain can be seen from its characters and labels. -/
lemma plain_iff {name : String} : Plain name ↔ isAscii name.toList = true ∧
    ∀ label ∈ splitOn '.' (name.toList.map Char.toLower), ¬ spellingMark <+: label := by
  simp only [isAscii, List.all_eq_true, decide_eq_true_eq]
  exact ⟨fun plain => ⟨plain.ascii, plain.unspelled⟩, fun ⟨ascii, unspelled⟩ => ⟨ascii, unspelled⟩⟩

instance : DecidablePred Plain := fun _ => decidable_of_iff _ plain_iff.symm

/-- What is done to each element by itself and never fails. -/
lemma mapM_eq_some_map {α β : Type} {f : α → Option β} {g : α → β} {items : List α}
    (each : ∀ a ∈ items, f a = some (g a)) : items.mapM f = some (items.map g) := by
  induction items with
  | nil => rfl
  | cons a items ih =>
    rw [List.mapM_cons, each a List.mem_cons_self, ih fun b mem => each b (List.mem_cons_of_mem a mem)]
    rfl

/-- ASCII text is only put into small letters. -/
lemma mapText?_of_ascii {cs : List Char} (ascii : ∀ c ∈ cs, c.toNat < 0x80) :
    mapText? cs = some (cs.map Char.toLower) := by
  have each : ∀ c ∈ cs, mapChar? c = some [c.toLower] := fun c mem => by
    rw [mapChar?, if_pos (ascii c mem)]
  rw [mapText?, mapM_eq_some_map each, Option.map_some, ← List.flatMap_def, ← List.map_eq_flatMap]

/-- There is nothing to compose in ASCII. -/
lemma compose_of_ascii {cs : List Char} (ascii : ∀ c ∈ cs, c.toNat < 0x80) : compose cs = cs := by
  refine if_pos (List.all_eq_true.mpr fun c mem => decide_eq_true ?_)
  exact Nat.lt_trans (ascii c mem) (by decide)

/-- What is in a piece is in the joined text. -/
lemma mem_joinWith {glue piece : List Char} {pieces : List (List Char)} {c : Char}
    (mem : piece ∈ pieces) (mem' : c ∈ piece) : c ∈ joinWith glue pieces := by
  induction pieces with
  | nil => cases mem
  | cons first pieces ih =>
    cases pieces with
    | nil => exact List.mem_singleton.mp mem ▸ mem'
    | cons second pieces =>
      rw [joinWith]
      obtain rfl | mem := List.mem_cons.mp mem
      · exact List.mem_append_left _ (List.mem_append_left _ mem')
      · exact List.mem_append_right _ (ih mem)

/-- The characters of a label are those of the name. -/
lemma ascii_of_mem_splitOn {cs label : List Char} (ascii : ∀ c ∈ cs, c.toNat < 0x80)
    (mem : label ∈ splitOn '.' cs) : ∀ c ∈ label, c.toNat < 0x80 := by
  intro c mem'
  have inside : c ∈ joinWith ['.'] (splitOn '.' cs) := mem_joinWith mem mem'
  rw [joinWith_splitOn] at inside
  exact ascii c inside

/-- A label of ASCII that is not marked as spelled stands for itself. -/
lemma read?_of_ascii {label : List Char} (ascii : ∀ c ∈ label, c.toNat < 0x80)
    (unspelled : ¬ spellingMark <+: label) : Label.read? label = some ⟨label, label⟩ := by
  have unmarked : ¬ spellingMark.isPrefixOf label = true :=
    fun marked => unspelled (List.isPrefixOf_iff_prefix.mp marked)
  have isAscii : isAscii label = true := List.all_eq_true.mpr fun c mem => decide_eq_true (ascii c mem)
  rw [Label.read?, if_neg unmarked, if_pos isAscii]

/-- Labels in ASCII need not keep to one direction. -/
lemma keepDirections_of_ascii {labels : List (List Char)}
    (ascii : ∀ label ∈ labels, ∀ c ∈ label, c.toNat < 0x80) : keepDirections labels = true := by
  refine if_neg fun some_right => ?_
  obtain ⟨label, mem, right⟩ := List.any_eq_true.mp some_right
  obtain ⟨c, mem', right⟩ := List.any_eq_true.mp right
  rw [direction_of_ascii (ascii label mem c mem')] at right
  cases right

/-- A mapped name in ASCII is its own ASCII form unless a label in it is spelled. -/
lemma asciiOfMapped?_of_ascii {mapped : List Char} (ascii : ∀ c ∈ mapped, c.toNat < 0x80)
    (unspelled : ∀ label ∈ splitOn '.' mapped, ¬ spellingMark <+: label) :
    asciiOfMapped? mapped = some mapped := by
  have labels : (splitOn '.' mapped).mapM Label.read? =
      some ((splitOn '.' mapped).map fun l => ⟨l, l⟩) :=
    mapM_eq_some_map fun label mem =>
      read?_of_ascii (ascii_of_mem_splitOn ascii mem) (unspelled label mem)
  have directions : keepDirections (splitOn '.' mapped) = true :=
    keepDirections_of_ascii fun label mem => ascii_of_mem_splitOn ascii mem
  simp only [asciiOfMapped?, compose_of_ascii ascii, labels, List.map_map, Function.comp_def, List.map_id',
    directions, if_true, joinWith_splitOn]

/-- The ASCII form of a plain name is the name in small letters. -/
lemma toAscii?_of_plain {name : String} (plain : Plain name) :
    toAscii? name = some (name.toList.map Char.toLower) := by
  have small : ∀ c ∈ name.toList.map Char.toLower, c.toNat < 0x80 := by
    intro c mem
    obtain ⟨d, mem', rfl⟩ := List.mem_map.mp mem
    exact toNat_toLower_lt (plain.ascii d mem')
  rw [toAscii?, mapText?_of_ascii plain.ascii, Option.bind_some,
    asciiOfMapped?_of_ascii small plain.unspelled]

/-- Plain names match exactly if they are the same but for case, and not empty. -/
lemma isMatch_of_plain {candidate accepted : String} (plain : Plain candidate) (plain' : Plain accepted) :
    isMatch .caseInsensitive candidate accepted = true ↔
      candidate ≠ "" ∧ Recased candidate.toList accepted.toList := by
  simp [isMatch, toAscii?_of_plain plain, toAscii?_of_plain plain', recased_iff]

/-- **Letter case.** When names are compared loosely, changing the case of any ASCII letters in either of
them changes neither its ASCII form, if it has one, nor whether it has one, nor the outcome. For plain
names, nothing else is disregarded: they match exactly if they are the same but for letter case, and not
empty. -/
theorem isMatch_recased {candidate candidate' accepted accepted' : String}
    (recased : Recased candidate.toList candidate'.toList)
    (recased' : Recased accepted.toList accepted'.toList) :
    toAscii? candidate' = toAscii? candidate ∧
    toAscii? accepted' = toAscii? accepted ∧
    isMatch .caseInsensitive candidate' accepted' = isMatch .caseInsensitive candidate accepted ∧
    (Plain candidate → Plain accepted →
      (isMatch .caseInsensitive candidate accepted = true ↔
        candidate ≠ "" ∧ Recased candidate.toList accepted.toList)) := by
  have form := toAscii?_recased recased
  have form' := toAscii?_recased recased'
  refine ⟨form, form', ?_, isMatch_of_plain⟩
  rw [isMatch, isMatch, form, form']

/-- A name with a letter beyond ASCII and its spelling, a spelling that stands for nothing, and plain
names. -/
theorem isMatch_recased_spelled :
    isMatch .caseInsensitive "EXäMPLE.com" "XN--Exmple-CUA.com" =
      isMatch .caseInsensitive "exämple.COM" "xn--exmple-cua.COM" ∧
    toAscii? "XN--.@" = toAscii? "xn--.@" ∧
    isMatch .caseInsensitive "D.example" "d.EXAMPLE" = true := by
  have name : Recased "exämple.COM".toList "EXäMPLE.com".toList := by decide +kernel
  have spelling : Recased "xn--exmple-cua.COM".toList "XN--Exmple-CUA.com".toList := by decide +kernel
  have nothing : Recased "xn--.@".toList "XN--.@".toList := by decide +kernel
  have same : Recased "D.example".toList "d.EXAMPLE".toList := by decide +kernel
  have back : Recased "d.EXAMPLE".toList "D.example".toList := by decide +kernel
  have plain : Plain "D.example" := by decide +kernel
  have plain' : Plain "d.EXAMPLE" := by decide +kernel
  refine ⟨(isMatch_recased name spelling).2.2.1, (isMatch_recased nothing nothing).1, ?_⟩
  exact ((isMatch_recased same back).2.2.2 plain plain').mpr ⟨by decide, same⟩

end RecipientCallout.Domain
