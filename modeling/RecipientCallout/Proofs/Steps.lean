import Mathlib.Tactic.Lemma

/-!
# What succeeds in steps

Something that is done in steps which may fail has succeeded only if each of them did; and two runs of it
agree if each of their steps do.
-/

namespace RecipientCallout
variable {ε α β γ : Type}

/-- What succeeds in two steps succeeds in each of them. -/
lemma exists_of_bind_eq_ok {first : Except ε α} {second : α → Except ε β} {b : β}
    (done : first.bind second = .ok b) : ∃ a, first = .ok a ∧ second a = .ok b := by
  cases first with
  | error e => cases done
  | ok a => exact ⟨a, rfl, done⟩

/-- What succeeds behind a map succeeds before it. -/
lemma exists_of_map_eq_ok {f : α → β} {first : Except ε α} {b : β} (done : first.map f = .ok b) :
    ∃ a, first = .ok a ∧ f a = b := by
  cases first with
  | error e => cases done
  | ok a => exact ⟨a, rfl, Except.ok.inj done⟩

/-- The same where a part of what the step gives is kept. -/
lemma exists_of_map_fst_eq_ok {f : α → β} {first : Except ε (α × γ)} {b : β} {c : γ}
    (done : (first.map fun (a, c) => (f a, c)) = .ok (b, c)) : ∃ a, first = .ok (a, c) ∧ f a = b := by
  obtain ⟨⟨a, c⟩, read, e⟩ := exists_of_map_eq_ok done
  cases e
  exact ⟨a, read, rfl⟩

/-- Two results that agree: both are faults, which are related, or both are values, which are. -/
inductive Agree {ε ε' α α' : Type} (E : ε → ε' → Prop) (R : α → α' → Prop) :
    Except ε α → Except ε' α' → Prop where
  | ok {a a'} :
    R a a' →
    Agree E R (.ok a) (.ok a')
  | error {e e'} :
    E e e' →
    Agree E R (.error e) (.error e')

namespace Agree

/-- A result agrees with itself. -/
lemma refl {E : ε → ε → Prop} {R : α → α → Prop} (same : ∀ e, E e e) (same' : ∀ a, R a a)
    (result : Except ε α) : Agree E R result result := by
  cases result with
  | error e => exact .error (same e)
  | ok a => exact .ok (same' a)

variable {ε' α' β' : Type} {E : ε → ε' → Prop} {R : α → α' → Prop} {S : β → β' → Prop}
  {first : Except ε α} {first' : Except ε' α'}

/-- Two steps agree if each of them does. -/
lemma bind {second : α → Except ε β} {second' : α' → Except ε' β'} (agree : Agree E R first first')
    (next : ∀ a a', R a a' → Agree E S (second a) (second' a')) :
    Agree E S (first.bind second) (first'.bind second') := by
  cases agree with
  | ok related => exact next _ _ related
  | error related => exact .error related

/-- Results agree behind maps that keep them related. -/
lemma map {f : α → β} {f' : α' → β'} (agree : Agree E R first first')
    (next : ∀ a a', R a a' → S (f a) (f' a')) : Agree E S (first.map f) (first'.map f') := by
  cases agree with
  | ok related => exact .ok (next _ _ related)
  | error related => exact .error related

/-- Results that are the same but for what is forgotten of their values. -/
lemma of_map_eq {f : α → β} {f' : α' → β} {first' : Except ε α'} (same : first.map f = first'.map f') :
    Agree (· = ·) (fun a a' => f a = f' a') first first' := by
  cases first with
  | error e =>
    cases first' with
    | error e' => exact .error (Except.error.inj same)
    | ok => cases same
  | ok a =>
    cases first' with
    | error => cases same
    | ok a' => exact .ok (Except.ok.inj same)

/-- Results that agree do so in less. -/
lemma imp {R' : α → α' → Prop} (agree : Agree E R first first') (next : ∀ a a', R a a' → R' a a') :
    Agree E R' first first' := by
  cases agree with
  | ok related => exact .ok (next _ _ related)
  | error related => exact .error related

end Agree

end RecipientCallout
