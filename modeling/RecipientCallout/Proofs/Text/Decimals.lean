import Mathlib.Tactic.Lemma

/-!
# Decimal notation

Decimal notation is digits alone, with no zero in front of others, and the number is read back from them
(`isDecimal_toDigits`). So no other character stands in it, and no two numbers share it.
-/

namespace RecipientCallout.Text
variable {n n' : Nat} {cs : List Char}

/-- Characters that are the decimal notation of a number. -/
structure IsDecimal (n : Nat) (cs : List Char) : Prop where
  ne_nil : cs ≠ []
  digits : ∀ c ∈ cs, c.isDigit = true
  value : Nat.ofDigitChars 10 cs 0 = n
  /-- Only the number zero begins with a zero. -/
  leading : cs.head? = some '0' → cs = ['0']

/-- A decimal number has only digits. -/
lemma IsDecimal.notMem {c : Char} (decimal : IsDecimal n cs) (other : c.isDigit = false) : c ∉ cs :=
  fun mem => Bool.false_ne_true (other.symm.trans (decimal.digits c mem))

/-- Characters are the notation of one number only. -/
lemma IsDecimal.unique (decimal : IsDecimal n cs) (decimal' : IsDecimal n' cs) : n = n' :=
  decimal.value.symm.trans decimal'.value

/-- The last digit comes off the end. -/
lemma toDigits_step (large : 10 ≤ n) :
    Nat.toDigits 10 n = Nat.toDigits 10 (n / 10) ++ [Nat.digitChar (n % 10)] := by
  have last : n % 10 < 10 := Nat.mod_lt n (by decide)
  rw [← Nat.toDigits_of_lt_base last, Nat.toDigits_append_toDigits (by decide) (by omega) last,
    Nat.div_add_mod]

/-- A number that is not zero does not begin with it. -/
lemma head?_toDigits (positive : 0 < n) : (Nat.toDigits 10 n).head? ≠ some '0' := by
  have digit : ∀ d < 10, 0 < d → Nat.digitChar d ≠ '0' := by decide
  induction n using Nat.strongRecOn with
  | ind n ih =>
    by_cases large : 10 ≤ n
    case pos =>
      have others := ih (n / 10) (by omega) (by omega)
      rw [toDigits_step large, List.head?_append]
      cases first : (Nat.toDigits 10 (n / 10)).head? with
      | none => exact absurd (List.head?_eq_none_iff.mp first) Nat.toDigits_ne_nil
      | some c => rwa [first] at others
    case neg =>
      rw [Nat.toDigits_of_lt_base (by omega)]
      intro zero
      exact digit n (by omega) positive (Option.some.inj zero)

/-- The digits of a number are its notation. -/
lemma isDecimal_toDigits (n : Nat) : IsDecimal n (Nat.toDigits 10 n) where
  ne_nil := Nat.toDigits_ne_nil
  digits _ mem := Nat.isDigit_of_mem_toDigits (by decide) (by decide) mem
  value := Nat.ofDigitChars_ten_toDigits
  leading zero := by
    cases n with
    | zero => rfl
    | succ n => exact absurd zero (head?_toDigits (Nat.succ_pos n))

/-- A number is written in its notation. -/
lemma isDecimal_toString (n : Nat) : IsDecimal n (toString n).toList := by
  rw [Nat.toString_eq_repr, Nat.toList_repr]
  exact isDecimal_toDigits n

end RecipientCallout.Text
