/-!
# Hexadecimal digits

Reading and writing numbers in base sixteen, with lowercase letters on output.
-/

namespace RecipientCallout.Text

/-- The value of a hexadecimal digit in either case. -/
def hexDigit? (c : Char) : Option Nat :=
  if '0' ≤ c ∧ c ≤ '9' then some (c.toNat - 48)
  else if 'a' ≤ c ∧ c ≤ 'f' then some (c.toNat - 87)
  else if 'A' ≤ c ∧ c ≤ 'F' then some (c.toNat - 55)
  else none

/-- The digits of a number in base sixteen, lowercase and without leading zeros. -/
def hexDigits (n : Nat) : List Char := Nat.toDigits 16 n

/-- Reads the hexadecimal digits at the start of a text onto `n`; gives the number and the rest. -/
def readHex (n : Nat) : List Char → Nat × List Char
  | [] => (n, [])
  | c :: cs =>
    match hexDigit? c with
    | some d => readHex (16 * n + d) cs
    | none => (n, c :: cs)

end RecipientCallout.Text
