import RecipientCallout.Text.Hex

/-!
# Escaping in search filters

Inside a search filter the characters with a meaning of their own are written as a backslash and two
hexadecimal digits.
-/

namespace RecipientCallout.Filter

/-- The characters that a filter value may not hold as they are. -/
def isSpecial (c : Char) : Bool :=
  c = '\\' || c = '*' || c = '(' || c = ')' || c = '\x00'

/-- A code below 256 as a backslash and two digits. -/
def escapeCode (n : Nat) : List Char :=
  ['\\', Nat.digitChar (n / 16), Nat.digitChar (n % 16)]

/-- The written form of a character in a filter value. -/
def escapeChar (c : Char) : List Char :=
  if isSpecial c then escapeCode c.toNat else [c]

/-- The written form of a text in a filter value. -/
def escape (value : List Char) : List Char := value.flatMap escapeChar

end RecipientCallout.Filter
