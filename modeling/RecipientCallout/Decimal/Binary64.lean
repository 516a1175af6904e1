/-!
# Binary floating-point numbers

Numbers of 64 bits as a mantissa and a power of two, rounded from decimal notation in exact integer
arithmetic, and written with the fewest digits that read back as the same number.
-/

namespace RecipientCallout.Decimal

/-- A floating-point number: `mantissa * 2 ^ exponent` with a sign, infinite, or no number. -/
inductive Binary64 where
  | finite (negative : Bool) (mantissa : Nat) (exponent : Int)
  | infinite (negative : Bool)
  | nan
  deriving DecidableEq, Repr

namespace Binary64

/-- Mantissas are below `2 ^ precision`. -/
def precision : Nat := 53

/-- The least exponent. -/
def minExponent : Int := -1074

/-- The greatest exponent. -/
def maxExponent : Int := 971

/-- A fraction multiplied by a power of a base. -/
def scale (base : Nat) (num den : Nat) (power : Int) : Nat × Nat :=
  match power with
  | .ofNat p => (num * Nat.pow base p, den)
  | .negSucc p => (num, den * Nat.pow base (p + 1))

/-- The integer nearest to a fraction; of two, the even one. -/
def nearest (num den : Nat) : Nat :=
  let q := num / den
  let r := num % den
  if 2 * r < den then q
  else if den < 2 * r then q + 1
  else if q % 2 = 0 then q
  else q + 1

/-- The number nearest to a positive fraction. -/
def ofFraction (negative : Bool) (num den : Nat) : Binary64 :=
  let estimate : Int := (Nat.log2 num : Int) - (Nat.log2 den : Int) - precision
  let (n, d) := scale 2 num den (-estimate)
  let exponent := if n / d < Nat.pow 2 precision then estimate else estimate + 1
  let exponent := max exponent minExponent
  let (n, d) := scale 2 num den (-exponent)
  let mantissa := nearest n d
  let (mantissa, exponent) :=
    if mantissa = Nat.pow 2 precision then (Nat.pow 2 (precision - 1), exponent + 1)
    else (mantissa, exponent)
  if maxExponent < exponent then .infinite negative else .finite negative mantissa exponent

/-- The number nearest to `digits * 10 ^ power`. Powers far out of reach are not multiplied out. -/
def ofDecimal (negative : Bool) (digits : Nat) (power : Int) : Binary64 :=
  let magnitude : Int := ((Nat.toDigits 10 digits).length : Int) + power
  if digits = 0 ∨ magnitude < -340 then .finite negative 0 minExponent
  else if 320 < magnitude then .infinite negative
  else
    let (num, den) := scale 10 digits 1 power
    ofFraction negative num den

/-- The exponent of the first decimal digit of a positive fraction. -/
def leadingPower (num den : Nat) : Int :=
  if den ≤ num then ((Nat.toDigits 10 (num / den)).length : Int) - 1
  else
    let count := (Nat.toDigits 10 (den / num)).length
    if den = num * Nat.pow 10 (count - 1) then 1 - (count : Int) else -(count : Int)

/-- Whether `digits * 10 ^ power` rounds to the number with this mantissa and exponent: it lies between
the middles to the neighbouring numbers, which count if the mantissa is even. -/
def roundsTo (mantissa : Nat) (exponent : Int) (digits : Nat) (power : Int) : Bool :=
  let below :=
    if mantissa = Nat.pow 2 (precision - 1) ∧ minExponent < exponent then 4 * mantissa - 1
    else 4 * mantissa - 2
  let above := 4 * mantissa + 2
  let (dn, dd) := scale 10 digits 1 power
  let (ln, ld) := scale 2 below 1 (exponent - 2)
  let (un, ud) := scale 2 above 1 (exponent - 2)
  if mantissa % 2 = 0 then decide (ln * dd ≤ dn * ld) && decide (dn * ud ≤ un * dd)
  else decide (ln * dd < dn * ld) && decide (dn * ud < un * dd)

/-- Looks for the shortest digits that round to a number, of `count` digits and then of more. Two
decimals of one length are told apart by their distance. -/
def searchShortest (mantissa : Nat) (exponent : Int) (lead : Int) : Nat → Nat → Nat × Int
  | 0, _ => (mantissa, 0)
  | fuel + 1, count =>
    let power := lead - count + 1
    let (num, den) := scale 2 mantissa 1 exponent
    let (num, den) := scale 10 num den (-power)
    let low := num / den
    let lowFits := low ≠ 0 && roundsTo mantissa exponent low power
    let highFits := roundsTo mantissa exponent (low + 1) power
    let lowNearer := 2 * (num % den) < den || (2 * (num % den) == den && low % 2 == 0)
    if lowFits && (!highFits || lowNearer) then (low, power)
    else if highFits then (low + 1, power)
    else searchShortest mantissa exponent lead fuel (count + 1)

/-- The shortest digits of a positive number and the power of ten that they are multiplied by. -/
def shortest (mantissa : Nat) (exponent : Int) : Nat × Int :=
  let (num, den) := scale 2 mantissa 1 exponent
  searchShortest mantissa exponent (leadingPower num den) 17 1

/-- Digits with a point after the last `places` of them, without zeros at the end of the fraction, and
at least one digit on either side of the point. -/
def positional (digits : Nat) (power : Int) : List Char :=
  match power with
  | .ofNat p => Nat.toDigits 10 (digits * Nat.pow 10 p) ++ ['.', '0']
  | .negSucc p =>
    let whole := Nat.toDigits 10 (digits / Nat.pow 10 (p + 1))
    let part := Nat.toDigits 10 (digits % Nat.pow 10 (p + 1))
    let part := List.replicate (p + 1 - part.length) '0' ++ part
    let part := (part.reverse.dropWhile (· = '0')).reverse
    whole ++ '.' :: (if part = [] then ['0'] else part)

/-- The shortest positional notation of a number, always with a fraction. -/
def render : Binary64 → String
  | .nan => "NaN"
  | .infinite negative => if negative then "-inf" else "inf"
  | .finite negative mantissa exponent =>
    let text :=
      if mantissa = 0 then ['0', '.', '0']
      else
        let (digits, power) := shortest mantissa exponent
        positional digits power
    String.ofList (if negative then '-' :: text else text)

end Binary64
end RecipientCallout.Decimal
