import RecipientCallout.Text.Hex
import RecipientCallout.Toml.Moment

/-!
# Reading a document: numbers

Integers of 64 bits in decimal, hexadecimal, octal and binary notation, and floating-point numbers.
Underscores may stand between digits.
-/

namespace RecipientCallout.Toml
open RecipientCallout.Text
open RecipientCallout.Decimal (Binary64)

/-- The least integer. -/
def minInteger : Int := -Int.pow 2 63

/-- The greatest integer. -/
def maxInteger : Int := Int.pow 2 63 - 1

/-- The name of integers in complaints. -/
def integerLabel : String := "integer"

/-- The name of floating-point numbers in complaints. -/
def floatLabel : String := "floating-point number"

/-- Reads further digits; an underscore has to be followed by one. -/
def moreDigits (isDigit : Char → Bool) (label : String) : List Char → Scan (List Char)
  | [] => .ok ([], [])
  | ['_'] => Halt.fail [] (some label) ["digit"]
  | '_' :: d :: rest =>
    if isDigit d then (moreDigits isDigit label rest).map fun (digits, rest) => (d :: digits, rest)
    else Halt.fail (d :: rest) (some label) ["digit"]
  | d :: rest =>
    if isDigit d then (moreDigits isDigit label rest).map fun (digits, rest) => (d :: digits, rest)
    else .ok ([], d :: rest)

/-- Takes a sign off; tells whether it is a minus. -/
def takeSign : List Char → Bool × List Char
  | '+' :: rest => (false, rest)
  | '-' :: rest => (true, rest)
  | cs => (false, cs)

/-- The digits of a decimal integer with its sign. -/
structure Decimals where
  negative : Bool
  digits : List Char

/-- Reads a decimal integer, if one stands there; a zero at its start ends it. -/
def readDecimals? (cs : List Char) : Except Halt (Option (Decimals × List Char)) :=
  let (negative, rest) := takeSign cs
  match rest with
  | '0' :: rest => .ok (some (⟨negative, ['0']⟩, rest))
  | d :: rest =>
    if isDigit d then
      (moreDigits isDigit integerLabel rest).map fun (digits, rest) =>
        some (⟨negative, d :: digits⟩, rest)
    else .ok none
  | [] => .ok none

/-- Reads digits of which the first may be a zero, in a part of a floating-point number. -/
def readPart (cs : List Char) (expected : List String) : Scan (List Char) :=
  match cs with
  | d :: rest =>
    if isDigit d then
      (moreDigits isDigit floatLabel rest).map fun (digits, rest) => (d :: digits, rest)
    else Halt.fail cs (some floatLabel) expected
  | [] => Halt.fail cs (some floatLabel) expected

/-- Reads an exponent, if one stands there. -/
def readExponent? (cs : List Char) : Except Halt (Option (Int × List Char)) :=
  match cs with
  | c :: rest =>
    if c = 'e' ∨ c = 'E' then do
      let (negative, rest) := takeSign rest
      let (digits, rest) ← readPart rest []
      let value : Int := decimalValue digits
      pure (some (if negative then -value else value, rest))
    else pure none
  | [] => pure none

/-- The number of a floating-point notation; a positive one that is too large is refused. -/
def floatValue (start : List Char) (d : Decimals) (fraction : List Char) (exponent : Int) :
    Except Halt Scalar :=
  let value :=
    Binary64.ofDecimal d.negative (decimalValue (d.digits ++ fraction)) (exponent - fraction.length)
  if value = .infinite false then Halt.fail start (some floatLabel) [] else .ok (.float value)

/-- Reads a floating-point number with a fraction or an exponent, if one stands there. -/
def readFloat? (cs : List Char) : Except Halt (Option (Scalar × List Char)) := do
  match ← readDecimals? cs with
  | none => pure none
  | some (d, '.' :: rest) =>
    let (fraction, rest) ← readPart rest ["digit"]
    match ← readExponent? rest with
    | none => pure (some (← floatValue cs d fraction 0, rest))
    | some (exponent, rest) => pure (some (← floatValue cs d fraction exponent, rest))
  | some (d, rest) =>
    match ← readExponent? rest with
    | none => pure none
    | some (exponent, rest) => pure (some (← floatValue cs d [] exponent, rest))

/-- Reads the names of infinity and of what is no number, if one stands there. -/
def readSpecial? (cs : List Char) : Option (Scalar × List Char) :=
  let (negative, rest) := takeSign cs
  match rest with
  | 'i' :: 'n' :: 'f' :: rest => some (.float (.infinite negative), rest)
  | 'n' :: 'a' :: 'n' :: rest => some (.float .nan, rest)
  | _ => none

/-- The value of an integer, if it is within bounds. -/
def integerValue (start : List Char) (value : Int) : Except Halt Scalar :=
  if maxInteger < value then Halt.because start none .tooLarge
  else if value < minInteger then Halt.because start none .tooSmall
  else .ok (.integer value)

/-- Whether a character is a digit in a base of at most sixteen. -/
def isDigitOf (base : Nat) (c : Char) : Bool :=
  match hexDigit? c with
  | some d => d < base
  | none => false

/-- The number that digits of a base stand for. -/
def valueIn (base : Nat) (digits : List Char) : Nat :=
  digits.foldl (fun n c => base * n + (hexDigit? c).getD 0) 0

/-- Reads the digits of an integer behind the mark of their base. -/
def readBased (start : List Char) (base : Nat) (label : String) (cs : List Char) :
    Except Halt (Scalar × List Char) :=
  match cs with
  | d :: rest =>
    if isDigitOf base d then do
      let (digits, rest) ← moreDigits (isDigitOf base) label rest
      let value ← integerValue start (valueIn base (d :: digits))
      pure (value, rest)
    else Halt.fail cs (some label) []
  | [] => Halt.fail cs (some label) []

/-- Reads an integer. -/
def readInteger (cs : List Char) :
    Except Halt (Scalar × List Char) :=
  match cs with
  | '0' :: 'x' :: rest => readBased cs 16 "hexadecimal integer" rest
  | '0' :: 'o' :: rest => readBased cs 8 "octal integer" rest
  | '0' :: 'b' :: rest => readBased cs 2 "binary integer" rest
  | cs => do
    match ← readDecimals? cs with
    | none => Halt.pass (takeSign cs).2 (some integerLabel) []
    | some (d, rest) =>
      let magnitude : Int := decimalValue d.digits
      let value ← integerValue cs (if d.negative then -magnitude else magnitude)
      pure (value, rest)

/-- Reads a date, a time or a number. -/
def readNumber (cs : List Char) :
    Except Halt (Scalar × List Char) := do
  match ← readMoment? cs with
  | some rest => pure (.datetime, rest)
  | none =>
    match ← readFloat? cs with
    | some result => pure result
    | none =>
      match readSpecial? cs with
      | some result => pure result
      | none => readInteger cs

end RecipientCallout.Toml
