import RecipientCallout.Toml.Scan

/-!
# Reading a document: dates and times

Dates such as `1979-05-27`, times such as `07:32:00.5`, and both together, perhaps with the distance to
universal time. Nothing asks for their values, so reading them only checks them.
-/

namespace RecipientCallout.Toml

/-- Whether a character is a decimal digit. -/
def isDigit (c : Char) : Bool := '0' ≤ c && c ≤ '9'

/-- The number that decimal digits stand for. -/
def decimalValue (digits : List Char) : Nat :=
  digits.foldl (fun n c => 10 * n + (c.toNat - 48)) 0

/-- Why no number in the wanted range stands at a place. -/
inductive DigitProblem where
  | absent
  | outOfRange

/-- Reads two digits whose number lies within bounds. -/
def twoDigits (lo hi : Nat) : List Char → Except DigitProblem (Nat × List Char)
  | a :: b :: rest =>
    if isDigit a && isDigit b then
      let n := decimalValue [a, b]
      if lo ≤ n && n ≤ hi then .ok (n, rest) else .error .outOfRange
    else .error .absent
  | _ => .error .absent

/-- Two digits that have to follow. -/
def requireTwo (label : String) (lo hi : Nat) (cs : List Char) : Scan Nat :=
  match twoDigits lo hi cs with
  | .ok result => .ok result
  | .error .absent => Halt.fail cs (some label) []
  | .error .outOfRange => Halt.because cs (some label) .outOfRange

/-- A character that has to follow. -/
def requireChar (label : String) (wanted : Char) : List Char → Except Halt (List Char)
  | c :: rest => if c = wanted then .ok rest else Halt.fail (c :: rest) (some label) []
  | [] => Halt.fail [] (some label) []

/-- Skips the fraction of a second. -/
def skipFraction : List Char → List Char
  | '.' :: d :: rest => if isDigit d then rest.dropWhile isDigit else '.' :: d :: rest
  | cs => cs

/-- Reads a time, if an hour and a colon stand there. -/
def readTime? (label : String) (cs : List Char) : Except Halt (Option (List Char)) :=
  match twoDigits 0 23 cs with
  | .ok (_, ':' :: rest) => do
    let (_, rest) ← requireTwo label 0 59 rest
    let rest ← requireChar label ':' rest
    let (_, rest) ← requireTwo label 0 60 rest
    pure (some (skipFraction rest))
  | _ => pure none

/-- Skips the distance to universal time, if there is one. -/
def skipOffset (cs : List Char) : Except Halt (List Char) :=
  match cs with
  | 'Z' :: rest => pure rest
  | 'z' :: rest => pure rest
  | c :: rest =>
    if c = '+' ∨ c = '-' then do
      let (_, rest) ← requireTwo "time offset" 0 23 rest
      let rest ← requireChar "time offset" ':' rest
      let (_, rest) ← requireTwo "time offset" 0 59 rest
      pure rest
    else pure (c :: rest)
  | [] => pure []

/-- The number of days of a month. -/
def daysIn (year month : Nat) : Nat :=
  match month with
  | 2 => if year % 4 = 0 ∧ (year % 100 ≠ 0 ∨ year % 400 = 0) then 29 else 28
  | 4 | 6 | 9 | 11 => 30
  | _ => 31

/-- Reads a date, if four digits and a hyphen stand there. -/
def readDate? (cs : List Char) : Except Halt (Option (List Char)) :=
  match cs with
  | a :: b :: c :: d :: '-' :: rest =>
    if [a, b, c, d].all isDigit then do
      let (month, rest) ← requireTwo "date-time" 1 12 rest
      let rest ← requireChar "date-time" '-' rest
      let (day, after) ← requireTwo "date-time" 1 31 rest
      if day ≤ daysIn (decimalValue [a, b, c, d]) month then pure (some after)
      else Halt.because rest (some "date-time") .outOfRange
    else pure none
  | _ => pure none

/-- Reads a date, a time or both, if one stands there. -/
def readMoment? (cs : List Char) : Except Halt (Option (List Char)) := do
  match ← readDate? cs with
  | none => readTime? "time" cs
  | some rest =>
    match rest with
    | c :: after =>
      if c = 'T' ∨ c = 't' ∨ c = ' ' then
        match ← readTime? "date-time" after with
        | some rest => pure (some (← skipOffset rest))
        | none => pure (some rest)
      else pure (some rest)
    | [] => pure (some rest)

end RecipientCallout.Toml
