/-!
# Punycode

The ASCII spelling of labels with other characters: the ASCII characters stand first, then a hyphen,
then numbers that say which further characters are inserted where. Numbers are limited to 32 bits when
they are read.
-/

namespace RecipientCallout.Domain.Punycode

/-- Digits count from 0 to 35. -/
def base : Nat := 36

/-- The least threshold of a digit. -/
def thresholdMin : Nat := 1

/-- The greatest threshold of a digit. -/
def thresholdMax : Nat := 26

/-- The bias that a label begins with. -/
def firstBias : Nat := 72

/-- The code point that a label begins with, the first one beyond ASCII. -/
def firstPoint : Nat := 128

/-- Numbers beyond this overflow. -/
def limit : Nat := Nat.pow 2 32

/-- The threshold of the digit of weight index `k` under a bias. -/
def threshold (k bias : Nat) : Nat :=
  if k ≤ bias then thresholdMin
  else if bias + thresholdMax ≤ k then thresholdMax
  else k - bias

/-- Thresholds are positive. -/
theorem threshold_pos (k bias : Nat) : 0 < threshold k bias := by
  unfold threshold thresholdMin thresholdMax
  split
  · omega
  · split <;> omega

/-- Counts how often a difference has to be scaled down, with what is left of it. -/
def scaleDown (delta k : Nat) : Nat × Nat :=
  if _h : 455 < delta then scaleDown (delta / 35) (k + base) else (delta, k)
termination_by delta

/-- The bias after a difference among `count` characters. -/
def adapt (delta count : Nat) (first : Bool) : Nat :=
  let delta := if first then delta / 700 else delta / 2
  let (delta, k) := scaleDown (delta + delta / count) 0
  k + 36 * delta / (delta + 38)

/-- The character of a digit. -/
def digitChar (d : Nat) : Char :=
  if d < 26 then Char.ofNat (97 + d) else Char.ofNat (22 + d)

/-- The value of a digit; capital letters do not occur. -/
def digit? (c : Char) : Option Nat :=
  if 'a' ≤ c ∧ c ≤ 'z' then some (c.toNat - 97)
  else if '0' ≤ c ∧ c ≤ '9' then some (c.toNat - 22)
  else none

/-- Writes a number in digits whose thresholds follow the bias. -/
def writeNumber (bias k q : Nat) : List Char :=
  let t := threshold k bias
  if _h : q < t then [digitChar q]
  else digitChar (t + (q - t) % (base - t)) :: writeNumber bias (k + base) ((q - t) / (base - t))
termination_by q
decreasing_by
  have hpos := threshold_pos k bias
  calc (q - threshold k bias) / (base - threshold k bias)
      ≤ q - threshold k bias := Nat.div_le_self _ _
    _ < q := by omega

/-- What the encoder carries along: the difference so far, the bias, the characters handled. -/
structure Progress where
  delta : Nat
  bias : Nat
  handled : Nat
  output : List Char

/-- Passes one character of the label while the occurrences of `point` are written. -/
def Progress.pass (basics point : Nat) (p : Progress) (c : Char) : Progress :=
  if c.toNat < point then { p with delta := p.delta + 1 }
  else if c.toNat = point then
    { delta := 0
      bias := adapt p.delta (p.handled + 1) (p.handled == basics)
      handled := p.handled + 1
      output := p.output ++ writeNumber p.bias base p.delta }
  else p

/-- Writes all occurrences of each of the given points in turn, which ascend from `next`. -/
def encodePoints (label : List Char) (basics : Nat) : Nat → List Nat → Progress → List Char
  | _, [], p => p.output
  | next, point :: points, p =>
    let p := { p with delta := p.delta + (point - next) * (p.handled + 1) }
    let p := label.foldl (Progress.pass basics point) p
    encodePoints label basics (point + 1) points { p with delta := p.delta + 1 }

/-- Keeps one of each stretch of equal numbers. -/
def dropRepeats : List Nat → List Nat
  | a :: b :: rest => if a = b then dropRepeats (b :: rest) else a :: dropRepeats (b :: rest)
  | rest => rest

/-- The Punycode of a label. -/
def encode (label : List Char) : List Char :=
  let basics := label.filter (·.toNat < firstPoint)
  let points := ((label.map Char.toNat).filter (firstPoint ≤ ·)).mergeSort
  let start := if basics = [] then [] else basics ++ ['-']
  start ++ encodePoints label basics.length firstPoint (dropRepeats points)
    ⟨0, firstBias, basics.length, []⟩

/-- Reads a number that is added to `i`, with the weight of its next digit; gives the sum and the
rest. -/
def readNumber (bias k weight i : Nat) : List Char → Option (Nat × List Char)
  | [] => none
  | c :: cs =>
    match digit? c with
    | none => none
    | some d =>
      let sum := i + d * weight
      if limit ≤ d * weight ∨ limit ≤ sum then none
      else
        let t := threshold k bias
        if d < t then some (sum, cs)
        else if limit ≤ weight * (base - t) then none
        else readNumber bias (k + base) (weight * (base - t)) sum cs

/-- Reading a number takes at least one digit. -/
theorem readNumber_length {bias k weight i : Nat} {cs rest : List Char} {n : Nat}
    (h : readNumber bias k weight i cs = some (n, rest)) : rest.length < cs.length := by
  induction cs generalizing k weight i with
  | nil => simp [readNumber] at h
  | cons c cs ih =>
    simp only [readNumber] at h
    split at h
    · simp at h
    · split at h
      · simp at h
      · split at h
        · simp only [Option.some.injEq, Prod.mk.injEq] at h
          simp [h.2]
        · split at h
          · simp at h
          · have := ih h
            simp only [List.length_cons]
            omega

/-- A code point as a character, unless it lies outside Unicode or is half of a pair. -/
def char? (point : Nat) : Option Char :=
  if point < 0xD800 ∨ (0xDFFF < point ∧ point < 0x110000) then some (Char.ofNat point) else none

/-- Inserts the characters that the numbers stand for into `label`. -/
def insertPoints (label : List Char) (point i bias : Nat) (cs : List Char) :
    Option (List Char) :=
  if cs = [] then some label
  else
    match _h : readNumber bias base 1 i cs with
    | none => none
    | some (sum, rest) =>
      let count := label.length + 1
      let point := point + sum / count
      let position := sum % count
      if limit ≤ point then none
      else
        match char? point with
        | none => none
        | some c =>
          insertPoints (label.take position ++ c :: label.drop position) point (position + 1)
            (adapt (sum - i) count (i == 0)) rest
termination_by cs.length
decreasing_by exact readNumber_length ‹_›

/-- The ASCII characters of a spelling and its numbers, which the last hyphen parts; a hyphen at the
very start belongs to the numbers. -/
def parts (spelling : List Char) : List Char × List Char :=
  let numbers := (spelling.reverse.takeWhile (· ≠ '-')).reverse
  let basics := spelling.take (spelling.length - numbers.length - 1)
  if basics = [] then ([], spelling) else (basics, numbers)

/-- The label that a spelling stands for. -/
def decode? (spelling : List Char) : Option (List Char) :=
  let (basics, numbers) := parts spelling
  if basics.all (·.toNat < firstPoint) then insertPoints basics firstPoint 0 firstBias numbers
  else none

end RecipientCallout.Domain.Punycode
