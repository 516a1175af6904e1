import RecipientCallout.Domain.CompositionRuns

/-!
# Canonical composition

`compose` brings a text into the form in which every letter with its marks is written in one way: it
takes composed characters apart, puts marks into canonical order, and composes again as far as it can.
-/

namespace RecipientCallout.Domain
open RecipientCallout.Text

/-- The combining class of a character; zero for all that is not a combining mark. -/
def combiningClass (c : Char) : Nat :=
  if c.toNat < 0x300 then 0
  else ((Run.find? combiningRuns c.toNat).map (·.value)).getD 0

/-- The code points of the parts of Hangul syllables, and how many there are of each part. -/
structure HangulBlock where
  syllable : Nat := 0xAC00
  leading : Nat := 0x1100
  vowel : Nat := 0x1161
  trailing : Nat := 0x11A7
  leadings : Nat := 19
  vowels : Nat := 21
  trailings : Nat := 28

/-- The Hangul syllables. -/
def hangul : HangulBlock := {}

/-- The pair that a composed character stands for. -/
def decomposePair? (point : Nat) : Option (Nat × Nat) :=
  if point < 0xC0 then none
  else if hangul.syllable ≤ point ∧
      point < hangul.syllable + hangul.leadings * hangul.vowels * hangul.trailings then
    let index := point - hangul.syllable
    if index % hangul.trailings = 0 then
      let index := index / hangul.trailings
      some (hangul.leading + index / hangul.vowels, hangul.vowel + index % hangul.vowels)
    else
      some (point - index % hangul.trailings, hangul.trailing + index % hangul.trailings)
  else (Run.find? compositionRuns point).map (·.value)

/-- Takes a character apart, at most `depth` times. The second of a pair is never composed. -/
def decomposePoint : Nat → Nat → List Nat
  | 0, point => [point]
  | depth + 1, point =>
    match decomposePair? point with
    | none => [point]
    | some (first, second) => decomposePoint depth first ++ [second]

/-- No character stands for pairs nested deeper than this. -/
def decompositionDepth : Nat := 4

/-- Takes a character apart. -/
def decomposeChar (c : Char) : List Char :=
  (decomposePoint decompositionDepth c.toNat).map Char.ofNat

/-- Puts a mark in front of text that is in order, behind the marks of lower class there. -/
def insertMark (mark : Char) : List Char → List Char
  | [] => [mark]
  | c :: cs =>
    if combiningClass c ≠ 0 ∧ combiningClass c < combiningClass mark then c :: insertMark mark cs
    else mark :: c :: cs

/-- Sorts each stretch of marks by their classes, keeping the order within a class. -/
def orderMarks : List Char → List Char
  | [] => []
  | c :: cs => if combiningClass c = 0 then c :: orderMarks cs else insertMark c (orderMarks cs)

/-- The composed characters by the pair that each stands for, sorted by that pair. -/
def compositions : Array ((Nat × Nat) × Nat) :=
  (compositionRuns.map fun run => (run.value, run.first)).insertionSort fun a b =>
    a.1.1 < b.1.1 || (a.1.1 == b.1.1 && a.1.2 < b.1.2)

/-- Looks for a pair among sorted compositions between two indices. -/
def searchComposition (pairs : Array ((Nat × Nat) × Nat)) (pair : Nat × Nat) (lo hi : Nat) :
    Option Nat :=
  if _h : lo < hi then
    let mid := (lo + hi) / 2
    match pairs[mid]? with
    | none => none
    | some (here, point) =>
      if pair.1 < here.1 || (pair.1 == here.1 && pair.2 < here.2) then
        searchComposition pairs pair lo mid
      else if here == pair then some point
      else searchComposition pairs pair (mid + 1) hi
  else none
termination_by hi - lo

/-- The character that stands for a pair. -/
def composePair? (first second : Char) : Option Char :=
  let a := first.toNat
  let b := second.toNat
  if b < 0x300 then none
  else if hangul.leading ≤ a ∧ a < hangul.leading + hangul.leadings ∧
      hangul.vowel ≤ b ∧ b < hangul.vowel + hangul.vowels then
    some (Char.ofNat (hangul.syllable +
      ((a - hangul.leading) * hangul.vowels + (b - hangul.vowel)) * hangul.trailings))
  else if hangul.syllable ≤ a ∧
      a < hangul.syllable + hangul.leadings * hangul.vowels * hangul.trailings ∧
      (a - hangul.syllable) % hangul.trailings = 0 ∧
      hangul.trailing < b ∧ b < hangul.trailing + hangul.trailings then
    some (Char.ofNat (a + (b - hangul.trailing)))
  else (searchComposition compositions (a, b) 0 compositions.size).map Char.ofNat

/-- Composes text onto `starter`, behind which stand the marks `held` (the last one first) that it
did not take. A mark is out of reach behind one of the same or a higher class. -/
def composeOnto (starter : Char) (held : List Char) : List Char → List Char
  | [] => starter :: held.reverse
  | c :: cs =>
    let reachable :=
      match held with
      | [] => true
      | mark :: _ => combiningClass mark < combiningClass c
    match if reachable then composePair? starter c else none with
    | some composed => composeOnto composed held cs
    | none =>
      if combiningClass c = 0 then starter :: held.reverse ++ composeOnto c [] cs
      else composeOnto starter (c :: held) cs

/-- Composes ordered text; marks at its start have nothing to join. -/
def composeOrdered : List Char → List Char
  | [] => []
  | c :: cs =>
    if combiningClass c = 0 then composeOnto c [] cs else c :: composeOrdered cs

/-- The canonically composed form of a text. -/
def compose (cs : List Char) : List Char :=
  if cs.all (·.toNat < 0x300) then cs
  else composeOrdered (orderMarks (cs.flatMap decomposeChar))

end RecipientCallout.Domain
