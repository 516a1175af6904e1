import RecipientCallout.Domain.Composition
import RecipientCallout.Domain.JoiningRuns

/-!
# Marks and joiners in labels

A label may not begin with a mark, and the invisible joiners may stand only where they change how
neighbouring letters are shown.
-/

namespace RecipientCallout.Domain
open RecipientCallout.Text

/-- Whether a character is a mark, which attaches to the one before it. -/
def isMark (c : Char) : Bool := 0x80 ≤ c.toNat && Run.contains markRuns c

/-- How a character joins its neighbours. -/
def joining? (c : Char) : Option Joining :=
  if c.toNat < 0x80 then none else (Run.find? joiningRuns c.toNat).map (·.value)

/-- The zero-width character that parts its neighbours. -/
def nonJoiner : Char := Char.ofNat 0x200C

/-- The zero-width character that joins its neighbours. -/
def joiner : Char := Char.ofNat 0x200D

/-- The combining class of marks that take the vowel off a letter. -/
def viramaClass : Nat := 9

/-- The joining type of the first character that is not passed over. -/
def nextJoining? (cs : List Char) : Option Joining :=
  (cs.dropWhile fun c => joining? c = some .transparent).head?.bind joining?

/-- Whether every joiner in `rest` is in its place, where `before` is the text before it, the last
character first. -/
def joinersInPlace (before : List Char) : List Char → Bool
  | [] => true
  | c :: rest =>
    (if c = nonJoiner ∨ c = joiner then
      match before with
      | [] => false
      | last :: _ =>
        combiningClass last == viramaClass ||
          (c == nonJoiner &&
            (nextJoining? before == some .left || nextJoining? before == some .both) &&
            (nextJoining? rest == some .right || nextJoining? rest == some .both))
    else true) && joinersInPlace (c :: before) rest

/-- Whether a label begins with no mark and has its joiners in place. -/
def isWellFormed (label : List Char) : Bool :=
  (match label with
    | [] => true
    | c :: _ => !isMark c) && joinersInPlace [] label

end RecipientCallout.Domain
