import RecipientCallout.Domain.DirectionRuns

/-!
# Writing direction of labels

A domain name with letters written from right to left is acceptable only if each of its labels keeps
to one direction, so that it can be shown without ambiguity.
-/

namespace RecipientCallout.Domain
open RecipientCallout.Text

/-- The bidirectional class of a character. -/
def direction (c : Char) : Direction :=
  let n := c.toNat
  if n < 0x80 then
    if 'a'.toNat ≤ n ∧ n ≤ 'z'.toNat then .left
    else if 'A'.toNat ≤ n ∧ n ≤ 'Z'.toNat then .left
    else if '0'.toNat ≤ n ∧ n ≤ '9'.toNat then .europeanDigit
    else if c = '+' ∨ c = '-' then .europeanSeparator
    else if c = '#' ∨ c = '$' ∨ c = '%' then .europeanTerminator
    else if c = ',' ∨ c = '.' ∨ c = '/' ∨ c = ':' then .commonSeparator
    else if n < 9 ∨ (0x0E ≤ n ∧ n < 0x1C) ∨ n = 0x7F then .boundary
    else if n ≤ 0x20 then .other
    else .neutral
  else ((Run.find? directionRuns n).map (·.value)).getD .left

/-- The classes of characters that make a name bidirectional. -/
def Direction.isRightToLeft : Direction → Bool
  | .right | .arabic | .arabicDigit => true
  | _ => false

/-- The classes that may stand in labels of either direction. -/
def Direction.isShared : Direction → Bool
  | .europeanDigit | .europeanSeparator | .europeanTerminator | .commonSeparator | .neutral
  | .boundary | .mark => true
  | _ => false

/-- Whether a label keeps to one direction. -/
def keepsDirection (label : List Char) : Bool :=
  let classes := label.map direction
  let last := (classes.reverse.dropWhile (· = .mark)).head?
  match classes.head? with
  | none => true
  | some .left =>
    classes.all (fun d => d.isShared || d = .left) && (last = some .left || last = some .europeanDigit)
  | some .right | some .arabic =>
    classes.all (fun d => d.isShared || d.isRightToLeft) &&
      (last = some .right || last = some .arabic || last = some .arabicDigit ||
        last = some .europeanDigit) &&
      !(classes.contains .europeanDigit && classes.contains .arabicDigit)
  | some _ => false

/-- Whether the labels of a name are acceptable together: if any of them has a character written from
right to left, each keeps to one direction. -/
def keepDirections (labels : List (List Char)) : Bool :=
  if labels.any (·.any fun c => (direction c).isRightToLeft) then labels.all keepsDirection else true

end RecipientCallout.Domain
