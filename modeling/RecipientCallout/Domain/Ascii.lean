import RecipientCallout.Domain.Direction
import RecipientCallout.Domain.Joining
import RecipientCallout.Domain.Mapping
import RecipientCallout.Domain.Punycode

/-!
# The ASCII form of a domain name

`toAscii?` gives the form in which internationalised domain names are compared: mapped and composed,
each label with characters beyond ASCII spelled in Punycode behind `xn--`. It fails on names that are
no acceptable domain names, such as ones with a spelling behind `xn--` that stands for nothing.
-/

namespace RecipientCallout.Domain
open RecipientCallout.Text

/-- A label of a name: as it is shown, and as it is spelled in ASCII. -/
structure Label where
  shown : List Char
  ascii : List Char

/-- The mark of a label that is spelled in Punycode. -/
def spellingMark : List Char := ['x', 'n', '-', '-']

/-- The length of the longest spelling that is read. -/
def spellingLimit : Nat := 2000

/-- The length of the longest label that is spelled. -/
def labelLimit : Nat := 1000

/-- Whether all characters of a text belong to ASCII. -/
def isAscii (cs : List Char) : Bool := cs.all (·.toNat < 0x80)

/-- Reads the spelling behind the mark of a label. What it stands for has to be in mapped and composed
form already. -/
def decodeSpelling? (spelling : List Char) : Option (List Char) :=
  if spelling = [] ∨ spelling.getLast? = some '-' ∨ spellingLimit < spelling.length then none
  else
    match Punycode.decode? spelling with
    | none => none
    | some shown =>
      if (mapText? shown).map compose = some shown ∧ isWellFormed shown then some shown else none

/-- Reads a label of a mapped name. -/
def Label.read? (text : List Char) : Option Label :=
  if spellingMark.isPrefixOf text then
    (decodeSpelling? (text.drop spellingMark.length)).map (⟨·, text⟩)
  else if isAscii text then some ⟨text, text⟩
  else if isWellFormed text ∧ text.length ≤ labelLimit then
    some ⟨text, spellingMark ++ Punycode.encode text⟩
  else none

/-- The ASCII form of a mapped name. -/
def asciiOfMapped? (mapped : List Char) : Option (List Char) :=
  match (splitOn '.' (compose mapped)).mapM Label.read? with
  | none => none
  | some labels =>
    if keepDirections (labels.map Label.shown) then
      some (joinWith ['.'] (labels.map Label.ascii))
    else none

/-- The ASCII form of a domain name. Names that are ASCII already are mapped like all others, with no shorter
way for them. -/
def toAscii? (name : String) : Option (List Char) :=
  (mapText? name.toList).bind asciiOfMapped?

end RecipientCallout.Domain
