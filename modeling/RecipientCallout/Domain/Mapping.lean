import RecipientCallout.Domain.MappingRuns

/-!
# Case and compatibility mapping

`mapText?` brings a domain name into a form in which spellings that count as equal are equal: capital
letters become small ones, compatibility characters become ordinary ones, invisible ones vanish. It
fails if the name holds a character that no domain name may hold. ASCII text is only folded to
lowercase.
-/

namespace RecipientCallout.Domain
open RecipientCallout.Text

/-- The treatment of a character that lies in a run. -/
def Treatment.apply (run : Run Treatment) (c : Char) : List Char :=
  match run.value with
  | .keep => [c]
  | .drop => []
  | .alternate => if (c.toNat - run.first) % 2 = 0 then [Char.ofNat (c.toNat + 1)] else [c]
  | .shift target => [Char.ofNat (target + (c.toNat - run.first))]
  | .replace text => text.map Char.ofNat

/-- What a character becomes, if a domain name may hold it. -/
def mapChar? (c : Char) : Option (List Char) :=
  if c.toNat < 0x80 then some [c.toLower]
  else (Run.find? mappingRuns c.toNat).map (Treatment.apply · c)

/-- What a text becomes, if a domain name may hold all its characters. -/
def mapText? (cs : List Char) : Option (List Char) :=
  (cs.mapM mapChar?).map List.flatten

end RecipientCallout.Domain
