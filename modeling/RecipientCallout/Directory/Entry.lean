/-!
# Directory entries

An entry has a distinguished name and attributes with text values. Names of attributes are compared
without regard to ASCII case when a value is asked for, as servers echo them in a case of their own.
The order of the attributes means nothing: a client keeps them in one of its own, which may be another in
each run (`Arrangement`).
-/

namespace RecipientCallout.Directory

/-- An entry found by a search; its attributes have distinct names and stand in the order in which the client
keeps them. -/
structure Entry where
  dn : String
  attributes : List (String × List String)
  deriving DecidableEq, Repr

/-- Whether two names differ at most in the case of ASCII letters. -/
def sameName (a b : String) : Bool := a.toList.map Char.toLower == b.toList.map Char.toLower

namespace Entry

/-- An entry without attributes. -/
def new (dn : String) : Entry := ⟨dn, []⟩

/-- Puts values behind those of the attribute of exactly this name. -/
def appendTo (name : String) (values : List String) :
    List (String × List String) → List (String × List String)
  | [] => [(name, values)]
  | (other, present) :: rest =>
    if other = name then (other, present ++ values) :: rest
    else (other, present) :: appendTo name values rest

/-- Sets the values of the attribute of exactly this name. -/
def setIn (name : String) (values : List String) :
    List (String × List String) → List (String × List String)
  | [] => [(name, values)]
  | (other, present) :: rest =>
    if other = name then (other, values) :: rest else (other, present) :: setIn name values rest

/-- Adds values to an attribute, which exists afterwards even if there were none to add. -/
def append (e : Entry) (name : String) (values : List String) : Entry :=
  { e with attributes := appendTo name values e.attributes }

/-- Replaces the values of an attribute. -/
def replace (e : Entry) (name : String) (values : List String) : Entry :=
  { e with attributes := setIn name values e.attributes }

/-- The first value that is not empty among the attributes of this name. -/
def firstValue? (e : Entry) (name : String) : Option String :=
  ((e.attributes.filter fun (other, _) => sameName other name).flatMap (·.2)).find? (· ≠ "")

end Entry

/-- The order in which a client keeps the attributes of an entry. -/
structure Arrangement where
  arrange : List (String × List String) → List (String × List String)
  perm : ∀ attributes, (arrange attributes).Perm attributes

/-- The order in which attributes were first set. -/
def Arrangement.asSet : Arrangement := ⟨id, fun _ => .refl _⟩

/-- The entry with its attributes in the order in which a client keeps them. -/
def Entry.arranged (e : Entry) (arrangement : Arrangement) : Entry :=
  { e with attributes := arrangement.arrange e.attributes }

end RecipientCallout.Directory
