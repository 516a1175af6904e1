import RecipientCallout.Domain.Ascii

/-!
# Matching a recipient's domain

Whether the domain of a recipient counts as the accepted domain.
-/

namespace RecipientCallout.Domain

/-- How a recipient's domain is compared with the accepted one. -/
inductive Comparison where
  /-- Character for character. -/
  | exact
  /-- By the ASCII forms of both names. -/
  | caseInsensitive
  deriving DecidableEq, Repr

/-- Exactness is the default. -/
instance : Inhabited Comparison := ⟨.exact⟩

/-- Whether `candidate` counts as `accepted`. A name without an ASCII form, or with an empty one,
counts as nothing when names are compared loosely. -/
def isMatch (comparison : Comparison) (candidate accepted : String) : Bool :=
  match comparison with
  | .exact => candidate == accepted
  | .caseInsensitive =>
    match toAscii? candidate, toAscii? accepted with
    | some c, some a => c ≠ [] && c == a
    | _, _ => false

end RecipientCallout.Domain
