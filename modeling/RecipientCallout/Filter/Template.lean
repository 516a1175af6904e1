import RecipientCallout.Filter.Escape
import RecipientCallout.Text.Split

/-!
# Search filter templates

A template is a search filter with question marks where the escaped value of a search goes.
-/

namespace RecipientCallout.Filter
open RecipientCallout.Text

/-- The character of a template that stands for the value. -/
def slot : Char := '?'

/-- A template: a text with at least one slot. -/
structure Template where
  source : List Char
  slot_mem : slot ∈ source

namespace Template

/-- Takes a text as a template, if it has a slot. -/
def parse? (text : String) : Option Template :=
  if h : slot ∈ text.toList then some ⟨text.toList, h⟩ else none

/-- A text is no template exactly if it has no slot. -/
theorem parse?_eq_none {text : String} : parse? text = none ↔ slot ∉ text.toList := by
  unfold parse?
  split
  case isTrue mem => simp [mem]
  case isFalse notMem => simp [notMem]

/-- The filter with the escaped value in every slot. -/
def fill (t : Template) (value : String) : String :=
  String.ofList (joinWith (escape value.toList) (splitOn slot t.source))

/-- Finds persons whose accounts are in use by their addresses. -/
def defaultUsers : String :=
  "(&(objectCategory=person)(!(userAccountControl:1.2.840.113556.1.4.803:=2))(proxyAddresses=?))"

/-- Finds public folders by their addresses. -/
def defaultFolders : String := "(&(objectClass=publicFolder)(proxyAddresses=?))"

end Template
end RecipientCallout.Filter
