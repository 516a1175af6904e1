import RecipientCallout.Toml.Node

/-!
# Reading a document: blanks, comments, line ends

Reading functions take what is left of the document and give what they read together with what is left
then. Where reading fails, `Halt` says where, why, and whether another reading may still be tried.
-/

namespace RecipientCallout.Toml

/-- Where and why reading has stopped. -/
structure Halt where
  /-- What is left of the document at the place of the complaint. -/
  place : List Char
  complaint : Complaint
  /-- Whether nothing else may be tried. -/
  committed : Bool

/-- What was read and what is left. -/
abbrev Scan (α : Type) := Except Halt (α × List Char)

namespace Halt

/-- Stops reading for good. -/
def fail {α : Type} (place : List Char) (label : Option String) (expected : List String) :
    Except Halt α :=
  .error ⟨place, .grammar label expected none, true⟩

/-- Stops reading for good, for a cause. -/
def because {α : Type} (place : List Char) (label : Option String) (cause : Cause) :
    Except Halt α :=
  .error ⟨place, .grammar label [] (some cause), true⟩

/-- Stops this reading, but another may be tried. -/
def pass {α : Type} (place : List Char) (label : Option String) (expected : List String) :
    Except Halt α :=
  .error ⟨place, .grammar label expected none, false⟩

/-- The fault that a halt amounts to: a complaint about the next character. -/
def fault (h : Halt) : Fault := ⟨.next h.place, h.complaint⟩

end Halt

/-- Makes a failure final. -/
def commit {α : Type} : Except Halt α → Except Halt α
  | .error h => .error { h with committed := true }
  | .ok a => .ok a

/-- Names what could not be read, unless it has a name already. -/
def labelled {α : Type} (name : String) : Except Halt α → Except Halt α
  | .error h =>
    match h.complaint with
    | .grammar none expected cause =>
      .error { h with complaint := .grammar (some name) expected cause }
    | _ => .error h
  | .ok a => .ok a

/-- Blanks within a line. -/
def isBlank (c : Char) : Bool := c = ' ' || c = '\t'

/-- Skips blanks. -/
def skipBlanks (cs : List Char) : List Char := cs.dropWhile isBlank

/-- Characters that a comment may hold. -/
def isCommentChar (c : Char) : Bool := c = '\t' || (0x20 ≤ c.toNat && c.toNat ≠ 0x7F)

/-- Takes a line end off. -/
def newline? : List Char → Option (List Char)
  | '\n' :: rest => some rest
  | '\r' :: '\n' :: rest => some rest
  | _ => none

/-- Skips a comment, up to the end of its line. -/
def skipComment : List Char → List Char
  | '#' :: rest => rest.dropWhile isCommentChar
  | cs => cs

/-- Takes a line end off, or finds the end of the document. -/
def lineEnd? (cs : List Char) : Option (List Char) :=
  match cs with
  | [] => some []
  | cs => newline? cs

/-- Skips the rest of a line, which may hold a comment alone. -/
def finishLine (cs : List Char) : Except Halt (List Char) :=
  let place := skipComment (skipBlanks cs)
  match lineEnd? place with
  | some rest => .ok rest
  | none => Halt.fail place none ["newline", "`#`"]

/-- Skips blanks and line ends. -/
def skipLines : List Char → List Char
  | ' ' :: rest => skipLines rest
  | '\t' :: rest => skipLines rest
  | '\n' :: rest => skipLines rest
  | '\r' :: '\n' :: rest => skipLines rest
  | cs => cs

/-- Skips blanks, line ends and comments between the parts of an array. -/
def skipBetween : Nat → List Char → Except Halt (List Char)
  | 0, cs => .ok cs
  | fuel + 1, cs =>
    match skipBlanks cs with
    | '#' :: rest =>
      let place := rest.dropWhile isCommentChar
      match newline? place with
      | some rest => skipBetween fuel rest
      | none => Halt.fail place none []
    | '\n' :: rest => skipBetween fuel rest
    | '\r' :: '\n' :: rest => skipBetween fuel rest
    | '\r' :: rest => Halt.fail rest none []
    | rest => .ok rest

end RecipientCallout.Toml
