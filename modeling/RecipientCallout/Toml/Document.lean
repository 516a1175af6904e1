import RecipientCallout.Toml.Value

/-!
# Reading a document

A document is a sequence of lines with entries, headers of tables and comments. `Document.read` gives
its root table or the first fault.
-/

namespace RecipientCallout.Toml
namespace Document

/-- The name of headers in complaints. -/
def headerLabel : String := "table header"

/-- Reads an entry on a line of its own. -/
def readEntry (draft : Draft) (cs : List Char) : Except Halt (Draft × List Char) := do
  let ((path, key), rest) ← commit (readKeys cs)
  let (value, rest) ← readAssigned (readValue (depthLimit - 1)) rest
  let rest ← finishLine rest
  match draft.addEntry path key value with
  | .ok draft => pure (draft, rest)
  | .error cause => Halt.because cs none cause

/-- Closes a header by its brackets. -/
def closeHeader (brackets : String) (cs : List Char) : Except Halt (List Char) :=
  if brackets.toList.isPrefixOf cs then .ok (cs.drop brackets.length)
  else Halt.fail cs none ["`.`", "`" ++ brackets ++ "`"]

/-- Reads a header behind its opening brackets, which stand at `start`. -/
def readHeaderBody (draft : Draft) (start : List Char) (repeated : Bool) (brackets : String)
    (cs : List Char) : Except Halt (Draft × List Char) := do
  let ((path, key), rest) ← commit (readKeys cs)
  let after ← closeHeader brackets rest
  let rest ← finishLine after
  match draft.openTable repeated (path ++ [key]) (.between start after) with
  | .ok draft => pure (draft, rest)
  | .error cause => Halt.because start none cause

/-- Reads a header; double brackets open one more table under a repeated header. -/
def readHeader (draft : Draft) (cs : List Char) : Except Halt (Draft × List Char) :=
  labelled headerLabel <|
    match cs with
    | '[' :: '[' :: rest => readHeaderBody draft cs true "]]" rest
    | '[' :: c :: rest => readHeaderBody draft cs false "]" (c :: rest)
    | cs => Halt.fail cs none []

/-- Reads the lines of a document; each step takes at least one character. -/
def readLines : Nat → Draft → List Char → Except Halt Draft
  | 0, draft, _ => .ok draft
  | fuel + 1, draft, cs =>
    match skipBlanks cs with
    | [] => .ok draft
    | '#' :: rest =>
      let place := rest.dropWhile isCommentChar
      match lineEnd? place with
      | some rest => readLines fuel draft rest
      | none => Halt.fail place none []
    | '\n' :: rest => readLines fuel draft rest
    | '\r' :: '\n' :: rest => readLines fuel draft rest
    | '\r' :: rest => Halt.fail ('\r' :: rest) none []
    | '[' :: rest =>
      match readHeader draft ('[' :: rest) with
      | .ok (draft, rest) => readLines fuel draft rest
      | .error h => .error h
    | line =>
      match readEntry draft line with
      | .ok (draft, rest) => readLines fuel draft rest
      | .error h => .error h

/-- Takes off the mark that some editors put in front of a text. -/
def dropByteOrderMark : List Char → List Char
  | '\uFEFF' :: rest => rest
  | cs => cs

/-- The root table of a document. -/
def read (text : String) : Except Fault Node :=
  let cs := text.toList
  match readLines (cs.length + 1) (.start (octets cs)) (dropByteOrderMark cs) with
  | .error h => .error h.fault
  | .ok draft =>
    match draft.close with
    | .ok root => .ok root
    | .error cause => .error ⟨.next [], .grammar none [] (some cause)⟩

end Document
end RecipientCallout.Toml
