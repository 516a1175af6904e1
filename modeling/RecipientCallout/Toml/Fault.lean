import RecipientCallout.Decimal.Binary64
import RecipientCallout.Text.Quoted

/-!
# Faults of configuration documents

What can be wrong with a document, where, and the picture of the place that goes with the message.
-/

namespace RecipientCallout.Toml
open RecipientCallout.Text

/-- The number of octets of a text. -/
def octets (cs : List Char) : Nat := cs.foldr (fun c n => c.utf8Size + n) 0

/-- A stretch of a document, told by how many octets of the document are left at its start and at its
end, as reading goes by what is left. -/
structure Span where
  startLeft : Nat
  stopLeft : Nat
  deriving DecidableEq, Repr

namespace Span

/-- The stretch from where `before` is left to where `after` is left. -/
def between (before after : List Char) : Span := ⟨octets before, octets after⟩

/-- The stretch of the next character. -/
def next (cs : List Char) : Span := between cs cs.tail

/-- The stretch from the start of one to the end of another. -/
def extend (first last : Span) : Span := ⟨first.startLeft, last.stopLeft⟩

end Span

/-- What a document can go wrong by apart from its plain grammar. -/
inductive Cause where
  /-- A key stands twice in a table, which is named if it is known by a header. -/
  | duplicateKey (key : String) (table : Option (List String))
  /-- A dotted key goes through a value of another kind. -/
  | notTable (path : List String) (kind : String)
  | outOfRange
  | tooDeep
  | tooLarge
  | tooSmall
  deriving DecidableEq, Repr

/-- The wording of a cause. -/
def Cause.message : Cause → String
  | .duplicateKey key none => "duplicate key `" ++ key ++ "`"
  | .duplicateKey key (some []) => "duplicate key `" ++ key ++ "` in document root"
  | .duplicateKey key (some path) =>
    "duplicate key `" ++ key ++ "` in table `" ++ ".".intercalate path ++ "`"
  | .notTable path kind =>
    "dotted key `" ++ ".".intercalate path ++ "` attempted to extend non-table type (" ++ kind ++ ")"
  | .outOfRange => "value is out of range"
  | .tooDeep => "recursion limit exceeded"
  | .tooLarge => "number too large to fit in target type"
  | .tooSmall => "number too small to fit in target type"

/-- What a value turns out to be where another kind of value is wanted. -/
inductive Found where
  | text (value : String)
  | integer (value : Int)
  | float (value : Decimal.Binary64)
  | boolean (value : Bool)
  | sequence
  | mapping
  deriving DecidableEq, Repr

/-- The wording of what was found. -/
def Found.message : Found → String
  | .text value => "string " ++ quoted value
  | .integer value => "integer `" ++ toString value ++ "`"
  | .float value => "floating point `" ++ value.render ++ "`"
  | .boolean value => "boolean `" ++ toString value ++ "`"
  | .sequence => "sequence"
  | .mapping => "map"

/-- A list of alternatives: two are joined by "or", more stand behind "one of". -/
def alternatives : List String → String
  | [] => ""
  | [one] => "`" ++ one ++ "`"
  | [one, other] => "`" ++ one ++ "` or `" ++ other ++ "`"
  | many => "one of " ++ ", ".intercalate (many.map fun name => "`" ++ name ++ "`")

/-- What is wrong at a place of a document. -/
inductive Complaint where
  /-- The text does not follow the grammar: what could not be read, and what may stand there. -/
  | grammar (label : Option String) (expected : List String) (cause : Option Cause)
  | missingField (key : String)
  | unknownField (key : String) (known : List String)
  | unknownVariant (name : String) (known : List String)
  | invalidType (found : Found) (wanted : String)
  | invalidInteger (value : Int) (wanted : String)
  /-- A choice is given by something that is neither text nor a table. -/
  | notChoice
  /-- A choice is given by a table with no entry, or with several. -/
  | notOneElement (several : Bool)
  | notEmptyTable
  | notEmptyArray
  | notTable (kind : String)
  deriving DecidableEq, Repr

/-- The wording of a complaint; the parts of a grammar complaint stand on lines of their own. -/
def Complaint.message : Complaint → String
  | .grammar label expected cause =>
    "\n".intercalate <|
      (label.map fun name => "invalid " ++ name).toList ++
        (if expected = [] then [] else ["expected " ++ ", ".intercalate expected]) ++
        (cause.map Cause.message).toList
  | .missingField key => "missing field `" ++ key ++ "`"
  | .unknownField key known => "unknown field `" ++ key ++ "`, expected " ++ alternatives known
  | .unknownVariant name known => "unknown variant `" ++ name ++ "`, expected " ++ alternatives known
  | .invalidType found wanted => "invalid type: " ++ found.message ++ ", expected " ++ wanted
  | .invalidInteger value wanted =>
    "invalid value: " ++ (Found.integer value).message ++ ", expected " ++ wanted
  | .notChoice => "wanted string or table"
  | .notOneElement false => "wanted exactly 1 element, found 0 elements"
  | .notOneElement true => "wanted exactly 1 element, more than 1 element"
  | .notEmptyTable => "expected empty table"
  | .notEmptyArray => "expected empty array"
  | .notTable kind => "expected table, found " ++ kind

/-- A complaint about a stretch of a document. -/
structure Fault where
  span : Span
  complaint : Complaint
  deriving DecidableEq, Repr

namespace Fault

/-- A character with the offset of its first octet. -/
def withOffsets : Nat → List Char → List (Nat × Char)
  | _, [] => []
  | offset, c :: cs => (offset, c) :: withOffsets (offset + c.utf8Size) cs

/-- The line and the column of an offset, both from zero, and the line itself. Columns count
characters, unless the offset is not that of the last octet of a character: then they count octets. An
offset behind the text lies as far behind its last octet. -/
def locate (text : List Char) (offset : Nat) : Nat × Nat × List Char :=
  let lines := splitOn '\n' text
  if text = [] then (0, offset, [])
  else
    let last := octets text - 1
    let index := min offset last
    let before := ((withOffsets 0 text).filter fun (start, c) => start + c.utf8Size ≤ index).map (·.2)
    let line := before.count '\n'
    let lineBefore := (before.reverse.takeWhile (· ≠ '\n')).reverse
    let lineStart := octets (before.take (before.length - lineBefore.length))
    let atLastOctet := (withOffsets 0 text).any fun (start, c) => start + c.utf8Size == index + 1
    let column := if atLastOctet then lineBefore.length else index - lineStart
    (line, column + (offset - index), lines.getD line [])

/-- The picture of a stretch, with the message below it. -/
def render (text : String) (fault : Fault) : String :=
  let chars := text.toList
  let total := octets chars
  let start := total - fault.span.startLeft
  let stop := total - fault.span.stopLeft
  let (line, column, content) := locate chars start
  let number := toString (line + 1)
  let gutter := String.ofList (List.replicate (number.length + 1) ' ')
  let carets := max 1 (min (stop - start) (octets content - column))
  "TOML parse error at line " ++ number ++ ", column " ++ toString (column + 1) ++ "\n" ++
    gutter ++ "|\n" ++
    number ++ " | " ++ String.ofList content ++ "\n" ++
    gutter ++ "|" ++ String.ofList (List.replicate (column + 1) ' ' ++ List.replicate carets '^') ++
    "\n" ++ fault.complaint.message ++ "\n"

end Fault
end RecipientCallout.Toml
