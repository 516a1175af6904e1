import RecipientCallout.Toml.Fault

/-!
# Configuration documents

The values and tables of a document, with the stretches of text that they were read from.
-/

namespace RecipientCallout.Toml

/-- A value without parts. -/
inductive Scalar where
  | text (value : String)
  | integer (value : Int)
  | float (value : Decimal.Binary64)
  | boolean (value : Bool)
  | datetime
  deriving DecidableEq, Repr

/-- A key where it stands in the document. -/
structure Key where
  name : String
  span : Span
  deriving DecidableEq, Repr

/-- How a table has come about. -/
inductive Origin where
  /-- It has a header of its own, or is the document. -/
  | header
  /-- A header of a table inside it implies it. -/
  | implied
  /-- A dotted key implies it. -/
  | dotted
  /-- It is written in braces. -/
  | inline
  /-- A dotted key in braces implies it. -/
  | inlineDotted
  deriving DecidableEq, Repr

/-- A value or a table of a document. Tables that are only implied take up no stretch of text. -/
inductive Node where
  | scalar (span : Span) (value : Scalar)
  | array (span : Span) (items : List Node)
  | table (origin : Origin) (span : Option Span) (entries : List (Key × Node))
  /-- The tables under one repeated header. -/
  | tables (items : List Node)

/-- The entries of a table in the order in which they came up. -/
abbrev Entries := List (Key × Node)

namespace Node

/-- The stretch of text that a node takes up. -/
def span? : Node → Option Span
  | .scalar span _ => some span
  | .array span _ => some span
  | .table _ span _ => span
  | .tables items =>
    match items.head?, items.getLast? with
    | some (.table _ (some first) _), some (.table _ (some last) _) => some (first.extend last)
    | _, _ => none

/-- The name of the kind of a value; tables under headers are no values. -/
def kind : Node → String
  | .scalar _ (.text _) => "string"
  | .scalar _ (.integer _) => "integer"
  | .scalar _ (.float _) => "float"
  | .scalar _ (.boolean _) => "boolean"
  | .scalar _ .datetime => "datetime"
  | .array _ _ => "array"
  | .table _ _ _ => "inline table"
  | .tables _ => "array of tables"

end Node

/-- The node under a name. -/
def Entries.find? (entries : Entries) (name : String) : Option Node :=
  (List.find? (·.1.name = name) entries).map (·.2)

/-- Replaces the node under a name; its key stays the one that came up first. -/
def Entries.replace (entries : Entries) (name : String) (node : Node) : Entries :=
  entries.map fun (key, old) => if key.name = name then (key, node) else (key, old)

/-- Removes the entry of a name. -/
def Entries.erase (entries : Entries) (name : String) : Entries :=
  entries.filter (·.1.name ≠ name)

end RecipientCallout.Toml
