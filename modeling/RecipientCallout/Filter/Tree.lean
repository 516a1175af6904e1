import RecipientCallout.Text.Hex

/-!
# Search filters

The structure of a search filter, and the reader of its text form. In values, a character stands for
its UTF-8 octets and a backslash with two hexadecimal digits for one octet; the reader leaves open how
either is kept, so that a template can be read as well as a filter. A filter is accepted only if the
reader uses up its whole text; a single comparison may stand without parentheses.
-/

namespace RecipientCallout
open RecipientCallout.Text

/-- A search filter whose values are lists of symbols, which are octets in the end. -/
inductive Filter (α : Type) where
  | all (filters : List (Filter α))
  | any (filters : List (Filter α))
  | negation (filter : Filter α)
  | equal (name : String) (value : List α)
  | present (name : String)
  | substrings (name : String) (initial : List α) (middle : List (List α)) (final : List α)
  | atLeast (name : String) (value : List α)
  | atMost (name : String) (value : List α)
  | approximate (name : String) (value : List α)
  | extensible (rule name : Option String) (value : List α) (dnAttributes : Bool)
  deriving Repr

namespace Filter

/-- How the characters and the octets in hexadecimal digits of a value are kept. -/
structure Symbols (α : Type) where
  ofChar : Char → List α
  ofOctet : UInt8 → α

/-- Values as octets. -/
def octetSymbols : Symbols UInt8 := ⟨String.utf8EncodeChar, id⟩

/-- ASCII letters. -/
def isLetter (c : Char) : Bool := ('a' ≤ c && c ≤ 'z') || ('A' ≤ c && c ≤ 'Z')

/-- ASCII digits. -/
def isDigit (c : Char) : Bool := '0' ≤ c && c ≤ '9'

/-- The characters of names: letters, digits and the hyphen. -/
def isKeyChar (c : Char) : Bool := isLetter c || isDigit c || c = '-'

/-- Reads a number: one digit, or several of which the first is not zero. -/
def readNumber? (cs : List Char) : Option (List Char × List Char) :=
  match cs.takeWhile isDigit with
  | [] => none
  | ['0'] => some (['0'], cs.drop 1)
  | '0' :: _ => none
  | digits => some (digits, cs.dropWhile isDigit)

/-- Reads further numbers of a dotted identifier, each behind a dot. -/
def readArcs : Nat → List Char → List Char × List Char
  | 0, cs => ([], cs)
  | fuel + 1, '.' :: cs =>
    match readNumber? cs with
    | none => ([], '.' :: cs)
    | some (digits, rest) =>
      let (arcs, rest) := readArcs fuel rest
      ('.' :: digits ++ arcs, rest)
  | _ + 1, cs => ([], cs)

/-- Reads a name or a dotted identifier. -/
def readName? (cs : List Char) : Option (List Char × List Char) :=
  match cs with
  | [] => none
  | c :: _ =>
    if isLetter c then some (cs.takeWhile isKeyChar, cs.dropWhile isKeyChar)
    else
      match readNumber? cs with
      | none => none
      | some (digits, rest) =>
        let (arcs, rest) := readArcs rest.length rest
        some (digits ++ arcs, rest)

/-- Reads the options of an attribute, each behind a semicolon. -/
def readOptions : Nat → List Char → List Char × List Char
  | 0, cs => ([], cs)
  | fuel + 1, ';' :: cs =>
    match cs.takeWhile isKeyChar with
    | [] => ([], ';' :: cs)
    | name =>
      let (options, rest) := readOptions fuel (cs.dropWhile isKeyChar)
      (';' :: name ++ options, rest)
  | _ + 1, cs => ([], cs)

/-- Reads an attribute: its name and its options. -/
def readAttribute? (cs : List Char) : Option (String × List Char) :=
  match readName? cs with
  | none => none
  | some (name, rest) =>
    let (options, rest) := readOptions rest.length rest
    some (String.ofList (name ++ options), rest)

variable {α : Type} (symbols : Symbols α)

/-- Reads a value up to the first character that cannot belong to it; fails at a backslash without
two hexadecimal digits. -/
def readValue? : List Char → Option (List α × List Char)
  | [] => some ([], [])
  | '\\' :: a :: b :: cs =>
    match hexDigit? a, hexDigit? b with
    | some x, some y =>
      (readValue? cs).map fun (value, rest) =>
        (symbols.ofOctet (UInt8.ofNat (16 * x + y)) :: value, rest)
    | _, _ => none
  | c :: cs =>
    if c = '\\' then none
    else if c = '\x00' ∨ c = '(' ∨ c = ')' ∨ c = '*' then some ([], c :: cs)
    else (readValue? cs).map fun (value, rest) => (symbols.ofChar c ++ value, rest)

/-- Reads the parts of a value that follow asterisks. Only the last of them may be empty. -/
def readParts? : Nat → List Char → Option (List (List α) × List Char)
  | 0, cs => some ([], cs)
  | fuel + 1, '*' :: cs =>
    match readValue? symbols cs with
    | none => none
    | some ([], rest) => some ([[]], rest)
    | some (part, rest) => (readParts? fuel rest).map fun (parts, rest) => (part :: parts, rest)
  | _ + 1, cs => some ([], cs)

/-- The comparison for equality with a value in parts: plain, for presence, or with gaps. -/
def equality (name : String) (first : List α) (parts : List (List α)) : Filter α :=
  match parts with
  | [] => .equal name first
  | [last] =>
    if first.isEmpty && last.isEmpty then .present name else .substrings name first [] last
  | parts => .substrings name first parts.dropLast (parts.getLastD [])

/-- Reads what follows the attribute in an extensible comparison. -/
def readExtensible? (name : Option String) (cs : List Char) : Option (Filter α × List Char) :=
  let (dnAttributes, cs) :=
    match cs with
    | ':' :: 'd' :: 'n' :: cs => (true, cs)
    | cs => (false, cs)
  let (rule, cs) :=
    match cs with
    | ':' :: cs' =>
      match readName? cs' with
      | some (rule, rest) => (some (String.ofList rule), rest)
      | none => (none, cs)
    | cs => (none, cs)
  if name = none ∧ rule = none then none
  else
    match cs with
    | ':' :: '=' :: cs =>
      (readValue? symbols cs).map fun (value, rest) => (.extensible rule name value dnAttributes, rest)
    | _ => none

/-- Reads what follows the attribute in a comparison. -/
def readComparison? (name : String) (cs : List Char) : Option (Filter α × List Char) :=
  match cs with
  | '=' :: cs =>
    match readValue? symbols cs with
    | none => none
    | some (first, rest) =>
      (readParts? symbols rest.length rest).map fun (parts, rest) => (equality name first parts, rest)
  | '>' :: '=' :: cs => (readValue? symbols cs).map fun (value, rest) => (.atLeast name value, rest)
  | '<' :: '=' :: cs => (readValue? symbols cs).map fun (value, rest) => (.atMost name value, rest)
  | '~' :: '=' :: cs => (readValue? symbols cs).map fun (value, rest) => (.approximate name value, rest)
  | cs => readExtensible? symbols (some name) cs

/-- Reads a comparison. -/
def readItem? (cs : List Char) : Option (Filter α × List Char) :=
  match readAttribute? cs with
  | some (name, rest) => readComparison? symbols name rest
  | none => readExtensible? symbols none cs

/-- Reads as many filters as there are, by the reader `one`. -/
def readMany (one : List Char → Option (Filter α × List Char)) :
    Nat → List Char → List (Filter α) × List Char
  | 0, cs => ([], cs)
  | fuel + 1, cs =>
    match one cs with
    | none => ([], cs)
    | some (filter, rest) =>
      let (filters, rest) := readMany one fuel rest
      (filter :: filters, rest)

/-- Closes a parenthesis. -/
def close? (filter : Filter α) : List Char → Option (Filter α × List Char)
  | ')' :: rest => some (filter, rest)
  | _ => none

/-- Reads a filter in parentheses, with at most `depth` levels of them. -/
def readGroup? : Nat → List Char → Option (Filter α × List Char)
  | 0, _ => none
  | depth + 1, '(' :: cs =>
    match cs with
    | '&' :: cs =>
      let (filters, rest) := readMany (readGroup? depth) cs.length cs
      close? (.all filters) rest
    | '|' :: cs =>
      let (filters, rest) := readMany (readGroup? depth) cs.length cs
      close? (.any filters) rest
    | '!' :: cs => (readGroup? depth cs).bind fun (filter, rest) => close? (.negation filter) rest
    | cs => (readItem? symbols cs).bind fun (filter, rest) => close? filter rest
  | _ + 1, _ => none

/-- Reads a filter at the start of a text. -/
def read? (cs : List Char) : Option (Filter α × List Char) :=
  match cs with
  | '(' :: _ => readGroup? symbols cs.length cs
  | _ => readItem? symbols cs

/-- The filter that a text stands for, with its values in the given symbols. -/
def parseWith? (text : List Char) : Option (Filter α) :=
  match read? symbols text with
  | some (filter, []) => some filter
  | _ => none

/-- The filter that a text stands for. -/
def parse? (text : String) : Option (Filter UInt8) := parseWith? octetSymbols text.toList

end Filter
end RecipientCallout
