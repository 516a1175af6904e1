import RecipientCallout.Toml.Number
import RecipientCallout.Toml.Quotation
import RecipientCallout.Toml.Table

/-!
# Reading a document: keys and values

Keys are bare or in quotes and may be joined by dots; values are texts, numbers, dates, booleans, arrays
and tables in braces. Arrays and tables in braces nest only to a limited depth.
-/

namespace RecipientCallout.Toml

/-- Neither values nor dotted keys reach this depth. -/
def depthLimit : Nat := 80

/-- Characters of bare keys. -/
def isBareChar (c : Char) : Bool :=
  ('a' ≤ c && c ≤ 'z') || ('A' ≤ c && c ≤ 'Z') || isDigit c || c = '_' || c = '-'

/-- The name of keys in complaints. -/
def keyLabel : String := "key"

/-- Reads one key. -/
def readKey (cs : List Char) : Scan Key :=
  let named (result : Scan (List Char)) : Scan Key :=
    result.map fun (name, rest) => (⟨String.ofList name, .between cs rest⟩, rest)
  match cs with
  | '"' :: _ => named (readBasic cs)
  | '\'' :: _ => named (readLiteral cs)
  | cs =>
    match cs.takeWhile isBareChar with
    | [] => Halt.pass cs (some keyLabel) []
    | name => .ok (⟨String.ofList name, .between cs (cs.dropWhile isBareChar)⟩, cs.dropWhile isBareChar)

/-- Reads further keys, each behind a dot. A dot without a key behind it is left. -/
def readMoreKeys : Nat → List Char → Scan KeyPath
  | fuel + 1, '.' :: rest =>
    match readKey (skipBlanks rest) with
    | .ok (key, after) =>
      (readMoreKeys fuel (skipBlanks after)).map fun (keys, rest) => (key :: keys, rest)
    | .error h => if h.committed then .error h else .ok ([], '.' :: rest)
  | _, cs => .ok ([], cs)

/-- Reads a dotted key with the blanks around it. -/
def readKeys (cs : List Char) : Except Halt ((KeyPath × Key) × List Char) := do
  let (first, rest) ← readKey (skipBlanks cs)
  let (more, rest) ← readMoreKeys rest.length (skipBlanks rest)
  if depthLimit ≤ more.length + 1 then .error ⟨cs, .grammar none [] (some .tooDeep), false⟩
  else pure (((first :: more).dropLast, more.getLastD first), rest)

/-- What is asked for where no value begins. -/
def quotesExpected : List String := ["`\"`", "`'`"]

/-- Reads a word that stands for a value. -/
def readWord (word : String) (value : Scalar) (cs : List Char) : Scan Scalar :=
  if word.toList.isPrefixOf cs then .ok (value, cs.drop word.length)
  else Halt.fail cs (some "string") quotesExpected

/-- Reads a value without parts. -/
def readScalar (cs : List Char) : Scan Scalar :=
  match cs with
  | [] => Halt.pass [] none []
  | c :: _ =>
    if c = '"' ∨ c = '\'' then
      (readText cs).map fun (text, rest) => (.text (String.ofList text), rest)
    else if c = '+' ∨ c = '-' ∨ isDigit c then readNumber cs
    else if c = '_' then Halt.pass cs (some integerLabel) ["leading digit"]
    else if c = '.' then Halt.pass cs (some floatLabel) ["leading digit"]
    else if c = 't' then readWord "true" (.boolean true) cs
    else if c = 'f' then readWord "false" (.boolean false) cs
    else if c = 'i' then readWord "inf" (.float (.infinite false)) cs
    else if c = 'n' then readWord "nan" (.float .nan) cs
    else Halt.pass cs (some "string") quotesExpected

/-- Reads the values of an array up to its closing bracket, by the reader `value`. -/
def readItems (value : List Char → Scan Node) :
    Nat → List Char → Except Halt (List Node × List Char)
  | 0, cs => Halt.fail cs (some "array") ["`]`"]
  | fuel + 1, cs => do
    let cs ← skipBetween cs.length cs
    match value cs with
    | .error h =>
      if h.committed then .error h
      else
        match cs with
        | ']' :: rest => pure ([], rest)
        | _ => Halt.fail cs (some "array") ["`]`"]
    | .ok (item, rest) =>
      match ← skipBetween rest.length rest with
      | ',' :: rest =>
        let (items, rest) ← readItems value fuel rest
        pure (item :: items, rest)
      | ']' :: rest => pure ([item], rest)
      | rest => Halt.fail rest (some "array") ["`]`"]

/-- Reads the rest of an entry behind its key: the equals sign and the value. -/
def readAssigned (value : List Char → Scan Node) (cs : List Char) : Scan Node :=
  match cs with
  | '=' :: rest => commit (value (skipBlanks rest))
  | cs => Halt.fail cs none ["`.`", "`=`"]

/-- Reads the entries of a table in braces, by the reader `value` of their values. A comma without an
entry behind it is left. -/
def readPairs (value : List Char → Scan Node) :
    Nat → List Char → Except Halt (List (KeyPath × Key × Node) × List Char)
  | 0, cs => .ok ([], cs)
  | fuel + 1, cs =>
    match readKeys cs with
    | .error h => if h.committed then .error h else .ok ([], cs)
    | .ok ((path, key), rest) => do
      let (item, rest) ← readAssigned value rest
      match skipBlanks rest with
      | ',' :: after =>
        let (pairs, rest) ← readPairs value fuel after
        if pairs.isEmpty then pure ([(path, key, item)], ',' :: after)
        else pure ((path, key, item) :: pairs, rest)
      | rest => pure ([(path, key, item)], rest)

/-- Reads a value with at most `depth` levels of arrays and tables in braces. -/
def readValue : Nat → List Char → Except Halt (Node × List Char)
  | 0, cs =>
    match cs with
    | '[' :: _ => Halt.because cs none .tooDeep
    | '\x7b' :: _ => Halt.because cs none .tooDeep
    | cs => (readScalar cs).map fun (value, rest) => (.scalar (.between cs rest) value, rest)
  | depth + 1, cs =>
    match cs with
    | '[' :: ']' :: rest => .ok (.array (.between cs rest) [], rest)
    | '[' :: rest => do
      let (items, rest) ← commit (readItems (readValue depth) rest.length rest)
      pure (.array (.between cs rest) items, rest)
    | '\x7b' :: rest => do
      let (pairs, after) ← commit (readPairs (readValue depth) rest.length rest)
      match inlineTable (.between cs (skipBlanks after).tail) pairs with
      | .error cause => Halt.because rest none cause
      | .ok table =>
        match skipBlanks after with
        | '\x7d' :: after => pure (table, after)
        | place => Halt.fail place (some "inline table") ["`\x7d`"]
    | cs => (readScalar cs).map fun (value, rest) => (.scalar (.between cs rest) value, rest)

end RecipientCallout.Toml
