import RecipientCallout.Text.Hex
import RecipientCallout.Toml.Scan

/-!
# Reading a document: texts

Texts in double quotes, with escapes, and in single quotes, without; both on one line or, between
triple quotes, on several.
-/

namespace RecipientCallout.Toml
open RecipientCallout.Text

/-- Characters that stand for themselves between double quotes. -/
def isBasicChar (c : Char) : Bool := isCommentChar c && c ≠ '"' && c ≠ '\\'

/-- Characters that may stand between single quotes. -/
def isLiteralChar (c : Char) : Bool := isCommentChar c && c ≠ '\''

/-- The character of a code, unless the code lies outside Unicode or is half of a pair. -/
def codeChar? (n : Nat) : Option Char :=
  if n < 0xD800 ∨ (0xDFFF < n ∧ n < 0x110000) then some (Char.ofNat n) else none

/-- Reads the code of a character in so many hexadecimal digits. -/
def readCode (count : Nat) (label : String) (cs : List Char) : Scan Char :=
  let digits := (cs.take count).takeWhile fun c => (hexDigit? c).isSome
  if digits.length = count then
    match codeChar? (readHex 0 digits).1 with
    | some c => .ok (c, cs.drop count)
    | none => Halt.because cs (some label) .outOfRange
  else Halt.fail cs (some label) []

/-- Reads what follows a backslash. -/
def readEscape (cs : List Char) : Scan Char :=
  match cs with
  | 'b' :: rest => .ok ('\x08', rest)
  | 'f' :: rest => .ok ('\x0c', rest)
  | 'n' :: rest => .ok ('\n', rest)
  | 'r' :: rest => .ok ('\r', rest)
  | 't' :: rest => .ok ('\t', rest)
  | '\\' :: rest => .ok ('\\', rest)
  | '"' :: rest => .ok ('"', rest)
  | 'u' :: rest => readCode 4 "unicode 4-digit hex code" rest
  | 'U' :: rest => readCode 8 "unicode 8-digit hex code" rest
  | [] => Halt.pass [] none []
  | c :: rest =>
    Halt.fail (if c.toNat < 0x80 then rest else c :: rest) (some "escape sequence")
      ["`b`", "`f`", "`n`", "`r`", "`t`", "`u`", "`U`", "`\\`", "`\"`"]

/-- Reads a text up to its closing double quote. -/
def readBasicBody : Nat → List Char → Scan (List Char)
  | 0, cs => Halt.fail cs (some "basic string") []
  | fuel + 1, cs =>
    match cs with
    | '"' :: rest => .ok ([], rest)
    | '\\' :: rest =>
      match readEscape rest with
      | .error h =>
        if h.committed then .error h else Halt.fail cs (some "basic string") []
      | .ok (c, rest) => (readBasicBody fuel rest).map fun (text, rest) => (c :: text, rest)
    | c :: rest =>
      if isBasicChar c then (readBasicBody fuel rest).map fun (text, rest) => (c :: text, rest)
      else Halt.fail cs (some "basic string") []
    | [] => Halt.fail cs (some "basic string") []

/-- The name of texts between triple double quotes. -/
def multilineBasic : String := "multiline basic string"

/-- Reads a text up to its closing triple of double quotes; up to two quotes may stand right before
the triple. A backslash at the end of a line takes off all blanks and line ends behind it. -/
def readMultilineBody : Nat → List Char → Scan (List Char)
  | 0, cs => Halt.fail cs (some multilineBasic) []
  | fuel + 1, cs =>
    match cs with
    | '"' :: '"' :: '"' :: '"' :: '"' :: rest => .ok (['"', '"'], rest)
    | '"' :: '"' :: '"' :: '"' :: rest => .ok (['"'], rest)
    | '"' :: '"' :: '"' :: rest => .ok ([], rest)
    | '"' :: rest =>
      if rest.all (· = '"') then Halt.fail cs (some multilineBasic) []
      else (readMultilineBody fuel rest).map fun (text, rest) => ('"' :: text, rest)
    | '\\' :: rest =>
      match newline? (skipBlanks rest) with
      | some rest => readMultilineBody fuel (skipLines rest)
      | none =>
        match readEscape rest with
        | .error h =>
          if h.committed then .error h else Halt.fail cs (some multilineBasic) []
        | .ok (c, rest) => (readMultilineBody fuel rest).map fun (text, rest) => (c :: text, rest)
    | '\n' :: rest => (readMultilineBody fuel rest).map fun (text, rest) => ('\n' :: text, rest)
    | '\r' :: '\n' :: rest =>
      (readMultilineBody fuel rest).map fun (text, rest) => ('\n' :: text, rest)
    | c :: rest =>
      if isBasicChar c then (readMultilineBody fuel rest).map fun (text, rest) => (c :: text, rest)
      else Halt.fail cs (some multilineBasic) []
    | [] => Halt.fail cs (some multilineBasic) []

/-- The name of texts between triple single quotes. -/
def multilineLiteral : String := "multiline literal string"

/-- Reads a text up to its closing triple of single quotes. -/
def readMultilineLiteralBody : List Char → Scan (List Char)
  | '\'' :: '\'' :: '\'' :: '\'' :: '\'' :: rest => .ok (['\'', '\''], rest)
  | '\'' :: '\'' :: '\'' :: '\'' :: rest => .ok (['\''], rest)
  | '\'' :: '\'' :: '\'' :: rest => .ok ([], rest)
  | '\'' :: rest =>
    match rest.dropWhile (· = '\'') with
    | [] => Halt.fail ('\'' :: rest) (some multilineLiteral) []
    | c :: _ =>
      if isLiteralChar c || c = '\n' || c = '\r' then
        (readMultilineLiteralBody rest).map fun (text, rest) => ('\'' :: text, rest)
      else Halt.fail ('\'' :: rest) (some multilineLiteral) []
  | '\r' :: '\n' :: rest =>
    (readMultilineLiteralBody rest).map fun (text, rest) => ('\n' :: text, rest)
  | c :: rest =>
    if isLiteralChar c || c = '\n' then
      (readMultilineLiteralBody rest).map fun (text, rest) => (c :: text, rest)
    else Halt.fail (c :: rest) (some multilineLiteral) []
  | [] => Halt.fail [] (some multilineLiteral) []

/-- Reads a text in double quotes on one line. -/
def readBasic (cs : List Char) : Scan (List Char) :=
  match cs with
  | '"' :: rest => readBasicBody (rest.length + 1) rest
  | cs => Halt.pass cs none []

/-- Reads a text in single quotes on one line. -/
def readLiteral (cs : List Char) : Scan (List Char) :=
  match cs with
  | '\'' :: rest =>
    match rest.dropWhile isLiteralChar with
    | '\'' :: after => .ok (rest.takeWhile isLiteralChar, after)
    | place => Halt.fail place (some "literal string") []
  | cs => Halt.pass cs none []

/-- Takes off the line end with which a text on several lines may begin. -/
def dropFirstNewline (cs : List Char) : List Char := (newline? cs).getD cs

/-- Reads a text in any quotes. -/
def readText (cs : List Char) : Scan (List Char) :=
  match cs with
  | '"' :: '"' :: '"' :: rest => readMultilineBody (rest.length + 1) (dropFirstNewline rest)
  | '\'' :: '\'' :: '\'' :: rest => readMultilineLiteralBody (dropFirstNewline rest)
  | '"' :: _ => readBasic cs
  | cs => readLiteral cs

end RecipientCallout.Toml
