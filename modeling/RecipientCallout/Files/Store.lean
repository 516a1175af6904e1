import RecipientCallout.Text.Octets

/-!
# File stores

A file store gives the contents of the file at a path, or says why there is none to read.
-/

namespace RecipientCallout.Files
open RecipientCallout.Text

/-- A path as the operating system takes it. -/
abbrev Path := RawText

/-- Why a file cannot be read as text. -/
inductive ReadFailure where
  | missing
  | forbidden
  | directory
  | notDirectory
  | nameTooLong
  | nulInPath
  | notText
  deriving DecidableEq, Repr

/-- The wording of a failure to read. -/
def ReadFailure.message : ReadFailure → String
  | .missing => "No such file or directory (os error 2)"
  | .forbidden => "Permission denied (os error 13)"
  | .directory => "Is a directory (os error 21)"
  | .notDirectory => "Not a directory (os error 20)"
  | .nameTooLong => "File name too long (os error 36)"
  | .nulInPath => "file name contained an unexpected NUL byte"
  | .notText => "stream did not contain valid UTF-8"

/-- The contents of the files at all paths. -/
abbrev Store := Path → Except ReadFailure ByteArray

/-- The file at a path as text. -/
def readText (store : Store) (path : Path) : Except ReadFailure String :=
  match store path with
  | .error failure => .error failure
  | .ok contents =>
    match String.fromUTF8? contents with
    | some text => .ok text
    | none => .error .notText

end RecipientCallout.Files
