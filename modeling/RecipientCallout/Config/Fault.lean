import RecipientCallout.Config.Basic
import RecipientCallout.Files.Store
import RecipientCallout.Toml.Fault

/-!
# Faults of configurations

Why a configuration cannot be used: its file cannot be read, is no document of the right form, or says
something that makes no sense; or the file with the password cannot be read.
-/

namespace RecipientCallout.Config
open RecipientCallout.Text

/-- What makes no sense in a configuration. -/
inductive Flaw where
  /-- A field that must say something is blank. -/
  | blank (field : Field)
  | portZero
  | timeoutZero
  | twoPasswords
  | noPassword
  /-- A filter template has no slot for the address. -/
  | noSlot (field : Field)
  deriving DecidableEq, Repr

namespace Flaw

/-- The field that a flaw is blamed on. -/
def field : Flaw → Field
  | .blank field => field
  | .portZero => .port
  | .timeoutZero => .networkTimeoutSeconds
  | .twoPasswords => .bindPassword
  | .noPassword => .bindPassword
  | .noSlot field => field

/-- The wording of a flaw. -/
def reason : Flaw → String
  | .blank _ => "must not be empty"
  | .portZero => "must be in 1..=65535"
  | .timeoutZero => "must be at least 1"
  | .twoPasswords => "set either bind_password or bind_password_file, not both"
  | .noPassword => "one of bind_password or bind_password_file is required"
  | .noSlot _ => "missing '?' placeholder"

end Flaw

/-- Why a configuration cannot be used. -/
inductive Fault where
  | unreadable (path : Files.Path) (failure : Files.ReadFailure)
  /-- The document `text` has a fault. -/
  | malformed (text : String) (fault : Toml.Fault)
  | invalid (flaw : Flaw)
  | passwordFile (path : Files.Path) (failure : Files.ReadFailure)

namespace Fault

/-- The wording of a fault. -/
def message : Fault → String
  | .unreadable path failure => "cannot read config file " ++ path.lossy ++ ": " ++ failure.message
  | .malformed text fault => "invalid config syntax: " ++ fault.render text
  | .invalid flaw => "invalid config value for `" ++ flaw.field.key ++ "`: " ++ flaw.reason
  | .passwordFile path failure =>
    "cannot read bind password file " ++ path.lossy ++ ": " ++ failure.message

/-- The wording of what lies behind a fault, if something does. -/
def source? : Fault → Option String
  | .unreadable _ failure => some failure.message
  | .malformed text fault => some (fault.render text)
  | .invalid _ => none
  | .passwordFile _ failure => some failure.message

end Fault
end RecipientCallout.Config
