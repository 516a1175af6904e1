import RecipientCallout.Config.Fault
import RecipientCallout.Text.Blank
import RecipientCallout.Text.Split

/-!
# Validity of configurations

The conditions that a configuration has to meet, in the order in which they are checked, and what a
valid one gives: filter templates and the password.
-/

namespace RecipientCallout.Config
open RecipientCallout.Text

/-- What may be wrong with a configuration, each with whether it is, in the order of blame. -/
def checks (c : Config) : List (Bool × Flaw) :=
  [(allBlank c.host, .blank .host),
    (allBlank c.bindDn, .blank .bindDn),
    (allBlank c.userSearchBase, .blank .userSearchBase),
    (allBlank c.folderSearchBase, .blank .folderSearchBase),
    (allBlank c.acceptedDomain, .blank .acceptedDomain),
    (allBlank c.mailAttribute, .blank .mailAttribute),
    (c.port = some 0, .portZero),
    (c.networkTimeoutSeconds = 0, .timeoutZero),
    (c.bindPassword.isSome && c.bindPasswordFile.isSome, .twoPasswords),
    (c.bindPassword.isNone && c.bindPasswordFile.isNone, .noPassword),
    ((Filter.Template.parse? c.userFilter).isNone, .noSlot .userFilter),
    ((Filter.Template.parse? c.folderFilter).isNone, .noSlot .folderFilter)]

/-- The first thing that is wrong with a configuration. -/
def flaw? (c : Config) : Option Flaw := (c.checks.find? (·.1)).map (·.2)

/-- Accepts a configuration with which nothing is wrong. -/
def validate (c : Config) : Except Fault Unit :=
  match c.flaw? with
  | none => .ok ()
  | some flaw => .error (.invalid flaw)

/-- The template in a field. -/
def template (field : Field) (text : String) : Except Fault Filter.Template :=
  match Filter.Template.parse? text with
  | some template => .ok template
  | none => .error (.invalid (.noSlot field))

/-- The template of the search for users. -/
def userTemplate (c : Config) : Except Fault Filter.Template := template .userFilter c.userFilter

/-- The template of the search for folders. -/
def folderTemplate (c : Config) : Except Fault Filter.Template :=
  template .folderFilter c.folderFilter

/-- The password that a configuration gives itself, or else the first line of the file that it names. -/
def password (c : Config) (store : Files.Store) : Except Fault String :=
  match c.bindPassword, c.bindPasswordFile with
  | some password, _ => .ok password
  | none, some path =>
    match Files.readText store path with
    | .ok text => .ok (String.ofList (firstLine text.toList))
    | .error failure => .error (.passwordFile path failure)
  | none, none => .error (.invalid .noPassword)

end RecipientCallout.Config
