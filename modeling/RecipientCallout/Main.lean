import RecipientCallout.Program

/-!
# The command

Gathers what one run of the program depends on (arguments, environment, the files that it reads), runs
it and writes its output. This build carries no transport of its own: every connection counts as
refused, which the relay takes for a temporary failure.
-/

namespace RecipientCallout
open RecipientCallout.Text

/-- Reads a file, with the failures that a store tells apart. -/
def readFile (path : Files.Path) : IO (Except Files.ReadFailure ByteArray) := do
  match path.text? with
  | none => pure (.error .missing)
  | some text =>
    try
      pure (.ok (← IO.FS.readBinFile text))
    catch
      | .inappropriateType _ _ _ => pure (.error .directory)
      | .permissionDenied _ _ _ => pure (.error .forbidden)
      | _ => pure (.error .missing)

/-- The files that a command line leads to: the configuration, and the password file that it names. -/
def gatherFiles (arguments : List String) (environment : Option String) : IO Files.Store := do
  let parsed :=
    CommandLine.parse (arguments.map RawText.ofString) (environment.map RawText.ofString)
  match parsed with
  | .error _ => pure fun _ => .error .missing
  | .ok parsed =>
    let config ← readFile parsed.config
    let store : Files.Store := fun path => if path = parsed.config then config else .error .missing
    match Config.load store parsed.config with
    | .error _ => pure store
    | .ok settings =>
      match settings.bindPasswordFile with
      | none => pure store
      | some file =>
        let password ← readFile file
        pure fun path => if path = file then password else store path

end RecipientCallout

open RecipientCallout in
/-- Runs the program once. -/
def main (arguments : List String) : IO UInt32 := do
  let environment ← IO.getEnv CommandLine.configVariable
  let store ← gatherFiles arguments environment
  let outcome := Program.run (arguments.map String.toUTF8) (environment.map String.toUTF8) store
    Ldap.Link.unreachable
  try
    let out ← IO.getStdout
    out.putStr (outcome true).output
    out.flush
    pure (outcome true).exitCode.toUInt32
  catch _ => pure (outcome false).exitCode.toUInt32
