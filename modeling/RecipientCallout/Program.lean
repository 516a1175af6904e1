import RecipientCallout.Callout.Basic
import RecipientCallout.CommandLine.Help
import RecipientCallout.CommandLine.Parse
import RecipientCallout.Ldap.Client

/-!
# The program

One run of the program from its arguments to its exit code and output. Version queries and addresses
that do not split are answered before the configuration is read.
-/

namespace RecipientCallout.Program
open RecipientCallout.Text

/-- What is said to a command line without an address. -/
def usage : String := "usage: mailverify-cli [--version | <address>]"

/-- The callout of the configuration in a file. -/
def loadCallout (store : Files.Store) (path : Files.Path) : Except Config.Fault Callout :=
  (Config.load store path).bind (Callout.ofConfig store)

/-- What is said of a configuration that cannot be used: the file, the fault, and what lies behind it. -/
def loadMessage (path : Files.Path) (fault : Config.Fault) : String :=
  ": ".intercalate (["config " ++ path.lossy, fault.message] ++ fault.source?.toList)

/-- The response to what a command line says. -/
def respond (arguments : CommandLine.Arguments) (store : Files.Store) (link : Ldap.Link) :
    Response × Ldap.Link :=
  match arguments.invocation? with
  | none => (.usageError usage, link)
  | some .version => (.ofVerdict .here .versionQuery, link)
  | some (.verify address context) =>
    match Recipient.parse address with
    | .error _ => (.ofVerdict .here (.malformed address), link)
    | .ok _ =>
      match loadCallout store arguments.config with
      | .error fault => (.usageError (loadMessage arguments.config fault), link)
      | .ok callout =>
        let (verdict, link) := callout.run Ldap.service (.verify address context) link
        (.ofVerdict callout.acceptMode verdict, link)

/-- The end of a run: exit code, output, and what the directory server has received. -/
structure Outcome where
  exitCode : Nat
  output : String
  link : Ldap.Link

/-- The end of a run with a response; if the output cannot be written, the relay is asked to try
again. The reason then goes to the error output, which is taken as writable and left out here. -/
def finish (writable : Bool) (response : Response) (link : Ldap.Link) : Outcome :=
  if writable then ⟨response.exitCode, response.render, link⟩ else ⟨exitTemporary, "", link⟩

/-- A run of the program on arguments and the environment variable, as octets. -/
def run (arguments : List ByteArray) (environment : Option ByteArray) (store : Files.Store)
    (link : Ldap.Link) (writable : Bool) : Outcome :=
  let environment := environment.map RawText.ofOctets
  match CommandLine.parse (arguments.map RawText.ofOctets) environment with
  | .error .help =>
    ⟨exitAccepted, if writable then CommandLine.help environment else "", link⟩
  | .error (.fault fault) => finish writable (.usageError fault.reason) link
  | .ok arguments =>
    let (response, link) := respond arguments store link
    finish writable response link

end RecipientCallout.Program
