import RecipientCallout.Callout.Verdict
import RecipientCallout.Text.Octets
import RecipientCallout.Text.Split

/-!
# The command line

What a command line can say: options, then a recipient address and further fields that the relay adds.
The first argument that is no option is the address, and whatever follows is taken as it is.
-/

namespace RecipientCallout.CommandLine
open RecipientCallout.Text

/-- Options that take a value. -/
inductive ValueOption where
  | config
  | logLevel
  deriving DecidableEq, Repr

/-- The name of an option behind its hyphens. -/
def ValueOption.name : ValueOption → String
  | .config => "config"
  | .logLevel => "log-level"

/-- An option as usage messages show it. -/
def ValueOption.usage : ValueOption → String
  | .config => "--config <CONFIG>"
  | .logLevel => "--log-level <LOG_LEVEL>"

/-- Options without a value. -/
inductive Flag where
  | version
  | help
  deriving DecidableEq, Repr

/-- The name of a flag behind its hyphens. -/
def Flag.name : Flag → String
  | .version => "version"
  | .help => "help"

/-- A flag as usage messages show it. -/
def Flag.usage (f : Flag) : String := "--" ++ f.name

/-- Why a command line cannot be used. -/
inductive Fault where
  /-- The name of an option is no text. -/
  | unexpectedArgument (name : String)
  /-- A flag is given a value. -/
  | unexpectedValue (value : String) (flag : Flag)
  | valueRequired (option : ValueOption)
  | repeatedOption (option : ValueOption)
  | repeatedFlag (flag : Flag)
  /-- An argument that has to be text is none. -/
  | notText
  deriving DecidableEq, Repr

/-- The wording of a fault. -/
def Fault.message : Fault → String
  | .unexpectedArgument name => "unexpected argument '--" ++ name ++ "' found"
  | .unexpectedValue value flag =>
    "unexpected value '" ++ value ++ "' for '" ++ flag.usage ++ "' found; no more were expected"
  | .valueRequired option => "a value is required for '" ++ option.usage ++ "' but none was supplied"
  | .repeatedOption option => "the argument '" ++ option.usage ++ "' cannot be used multiple times"
  | .repeatedFlag flag => "the argument '" ++ flag.usage ++ "' cannot be used multiple times"
  | .notText => "invalid UTF-8 was detected in one or more arguments"

/-- What stands before the wording of a fault in its report. -/
def faultLabel : List Char := "error: ".toList

/-- The report of a fault as far as its wording goes. Behind that come a line on the usage of the program and
a hint at its help, which nobody reads on. -/
def Fault.report (f : Fault) : List Char := faultLabel ++ f.message.toList ++ ['\n']

/-- What is said of a fault: the first line of its report, without the label. A value in the wording may have
line ends, and then the line ends there. -/
def Fault.reason (f : Fault) : String :=
  let line := firstLine f.report
  String.ofList (if faultLabel.isPrefixOf line then line.drop faultLabel.length else line)

/-- What a command line says. -/
structure Arguments where
  version : Bool
  config : RawText
  logLevel : Option String
  /-- The address and the fields behind it. -/
  fields : List String
  deriving DecidableEq

/-- What is asked for: a verification if there is an address, else the version if its flag is given. -/
def Arguments.invocation? (a : Arguments) : Option Invocation :=
  match a.fields with
  | address :: context => some (.verify address context)
  | [] => if a.version then some .version else none

/-- The configuration file that is read if nothing else is said. -/
def defaultConfig : String := "/etc/mailverify.toml"

/-- The environment variable that names the configuration file. -/
def configVariable : String := "MAILVERIFY_CONFIG"

end RecipientCallout.CommandLine
