import RecipientCallout.Callout.Verdict
import RecipientCallout.Config.Basic

/-!
# Responses

The form in which the relay gets a verdict: an exit code and lines of output. A text in a line is kept
on that line, whatever it holds.
-/

namespace RecipientCallout

/-- The version of the program. -/
def version : String := "0.1.0"

/-- The exit code for a recipient with a mailbox here, and for what needs no verdict. -/
def exitAccepted : Nat := 0

/-- The exit code for a recipient whose mail is relayed onwards. -/
def exitAcceptedElsewhere : Nat := 1

/-- The exit code for a recipient that is rejected for good. -/
def exitRejected : Nat := 2

/-- The exit code for a recipient that the relay should try again later. -/
def exitTemporary : Nat := 3

/-- The first line of a rejection. -/
def tokenInvalid : String := "invalid mailbox"

/-- The first line where the directory has failed. -/
def tokenTemporary : String := "temporary error"

/-- The first line where the invocation or the configuration cannot be used. -/
def tokenUsage : String := "error"

/-- The exit code for accepted recipients. -/
def AcceptMode.exitCode : AcceptMode → Nat
  | .here => exitAccepted
  | .elsewhere => exitAcceptedElsewhere

/-- An exit code and lines of output. -/
structure Response where
  exitCode : Nat
  lines : List String
  deriving DecidableEq, Repr

namespace Response

/-- A space in place of a carriage return or a line feed. -/
def flatten (c : Char) : Char := if c = '\r' ∨ c = '\n' then ' ' else c

/-- A text on one line. -/
def singleLine (text : String) : String := String.ofList (text.toList.map flatten)

/-- A response whose texts are kept on their lines. -/
def ofLines (exitCode : Nat) (lines : List String) : Response := ⟨exitCode, lines.map singleLine⟩

/-- The response to a verdict. -/
def ofVerdict (mode : AcceptMode) : Verdict → Response
  | .accepted mailbox => ofLines mode.exitCode ["", mailbox]
  | .malformed address | .unknownMailbox address =>
    ofLines exitRejected [tokenInvalid, tokenInvalid ++ ": " ++ address]
  | .temporaryFailure reason => ofLines exitTemporary [tokenTemporary, reason]
  | .versionQuery => ofLines exitAccepted [version]
  | .usageError reason => ofLines exitTemporary [tokenUsage, reason]

/-- The output of a response: each line ends in a line feed. -/
def render (r : Response) : String :=
  String.ofList (r.lines.flatMap fun line => line.toList ++ ['\n'])

/-- The response to an invocation that cannot be used. -/
def usageError (reason : String) : Response := ofVerdict .here (.usageError reason)

end Response
end RecipientCallout
