import RecipientCallout.Text.Quoted

/-!
# Directory failures

What can go wrong while a directory is asked. From the relay's point of view every failure is
temporary; the kinds tell what happened. The message of a refused authentication leaves out the name that
was bound with, as it ends up in the relay's logs. That of a connection shows whatever stands in place of
the endpoint, which is that name if the connection was lost on the authentication.
-/

namespace RecipientCallout.Directory
open RecipientCallout.Text

/-- The steps of asking a directory. -/
inductive Stage where
  | connect
  | bind
  | search
  deriving DecidableEq, Repr

/-- The name of a step in messages. -/
def Stage.name : Stage → String
  | .connect => "connect"
  | .bind => "bind"
  | .search => "search"

/-- The name of a step in detailed reports (`Failure.detail`). -/
def Stage.label : Stage → String
  | .connect => "Connect"
  | .bind => "Bind"
  | .search => "Search"

/-- A failure of a directory. -/
inductive Failure where
  | connection (endpoint reason : String)
  | auth (bindDn reason : String)
  | timeout (stage : Stage)
  | query (base reason : String)
  deriving DecidableEq, Repr

namespace Failure

/-- The step that a failure belongs to. -/
def stage : Failure → Stage
  | .connection _ _ => .connect
  | .auth _ _ => .bind
  | .timeout stage => stage
  | .query _ _ => .search

/-- The wording of a failure. -/
def message : Failure → String
  | .connection endpoint reason => "connection to " ++ endpoint ++ " failed: " ++ reason
  | .auth _ reason => "directory bind rejected: " ++ reason
  | .timeout stage => "directory timed out during " ++ stage.name
  | .query base reason => "search under " ++ base ++ " failed: " ++ reason

/-- A name with labelled members in braces. -/
def record (name : String) (members : List (String × String)) : String :=
  name ++ " \x7b " ++ ", ".intercalate (members.map fun (label, value) => label ++ ": " ++ value) ++
    " \x7d"

/-- All that is known of a failure, for reports on the error output. A run of the program leaves those out and
tells the relay the message alone, so this is there for those who use directories on their own. -/
def detail : Failure → String
  | .connection endpoint reason =>
    record "Connection" [("endpoint", quoted endpoint), ("reason", quoted reason)]
  | .auth bindDn reason => record "Auth" [("bind_dn", quoted bindDn), ("reason", quoted reason)]
  | .timeout stage => record "Timeout" [("stage", stage.label)]
  | .query base reason => record "Query" [("base", quoted base), ("reason", quoted reason)]

end Failure
end RecipientCallout.Directory
