import RecipientCallout.Directory.Service

/-!
# Prepared directories

A directory that gives prepared answers: the first search of a session finds the users, later ones the
folders. It stands in for a server where only the conduct of a client matters.
-/

namespace RecipientCallout.Directory

/-- The answers of a prepared directory; an operation without a failure succeeds. -/
structure Prepared where
  connectFailure : Option Failure
  bindFailure : Option Failure
  unbindFailure : Option Failure
  users : Except Failure (List Entry)
  folders : Except Failure (List Entry)

namespace Prepared

/-- A directory that knows nobody. -/
def empty : Prepared := ⟨none, none, none, .ok [], .ok []⟩

/-- Fails with the given failure, if there is one. -/
def answer : Option Failure → Except Failure Unit
  | none => .ok ()
  | some failure => .error failure

/-- The directory; its state counts the searches of the session. -/
def service (prepared : Prepared) : Service Nat where
  connect _ _ := (answer prepared.connectFailure, 0)
  bind _ _ searches := (answer prepared.bindFailure, searches)
  search _ _ _ searches :=
    (if searches = 0 then prepared.users else prepared.folders, searches + 1)
  unbind searches := (answer prepared.unbindFailure, searches)

end Prepared
end RecipientCallout.Directory
