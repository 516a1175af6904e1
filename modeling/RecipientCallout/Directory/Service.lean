import RecipientCallout.Directory.Entry
import RecipientCallout.Directory.Failure
import RecipientCallout.Directory.Settings

/-!
# Directory services

A directory as its clients see it: four operations on a state, each of which may fail. `recorded` keeps
the list of the operations that were asked for.
-/

namespace RecipientCallout.Directory

/-- The result of an operation, with the state after it. -/
abbrev Result (σ α : Type) := Except Failure α × σ

/-- A directory whose state is of type `σ`: opening a session, authenticating in it, searching below a
base for the given attributes of the entries that a filter selects, and ending the session. -/
structure Service (σ : Type) where
  connect : Settings → σ → Result σ Unit
  bind : (dn password : String) → σ → Result σ Unit
  search : (base filter : String) → (attributes : List String) → σ → Result σ (List Entry)
  unbind : σ → Result σ Unit

/-- An operation that was asked for. -/
inductive Call where
  | connect (settings : Settings)
  | bind (dn password : String)
  | search (base filter : String) (attributes : List String)
  | unbind
  deriving DecidableEq, Repr

/-- The directory that also keeps the operations that it was asked for, in order. -/
def Service.recorded {σ : Type} (service : Service σ) : Service (σ × List Call) where
  connect settings state :=
    let (result, next) := service.connect settings state.1
    (result, next, state.2 ++ [.connect settings])
  bind dn password state :=
    let (result, next) := service.bind dn password state.1
    (result, next, state.2 ++ [.bind dn password])
  search base filter attributes state :=
    let (result, next) := service.search base filter attributes state.1
    (result, next, state.2 ++ [.search base filter attributes])
  unbind state :=
    let (result, next) := service.unbind state.1
    (result, next, state.2 ++ [.unbind])

end RecipientCallout.Directory
