import RecipientCallout.Text.Hex
import RecipientCallout.Text.Split

/-!
# Runs of code points

A property of characters is written as ascending runs of code points that share a value, in the
notation `300-314:x 41B:y`, and looked up by bisection.
-/

namespace RecipientCallout.Text

/-- The code points from `first` to `last`, both included, which share a value. -/
structure Run (α : Type) where
  first : Nat
  last : Nat
  value : α

namespace Run

variable {α : Type}

/-- Reads one run: its bounds in hexadecimal, then the text of its value. -/
def read? (value : List Char → Option α) (word : List Char) : Option (Run α) :=
  let (first, rest) := readHex 0 word
  let (last, rest) :=
    match rest with
    | '-' :: rest => readHex 0 rest
    | rest => (first, rest)
  (value rest).map (⟨first, last, ·⟩)

/-- Reads runs that stand in ascending order on lines, with a space between neighbours. -/
def table (value : List Char → Option α) (lines : List String) : Array (Run α) :=
  (lines.flatMap fun line => (splitOn ' ' line.toList).filterMap (read? value)).toArray

/-- Looks for the run that holds `point` between the indices `lo` (included) and `hi` (excluded). -/
def search (runs : Array (Run α)) (point lo hi : Nat) : Option (Run α) :=
  if _h : lo < hi then
    let mid := (lo + hi) / 2
    match runs[mid]? with
    | none => none
    | some run =>
      if point < run.first then search runs point lo mid
      else if run.last < point then search runs point (mid + 1) hi
      else some run
  else none
termination_by hi - lo

/-- The run that holds `point`. -/
def find? (runs : Array (Run α)) (point : Nat) : Option (Run α) :=
  search runs point 0 runs.size

/-- Runs without values, as a set of code points. -/
def set (lines : List String) : Array (Run Unit) :=
  table (fun _ => some ()) lines

/-- Whether a character lies in a set of runs. -/
def contains (runs : Array (Run Unit)) (c : Char) : Bool :=
  (find? runs c.toNat).isSome

end Run
end RecipientCallout.Text
