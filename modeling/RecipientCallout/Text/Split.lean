/-!
# Splitting text at a separator

`splitOn` cuts a text at each occurrence of a separator and `joinWith` puts the pieces back; the main
statement is that joining what was split gives the text again. `firstLine` is what stands before the first
line end.
-/

namespace RecipientCallout.Text

/-- The pieces of a text between the occurrences of `sep`; there is always at least one. -/
def splitOn (sep : Char) : List Char → List (List Char)
  | [] => [[]]
  | c :: cs =>
    if c = sep then [] :: splitOn sep cs
    else
      match splitOn sep cs with
      | [] => [[c]]
      | piece :: pieces => (c :: piece) :: pieces

/-- The pieces one after the other, with `glue` between neighbours. -/
def joinWith (glue : List Char) : List (List Char) → List Char
  | [] => []
  | [piece] => piece
  | piece :: next :: pieces => piece ++ glue ++ joinWith glue (next :: pieces)

/-- The first line of a text, without its line end. A carriage return at the end of the text, with no
line feed behind it, is no part of a line end. -/
def firstLine (cs : List Char) : List Char :=
  let line := cs.takeWhile (· ≠ '\n')
  if '\n' ∈ cs ∧ line.getLast? = some '\r' then line.dropLast else line

/-- There is always a piece. -/
theorem splitOn_ne_nil (sep : Char) (cs : List Char) : splitOn sep cs ≠ [] := by
  cases cs with
  | nil => simp [splitOn]
  | cons c cs =>
    by_cases h : c = sep
    · simp [splitOn, h]
    · simp only [splitOn, h, if_false]
      split <;> simp

/-- A piece stands before the glue and the other pieces. -/
theorem joinWith_cons (glue piece : List Char) {pieces : List (List Char)} (h : pieces ≠ []) :
    joinWith glue (piece :: pieces) = piece ++ glue ++ joinWith glue pieces := by
  cases pieces with
  | nil => exact absurd rfl h
  | cons next pieces => rfl

/-- A first character goes to the first piece. -/
theorem joinWith_cons_cons (glue : List Char) (c : Char) (piece : List Char)
    (pieces : List (List Char)) :
    joinWith glue ((c :: piece) :: pieces) = c :: joinWith glue (piece :: pieces) := by
  cases pieces <;> simp [joinWith]

/-- Nothing is lost by splitting. -/
theorem joinWith_splitOn (sep : Char) (cs : List Char) :
    joinWith [sep] (splitOn sep cs) = cs := by
  induction cs with
  | nil => rfl
  | cons c cs ih =>
    by_cases h : c = sep
    · subst h
      simp [splitOn, joinWith_cons _ _ (splitOn_ne_nil c cs), ih]
    · simp only [splitOn, h, if_false]
      cases hs : splitOn sep cs with
      | nil => exact absurd hs (splitOn_ne_nil sep cs)
      | cons piece pieces =>
        rw [hs] at ih
        simpa [joinWith_cons_cons] using ih

end RecipientCallout.Text
