import Mathlib.Tactic.Lemma
import RecipientCallout.Text.Split

/-!
# Texts in front of a separator

Where a text is cut: characters of a kind are taken up to the first of another kind, and what is in front
of the first separator is the first piece. A text is cut at its first separator, and at its last, in one way
only (`append_cons_inj`, `append_cons_inj_last`).
-/

namespace RecipientCallout.Text

section
variable {α : Type} {p : α → Bool} {name rest : List α}

/-- Characters of a kind are taken up to the first of another kind. -/
lemma takeWhile_append_of_stop (kind : ∀ c ∈ name, p c = true)
    (stop : ∀ c ∈ rest.head?, p c = false) : (name ++ rest).takeWhile p = name := by
  rw [List.takeWhile_append_of_pos kind]
  cases rest with
  | nil => simp
  | cons c rest => simp [stop c rfl]

/-- Behind the characters of a kind stands the first of another kind. -/
lemma dropWhile_append_of_stop (kind : ∀ c ∈ name, p c = true)
    (stop : ∀ c ∈ rest.head?, p c = false) : (name ++ rest).dropWhile p = rest := by
  rw [List.dropWhile_append_of_pos kind]
  cases rest with
  | nil => rfl
  | cons c rest => simp [stop c rfl]

end

section
variable {α : Type} [DecidableEq α] {sep : α} {piece : List α} (notMem : sep ∉ piece) (rest : List α)
include notMem

/-- What is in front of the first separator is taken. -/
lemma takeWhile_separated : (piece ++ sep :: rest).takeWhile (· ≠ sep) = piece := by
  apply takeWhile_append_of_stop
  · exact fun c mem => decide_eq_true fun e => notMem (e ▸ mem)
  · simp

/-- The first separator and what follows are left. -/
lemma dropWhile_separated : (piece ++ sep :: rest).dropWhile (· ≠ sep) = sep :: rest := by
  apply dropWhile_append_of_stop
  · exact fun c mem => decide_eq_true fun e => notMem (e ▸ mem)
  · simp

end

section
variable {sep : Char} {piece : List Char} (notMem : sep ∉ piece) (rest : List Char)
include notMem

/-- What is in front of the first separator is the first piece. -/
lemma splitOn_append : splitOn sep (piece ++ sep :: rest) = piece :: splitOn sep rest := by
  induction piece with
  | nil => rw [List.nil_append, splitOn, if_pos rfl]
  | cons c piece ih =>
    rw [List.mem_cons, not_or] at notMem
    rw [List.cons_append, splitOn, if_neg (Ne.symm notMem.1), ih notMem.2]

end

/-- There is only one way to cut a text at the first separator. -/
lemma append_cons_inj {sep : Char} {piece piece' rest rest' : List Char} (notMem : sep ∉ piece)
    (notMem' : sep ∉ piece') (same : piece ++ sep :: rest = piece' ++ sep :: rest') :
    piece = piece' ∧ rest = rest' := by
  have pieces := congrArg (splitOn sep) same
  rw [splitOn_append notMem, splitOn_append notMem'] at pieces
  obtain rfl := (List.cons.inj pieces).1
  exact ⟨rfl, (List.cons.inj (List.append_cancel_left same)).2⟩

/-- There is only one way to cut a text at the last separator. -/
lemma append_cons_inj_last {sep : Char} {piece piece' before before' : List Char} (notMem : sep ∉ piece)
    (notMem' : sep ∉ piece') (same : before ++ sep :: piece = before' ++ sep :: piece') :
    before = before' ∧ piece = piece' := by
  -- the last separator is the first one from behind
  have turned := congrArg List.reverse same
  simp only [List.reverse_append, List.reverse_cons, List.append_assoc, List.cons_append,
    List.nil_append] at turned
  obtain ⟨pieces, befores⟩ := append_cons_inj (mt List.mem_reverse.mp notMem)
    (mt List.mem_reverse.mp notMem') turned
  exact ⟨List.reverse_inj.mp befores, List.reverse_inj.mp pieces⟩

end RecipientCallout.Text
