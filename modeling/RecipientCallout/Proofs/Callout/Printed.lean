import RecipientCallout.Callout.Response
import RecipientCallout.Proofs.Text.Separators

/-!
# What the relay reads

The output of a response as the relay takes it apart, line by line. Whatever texts a response is made of,
they come out as just as many lines (`prints_ofLines`), with nothing changed but line ends within them.
-/

namespace RecipientCallout
open RecipientCallout.Text

namespace Response

/-- An output that is made of these lines, each of them ended. -/
def Prints (output : String) (lines : List String) : Prop :=
  splitOn '\n' output.toList = lines.map String.toList ++ [[]]

/-- The lines of a response come out as they are if there are no line feeds within them. -/
lemma prints_render {response : Response} (single : ∀ line ∈ response.lines, '\n' ∉ line.toList) :
    Prints response.render response.lines := by
  unfold Prints render
  rw [String.toList_ofList]
  generalize response.lines = lines at single ⊢
  induction lines with
  | nil => rfl
  | cons line lines ih =>
    have first := single line List.mem_cons_self
    have others := ih fun other mem => single other (List.mem_cons_of_mem line mem)
    rw [List.flatMap_cons, List.append_assoc, List.singleton_append, splitOn_append first, others]
    rfl

/-- A text on one line has no line end. -/
lemma lineEnd_notMem {c : Char} (ends : c = '\r' ∨ c = '\n') (text : String) :
    c ∉ (singleLine text).toList := by
  rw [singleLine, String.toList_ofList]
  intro mem
  obtain ⟨other, -, e⟩ := List.mem_map.mp mem
  unfold flatten at e
  split at e
  case isTrue =>
    subst e
    exact absurd ends (by decide)
  case isFalse plain => exact plain (e ▸ ends)

/-- Texts come out as just as many lines. -/
lemma prints_ofLines (code : Nat) (lines : List String) :
    Prints (ofLines code lines).render (lines.map singleLine) := by
  refine prints_render fun line mem => ?_
  obtain ⟨text, -, rfl⟩ := List.mem_map.mp mem
  exact lineEnd_notMem (.inr rfl) text

/-- Parts of a text are put on one line each. -/
lemma singleLine_append (first second : String) :
    singleLine (first ++ second) = singleLine first ++ singleLine second := by
  simp [singleLine]

/-- Only an empty text makes an empty line. -/
lemma singleLine_ne_empty {text : String} (ne : text ≠ "") : singleLine text ≠ "" := by
  intro empty
  have chars := congrArg String.toList empty
  rw [singleLine, String.toList_ofList] at chars
  exact ne (String.toList_eq_nil_iff.mp (List.map_eq_nil_iff.mp chars))

end Response
end RecipientCallout
