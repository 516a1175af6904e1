/-!
# Text that may be damaged

Arguments, paths and files are octets that are meant as UTF-8 but need not be. `RawText` keeps apart
what is text and what is not, so that nothing is lost until somebody asks for text alone.
-/

namespace RecipientCallout.Text

/-- A piece of octets read as UTF-8: a character, or octets that begin a character without completing
it (or that begin none). -/
inductive Piece where
  | char (c : Char)
  | broken (octets : List UInt8)
  deriving DecidableEq

/-- Octets read as UTF-8. -/
abbrev RawText := List Piece

namespace RawText

/-- Undamaged text. -/
def ofString (s : String) : RawText := s.toList.map .char

/-- How many octets follow an octet that begins a character of several, and the bounds of the first of
them. -/
def shape? (lead : UInt8) : Option (Nat × UInt8 × UInt8) :=
  if 0xC2 ≤ lead ∧ lead ≤ 0xDF then some (1, 0x80, 0xBF)
  else if lead = 0xE0 then some (2, 0xA0, 0xBF)
  else if lead = 0xED then some (2, 0x80, 0x9F)
  else if 0xE1 ≤ lead ∧ lead ≤ 0xEF then some (2, 0x80, 0xBF)
  else if lead = 0xF0 then some (3, 0x90, 0xBF)
  else if lead = 0xF4 then some (3, 0x80, 0x8F)
  else if 0xF1 ≤ lead ∧ lead ≤ 0xF3 then some (3, 0x80, 0xBF)
  else none

/-- At most `count` octets that continue a character, the first of them within the bounds. -/
def continuation : Nat → UInt8 → UInt8 → List UInt8 → List UInt8
  | 0, _, _, _ => []
  | _, _, _, [] => []
  | count + 1, lo, hi, b :: bs =>
    if lo ≤ b ∧ b ≤ hi then b :: continuation count 0x80 0xBF bs else []

/-- The character whose octets are the given ones. -/
def assemble (lead : UInt8) (tail : List UInt8) : Char :=
  let high :=
    match tail.length with
    | 1 => lead.toNat % 32
    | 2 => lead.toNat % 16
    | _ => lead.toNat % 8
  Char.ofNat (tail.foldl (fun n b => 64 * n + b.toNat % 64) high)

/-- Reads octets piece by piece; `fuel` bounds the number of pieces. -/
def scan : Nat → List UInt8 → RawText
  | 0, _ => []
  | _, [] => []
  | fuel + 1, b :: bs =>
    if b < 0x80 then .char (Char.ofNat b.toNat) :: scan fuel bs
    else
      match shape? b with
      | none => .broken [b] :: scan fuel bs
      | some (count, lo, hi) =>
        let tail := continuation count lo hi bs
        let piece := if tail.length = count then .char (assemble b tail) else .broken (b :: tail)
        piece :: scan fuel (bs.drop tail.length)

/-- Reads octets as UTF-8. -/
def ofOctets (octets : ByteArray) : RawText :=
  match String.fromUTF8? octets with
  | some s => ofString s
  | none => scan octets.size octets.toList

/-- The characters of undamaged text. -/
def chars? : RawText → Option (List Char)
  | [] => some []
  | .char c :: rest => (chars? rest).map (c :: ·)
  | .broken _ :: _ => none

/-- The text, if it is undamaged. -/
def text? (t : RawText) : Option String := t.chars?.map String.ofList

/-- The text with a replacement character for each damaged place. -/
def lossy (t : RawText) : String :=
  String.ofList <| t.map fun
    | .char c => c
    | .broken _ => '\uFFFD'

/-- The number of octets of a piece. -/
def pieceSize : Piece → Nat
  | .char c => c.utf8Size
  | .broken octets => octets.length

/-- The number of octets. -/
def size (t : RawText) : Nat := t.foldr (fun piece n => pieceSize piece + n) 0

/-- Undamaged text has its characters. -/
theorem chars?_ofString (s : String) : (ofString s).chars? = some s.toList := by
  unfold ofString
  induction s.toList with
  | nil => rfl
  | cons c cs ih => simp [chars?, ih]

/-- Text read from undamaged text is that text. -/
theorem text?_ofString (s : String) : (ofString s).text? = some s := by
  simp [text?, chars?_ofString]

end RawText
end RecipientCallout.Text
