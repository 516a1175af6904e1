import Mathlib.Tactic.Lemma
import RecipientCallout.Text.Octets

/-!
# Reading octets

Nothing is lost when octets are read as UTF-8: the pieces have the octets that they were read from
(`octets_ofOctets`), be they text or not. So what is read is text exactly if the octets are valid
UTF-8 (`text?_ofOctets`), and what begins with an ASCII character was read from octets that begin with
its octet (`head?_ofOctets`).
-/

namespace RecipientCallout.Text

/-- The octets of a piece. -/
def Piece.octets : Piece → List UInt8
  | .char c => String.utf8EncodeChar c
  | .broken octets => octets

namespace RawText

/-- The octets of all pieces. -/
def octets (t : RawText) : List UInt8 := t.flatMap Piece.octets

@[simp] lemma octets_nil : octets [] = [] := rfl

@[simp] lemma octets_cons (piece : Piece) (t : RawText) : octets (piece :: t) = piece.octets ++ octets t :=
  List.flatMap_cons

/-! ## Single characters -/

/-- A valid number is that of its character. -/
lemma toNat_ofNat {n : Nat} (valid : n.isValidChar) : (Char.ofNat n).val.toNat = n := by
  rw [Char.ofNat, dif_pos valid]
  rfl

/-- A character of ASCII is encoded in one octet. -/
lemma utf8EncodeChar_one {a : UInt8} (ascii : a.toNat < 0x80) :
    String.utf8EncodeChar (Char.ofNat a.toNat) = [a] := by
  have code := toNat_ofNat (show a.toNat.isValidChar by unfold Nat.isValidChar; omega)
  rw [String.utf8EncodeChar, code, if_pos (by omega), UInt8.ofNat_toNat]

/-- Two octets of the right kinds encode the character that is assembled from them. -/
lemma utf8EncodeChar_two {a b : UInt8} (lead : 0xC2 ≤ a.toNat ∧ a.toNat ≤ 0xDF)
    (first : 0x80 ≤ b.toNat ∧ b.toNat ≤ 0xBF) :
    String.utf8EncodeChar (Char.ofNat (64 * (a.toNat % 32) + b.toNat % 64)) = [a, b] := by
  have code := toNat_ofNat (n := 64 * (a.toNat % 32) + b.toNat % 64) (by unfold Nat.isValidChar; omega)
  rw [String.utf8EncodeChar, code, if_neg (by omega), if_pos (by omega)]
  simp only [List.cons.injEq, ← UInt8.toNat_inj, UInt8.toNat_ofNat', and_true]
  omega

/-- Three octets make a character of their own: neither one that fits into two nor a surrogate. -/
lemma utf8EncodeChar_three {a b c : UInt8} (lead : 0xE0 ≤ a.toNat ∧ a.toNat ≤ 0xEF)
    (first : 0x80 ≤ b.toNat ∧ b.toNat ≤ 0xBF) (short : a.toNat = 0xE0 → 0xA0 ≤ b.toNat)
    (surrogate : a.toNat = 0xED → b.toNat ≤ 0x9F) (second : 0x80 ≤ c.toNat ∧ c.toNat ≤ 0xBF) :
    String.utf8EncodeChar
      (Char.ofNat (64 * (64 * (a.toNat % 16) + b.toNat % 64) + c.toNat % 64)) = [a, b, c] := by
  have code := toNat_ofNat (n := 64 * (64 * (a.toNat % 16) + b.toNat % 64) + c.toNat % 64)
    (by unfold Nat.isValidChar; omega)
  rw [String.utf8EncodeChar, code, if_neg (by omega), if_neg (by omega), if_pos (by omega)]
  simp only [List.cons.injEq, ← UInt8.toNat_inj, UInt8.toNat_ofNat', and_true]
  omega

/-- Four octets make a character of their own: neither one that fits into three nor one beyond the
last. -/
lemma utf8EncodeChar_four {a b c d : UInt8} (lead : 0xF0 ≤ a.toNat ∧ a.toNat ≤ 0xF4)
    (first : 0x80 ≤ b.toNat ∧ b.toNat ≤ 0xBF) (short : a.toNat = 0xF0 → 0x90 ≤ b.toNat)
    (beyond : a.toNat = 0xF4 → b.toNat ≤ 0x8F) (second : 0x80 ≤ c.toNat ∧ c.toNat ≤ 0xBF)
    (third : 0x80 ≤ d.toNat ∧ d.toNat ≤ 0xBF) :
    String.utf8EncodeChar
      (Char.ofNat (64 * (64 * (64 * (a.toNat % 8) + b.toNat % 64) + c.toNat % 64) + d.toNat % 64)) =
      [a, b, c, d] := by
  have code := toNat_ofNat
    (n := 64 * (64 * (64 * (a.toNat % 8) + b.toNat % 64) + c.toNat % 64) + d.toNat % 64)
    (by unfold Nat.isValidChar; omega)
  rw [String.utf8EncodeChar, code, if_neg (by omega), if_neg (by omega), if_neg (by omega)]
  simp only [List.cons.injEq, ← UInt8.toNat_inj, UInt8.toNat_ofNat', and_true]
  omega

/-! ## From octets to pieces -/

/-- The octets that begin a character of several, by how many follow them and by the bounds of the first
of those. -/
inductive Lead (a : UInt8) : Nat → UInt8 → UInt8 → Prop where
  | two :
    0xC2 ≤ a.toNat ∧ a.toNat ≤ 0xDF →
    Lead a 1 0x80 0xBF
  | three {lo hi : UInt8} :
    0xE0 ≤ a.toNat ∧ a.toNat ≤ 0xEF →
    0x80 ≤ lo.toNat ∧ hi.toNat ≤ 0xBF →
    (a.toNat = 0xE0 → 0xA0 ≤ lo.toNat) →
    (a.toNat = 0xED → hi.toNat ≤ 0x9F) →
    Lead a 2 lo hi
  | four {lo hi : UInt8} :
    0xF0 ≤ a.toNat ∧ a.toNat ≤ 0xF4 →
    0x80 ≤ lo.toNat ∧ hi.toNat ≤ 0xBF →
    (a.toNat = 0xF0 → 0x90 ≤ lo.toNat) →
    (a.toNat = 0xF4 → hi.toNat ≤ 0x8F) →
    Lead a 3 lo hi

/-- The shape of a first octet bounds it and the octet behind it. -/
lemma lead_of_shape? {a : UInt8} {count lo hi} (shape : shape? a = some (count, lo, hi)) :
    Lead a count lo hi := by
  simp only [shape?, UInt8.le_iff_toNat_le, ← UInt8.toNat_inj, UInt8.reduceToNat] at shape
  split at shape
  case isTrue range => cases shape; exact .two range
  split at shape
  case isTrue e => cases shape; exact .three (by omega) (by decide) (by simp) (by omega)
  split at shape
  case isTrue e => cases shape; exact .three (by omega) (by decide) (by omega) (by simp)
  split at shape
  case isTrue range =>
    cases shape
    exact .three (by omega) (by decide) (by omega) (by omega)
  split at shape
  case isTrue e => cases shape; exact .four (by omega) (by decide) (by simp) (by omega)
  split at shape
  case isTrue e => cases shape; exact .four (by omega) (by decide) (by omega) (by simp)
  split at shape
  case isTrue range =>
    cases shape
    exact .four (by omega) (by decide) (by omega) (by omega)
  case isFalse => cases shape

/-- What is taken of the following octets and what is left make up all of them. -/
lemma continuation_append_drop (count : Nat) (lo hi : UInt8) (bs : List UInt8) :
    continuation count lo hi bs ++ bs.drop (continuation count lo hi bs).length = bs := by
  induction count generalizing lo hi bs with
  | zero => rfl
  | succ count ih =>
    cases bs with
    | nil => rfl
    | cons b bs =>
      rw [continuation]
      split
      · rw [List.length_cons, List.drop_succ_cons, List.cons_append, ih]
      · rfl

/-- If all octets that are due have come, the first of them is within its bounds. -/
lemma exists_of_full {count : Nat} {lo hi : UInt8} {bs : List UInt8}
    (full : (continuation (count + 1) lo hi bs).length = count + 1) :
    ∃ b rest, lo.toNat ≤ b.toNat ∧ b.toNat ≤ hi.toNat ∧
      (continuation count 0x80 0xBF rest).length = count ∧
      continuation (count + 1) lo hi bs = b :: continuation count 0x80 0xBF rest := by
  cases bs with
  | nil => cases full
  | cons b rest =>
    rw [continuation] at full ⊢
    split at full
    case isTrue within =>
      rw [if_pos within]
      exact ⟨b, rest, UInt8.le_iff_toNat_le.mp within.1, UInt8.le_iff_toNat_le.mp within.2,
        Nat.succ.inj full, rfl⟩
    case isFalse => cases full

/-- A character that is complete has the octets that it is made of. -/
lemma utf8EncodeChar_assemble {a : UInt8} {count lo hi} (lead : Lead a count lo hi) {bs : List UInt8}
    (full : (continuation count lo hi bs).length = count) :
    String.utf8EncodeChar (assemble a (continuation count lo hi bs)) =
      a :: continuation count lo hi bs := by
  cases lead with
  | two lead =>
    obtain ⟨b, _, lower, upper, -, e⟩ := exists_of_full full
    rw [e]
    exact utf8EncodeChar_two lead ⟨lower, upper⟩
  | three lead bounds short surrogate =>
    obtain ⟨b, _, lower, upper, full, e⟩ := exists_of_full full
    obtain ⟨c, _, lower', upper', -, e'⟩ := exists_of_full full
    rw [e, e']
    exact utf8EncodeChar_three lead (by omega) (by omega) (by omega) ⟨lower', upper'⟩
  | four lead bounds short beyond =>
    obtain ⟨b, _, lower, upper, full, e⟩ := exists_of_full full
    obtain ⟨c, _, lower', upper', full, e'⟩ := exists_of_full full
    obtain ⟨d, _, lower'', upper'', -, e''⟩ := exists_of_full full
    rw [e, e', e'']
    exact utf8EncodeChar_four lead (by omega) (by omega) (by omega) ⟨lower', upper'⟩
      ⟨lower'', upper''⟩

/-- Reading octets one by one loses none. -/
lemma octets_scan {fuel : Nat} {bs : List UInt8} (enough : bs.length ≤ fuel) :
    (scan fuel bs).octets = bs := by
  -- each piece takes at least one octet, so that fuel for all octets is enough
  induction fuel generalizing bs with
  | zero => rw [List.eq_nil_of_length_eq_zero (Nat.le_zero.mp enough), scan, octets_nil]
  | succ fuel ih =>
    cases bs with
    | nil => rfl
    | cons b bs =>
      have enough : bs.length ≤ fuel := Nat.le_of_succ_le_succ enough
      rw [scan]
      split
      case isTrue ascii =>
        have ascii : b.toNat < 0x80 := UInt8.lt_iff_toNat_lt.mp ascii
        rw [octets_cons, ih enough, Piece.octets, utf8EncodeChar_one ascii, List.singleton_append]
      case isFalse =>
        cases shape : shape? b with
        | none => rw [octets_cons, ih enough, Piece.octets, List.singleton_append]
        | some bounds =>
          obtain ⟨count, lo, hi⟩ := bounds
          have rest : (bs.drop (continuation count lo hi bs).length).length ≤ fuel := by
            rw [List.length_drop]
            omega
          -- complete or not, the piece has the octets that are taken off
          have taken : Piece.octets
              (if (continuation count lo hi bs).length = count then
                .char (assemble b (continuation count lo hi bs))
              else .broken (b :: continuation count lo hi bs)) = b :: continuation count lo hi bs := by
            split
            case isTrue full => exact utf8EncodeChar_assemble (lead_of_shape? shape) full
            case isFalse => rfl
          simp only [octets_cons, taken, ih rest, List.cons_append, continuation_append_drop]

/-! ## Whole texts -/

/-- The octets of a text are those that encode it. -/
lemma octets_ofString (s : String) : (ofString s).octets = s.toByteArray.data.toList := by
  rw [octets, ofString, List.flatMap_map, ← String.utf8Encode_toList, List.utf8Encode,
    List.toList_data_toByteArray]
  rfl

/-- The octets of an array, one by one. -/
lemma toList_eq (octets : ByteArray) : octets.toList = octets.data.toList := by
  have loop (i r) : ByteArray.toList.loop octets i r = r.reverse ++ octets.data.toList.drop i := by
    fun_induction ByteArray.toList.loop octets i r with
    | case1 i r more ih =>
      have bound : i < octets.data.toList.length := by simpa using more
      rw [ih, List.drop_eq_getElem_cons bound]
      simp [ByteArray.get!, more]
    | case2 i r done =>
      rw [List.drop_eq_nil_of_le (by simpa using Nat.le_of_not_lt done), List.append_nil]
  rw [ByteArray.toList, loop]
  rfl

/-- Octets that are read as a text encode it. -/
lemma toByteArray_of_fromUTF8? {octets : ByteArray} {s : String}
    (read : String.fromUTF8? octets = some s) : s.toByteArray = octets := by
  unfold String.fromUTF8? at read
  split at read
  case isTrue => cases read; rfl
  case isFalse => cases read

/-- Octets read as text are kept. -/
lemma octets_ofOctets (octets : ByteArray) : (ofOctets octets).octets = octets.data.toList := by
  unfold ofOctets
  split
  case h_1 s read => rw [octets_ofString, toByteArray_of_fromUTF8? read]
  case h_2 =>
    rw [octets_scan ?_, toList_eq]
    rw [toList_eq]
    exact Nat.le_refl _

/-- Undamaged text consists of its characters. -/
lemma eq_map_of_chars? {t : RawText} {cs : List Char} (undamaged : t.chars? = some cs) :
    t = cs.map .char := by
  induction t generalizing cs with
  | nil => cases undamaged; rfl
  | cons piece t ih =>
    cases piece with
    | char c =>
      obtain ⟨rest, others, rfl⟩ := Option.map_eq_some_iff.mp undamaged
      rw [ih others, List.map_cons]
    | broken => cases undamaged

/-- Undamaged text is the text that is read from it. -/
lemma eq_ofString_of_text? {t : RawText} {s : String} (undamaged : t.text? = some s) :
    t = ofString s := by
  obtain ⟨cs, chars, rfl⟩ := Option.map_eq_some_iff.mp undamaged
  rw [eq_map_of_chars? chars, ofString, String.toList_ofList]

/-- What is read is text exactly if the octets are valid. -/
lemma text?_ofOctets (octets : ByteArray) : (ofOctets octets).text? = String.fromUTF8? octets := by
  cases read : String.fromUTF8? octets with
  | some s => rw [ofOctets, read, text?_ofString]
  | none =>
    rw [Option.eq_none_iff_forall_ne_some]
    intro s undamaged
    have e := octets_ofOctets octets
    rw [eq_ofString_of_text? undamaged, octets_ofString] at e
    have e : s.toByteArray = octets := ByteArray.ext (Array.toList_inj.mp e)
    -- a text has valid octets, and those can be read
    have valid : octets.IsValidUTF8 := e ▸ s.isValidUTF8
    rw [String.fromUTF8?, dif_pos valid] at read
    cases read

/-- What begins with an ASCII character was read from octets that begin with its octet. -/
lemma head?_ofOctets {octets : ByteArray} {c : Char} (ascii : c.val.toNat < 0x80)
    (head : (ofOctets octets).head? = some (.char c)) :
    octets.data.toList.head? = some (UInt8.ofNat c.val.toNat) := by
  obtain ⟨rest, e⟩ := List.head?_eq_some_iff.mp head
  rw [← octets_ofOctets, e, octets_cons, Piece.octets, String.utf8EncodeChar, if_pos (by omega),
    List.singleton_append, List.head?_cons]

end RawText
end RecipientCallout.Text
