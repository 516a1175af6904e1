import RecipientCallout.Text.Quoted

/-!
# Recipient addresses

A recipient address is a local part and a domain around the first `@`. Nothing is trimmed and case is
kept; deeper syntax is left to the directory.
-/

namespace RecipientCallout

/-- A recipient address as it was given, and its two parts. -/
structure Recipient where
  address : String
  localPart : String
  domain : String
  deriving DecidableEq, Repr

/-- Why a text is no recipient address. -/
inductive AddressError where
  /-- There is no `@`. -/
  | missingSeparator (address : String)
  /-- Nothing stands before the first `@`. -/
  | emptyLocalPart (address : String)
  deriving DecidableEq, Repr

/-- The wording of an address error. It is there for those who split addresses on their own; a run of the
program answers every such error in the same words. -/
def AddressError.message : AddressError → String
  | .missingSeparator address => "no '@' separator in " ++ Text.quoted address
  | .emptyLocalPart address => "empty local part in " ++ Text.quoted address

/-- Splits an address at its first `@`. -/
def Recipient.parse (address : String) : Except AddressError Recipient :=
  let localPart := address.toList.takeWhile (· ≠ '@')
  match address.toList.dropWhile (· ≠ '@') with
  | [] => .error (.missingSeparator address)
  | _ :: domain =>
    if localPart = [] then .error (.emptyLocalPart address)
    else .ok ⟨address, String.ofList localPart, String.ofList domain⟩

end RecipientCallout
