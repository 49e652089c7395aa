import SearchQuery.Text.Basic

/-!
# Base 64

Octets written with 64 letters, four letters for three octets. Characters that are neither letters
nor padding are skipped, and everything after complete padding is ignored.
-/

namespace SearchQuery
namespace Text

/-- The six bits of a letter. -/
def base64Value? (c : Char) : Option Nat :=
  if 'A' ≤ c ∧ c ≤ 'Z' then some (c.toNat - 'A'.toNat)
  else if 'a' ≤ c ∧ c ≤ 'z' then some (c.toNat - 'a'.toNat + 26)
  else if '0' ≤ c ∧ c ≤ '9' then some (c.toNat - '0'.toNat + 52)
  else if c = '+' then some 62
  else if c = '/' then some 63
  else none

/-- Decodes letters after `filled` letters of a group of four, whose undecided bits are `bits`, and
after `pads` signs of padding in a row. -/
def base64From (filled bits pads : Nat) : Text → Option (List UInt8)
  | [] => if filled = 0 then some [] else none
  | c :: rest =>
    if c = '=' then
      if filled < 2 then base64From filled bits pads rest
      else if 4 ≤ filled + (pads + 1) then some []
      else base64From filled bits (pads + 1) rest
    else
      match base64Value? c with
      | none => base64From filled bits pads rest
      | some v =>
        match filled with
        | 0 => base64From 1 v 0 rest
        | 1 => (base64From 2 (v % 16) 0 rest).map ((bits * 4 + v / 16).toUInt8 :: ·)
        | 2 => (base64From 3 (v % 4) 0 rest).map ((bits * 16 + v / 4).toUInt8 :: ·)
        | _ => (base64From 0 0 0 rest).map ((bits * 64 + v).toUInt8 :: ·)

/-- The octets of a text in base 64. -/
def ofBase64? (t : Text) : Option (List UInt8) := base64From 0 0 0 t

end Text
end SearchQuery
