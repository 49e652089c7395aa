import SearchQuery.Text.Basic

/-!
# UTF-8

Octets that encode characters in the shortest form, surrogates and numbers beyond the last
character excluded.
-/

namespace SearchQuery
namespace Text

/-- An octet that continues a character with the last six bits of a number. -/
def continuation (n : Nat) : UInt8 := (0x80 + n % 0x40).toUInt8

def encodeChar (c : Char) : List UInt8 :=
  let n := c.toNat
  if n < 0x80 then [n.toUInt8]
  else if n < 0x800 then [(0xc0 + n / 0x40).toUInt8, continuation n]
  else if n < 0x10000 then
    [(0xe0 + n / 0x1000).toUInt8, continuation (n / 0x40), continuation n]
  else
    [(0xf0 + n / 0x40000).toUInt8, continuation (n / 0x1000), continuation (n / 0x40),
      continuation n]

def toUtf8 (t : Text) : List UInt8 := t.flatMap encodeChar

theorem toUtf8_append (s t : Text) : toUtf8 (s ++ t) = toUtf8 s ++ toUtf8 t :=
  List.flatMap_append

/-- The last six bits of an octet that continues a character. -/
def continuation? (octet : UInt8) : Option Nat :=
  let n := octet.toNat
  if 0x80 ≤ n ∧ n < 0xc0 then some (n - 0x80) else none

/-- The number of octets that a first octet announces after itself, and the bits it holds. -/
def leadingOctet? (octet : UInt8) : Option (Nat × Nat) :=
  let n := octet.toNat
  if n < 0x80 then some (0, n)
  else if n < 0xc2 then none
  else if n < 0xe0 then some (1, n - 0xc0)
  else if n < 0xf0 then some (2, n - 0xe0)
  else if n < 0xf5 then some (3, n - 0xf0)
  else none

/-- The least number that needs a given count of further octets. -/
def leastOfLength : Nat → Nat
  | 0 => 0
  | 1 => 0x80
  | 2 => 0x800
  | _ => 0x10000

/-- Decodes octets after a character of which `missing` octets are still to come; `least` is the
least number it may stand for. -/
def decodeFrom (missing value least : Nat) : List UInt8 → Option Text
  | [] => if missing = 0 then some [] else none
  | octet :: rest =>
    if missing = 0 then
      match leadingOctet? octet with
      | none => none
      | some (0, n) => (decodeFrom 0 0 0 rest).map (Char.ofNat n :: ·)
      | some (count, n) => decodeFrom count n (leastOfLength count) rest
    else
      match continuation? octet with
      | none => none
      | some bits =>
        let value := 64 * value + bits
        if missing = 1 then
          if least ≤ value ∧ value.isValidChar then
            (decodeFrom 0 0 0 rest).map (Char.ofNat value :: ·)
          else none
        else decodeFrom (missing - 1) value least rest

def ofUtf8? (octets : List UInt8) : Option Text := decodeFrom 0 0 0 octets

end Text
end SearchQuery
