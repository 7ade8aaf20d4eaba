/-!
# Hexadecimal text

Numbers as hexadecimal digits with a least width, in either case, and octets as pairs of digits.
-/

namespace PolledNet.Text

/-- The lower-case hexadecimal digits of `n`, at least `width` of them. -/
def hex (width n : Nat) : String :=
  let digits := Nat.toDigits 16 n
  String.ofList (List.replicate (width - digits.length) '0' ++ digits)

/-- The upper-case hexadecimal digits of `n`, at least `width` of them. -/
def hexUpper (width n : Nat) : String := (hex width n).toUpper

/-- Octets as pairs of lower-case digits. -/
def hexOctets (b : List UInt8) : String := String.join (b.map fun o => hex 2 o.toNat)

/-- The value of a lower-case hexadecimal digit. -/
def digitValue? (c : Char) : Option Nat :=
  if c.isDigit then some (c.toNat - '0'.toNat)
  else if 'a' ≤ c ∧ c ≤ 'f' then some (c.toNat - 'a'.toNat + 10)
  else none

/-- The octets that pairs of lower-case digits say. -/
def ofHexOctets? : List Char → Option (List UInt8)
  | [] => some []
  | [_] => none
  | hi :: lo :: rest =>
    match digitValue? hi, digitValue? lo, ofHexOctets? rest with
    | some h, some l, some octets => some (UInt8.ofNat (h * 16 + l) :: octets)
    | _, _, _ => none

end PolledNet.Text
