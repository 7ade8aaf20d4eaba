import PolledNet.Bytes

/-!
# IPv4 addresses

Addresses and subnet masks are four octets; the subnet operations work octet by octet.
-/

namespace PolledNet

/-- An IPv4 address or subnet mask. -/
structure Ipv4 where
  o0 : UInt8
  o1 : UInt8
  o2 : UInt8
  o3 : UInt8
  deriving DecidableEq, Repr, Inhabited

namespace Ipv4

/-- `0.0.0.0`, the address of a station that has none. -/
def unspecified : Ipv4 := ⟨0, 0, 0, 0⟩

/-- `255.255.255.255`: every station on this link, and as a mask a subnet of one address. -/
def allOnes : Ipv4 := ⟨255, 255, 255, 255⟩

/-- The four octets. -/
def octets (a : Ipv4) : Bytes := [a.o0, a.o1, a.o2, a.o3]

/-- Whether the address is `0.0.0.0`. -/
def isUnspecified (a : Ipv4) : Bool := a = unspecified

/-- The bits set in both. -/
protected def and (a b : Ipv4) : Ipv4 :=
  ⟨a.o0 &&& b.o0, a.o1 &&& b.o1, a.o2 &&& b.o2, a.o3 &&& b.o3⟩

/-- The bits set in either. -/
protected def or (a b : Ipv4) : Ipv4 :=
  ⟨a.o0 ||| b.o0, a.o1 ||| b.o1, a.o2 ||| b.o2, a.o3 ||| b.o3⟩

/-- Four decimal numbers with dots between them. -/
def text (a : Ipv4) : String :=
  ".".intercalate (a.octets.map fun o => toString o.toNat)

/-- The number that decimal digits say. -/
def decimal? (s : String) : Option Nat := if s.toList.all Char.isDigit then s.toNat? else none

/-- The address that four decimal numbers with dots between them say. -/
def ofText? (s : String) : Option Ipv4 :=
  match (s.splitOn ".").map decimal? with
  | [some a, some b, some c, some d] =>
    if a < 256 ∧ b < 256 ∧ c < 256 ∧ d < 256 then
      some ⟨UInt8.ofNat a, UInt8.ofNat b, UInt8.ofNat c, UInt8.ofNat d⟩
    else none
  | _ => none

/-- An address takes four octets. -/
@[simp] theorem length_octets (a : Ipv4) : a.octets.length = 4 := rfl

end Ipv4

end PolledNet
