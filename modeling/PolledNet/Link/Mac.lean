import PolledNet.Bytes
import PolledNet.Text.Hex

/-!
# Hardware addresses

The 48-bit address of an Ethernet station.
-/

namespace PolledNet

/-- A 48-bit hardware address, in the order its octets are sent. -/
structure Mac where
  /-- First octet; its lowest bit marks a group address. -/
  o0 : UInt8
  o1 : UInt8
  o2 : UInt8
  o3 : UInt8
  o4 : UInt8
  o5 : UInt8
  deriving DecidableEq, Repr, Inhabited

namespace Mac

/-- The address of every station. -/
def broadcast : Mac := ⟨255, 255, 255, 255, 255, 255⟩

/-- The all-zero address, for a station not known yet. -/
def zero : Mac := ⟨0, 0, 0, 0, 0, 0⟩

/-- The six octets. -/
def octets (m : Mac) : Bytes := [m.o0, m.o1, m.o2, m.o3, m.o4, m.o5]

/-- The address in the first six octets. -/
def ofBytes? : Bytes → Except Fault Mac
  | a :: b :: c :: d :: e :: f :: _ => .ok ⟨a, b, c, d, e, f⟩
  | _ => .error .outOfRange

/-- Whether the address is that of every station. -/
def isBroadcast (m : Mac) : Bool := m = broadcast

/-- Whether the group bit is set; so it is for broadcast. -/
def isMulticast (m : Mac) : Bool := m.o0.toNat % 2 = 1

/-- Six upper-case pairs of digits with colons between them. -/
def text (m : Mac) : String :=
  ":".intercalate (m.octets.map fun o => Text.hexUpper 2 o.toNat)

/-- An address takes six octets. -/
@[simp] theorem length_octets (m : Mac) : m.octets.length = 6 := rfl

/-- An address is read back, whatever follows it. -/
theorem ofBytes?_octets_append (m : Mac) (rest : Bytes) :
    ofBytes? (m.octets ++ rest) = .ok m := rfl

end Mac

end PolledNet
