import PolledNet.Core.Transmit

/-!
# What clients ask of the stack

The DHCP client and the file transfers need little of the stack: the time, a way to send datagrams,
a counter, the interface's addresses to set, and the log. They are written against that alone, for
an interface of any state `σ`, so their behaviour does not depend on how datagrams are sent.
-/

namespace PolledNet

/-- What a client may ask of an interface of state `σ`. -/
structure Uplink (σ : Type) where
  /-- The present tick. -/
  now : σ → Tick
  /-- Sends a datagram from our address: port of the sender, receiver, its port, content. -/
  send : UInt16 → Ipv4 → UInt16 → Bytes → σ → Except NetError Unit × σ
  /-- Changes the addresses of the interface. -/
  configure : InterfaceConfig → σ → σ
  /-- Counts a datagram that is not what it should be. -/
  countMalformed : σ → σ
  /-- Tells the operator. -/
  tell : Event → σ → σ

/-- The core of the stack as clients see it. -/
def Core.uplink (ω : Type) : Uplink (Core ω) where
  now := Core.now
  send sourcePort dest destPort payload c := c.sendDatagram sourcePort dest destPort payload
  configure iface c := c.configure iface
  countMalformed := Core.countMalformed
  tell e c := c.tell e

end PolledNet
