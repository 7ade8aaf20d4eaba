import PolledNet.Link.Wire
import PolledNet.Time

/-!
# A bench

Hardware in memory on which stacks run: a wire, a clock that is advanced by hand, and a list of
transmissions that are to fail. A device on the bench is a port of the wire that takes part in
this; both ends may have one, and then share the clock.
-/

namespace PolledNet

/-- The state of a bench. -/
structure Bench where
  /-- The wire. -/
  wire : Wire := {}
  /-- The clock. -/
  clock : TickCounter := {}
  /-- Errors that the next transmissions of an end meet, in turn. -/
  refusals : List (WireEnd × TransmitError) := []
  /-- How often a wait has polled the operator. -/
  polls : Nat := 0
  deriving DecidableEq, Repr

namespace Bench

/-- The present tick. -/
def now (b : Bench) : Tick := b.clock.count

/-- The bench `n` ticks later. -/
def advance (b : Bench) (n : Tick) : Bench := { b with clock := b.clock.advance n }

/-- Lets the next transmissions of an end fail. -/
def refuse (b : Bench) (e : WireEnd) (causes : List TransmitError) : Bench :=
  { b with refusals := b.refusals ++ causes.map fun cause => (e, cause) }

/-- Does something with the wire. -/
def onWire {α : Type} (f : Wire → α × Wire) (b : Bench) : α × Bench :=
  let (a, wire) := f b.wire
  (a, { b with wire })

/-- Puts frames on their way from an end, in turn. -/
def send (e : WireEnd) : List Bytes → Bench → List (Except TransmitError Unit) × Bench
  | [], b => ([], b)
  | frame :: rest, b =>
    let (answer, b) := b.onWire (·.send e frame)
    let (answers, b) := send e rest b
    (answer :: answers, b)

/-- A poll of the operator: the clock goes on, and frames come from an end. -/
def poll (b : Bench) (ticks : Tick) (e : WireEnd) (frames : List Bytes) : Bench :=
  (send e frames ({ b with polls := b.polls + 1 }.advance ticks)).2

/-- The device at an end. It comes up unless it is broken; the clock goes on by `ticks` with every
pass. -/
def device (e : WireEnd) (mac : Mac) (broken : Option DeviceError) (ticks : Tick) :
    Device Bench :=
  let port := Wire.port e mac
  { mac, name := port.name
    start := fun b =>
      match broken with
      | some cause => (.error cause, b)
      | none => b.onWire port.start
    halt := fun b => { b with wire := port.halt b.wire }
    service := fun b => { b.advance ticks with wire := port.service b.wire }
    transmit := fun frame b =>
      match b.refusals.find? (·.1 = e) with
      | some (_, cause) => (.error cause, { b with refusals := b.refusals.eraseP (·.1 = e) })
      | none => b.onWire (port.transmit frame)
    canTransmit := fun b => port.canTransmit b.wire
    receive := fun b => b.onWire port.receive
    link := fun b => port.link b.wire }

end Bench

end PolledNet
