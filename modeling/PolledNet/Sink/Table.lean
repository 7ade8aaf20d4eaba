import PolledNet.Link.Packet
import PolledNet.Sink.Filter
import PolledNet.Time

/-!
# The sink table

A sink is a registered interest in received frames: a filter, the packets waiting for it, a timer,
and the protocol state that handles both. The table keeps its sinks in the order of falling
specificity and, among equals, of registration; so the first sink that accepts a frame is the
earliest of the most specific ones.
-/

namespace PolledNet

/-- The name of a registered sink. -/
structure SinkId where
  /-- Its number; the first sink of a table has number one. -/
  number : UInt32
  deriving DecidableEq, Repr

/-- The name as shown to the operator. -/
def SinkId.text (i : SinkId) : String := s!"sink#{i.number.toNat}"

/-- A sink with protocol state of type `κ`. -/
structure Sink (κ : Type) where
  /-- Its name, given when it is registered. -/
  id : SinkId := ⟨0⟩
  /-- What it wants to receive. -/
  filter : Filter
  /-- What it has received and not handled. -/
  queue : PacketQueue := {}
  /-- Its timer. -/
  timer : Timer := Timer.idle
  /-- Its protocol state. -/
  kind : κ

/-- How specific the filter of a sink is. -/
def Sink.specificity {κ : Type} (s : Sink κ) : Nat := s.filter.specificity

/-- The registered sinks. -/
structure SinkTable (κ : Type) where
  /-- The sinks, most specific first. -/
  sinks : List (Sink κ) := []
  /-- The number the next sink gets. -/
  nextNumber : UInt32 := 1

namespace SinkTable

variable {κ : Type}

/-- Puts a sink before the first one less specific than it. -/
def place (s : Sink κ) : List (Sink κ) → List (Sink κ)
  | [] => [s]
  | t :: rest => if t.specificity < s.specificity then s :: t :: rest else t :: place s rest

/-- Registers a sink under the next number, which is never zero. -/
def insert (t : SinkTable κ) (s : Sink κ) : SinkId × SinkTable κ :=
  let id : SinkId := ⟨t.nextNumber⟩
  (id, ⟨place { s with id } t.sinks, max (t.nextNumber + 1) 1⟩)

/-- The sink of a name. -/
def get? (t : SinkTable κ) (id : SinkId) : Option (Sink κ) := t.sinks.find? (·.id = id)

/-- The sink at a position, counted from the most specific. -/
def at? (t : SinkTable κ) (i : Nat) : Option (Sink κ) := t.sinks[i]?

/-- Takes the sink of a name out of the table. -/
def remove? (t : SinkTable κ) (id : SinkId) : Option (Sink κ × SinkTable κ) :=
  (t.get? id).map fun s => (s, { t with sinks := t.sinks.eraseP (·.id = id) })

/-- The position of the first sink that accepts a frame. -/
def find? (t : SinkTable κ) (frame : FrameInfo) (ours : Option Ipv4) : Option Nat :=
  t.sinks.findIdx? (·.filter.accepts frame ours)

/-- Changes the sink at a position, leaving its place in the order. -/
def modifyAt (t : SinkTable κ) (i : Nat) (f : Sink κ → Sink κ) : SinkTable κ :=
  { t with sinks := t.sinks.modify i f }

/-- Changes the sink of a name, leaving its place in the order. -/
def modify (t : SinkTable κ) (id : SinkId) (f : Sink κ → Sink κ) : SinkTable κ :=
  match t.sinks.findIdx? (·.id = id) with
  | some i => t.modifyAt i f
  | none => t

/-- The number of sinks. -/
def size (t : SinkTable κ) : Nat := t.sinks.length

/-- Whether there is no sink. -/
def isEmpty (t : SinkTable κ) : Bool := t.sinks.isEmpty

end SinkTable

end PolledNet
