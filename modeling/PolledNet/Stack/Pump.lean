import PolledNet.Stack.Service

/-!
# The pump

All work of the stack is done in passes that never wait. A pass retries the parked packets, takes
received frames from the device, hands waiting frames to it, handles what every sink has received,
and handles every timer that is due. Received frames are queued first and handled later, so that a
handler can send without a frame arriving under its hands.
-/

namespace PolledNet

/-- What happens between the passes of a wait, and how long the operator waits. -/
structure Patience (ω : Type) where
  /-- Polls that let the wait go on. -/
  polls : Nat
  /-- What the hardware goes through at the `k`-th poll, counted from one. -/
  between : Nat → ω → ω

namespace Stack

variable {ω η φ : Type}

/-! ## Receiving -/

/-- Most frames taken from the device in one pass. -/
def receiveBudget : Nat := 64

/-- Queues a received frame on the most specific sink that accepts it. -/
def receiveFrame (s : Stack ω η φ) (frame : Bytes) : Stack ω η φ :=
  match s.core.classify frame with
  | (none, core) => { s with core }
  | (some arrival, core) =>
    let accepting := s.sinks.find? arrival.info core.address?
    match accepting.bind fun i => (s.sinks.at? i).map (i, ·) with
    | some (i, sink) =>
      let event : FrameEvent := .queued arrival.packet.data.length sink.id
      let sinks :=
        s.sinks.modifyAt i fun sink => { sink with queue := sink.queue.push arrival.packet }
      { s with core := core.tell (.frame event), sinks }
    | none =>
      let core := core.tell (.frame (.unclaimed arrival.info.ethertype))
      { s with core := core.count fun n => { n with rxUnclaimed := n.rxUnclaimed + 1 } }

/-- Takes at most so many frames from the device. -/
def receiveFrames (s : Stack ω η φ) : (budget : Nat) → Stack ω η φ
  | 0 => s
  | budget + 1 =>
    match s.core.device.receive s.core.hw with
    | (none, hw) => { s with core := { s.core with hw } }
    | (some frame, hw) =>
      receiveFrames ({ s with core := { s.core with hw } }.receiveFrame frame) budget

/-- Lets the device do its housekeeping. -/
def serviceDevice (s : Stack ω η φ) : Stack ω η φ :=
  { s with core := { s.core with hw := s.core.device.service s.core.hw } }

/-! ## Handling -/

variable [FileHandle η φ]

/-- Notes the failure of a handler. -/
def noteFailure (d : Duty ω η φ) (answer : Except NetError Unit)
    (event : SinkId → Service → NetError → StackEvent) : Duty ω η φ :=
  match answer with
  | .ok () => d
  | .error e => { d with core := d.core.tell (.stack (event d.sink.id d.sink.kind.service e)) }

/-- Handles packets that waited for one sink, in turn. -/
def deliverAll (d : Duty ω η φ) : List Packet → Except Fault (Duty ω η φ)
  | [] => .ok d
  | p :: rest => do
    let (answer, d) ← d.deliver p
    deliverAll (noteFailure d answer .deliveryFailed) rest

/-- Handles all that waited for each sink, in the order of the table. -/
def drainSinks (core : Core ω) (volume : φ) :
    List (Sink (SinkKind η)) → Except Fault (Core ω × φ × List (Sink (SinkKind η)))
  | [] => .ok (core, volume, [])
  | sink :: rest => do
    let d ← deliverAll ⟨{ sink with queue := {} }, core, volume⟩ sink.queue.packets
    let ⟨sink, core, volume⟩ := d
    let (core, volume, rest) ← drainSinks core volume rest
    return (core, volume, sink :: rest)

/-- Handles the timer of each sink that is due at `now`, in the order of the table. The timer is
disarmed first. -/
def expireSinks (now : Tick) (core : Core ω) (volume : φ) :
    List (Sink (SinkKind η)) → Core ω × φ × List (Sink (SinkKind η))
  | [] => (core, volume, [])
  | sink :: rest =>
    let ⟨sink, core, volume⟩ : Duty ω η φ :=
      if sink.timer.isDue now then
        let (answer, d) := Duty.expire ⟨{ sink with timer := Timer.idle }, core, volume⟩
        noteFailure d answer .expiryFailed
      else ⟨sink, core, volume⟩
    let (core, volume, rest) := expireSinks now core volume rest
    (core, volume, sink :: rest)

/-- Handles all that waited for the sinks. -/
def drainQueues (s : Stack ω η φ) : Except Fault (Stack ω η φ) := do
  let ⟨core, volume, ⟨sinks, nextNumber⟩, nextPort⟩ := s
  let (core, volume, sinks) ← drainSinks core volume sinks
  return ⟨core, volume, ⟨sinks, nextNumber⟩, nextPort⟩

/-- Handles all timers that are due. -/
def expireTimers (s : Stack ω η φ) : Stack ω η φ :=
  let ⟨core, volume, ⟨sinks, nextNumber⟩, nextPort⟩ := s
  let (core, volume, sinks) := expireSinks core.now core volume sinks
  ⟨core, volume, ⟨sinks, nextNumber⟩, nextPort⟩

/-- One pass. -/
def pump (s : Stack ω η φ) : Except Fault (Stack ω η φ) := do
  let s := { s with core := s.core.serviceParked }
  let s := s.serviceDevice.receiveFrames receiveBudget
  let s := { s with core := s.core.flushBacklog }
  let s ← s.drainQueues
  return s.expireTimers

/-! ## Waiting -/

/-- Lets the hardware go through what happens at a poll. -/
def poll (s : Stack ω η φ) (patience : Patience ω) (k : Nat) : Stack ω η φ :=
  { s with core := { s.core with hw := patience.between k s.core.hw } }

/-- Makes passes until `finished` holds, with `left` polls still to come before the operator gives
up at the one after them. -/
def pumpWhileWaiting (finished : Stack ω η φ → Bool) (patience : Patience ω) :
    (left : Nat) → Stack ω η φ → Except Fault (Except NetError Unit × Stack ω η φ)
  | 0, s =>
    if finished s then .ok (.ok (), s)
    else .ok (.error .cancelled, s.poll patience (patience.polls + 1))
  | left + 1, s =>
    if finished s then .ok (.ok (), s)
    else do
      pumpWhileWaiting finished patience left (← (s.poll patience (patience.polls - left)).pump)

/-- Makes passes until `finished` holds or the operator gives up. -/
def pumpUntil (s : Stack ω η φ) (finished : Stack ω η φ → Bool) (patience : Patience ω) :
    Except Fault (Except NetError Unit × Stack ω η φ) :=
  pumpWhileWaiting finished patience patience.polls s

end Stack

end PolledNet
