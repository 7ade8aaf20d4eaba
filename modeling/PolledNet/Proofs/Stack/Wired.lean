import PolledNet.File.RamVolume
import PolledNet.Link.Wire
import PolledNet.Proofs.Stack.Operation

/-!
# The order of frames on a wire

A stack whose device is a port of a wire, and a peer at the other end that takes frames as it likes
and may tell the port to wait. Between a sender and the peer a frame goes through two bounded
queues, the backlog and the wire; a frame may also go straight to the wire. Still no frame overtakes
another, and none that the wire can carry is lost on the way (`wired_order`): what the peer has
taken, what is on the wire and what still waits are together the frames accepted from senders.

`Line` is the hardware for this: the wire and the clock, and a record of what the peer has taken.
-/

namespace PolledNet

/-! ## The lanes of a wire -/

namespace Wire

variable (w : Wire) (e : WireEnd) (l : Lane)

/-- A lane that is replaced is the new one. -/
@[simp] theorem lane_withLane : (w.withLane e l).lane e = l := by
  cases e <;> rfl

/-- The lane of the other end is not replaced. -/
@[simp] theorem lane_peer_withLane : (w.withLane e l).lane e.peer = w.lane e.peer := by
  cases e <;> rfl

/-- The frames from a port that are under way. -/
def fromPort (w : Wire) (e : WireEnd) : List Bytes := (w.lane e.peer).frames

/-- A port with room takes any frame that is not too long, and puts it behind all others. -/
theorem transmit_of_fits {w : Wire} {e : WireEnd} (room : w.canTransmit e = true) {frame : Bytes}
    (fits : frame.length ≤ Ethernet.maxFrameSize) :
    (w.transmit e frame).1 = .ok () ∧
      (w.transmit e frame).2.fromPort e = w.fromPort e ++ [frame] := by
  have space : ¬ (w.lane e.peer).frames.length ≥ w.depth := by
    unfold canTransmit at room
    simp only [Bool.and_eq_true, decide_eq_true_eq] at room
    exact Nat.not_le_of_lt room.2
  unfold transmit send
  simp [Nat.not_lt_of_le fits, room, space, fromPort]

/-- A wire takes no frame that is too long, and leaves the frames under way alone. -/
theorem transmit_of_long (w : Wire) (e : WireEnd) {frame : Bytes}
    (long : ¬ frame.length ≤ Ethernet.maxFrameSize) :
    w.transmit e frame = (.error .packetTooLarge, w) := by
  unfold transmit
  rw [if_pos (Nat.lt_of_not_le long)]

/-- A frame that is taken is put behind all others, and a refusal leaves the wire alone. -/
theorem transmit_cases (w : Wire) (e : WireEnd) (frame : Bytes) :
    (∃ cause, w.transmit e frame = (.error cause, w)) ∨
      w.transmit e frame = (.ok (), w.withLane e.peer
        { w.lane e.peer with frames := (w.lane e.peer).frames ++ [frame] }) := by
  unfold transmit send
  dsimp only
  split
  · exact .inl ⟨_, rfl⟩
  · split
    · exact .inl ⟨_, rfl⟩
    · split
      · exact .inl ⟨_, rfl⟩
      · exact .inr rfl

end Wire

/-! ## The hardware -/

/-- A wire with a clock and a record of the frames that the peer has taken. -/
structure Line where
  /-- The wire. -/
  wire : Wire := {}
  /-- The clock. -/
  clock : TickCounter := {}
  /-- The frames that the peer has taken, oldest first. -/
  taken : List Bytes := []

namespace Line

/-- The present tick. -/
def now (l : Line) : Tick := l.clock.count

/-- A port of the wire as a device. -/
def device (e : WireEnd) (mac : Mac) : Device Line :=
  let port := Wire.port e mac
  { mac, name := port.name
    start := fun l => ((port.start l.wire).1, { l with wire := (port.start l.wire).2 })
    halt := fun l => { l with wire := port.halt l.wire }
    service := fun l => { l with wire := port.service l.wire }
    transmit := fun frame l =>
      ((port.transmit frame l.wire).1, { l with wire := (port.transmit frame l.wire).2 })
    canTransmit := fun l => port.canTransmit l.wire
    receive := fun l => ((port.receive l.wire).1, { l with wire := (port.receive l.wire).2 })
    link := fun l => port.link l.wire }

/-- What the peer of the port `e` may do, and the passing of time. Only stopping its port is left
out, which would drop the frames under way to it. -/
inductive PeerMove (e : WireEnd) : (Line → Line) → Prop where
  /-- It takes a frame, if there is one. -/
  | take : PeerMove e fun l =>
      { l with wire := (l.wire.receive e.peer).2
               taken := l.taken ++ (l.wire.receive e.peer).1.toList }
  /-- It takes all frames. -/
  | drain : PeerMove e fun l =>
      { l with wire := (l.wire.drain e.peer).2, taken := l.taken ++ (l.wire.drain e.peer).1 }
  /-- It tells the port whether there is room. -/
  | ready (room : Bool) : PeerMove e fun l => { l with wire := l.wire.setPeerReady e.peer room }
  /-- It sends a frame as a device does. -/
  | transmit (frame : Bytes) : PeerMove e fun l =>
      { l with wire := (l.wire.transmit e.peer frame).2 }
  /-- It sends a frame, whether the port has been told to wait or not. -/
  | send (frame : Bytes) : PeerMove e fun l => { l with wire := (l.wire.send e.peer frame).2 }
  /-- Time passes. -/
  | tick (n : Tick) : PeerMove e fun l => { l with clock := l.clock.advance n }

/-- What the port `e` has handed to the wire: what the peer has taken, and what is under way. -/
def carried (e : WireEnd) (l : Line) : List Bytes := l.taken ++ l.wire.fromPort e

variable {e : WireEnd} {mac : Mac}

/-- What the peer sends does not touch what is under way to it. -/
theorem fromPort_send_peer (w : Wire) (frame : Bytes) :
    (w.send e.peer frame).2.fromPort e = w.fromPort e := by
  unfold Wire.send Wire.fromPort
  dsimp only
  split
  · rfl
  · cases e <;> rfl

/-- Nothing that the peer does loses a frame. -/
theorem carried_of_peerMove {f : Line → Line} (move : PeerMove e f) (l : Line) :
    carried e (f l) = carried e l := by
  cases move with
  | take =>
    unfold carried Wire.fromPort Wire.receive
    dsimp only
    split
    · rename_i none
      simp [none]
    · rename_i frame rest some
      simp [some]
  | drain => simp [carried, Wire.fromPort, Wire.drain]
  | ready room => simp [carried, Wire.fromPort, Wire.setPeerReady]
  | transmit frame =>
    unfold carried Wire.transmit
    dsimp only
    split
    · rfl
    · split
      · rfl
      · rw [fromPort_send_peer]
  | send frame =>
    unfold carried
    rw [fromPort_send_peer]
  | tick n => rfl

/-- The port does not change the frames on their way when it takes one. -/
theorem carried_receive (l : Line) : carried e ((device e mac).receive l).2 = carried e l := by
  show l.taken ++ (l.wire.receive e).2.fromPort e = _
  unfold carried Wire.fromPort Wire.receive
  dsimp only
  split
  · rfl
  · rw [Wire.lane_peer_withLane]

/-- A frame that fits is handed to the wire, behind those that are on it. -/
theorem carried_transmit_of_fits {l : Line} {frame : Bytes}
    (room : (device e mac).canTransmit l = true) (fits : frame.length ≤ Ethernet.maxFrameSize) :
    ((device e mac).transmit frame l).1 = .ok () ∧
      carried e ((device e mac).transmit frame l).2 = carried e l ++ [frame] := by
  obtain ⟨answer, behind⟩ := Wire.transmit_of_fits (w := l.wire) room fits
  refine ⟨answer, ?_⟩
  show l.taken ++ (l.wire.transmit e frame).2.fromPort e = _
  rw [behind, ← List.append_assoc]
  rfl

/-- A frame that is too long is refused, and nothing happens. -/
theorem transmit_of_long (l : Line) {frame : Bytes}
    (long : ¬ frame.length ≤ Ethernet.maxFrameSize) :
    (device e mac).transmit frame l = (.error .packetTooLarge, l) := by
  show ((l.wire.transmit e frame).1, { l with wire := (l.wire.transmit e frame).2 }) = _
  rw [l.wire.transmit_of_long e long]

/-- A port that has room hands over what fits, and refuses only what is too long. -/
theorem transmit_of_room {l l' : Line} {frame : Bytes} {answer : Except TransmitError Unit}
    (room : (device e mac).canTransmit l = true)
    (sent : (device e mac).transmit frame l = (answer, l')) :
    answer = .ok () ∧ carried e l' = carried e l ++ [frame] ∨
      answer = .error .packetTooLarge ∧ ¬ frame.length ≤ Ethernet.maxFrameSize ∧ l' = l := by
  by_cases fits : frame.length ≤ Ethernet.maxFrameSize
  · have taken := carried_transmit_of_fits room fits
    rw [sent] at taken
    exact .inl taken
  · rw [transmit_of_long l fits] at sent
    cases sent
    exact .inr ⟨rfl, fits, rfl⟩

end Line

/-! ## Frames on their way -/

/-- The frames among these that a wire carries. -/
def carriable (frames : List Bytes) : List Bytes :=
  frames.filter (·.length ≤ Ethernet.maxFrameSize)

/-- Of two lists of frames the wire carries those of the first and then those of the second. -/
theorem carriable_append (frames frames' : List Bytes) :
    carriable (frames ++ frames') = carriable frames ++ carriable frames' :=
  List.filter_append frames frames'

/-- The wire does not carry a frame that is too long. -/
theorem carriable_of_long {frame : Bytes} (long : ¬ frame.length ≤ Ethernet.maxFrameSize)
    (frames : List Bytes) : carriable (frame :: frames) = carriable frames :=
  List.filter_cons_of_neg (by simpa using long)

/-- The frames that were accepted from senders. -/
def acceptedFrames (trace : List Passage) : List Bytes :=
  (trace.filterMap Passage.accepted?).map (·.data)

namespace Core

open PolledNet.Line (PeerMove carried)

variable {e : WireEnd} {mac : Mac} {c c' : Core Line} {trace : List Passage}

/-- All that is on its way to the peer or has reached it: handed to the wire, or waiting. -/
def outgoing (e : WireEnd) (c : Core Line) : List Bytes :=
  carried e c.hw ++ c.backlog.map (·.data)

/-- What one step adds to the frames that are on their way. -/
structure Delivers (e : WireEnd) (c c' : Core Line) (frames : List Bytes) : Prop where
  /-- They come behind all others, and nothing is lost. -/
  order : carriable (outgoing e c') = carriable (outgoing e c) ++ carriable frames
  /-- What is handed to the wire is counted. -/
  counted : c'.stats.txFrames + (carried e c.hw).length =
    c.stats.txFrames + (carried e c'.hw).length

/-- The frames of two steps are on their way one behind the other. -/
theorem Delivers.trans {c'' : Core Line} {frames frames' : List Bytes}
    (first : Delivers e c c' frames) (second : Delivers e c' c'' frames') :
    Delivers e c c'' (frames ++ frames') where
  order := by rw [second.order, first.order, carriable_append, List.append_assoc]
  counted := by
    have := first.counted
    have := second.counted
    omega

/-- A step that hands nothing over and sends nothing. -/
theorem Delivers.of_carried (hw : carried e c'.hw = carried e c.hw)
    (backlog : c'.backlog = c.backlog) (frames : c'.stats.txFrames = c.stats.txFrames) :
    Delivers e c c' [] where
  order := by rw [outgoing, outgoing, hw, backlog]; exact (List.append_nil _).symm
  counted := by rw [hw, frames]

section Port

variable (port : c.device = Line.device e mac)

include port

/-- A frame that is turned away is not handed over. -/
theorem carried_of_turnedAway {p : Packet} {hw : Line} (turned : c.TurnedAway p hw) :
    carried e hw = carried e c.hw := by
  rcases turned with ⟨rfl, -⟩ | ⟨-, room, cause, transient, refusal⟩
  · rfl
  · -- a port that has room refuses only what is too long, and that for good
    rw [port] at room refusal
    obtain ⟨taken, -⟩ | ⟨permanent, -⟩ := Line.transmit_of_room room refusal
    · cases taken
    · cases permanent
      cases transient

/-- A frame that is accepted is on its way, behind all others. -/
theorem delivers_sendFrame (p : Packet) :
    Delivers e c (c.sendFrame p).2
      (match (c.sendFrame p).1 with
        | .ok () => [p.padded.data]
        | .error _ => []) := by
  have dispatched := c.sendFrame_dispatched p
  generalize (c.sendFrame p).1 = answer, (c.sendFrame p).2 = c' at dispatched
  cases dispatched with
  | @taken hw idle room took =>
    rw [port] at room took
    obtain ⟨-, handed⟩ | ⟨refused, -⟩ := Line.transmit_of_room room took
    · constructor
      · show carriable (carried e hw ++ c.backlog.map (·.data)) =
          carriable (carried e c.hw ++ c.backlog.map (·.data)) ++ carriable [p.padded.data]
        rw [handed, idle, ← carriable_append]
        simp
      · show c.stats.txFrames + 1 + (carried e c.hw).length =
          c.stats.txFrames + (carried e hw).length
        rw [handed, List.length_append, List.length_singleton]
        omega
    · cases refused
  | @barred hw cause idle room refusal permanent =>
    rw [port] at room refusal
    obtain ⟨taken, -⟩ | ⟨-, -, rfl⟩ := Line.transmit_of_room room refusal
    · cases taken
    · exact .of_carried rfl rfl rfl
  | @waits hw turned space =>
    have same := carried_of_turnedAway port turned
    constructor
    · show carriable (carried e hw ++ (c.backlog ++ [p.padded]).map (·.data)) =
        carriable (carried e c.hw ++ c.backlog.map (·.data)) ++ carriable [p.padded.data]
      rw [same, ← carriable_append, List.map_append, List.append_assoc]
      rfl
    · show c.stats.txFrames + (carried e c.hw).length = c.stats.txFrames + (carried e hw).length
      rw [same]
  | crowded turned full => exact .of_carried (carried_of_turnedAway port turned) rfl rfl

/-- A frame that moves from the backlog to the wire stays in its place. -/
theorem delivers_release {p : Packet} {rest : List Packet} (next : c.backlog = p :: rest)
    (room : c.device.canTransmit c.hw = true) : Delivers e c (c.release p rest) [] := by
  unfold release handOver
  rw [port] at room ⊢
  cases transmitted : (Line.device e mac).transmit p.data c.hw with
  | mk answer hw =>
    obtain ⟨rfl, handed⟩ | ⟨rfl, long, rfl⟩ := Line.transmit_of_room room transmitted
    · constructor
      · show carriable (carried e hw ++ rest.map (·.data)) =
          carriable (carried e c.hw ++ c.backlog.map (·.data)) ++ carriable []
        rw [handed, next, ← carriable_append]
        simp
      · show c.stats.txFrames + 1 + (carried e c.hw).length =
          c.stats.txFrames + (carried e hw).length
        rw [handed, List.length_append, List.length_singleton]
        omega
    · constructor
      · show carriable (carried e c.hw ++ rest.map (·.data)) =
          carriable (carried e c.hw ++ c.backlog.map (·.data)) ++ carriable []
        rw [next, List.map_cons, ← carriable_append, List.append_nil, carriable_append,
          carriable_append, carriable_of_long long]
      · rfl

/-- Each passage adds the frame that was accepted in it, if any. -/
theorem Passes.delivers {x : Passage} (passes : c.Passes x c') :
    Delivers e c c' (x.accepted?.map (·.data)).toList := by
  cases passes with
  | @taken p _ sent | @queued p _ sent | @refused p _ _ sent =>
    have delivers := delivers_sendFrame port p
    rw [sent] at delivers
    exact delivers
  | offered next room => exact delivers_release port next room

/-- Only a frame that is too long is refused for another reason than a full backlog. -/
theorem backlogFull_of_refused {p : Packet} {cause : NetError}
    (sent : c.sendFrame p = (.error cause, c'))
    (fits : p.padded.data.length ≤ Ethernet.maxFrameSize) : cause = .backlogFull := by
  have dispatched := c.sendFrame_dispatched p
  rw [sent] at dispatched
  dsimp only at dispatched
  cases dispatched with
  | barred idle room refusal permanent =>
    rw [port] at room refusal
    have took := (Line.carried_transmit_of_fits room fits).1
    rw [refusal] at took
    cases took
  | crowded => rfl

/-- **No frame is lost, and none overtakes another.** -/
theorem Traffic.delivers (traffic : Traffic (PeerMove e) c trace c') :
    Delivers e c c' (acceptedFrames trace) := by
  induction traffic with
  | nil => exact .of_carried rfl rfl rfl
  | quiet _ same ih =>
    have still := Delivers.of_carried (e := e) (congrArg _ same.hw) same.backlog same.sent.frames
    exact (List.append_nil (acceptedFrames _)) ▸ ih.trans still
  | @hardware trace c' hw before step ih =>
    have fixed : c'.device = Line.device e mac := before.sameSetup.device.trans port
    have same : carried e hw = carried e c'.hw := by
      cases step with
      | receive => rw [fixed]; exact Line.carried_receive c'.hw
      | service => rw [fixed]; rfl
      | elapse world => exact Line.carried_of_peerMove world c'.hw
    have still : Delivers e c' { c' with hw } [] := .of_carried same rfl rfl
    exact (List.append_nil (acceptedFrames trace)) ▸ ih.trans still
  | @pass trace x c' _ before passes ih =>
    have fixed : c'.device = Line.device e mac := before.sameSetup.device.trans port
    have split : acceptedFrames (trace ++ [x]) =
        acceptedFrames trace ++ (x.accepted?.map (·.data)).toList := by
      unfold acceptedFrames
      rw [List.filterMap_append, List.map_append]
      cases x <;> rfl
    rw [split]
    exact ih.trans (passes.delivers fixed)

/-- A frame that fits is only ever refused because the backlog is full. -/
theorem Traffic.backlogFull (traffic : Traffic (PeerMove e) c trace c') {p : Packet}
    {cause : NetError} (mem : .refused p cause ∈ trace)
    (fits : p.padded.data.length ≤ Ethernet.maxFrameSize) : cause = .backlogFull := by
  induction traffic with
  | nil => cases mem
  | quiet _ _ ih => exact ih mem
  | hardware _ _ ih => exact ih mem
  | pass before passes ih =>
    rcases List.mem_append.mp mem with earlier | last
    · exact ih earlier
    · rw [List.mem_singleton] at last
      subst last
      cases passes with
      | refused sent => exact backlogFull_of_refused (before.sameSetup.device.trans port) sent fits

end Port

end Core

namespace Stack

open PolledNet.Core (Traffic outgoing)

variable {η φ : Type} [FileHandle η φ] {e : WireEnd} {mac : Mac} {s s' : Stack Line η φ}

/-- **The order of frames on a wire.** In any run, whatever the peer does and however the stack is
used, the frames that a wire carries leave in the order in which they were accepted: those that the
peer has taken, those under way and those in the backlog are, in this order, those that were there
before and those for which the sender was told that all is well. The frames handed to the wire are
counted, and a sender of such a frame is never told of another error than a full backlog. -/
theorem wired_order (port : s.core.device = Line.device e mac)
    (run : s.Operates (Line.PeerMove e) s') :
    ∃ trace, Traffic (Line.PeerMove e) s.core trace s'.core ∧
      ∀ trace, Traffic (Line.PeerMove e) s.core trace s'.core →
        carriable (outgoing e s'.core) =
            carriable (outgoing e s.core) ++ carriable (acceptedFrames trace) ∧
          s'.core.stats.txFrames + (Line.carried e s.core.hw).length =
            s.core.stats.txFrames + (Line.carried e s'.core.hw).length ∧
          ∀ p cause, .refused p cause ∈ trace →
            p.padded.data.length ≤ Ethernet.maxFrameSize → cause = .backlogFull := by
  obtain ⟨trace, traffic⟩ := traffic_of_operates run
  refine ⟨trace, traffic, fun trace traffic => ?_⟩
  have delivers := traffic.delivers port
  refine ⟨delivers.order, delivers.counted, ?_⟩
  intro p cause mem fits
  exact traffic.backlogFull port mem fits

/-! ## A frame that waits, and one behind it -/

/-- A stack without sinks whose peer has told it to wait. -/
def halted : Stack Line RamFile RamVolume :=
  { core :=
      { device := Line.device .a ⟨2, 0, 0, 0, 0, 1⟩, clock := Line.now
        hw := { wire := { toB := { ready := false } } }, config := {}
        iface := InterfaceConfig.unconfigured, mac := ⟨2, 0, 0, 0, 0, 1⟩ }
    volume := {} }

/-- The frame that is sent at once, too short as it is. -/
def firstFrame : Packet := Packet.zeroed Ethernet.headerSize

/-- The frame that is sent when the peer has room again. -/
def secondFrame : Packet := Packet.zeroed 100

/-- The hardware once the peer has room. -/
def cleared (l : Line) : Line := { l with wire := l.wire.setPeerReady .b true }

/-- The hardware after the peer has taken a frame. -/
def relieved (l : Line) : Line :=
  { l with wire := (l.wire.receive .b).2, taken := l.taken ++ (l.wire.receive .b).1.toList }

/-- The core with both frames waiting. -/
def lined : Core Line :=
  let core := (halted.core.sendFrame firstFrame).2
  (({ core with hw := cleared core.hw } : Core Line).sendFrame secondFrame).2

/-- The core after a pass of the main loop. -/
def flushed : Core Line := lined.flushBacklog

/-- The stack when the peer has taken the first of them. -/
def onward : Stack Line RamFile RamVolume :=
  { halted with core := { flushed with hw := relieved flushed.hw } }

/-- The halted stack operates with the other end on the wire, and comes to send its frames. -/
theorem operates_onward : halted.Operates (Line.PeerMove .a) onward := by
  have first : halted.Operates (Line.PeerMove .a)
      { halted with core := (halted.core.sendFrame firstFrame).2 } :=
    .single (.sendFrame firstFrame)
  have room := first.tail (.elapse (f := cleared) (.ready true) halted.volume)
  have second := room.tail (.sendFrame secondFrame)
  have pumped : halted.Operates (Line.PeerMove .a) { halted with core := flushed } :=
    second.tail (.pump rfl)
  exact pumped.tail (.elapse (f := relieved) .take halted.volume)

/-- A frame that had to wait leaves before the one that was sent after it. -/
theorem wired_order_afterWait :
    halted.Operates (Line.PeerMove .a) onward ∧
      onward.core.hw.taken = [firstFrame.padded.data] ∧
      onward.core.hw.wire.fromPort .a = [secondFrame.data] ∧
      onward.core.stats.txFrames = 2 := by
  have port : halted.core.device = Line.device .a ⟨2, 0, 0, 0, 0, 1⟩ := rfl
  obtain ⟨trace, traffic, conduct⟩ := wired_order port operates_onward
  obtain ⟨-, counted, -⟩ := conduct trace traffic
  have before : (Line.carried .a halted.core.hw).length = 0 := by decide
  have after : (Line.carried .a onward.core.hw).length = 2 := by decide +kernel
  have unsent : halted.core.stats.txFrames = 0 := rfl
  rw [before, after, unsent, Nat.add_zero, Nat.zero_add] at counted
  exact ⟨operates_onward, by decide +kernel, by decide +kernel, counted⟩

end Stack

end PolledNet
