import PolledNet.Proofs.Tftp.Run

/-!
# What an input can do to a transfer

The handlers of a transfer branch on the packet, the phase and the direction. `Reaction` says once
which branches there are, and `reaction` that there are no others, so that a property of every step
is proved by cases on reactions and needs no handler opened again.

A datagram counts as the server's if the server's port is not known yet or is the one it comes from
(`Hears`).
-/

namespace PolledNet

namespace Transfer

namespace Session

variable {η σ φ : Type} (up : Uplink σ) (s : Session η σ φ)

/-! ## Hearing the server -/

/-- A datagram from this port counts as the server's. -/
def Hears (port : UInt16) : Prop := ∀ known ∈ s.transfer.serverPort, known = port

/-- The session that knows the server's port. -/
def heard (port : UInt16) : Session η σ φ :=
  { s with transfer := { s.transfer with serverPort := some port } }

variable {s}

/-- A transfer hears from the port that it has locked. -/
theorem hears_of_locked {port : UInt16} (locked : s.transfer.serverPort = some port) :
    s.Hears port := by
  intro known mem
  rw [locked] at mem
  exact (Option.mem_some.mp mem).symm

/-- A transfer that has locked a port learns nothing when it hears from it. -/
theorem heard_of_locked {port : UInt16} (locked : s.transfer.serverPort = some port) :
    s.heard port = s := by
  unfold heard
  rw [← locked]

/-- A port that counts as the server's is the one that is known. -/
theorem Hears.locked {port : UInt16} (hears : s.Hears port)
    (known : s.transfer.serverPort ≠ none) : s.transfer.serverPort = some port := by
  obtain ⟨p, eq⟩ := Option.ne_none_iff_exists'.mp known
  rw [eq, hears p eq]

variable [FileHandle η φ]

/-- A datagram from the server is parsed and handled. -/
theorem receive_of_hears (running : s.transfer.phase ≠ .done) {port : UInt16}
    (hears : s.Hears port) (payload : Bytes) :
    s.receive up port payload = (s.heard port).receiveContent up payload := by
  unfold receive
  rw [if_neg running]
  split
  · rfl
  · rename_i known locked
    cases hears known locked
    rw [if_pos rfl, heard_of_locked locked]

/-- A datagram from another port is answered with an error, and nothing else happens. -/
theorem receive_of_not_hears (running : s.transfer.phase ≠ .done) {port : UInt16}
    (other : ¬ s.Hears port) (payload : Bytes) :
    s.receive up port payload =
      (s.tell up (.foreign port)).sendTo up port
        (.error Tftp.errorUnknownTransfer "Unknown transfer ID") := by
  unfold receive
  rw [if_neg running]
  split
  · rename_i unlocked
    exact absurd (fun known mem => by rw [unlocked] at mem; cases mem) other
  · rename_i known locked
    refine if_neg fun same => other ?_
    rw [← same]
    exact hears_of_locked locked

/-! ## Reactions -/

variable (s)

/-- What a running transfer comes to by an input. -/
inductive Reaction : Input σ φ → Session η σ φ → Prop where
  /-- Time passes. -/
  | elapsed (link : σ) (volume : φ) : Reaction (.elapse link volume) { s with link, volume }
  /-- A datagram from another port is turned away. -/
  | foreign {port : UInt16} {payload : Bytes} (other : ¬ s.Hears port) :
      Reaction (.datagram port payload)
        ((s.tell up (.foreign port)).sendTo up port
          (.error Tftp.errorUnknownTransfer "Unknown transfer ID")).2
  /-- What is no packet is counted. -/
  | malformed {port : UInt16} {payload : Bytes} {e : TftpError} (hears : s.Hears port)
      (read : TftpPacket.parse payload = .error e) :
      Reaction (.datagram port payload)
        { (s.heard port).tell up (.malformed e) with
          link := up.countMalformed ((s.heard port).tell up (.malformed e)).link }
  /-- The server ends the transfer. -/
  | refused {port : UInt16} {payload : Bytes} {code : UInt16} {text : String}
      (hears : s.Hears port) (read : TftpPacket.parse payload = .ok (.error code text)) :
      Reaction (.datagram port payload)
        (((s.heard port).tell up (.serverError code text)).finish up (.error (.server code text)))
  /-- The server agrees to options. -/
  | options {port : UInt16} {payload : Bytes} {o : TftpOptions} (hears : s.Hears port)
      (read : TftpPacket.parse payload = .ok (.optionAck o))
      (negotiating : s.transfer.phase = .negotiating) :
      Reaction (.datagram port payload) ((s.heard port).receiveOptions up o).2
  /-- The server agrees once more, and nothing has been acknowledged since. -/
  | optionsAgain {port : UInt16} {payload : Bytes} {o : TftpOptions} (hears : s.Hears port)
      (read : TftpPacket.parse payload = .ok (.optionAck o))
      (on : s.transfer.phase = .transferring) (get : s.transfer.direction = .get)
      (first : s.transfer.acked = 0) :
      Reaction (.datagram port payload) ((s.heard port).sendAck up 0).2
  /-- A block comes to a receiver. -/
  | block {port : UInt16} {payload : Bytes} {number : UInt16} {octets : Bytes}
      (hears : s.Hears port) (read : TftpPacket.parse payload = .ok (.data number octets))
      (on : s.transfer.phase = .transferring) (get : s.transfer.direction = .get) :
      Reaction (.datagram port payload) ((s.heard port).receiveData up number octets).2
  /-- An acknowledgement comes to a sender. -/
  | ack {port : UInt16} {payload : Bytes} {number : UInt16} (hears : s.Hears port)
      (read : TftpPacket.parse payload = .ok (.ack number))
      (on : s.transfer.phase = .transferring) (put : s.transfer.direction = .put) :
      Reaction (.datagram port payload) ((s.heard port).receiveAck up number).2
  /-- A packet that does not belong here ends the transfer. -/
  | misplaced {port : UInt16} {payload : Bytes} {p : TftpPacket} (hears : s.Hears port)
      (read : TftpPacket.parse payload = .ok p) (event : TftpEvent) (cause : TransferError)
      (code : UInt16) :
      Reaction (.datagram port payload) (((s.heard port).tell up event).fail up cause code).2
  /-- Too many steps in a row went unanswered. -/
  | gaveUp (exhausted : s.transfer.retries + 1 > s.transfer.requested.maxRetries) :
      Reaction .expiry
        ((({ s with timer := Timer.idle }.counted).tell up
          (.givingUp s.transfer.requested.maxRetries)).fail up .timeout Tftp.errorNotDefined).2
  /-- The request is repeated. -/
  | requestedAgain (within : ¬ s.transfer.retries + 1 > s.transfer.requested.maxRetries)
      (negotiating : s.transfer.phase = .negotiating) :
      Reaction .expiry (({ s with timer := Timer.idle }.retrying up).sendRequest up).2
  /-- The acknowledgement is repeated. -/
  | acknowledgedAgain (within : ¬ s.transfer.retries + 1 > s.transfer.requested.maxRetries)
      (on : s.transfer.phase = .transferring) (get : s.transfer.direction = .get) :
      Reaction .expiry (({ s with timer := Timer.idle }.retrying up).acknowledgeAndFlush up).2
  /-- The window is repeated. -/
  | resent (within : ¬ s.transfer.retries + 1 > s.transfer.requested.maxRetries)
      (on : s.transfer.phase = .transferring) (put : s.transfer.direction = .put) :
      Reaction .expiry (({ s with timer := Timer.idle }.retrying up).resendWindow up).2
  /-- The operator gives up. -/
  | cancelled : Reaction .cancel (s.cancel up)

variable {s}

/-- A running transfer that does not negotiate transfers. -/
theorem transferring_of_ne {phase : TransferPhase} (running : phase ≠ .done)
    (begun : phase = .negotiating → False) : phase = .transferring := by
  cases phase with
  | negotiating => exact absurd rfl begun
  | transferring => rfl
  | done => exact absurd rfl running

/-- What comes of a packet from the server. -/
theorem reaction_packet {port : UInt16} (hears : s.Hears port) {payload : Bytes}
    {p : TftpPacket} (read : TftpPacket.parse payload = .ok p) :
    s.Reaction up (.datagram port payload) ((s.heard port).receivePacket up p).2 := by
  -- the cases stand as in `receivePacket`
  unfold receivePacket
  split
  case h_1 => exact .refused hears read
  case h_2 options _ negotiating => exact .options hears read negotiating
  case h_3 => exact .misplaced hears read _ _ _
  case h_4 => exact .misplaced hears read _ _ _
  case h_5 on get => exact .block hears read on get
  case h_6 on put => exact .ack hears read on put
  case h_7 =>
    split
    · split
      · rename_i again
        exact .optionsAgain hears read again.1 again.2.2.1 again.2.2.2
      · exact .misplaced hears read _ _ _
    · rw [if_neg (by simp)]
      exact .misplaced hears read _ _ _

/-- **There are no other reactions.** -/
theorem reaction (running : s.transfer.phase ≠ .done) (unfinished : s.transfer.outcome = none)
    (input : Input σ φ) : s.Reaction up input (s.step up input) := by
  cases input with
  | datagram port payload =>
    simp only [step]
    by_cases hears : s.Hears port
    · rw [receive_of_hears up running hears]
      unfold receiveContent
      split
      · rename_i read
        exact .malformed hears read
      · rename_i read
        exact reaction_packet up hears read
    · rw [receive_of_not_hears up running hears]
      exact .foreign hears
  | expiry =>
    simp only [step]
    rw [expire_eq up { s with timer := Timer.idle } running]
    split
    · rename_i exhausted
      exact .gaveUp exhausted
    · rename_i within
      unfold retry
      split
      · rename_i negotiating
        exact .requestedAgain within negotiating
      · rename_i get begun
        exact .acknowledgedAgain within (transferring_of_ne running begun) get
      · rename_i put begun
        exact .resent within (transferring_of_ne running begun) put
  | cancel =>
    simp only [step]
    rw [if_neg (by simp [isFinished, unfinished])]
    exact .cancelled
  | elapse link volume => exact .elapsed link volume

/-- The block that is next is taken, if it is not too long. -/
theorem step_block {port : UInt16} {payload octets : Bytes}
    (on : s.transfer.phase = .transferring) (get : s.transfer.direction = .get)
    (hears : s.Hears port)
    (read : TftpPacket.parse payload =
      .ok (.data (wireBlock s.transfer.nextBlock s.transfer.rollover) octets))
    (fits : octets.length ≤ s.transfer.blockSize.toNat) :
    s.step up (.datagram port payload) = ((s.heard port).receiveBlock up octets).2 := by
  have phase : (s.heard port).transfer.phase = .transferring := on
  have direction : (s.heard port).transfer.direction = .get := get
  simp only [step]
  rw [receive_of_hears up (by rw [on]; decide) hears, receiveContent, read]
  simp only [receivePacket, phase, direction]
  rw [receiveData]
  exact congrArg Prod.snd ((if_neg (Nat.not_lt.mpr fits)).trans (if_neg fun ne => ne rfl))

/-- The block that a receiver waits for is taken. -/
theorem step_next_block {port : UInt16} {payload octets : Bytes}
    (on : s.transfer.phase = .transferring) (get : s.transfer.direction = .get)
    (locked : s.transfer.serverPort = some port)
    (read : TftpPacket.parse payload =
      .ok (.data (wireBlock s.transfer.nextBlock s.transfer.rollover) octets))
    (fits : octets.length ≤ s.transfer.blockSize.toNat) :
    s.step up (.datagram port payload) = (s.receiveBlock up octets).2 := by
  rw [step_block up on get (hears_of_locked locked) read fits, heard_of_locked locked]

/-- The server agrees to options. -/
theorem step_options {port : UInt16} {payload : Bytes} {o : TftpOptions}
    (negotiating : s.transfer.phase = .negotiating) (hears : s.Hears port)
    (read : TftpPacket.parse payload = .ok (.optionAck o)) :
    s.step up (.datagram port payload) = ((s.heard port).receiveOptions up o).2 := by
  have phase : (s.heard port).transfer.phase = .negotiating := negotiating
  simp only [step]
  rw [receive_of_hears up (by rw [negotiating]; decide) hears, receiveContent, read]
  simp only [receivePacket, phase]

/-- An acknowledgement comes to a sender. -/
theorem step_ack {port : UInt16} {payload : Bytes} {number : UInt16}
    (on : s.transfer.phase = .transferring) (put : s.transfer.direction = .put)
    (locked : s.transfer.serverPort = some port)
    (read : TftpPacket.parse payload = .ok (.ack number)) :
    s.step up (.datagram port payload) = (s.receiveAck up number).2 := by
  simp only [step]
  rw [receive_of_hears up (by rw [on]; decide) (hears_of_locked locked), heard_of_locked locked,
    receiveContent, read]
  simp only [receivePacket, on, put]

end Session

end Transfer

end PolledNet
