import PolledNet.Proofs.Core.Services

/-!
# What the DHCP client does to its interface

The client tells, counts and sends, and sets the addresses of its interface. So whatever it receives
and whatever expires, it moves its interface as these requests do (`moves_receive`,
`moves_expire`). A round that starts, and a request, ask for no other addresses (`moves_discover`,
`moves_request`).
-/

namespace PolledNet

namespace DhcpClient

namespace Session

variable {σ : Type} {up : Uplink σ} {R : σ → σ → Prop}

/-! ## Sending -/

section Moves

variable (moves : up.Moves R) (x : Session σ)

include moves

/-- To tell the operator is what an interface can do. -/
theorem moves_tell (e : DhcpEvent) : R x.link (x.tell up e).link := moves.tell (.dhcp e) x.link

/-- To send a message is what an interface can do. -/
theorem moves_send (m : DhcpMessage) : R x.link (x.send up m).2.link := moves.send _ _ _ _ x.link

/-- A search begins by sending a message. -/
theorem moves_discover : R x.link (x.discover up).2.link :=
  moves.trans (moves.tell (.dhcp (.discovering (nextXid x.client.xid (up.now x.link)))) x.link)
    (moves.send _ _ _ _ _)

variable {x} in
/-- A search may begin after other work. -/
theorem moves_discover_after {s : σ} (before : R s x.link) : R s (x.discover up).2.link :=
  moves.trans before (moves_discover moves x)

/-- A client is started by beginning a search. -/
theorem moves_start : R x.link (x.start up).2.link :=
  moves_discover moves { x with client := { x.client with backoff := Dhcp.initialBackoff } }

/-- To ask for an address is to send a message. -/
theorem moves_request : R x.link (x.request up).2.link := by
  unfold request
  split
  · exact moves.refl _
  · exact moves.trans (moves_tell moves x _) (moves_send moves _ _)

variable {x} in
/-- An address may be asked for after other work. -/
theorem moves_request_after {s : σ} (before : R s x.link) : R s (x.request up).2.link :=
  moves.trans before (moves_request moves x)

/-- An offer is refused, or its address is asked for. -/
theorem moves_receiveOffer (m : DhcpMessage) : R x.link (x.receiveOffer up m).2.link := by
  unfold receiveOffer
  split
  · exact moves_tell moves x _
  · dsimp only
    exact moves_request_after moves (moves_tell moves x _)

/-- A lease is renewed by asking for its address again. -/
theorem moves_renew (attempts : UInt32) : R x.link (x.renew up attempts).2.link := by
  unfold renew
  dsimp only
  exact moves_request_after moves (moves.refl _)

end Moves

/-! ## Whole handlers -/

section MovesFreely

variable (moves : up.MovesFreely R) (x : Session σ)

include moves

/-- A lease that was granted is put on the interface. -/
theorem moves_bind (m : DhcpMessage) : R x.link (x.bind up m).link := by
  unfold bind
  split
  · exact moves.refl _
  · exact moves.trans (moves.configure _ x.link) (moves.tell _ _)

/-- A lease that was refused is taken off the interface, and another search begins. -/
theorem moves_receiveNak : R x.link (x.receiveNak up).2.link := by
  have told := moves_tell moves.toMoves x .refused
  unfold receiveNak
  dsimp only
  split
  · exact moves_discover_after moves.toMoves (moves.trans told (moves.configure _ _))
  · exact moves_discover_after moves.toMoves told

/-- To lose a lease and begin again is what an interface can do. -/
theorem moves_loseLease : R x.link (x.loseLease up).2.link := by
  have told := moves_tell moves.toMoves x (.leaseLost x.client.renewAttempts)
  unfold loseLease
  dsimp only
  exact moves_discover_after moves.toMoves (moves.trans told (moves.configure _ _))

/-- **Whatever the client receives.** -/
theorem moves_receive (payload : Bytes) : R x.link (x.receive up payload).2.link := by
  unfold receive
  split
  · exact moves.trans (moves_tell moves.toMoves x _) (moves.countMalformed _)
  · split
    · exact moves_tell moves.toMoves x _
    · split
      · exact moves_receiveOffer moves.toMoves x _
      · exact moves_bind moves x _
      · exact moves_bind moves x _
      · exact moves_receiveNak moves x
      · exact moves_receiveNak moves x
      · exact moves_tell moves.toMoves x _

/-- **Whatever expires.** -/
theorem moves_expire : R x.link (x.expire up).2.link := by
  unfold expire
  split
  · exact moves_discover moves.toMoves x
  · dsimp only
    exact moves_discover_after moves.toMoves (moves.tell _ x.link)
  · exact moves_discover_after moves.toMoves (moves_tell moves.toMoves x _)
  · exact moves_renew moves.toMoves x 1
  · split
    · exact moves_loseLease moves x
    · exact moves_renew moves.toMoves x _

end MovesFreely

end Session

end DhcpClient

end PolledNet
