import Mathlib.Control.Monad.Basic
import PolledNet.Core.Uplink

/-!
# Interfaces under observation

What a client hands to its interface can only be observed at the interface. `Uplink.recording` is an
interface that works as another one and keeps a record of every datagram handed to it, with its
answer. `Uplink.scripted` is an interface that only answers, by a script.

What a client does to its interface is done by asking it (`Uplink.Moves`). So a relation that holds
between the states before and after each single request holds between those before and after a
whole handler.
-/

namespace PolledNet

/-- A datagram handed to an interface. -/
structure Handed where
  /-- The port of the sender. -/
  sourcePort : UInt16
  /-- The receiver. -/
  dest : Ipv4
  /-- The port of the receiver. -/
  destPort : UInt16
  /-- The content. -/
  content : Bytes
  /-- Whether the interface took it. -/
  answer : Except NetError Unit
  deriving DecidableEq

/-- An interface with a record. -/
structure Recorded (σ : Type) where
  /-- The interface. -/
  link : σ
  /-- What was handed to it so far, oldest first. -/
  handed : List Handed := []

/-- An interface that works as another one and keeps a record. -/
def Uplink.recording {σ : Type} (up : Uplink σ) : Uplink (Recorded σ) where
  now r := up.now r.link
  send sourcePort dest destPort content r :=
    let (answer, link) := up.send sourcePort dest destPort content r.link
    (answer, ⟨link, r.handed ++ [⟨sourcePort, dest, destPort, content, answer⟩]⟩)
  configure iface r := { r with link := up.configure iface r.link }
  countMalformed r := { r with link := up.countMalformed r.link }
  tell e r := { r with link := up.tell e r.link }

/-- An interface without time whose state is the list of the answers to come; it takes all that is
sent when there are none left. -/
def Uplink.scripted : Uplink (List (Except NetError Unit)) where
  now _ := 0
  send _ _ _ _ answers := (answers.headD (.ok ()), answers.tail)
  configure _ answers := answers
  countMalformed answers := answers
  tell _ answers := answers

/-! ## What requests lead to -/

/-- Whatever is asked of an interface, short of other addresses, moves its state by `R`. -/
structure Uplink.Moves {σ : Type} (up : Uplink σ) (R : σ → σ → Prop) : Prop where
  refl (s : σ) : R s s
  trans {s s' s'' : σ} : R s s' → R s' s'' → R s s''
  tell (e : Event) (s : σ) : R s (up.tell e s)
  send (sourcePort : UInt16) (dest : Ipv4) (destPort : UInt16) (content : Bytes) (s : σ) :
    R s (up.send sourcePort dest destPort content s).2
  countMalformed (s : σ) : R s (up.countMalformed s)

/-- Whatever is asked of an interface moves its state by `R`. -/
structure Uplink.MovesFreely {σ : Type} (up : Uplink σ) (R : σ → σ → Prop) : Prop
    extends up.Moves R where
  configure (iface : InterfaceConfig) (s : σ) : R s (up.configure iface s)

end PolledNet
