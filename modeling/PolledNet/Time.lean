/-!
# Ticks, deadlines and one-shot timers

Time is a free-running 32-bit tick count that wraps. A deadline is itself a tick count, and it is
reached once the wrapping distance from it to now is less than half the tick space. Delays are
clamped to `maxDelay`, so that a deadline just set never reads as already reached.
-/

namespace PolledNet

/-- A count of timer interrupts, modulo `2 ^ 32`. -/
abbrev Tick := UInt32

namespace Tick

/-- Timer interrupts per second. -/
def perSecond : Tick := 100

/-- Milliseconds as ticks, rounded up so that a delay never becomes no delay. -/
def ofMillis (ms : UInt32) : Tick :=
  let scaled := ms * perSecond
  scaled / 1000 + if scaled % 1000 = 0 then 0 else 1

/-- Seconds as ticks; more than the tick space holds becomes its largest count. -/
def ofSeconds (secs : UInt32) : Tick :=
  UInt32.ofNat (min (secs.toNat * perSecond.toNat) (UInt32.size - 1))

/-- The longest delay a deadline can express: just under half the tick space. -/
def maxDelay : Tick := 2147483647

/-- The deadline `delay` ticks after `now`, the delay clamped to `maxDelay`. -/
def deadline (now delay : Tick) : Tick := now + min delay maxDelay

/-- Whether `due` has been reached at `now`: the distance from it, taken as signed, is not
negative. -/
def reached (now due : Tick) : Bool := now - due ≤ maxDelay

end Tick

/-! ## The counter -/

/-- The free-running counter that the timer interrupt advances. -/
structure TickCounter where
  /-- The present count. -/
  count : Tick := 0
  deriving DecidableEq, Repr

namespace TickCounter

/-- The counter `n` interrupts later. -/
def advance (c : TickCounter) (n : Tick) : TickCounter := ⟨c.count + n⟩

/-- The counter one interrupt later. -/
def tick (c : TickCounter) : TickCounter := c.advance 1

end TickCounter

/-! ## Timers -/

/-- A one-shot timer. It is disarmed before its owner is told of the expiry, so the owner arms it
again when it wants another. -/
structure Timer where
  /-- The deadline while armed. -/
  deadline : Option Tick := none
  deriving DecidableEq, Repr

namespace Timer

/-- A timer that is not armed. -/
def idle : Timer := ⟨none⟩

/-- The timer armed for `delay` ticks from `now`. -/
def arm (now delay : Tick) : Timer := ⟨some (Tick.deadline now delay)⟩

/-- Whether the timer has a deadline. -/
def isArmed (t : Timer) : Bool := t.deadline.isSome

/-- Whether the timer is armed and its deadline reached. -/
def isDue (t : Timer) (now : Tick) : Bool := t.deadline.any (Tick.reached now)

end Timer

end PolledNet
