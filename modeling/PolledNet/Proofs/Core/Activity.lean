import Mathlib.Logic.Relation
import PolledNet.Proofs.Core.Sending

/-!
# What is done to the core

Services, clients and the passes of the stack change the core by a few operations only. `Act` names
them, and `Leads` says that acts of some kind lead from one core to another. What every act of a
kind keeps is kept by all that such acts lead to (`Leads.keeps`).

* The device, the clock, the tunables and our hardware address never change (`Leads.sameSetup`).
* Only `configure` changes the addresses of the interface (`Leads.iface`).
* On hardware that takes no time to send or to take a frame (`Prompt`), the clock stands still
  except when the device does its housekeeping or the world moves on (`Leads.now`).
-/

namespace PolledNet

/-- Nothing is counted as sent, as made to wait, or as lost on the way to the device. -/
structure Stats.SameSent (s s' : Stats) : Prop where
  frames : s'.txFrames = s.txFrames
  backlogged : s'.txBacklogged = s.txBacklogged
  drops : s'.txBacklogDrops = s.txBacklogDrops

/-- What is not changed has the same counters. -/
theorem Stats.SameSent.refl (s : Stats) : s.SameSent s := ⟨rfl, rfl, rfl⟩

/-- One thing done to the core. -/
inductive Act (ω : Type) where
  /-- The operator is told. -/
  | tell (e : Event)
  /-- Something is counted. -/
  | count (f : Stats → Stats)
  /-- A datagram takes its identification. -/
  | identify
  /-- An address binding is heard. -/
  | learn (a : Ipv4) (mac : Mac)
  /-- Expired address bindings are removed. -/
  | sweep
  /-- A fully addressed frame is sent. -/
  | sendFrame (p : Packet)
  /-- An IPv4 packet is sent. -/
  | transmit (p : Packet)
  /-- The parked packets are retried. -/
  | retry
  /-- The backlog is handed to the device. -/
  | flush
  /-- A received frame is taken from the device. -/
  | receive
  /-- The device does its housekeeping. -/
  | service
  /-- The interface gets other addresses. -/
  | configure (iface : InterfaceConfig)
  /-- The world moves on: time passes, frames come and go, the device finds room or loses it. -/
  | elapse (f : ω → ω)

namespace Act

variable {ω : Type}

/-- The act does not let time pass by itself. -/
def Timeless : Act ω → Prop
  | .service | .elapse _ => False
  | _ => True

/-- The act leaves the addresses of the interface alone. -/
def KeepsAddress : Act ω → Prop
  | .configure _ => False
  | _ => True

/-- What services and transfers do: neither time nor our address is theirs to change. -/
def Ordinary (a : Act ω) : Prop := a.Timeless ∧ a.KeepsAddress

/-- The act leaves the counters of sent frames to those who send. -/
def KeepsSent : Act ω → Prop
  | .count f => ∀ s : Stats, s.SameSent (f s)
  | _ => True

/-- What services and transfers do, in full. -/
structure Plain (a : Act ω) : Prop where
  ordinary : a.Ordinary
  keepsSent : a.KeepsSent

/-- What the stack and its owner do, in a world that moves on only as told. -/
structure Within (World : (ω → ω) → Prop) (a : Act ω) : Prop where
  keepsSent : a.KeepsSent
  world : ∀ f, a = .elapse f → World f

/-- Whoever leaves the time alone moves no world. -/
theorem Plain.within {World : (ω → ω) → Prop} {a : Act ω} (plain : a.Plain) : a.Within World := by
  refine ⟨plain.keepsSent, ?_⟩
  rintro f rfl
  exact plain.ordinary.1.elim

end Act

namespace Core

variable {ω : Type}

/-- The core after an act. -/
def act (c : Core ω) : Act ω → Core ω
  | .tell e => c.tell e
  | .count f => c.count f
  | .identify => c.nextIdentification.2
  | .learn a mac => { c with arp := c.arp.learn a mac c.now c.config.arpTtl }
  | .sweep => { c with arp := (c.arp.sweep c.now).2 }
  | .sendFrame p => (c.sendFrame p).2
  | .transmit p => (c.transmitIpv4 p).2
  | .retry => c.serviceParked
  | .flush => c.flushBacklog
  | .receive => { c with hw := (c.device.receive c.hw).2 }
  | .service => { c with hw := c.device.service c.hw }
  | .configure iface => c.configure iface
  | .elapse f => { c with hw := f c.hw }

/-- Acts of one kind lead from one core to another. -/
def Leads (Kind : Act ω → Prop) : Core ω → Core ω → Prop :=
  Relation.ReflTransGen fun c c' => ∃ a, Kind a ∧ c' = c.act a

section Leads

variable {Kind Kind' : Act ω → Prop} {c c' c'' : Core ω}

/-- Nothing has to be done to get where one is. -/
theorem Leads.refl (c : Core ω) : Leads Kind c c := Relation.ReflTransGen.refl

/-- What leads on from where something led to leads from where that began. -/
theorem Leads.trans (first : Leads Kind c c') (second : Leads Kind c' c'') : Leads Kind c c'' :=
  Relation.ReflTransGen.trans first second

/-- An act leads from one core to the next. -/
theorem Leads.one {a : Act ω} (kind : Kind a) : Leads Kind c (c.act a) :=
  Relation.ReflTransGen.single ⟨a, kind, rfl⟩

/-- One more act may follow. -/
theorem Leads.andThen (first : Leads Kind c c') {a : Act ω} (kind : Kind a) :
    Leads Kind c (c'.act a) :=
  first.trans (.one kind)

/-- Acts of a kind are acts of any weaker kind. -/
theorem Leads.mono (leads : Leads Kind c c') (weaker : ∀ a, Kind a → Kind' a) :
    Leads Kind' c c' :=
  Relation.ReflTransGen.mono (fun _ _ ⟨a, kind, eq⟩ => ⟨a, weaker a kind, eq⟩) _ _ leads

/-- **What every act of a kind keeps is kept by all they lead to.** -/
theorem Leads.keeps (leads : Leads Kind c c') (Holds : Core ω → Prop)
    (kept : ∀ c a, Kind a → Holds c → Holds (c.act a)) (start : Holds c) : Holds c' := by
  induction leads with
  | refl => exact start
  | tail _ step ih =>
    obtain ⟨a, kind, rfl⟩ := step
    exact kept _ a kind ih

end Leads

/-! ## What is fixed -/

/-- Neither sending a frame nor taking one takes time. -/
def Prompt (c : Core ω) : Prop :=
  (∀ frame hw, c.clock (c.device.transmit frame hw).2 = c.clock hw) ∧
    ∀ hw, c.clock (c.device.receive hw).2 = c.clock hw

/-- What was fixed when the interface came up. -/
structure SameSetup (c c' : Core ω) : Prop where
  device : c'.device = c.device
  clock : c'.clock = c.clock
  config : c'.config = c.config
  mac : c'.mac = c.mac

/-- A core has the setup that it has. -/
theorem SameSetup.refl (c : Core ω) : SameSetup c c := ⟨rfl, rfl, rfl, rfl⟩

/-- If the setup stayed twice, it stayed. -/
theorem SameSetup.trans {c c' c'' : Core ω} (first : SameSetup c c')
    (second : SameSetup c' c'') : SameSetup c c'' :=
  ⟨second.device.trans first.device, second.clock.trans first.clock,
    second.config.trans first.config, second.mac.trans first.mac⟩

/-- Hardware that takes no time for its frames still takes none with the same setup. -/
theorem SameSetup.prompt {c c' : Core ω} (same : SameSetup c c') (prompt : c.Prompt) :
    c'.Prompt := by
  unfold Prompt
  rw [same.device, same.clock]
  exact prompt

/-- What sending leaves alone. -/
structure Undisturbed (c c' : Core ω) : Prop where
  setup : SameSetup c c'
  /-- Our addresses. -/
  iface : c'.iface = c.iface
  /-- The time, as far as the hardware lets it. -/
  now : c.Prompt → c'.now = c.now

namespace Undisturbed

variable {c c' c'' : Core ω}

/-- Nothing is disturbed if nothing is done. -/
theorem refl (c : Core ω) : Undisturbed c c := ⟨.refl c, rfl, fun _ => rfl⟩

/-- What is left alone twice is left alone. -/
theorem trans (first : Undisturbed c c') (second : Undisturbed c' c'') : Undisturbed c c'' where
  setup := first.setup.trans second.setup
  iface := second.iface.trans first.iface
  now prompt := (second.now (first.setup.prompt prompt)).trans (first.now prompt)

/-- A change that reaches neither the setup nor the hardware nor our addresses. -/
theorem of_eq (setup : SameSetup c c') (hw : c'.hw = c.hw) (iface : c'.iface = c.iface) :
    Undisturbed c c' :=
  ⟨setup, iface, fun _ => by rw [Core.now, setup.clock, hw]; rfl⟩

end Undisturbed

variable (c : Core ω)

/-- To tell the operator disturbs nothing. -/
theorem undisturbed_tell (e : Event) : Undisturbed c (c.tell e) :=
  .of_eq ⟨rfl, rfl, rfl, rfl⟩ rfl rfl

/-- Counting disturbs nothing. -/
theorem undisturbed_count (f : Stats → Stats) : Undisturbed c (c.count f) :=
  .of_eq ⟨rfl, rfl, rfl, rfl⟩ rfl rfl

/-- A packet that is counted as dropped disturbs nothing. -/
theorem undisturbed_countUnanswered : Undisturbed c c.countUnanswered := c.undisturbed_count _

/-- A packet that is parked disturbs nothing. -/
theorem undisturbed_park (p : Packet) : Undisturbed c (c.park p) :=
  .of_eq ⟨rfl, rfl, rfl, rfl⟩ rfl rfl

/-- A next hop that is resolved disturbs nothing. -/
theorem undisturbed_advanceResolution (now : Tick) (hop : Ipv4) :
    Undisturbed c (c.advanceResolution now hop).2 :=
  .of_eq ⟨rfl, rfl, rfl, rfl⟩ rfl rfl

/-- The hardware has taken or refused a frame. -/
theorem undisturbed_handOver (p : Packet) : Undisturbed c (c.handOver p).2 := by
  unfold handOver
  split
  all_goals
    rename_i hw transmitted
    refine ⟨⟨rfl, rfl, rfl, rfl⟩, rfl, fun prompt => ?_⟩
    have still := prompt.1 p.data c.hw
    rw [transmitted] at still
    exact still

/-- It takes no time to be turned away. -/
theorem clock_of_notTaken {c : Core ω} (prompt : c.Prompt) {p : Packet} {hw : ω}
    (notTaken : c.NotTaken p hw) : c.clock hw = c.clock c.hw := by
  rcases notTaken with rfl | ⟨e, transmitted⟩
  · rfl
  · have still := prompt.1 p.padded.data c.hw
    rwa [transmitted] at still

/-- A frame that is sent disturbs nothing, whether it is taken, waits or is lost. -/
theorem undisturbed_sendFrame (p : Packet) : Undisturbed c (c.sendFrame p).2 := by
  have sent := c.sendFrame_sent p
  generalize (c.sendFrame p).1 = answer, (c.sendFrame p).2 = c' at sent
  cases sent with
  | taken hw stats transmitted =>
    refine ⟨⟨rfl, rfl, rfl, rfl⟩, rfl, fun prompt => ?_⟩
    have still := prompt.1 p.padded.data c.hw
    rwa [transmitted] at still
  | waits hw stats notTaken =>
    exact ⟨⟨rfl, rfl, rfl, rfl⟩, rfl, fun prompt => clock_of_notTaken prompt notTaken⟩
  | lost hw stats notTaken e =>
    exact ⟨⟨rfl, rfl, rfl, rfl⟩, rfl, fun prompt => clock_of_notTaken prompt notTaken⟩

/-- A backlog that is handed to the device disturbs nothing. -/
theorem undisturbed_flush (frames : List Packet) : Undisturbed c (c.flush frames) := by
  induction frames generalizing c with
  | nil => exact .of_eq ⟨rfl, rfl, rfl, rfl⟩ rfl rfl
  | cons p rest ih =>
    unfold flush
    split
    · have handed := c.undisturbed_handOver p
      split
      · rename_i eq
        rw [eq] at handed
        exact handed.trans (ih _)
      · rename_i eq
        rw [eq] at handed
        exact ((handed.trans (undisturbed_count _ _)).trans (undisturbed_tell _ _)).trans (ih _)
    · exact .of_eq ⟨rfl, rfl, rfl, rfl⟩ rfl rfl

/-- The question for an address disturbs nothing. -/
theorem undisturbed_sendArpRequest (target : Ipv4) :
    Undisturbed c (c.sendArpRequest target).2 :=
  (c.undisturbed_tell _).trans (undisturbed_sendFrame _ _)

/-- What becomes of a packet once the state of its next hop is known disturbs nothing. -/
theorem undisturbed_settle (p : Packet) (hop : Ipv4) (resolution : Resolution)
    (failed : Except NetError Unit) :
    Undisturbed c (c.settle p hop resolution failed).2 := by
  cases resolution with
  | hit mac => exact c.undisturbed_sendFrame _
  | sendRequest => exact (c.undisturbed_park p).trans (undisturbed_sendArpRequest _ hop)
  | wait => exact c.undisturbed_park p
  | fail => exact (c.undisturbed_tell _).trans (undisturbed_countUnanswered _)

/-- A packet that is sent by way of its next hop disturbs nothing. -/
theorem undisturbed_sendVia (p : Packet) (hop : Ipv4) : Undisturbed c (c.sendVia p hop).2 :=
  (c.undisturbed_advanceResolution c.now hop).trans (undisturbed_settle _ _ _ _ _)

/-- A packet that is given to the core disturbs nothing. -/
theorem undisturbed_transmitIpv4 (p : Packet) : Undisturbed c (c.transmitIpv4 p).2 := by
  rw [transmitIpv4_eq]
  split
  · exact c.undisturbed_count fun s => { s with txRefused := s.txRefused + 1 }
  · exact .refl c
  · exact c.undisturbed_sendFrame _
  · exact c.undisturbed_sendVia _ _

/-- A packet that is retried disturbs nothing. -/
theorem undisturbed_retryVia (now : Tick) (p : Packet) (hop : Ipv4) :
    Undisturbed c (c.retryVia now p hop) :=
  (c.undisturbed_advanceResolution now hop).trans (undisturbed_settle _ _ _ _ _)

/-- Whatever a pass does with one packet disturbs nothing. -/
theorem Retried.undisturbed {c c' : Core ω} {now : Tick} {failed failed' : List Ipv4} {p : Packet}
    (step : Retried now c failed p c' failed') : Undisturbed c c' := by
  cases step with
  | aimless => exact .refl c
  | dropped => exact c.undisturbed_countUnanswered
  | retried next hope told =>
    rcases told with rfl | ⟨e, rfl⟩
    · exact c.undisturbed_retryVia now p _
    · exact (c.undisturbed_retryVia now p _).trans (undisturbed_tell _ _)

/-- The packets of a pass disturb nothing. -/
theorem undisturbed_retryParked (now : Tick) (failed : List Ipv4) (packets : List Packet) :
    Undisturbed c (retryParked now c failed packets) := by
  induction packets generalizing c failed with
  | nil => exact .refl c
  | cons p rest ih =>
    obtain ⟨c', failed', step, eq⟩ := retryParked_cons now c failed p rest
    rw [eq]
    exact step.undisturbed.trans (ih c' failed')

/-- A pass over the parked packets disturbs nothing. -/
theorem undisturbed_serviceParked : Undisturbed c c.serviceParked := by
  have cleared : Undisturbed c { c with parked := [] } := .of_eq ⟨rfl, rfl, rfl, rfl⟩ rfl rfl
  exact cleared.trans (undisturbed_retryParked _ _ _ _)

/-! ## What acts keep -/

variable {c} {c' : Core ω} {Kind : Act ω → Prop}

/-- What services and transfers do disturbs nothing. -/
theorem undisturbed_act {a : Act ω} (ordinary : a.Ordinary) : Undisturbed c (c.act a) := by
  cases a with
  | tell e => exact c.undisturbed_tell e
  | count f => exact c.undisturbed_count f
  | identify => exact .of_eq ⟨rfl, rfl, rfl, rfl⟩ rfl rfl
  | learn a mac => exact .of_eq ⟨rfl, rfl, rfl, rfl⟩ rfl rfl
  | sweep => exact .of_eq ⟨rfl, rfl, rfl, rfl⟩ rfl rfl
  | sendFrame p => exact c.undisturbed_sendFrame p
  | transmit p => exact c.undisturbed_transmitIpv4 p
  | retry => exact c.undisturbed_serviceParked
  | flush => exact c.undisturbed_flush _
  | receive => exact ⟨⟨rfl, rfl, rfl, rfl⟩, rfl, fun prompt => prompt.2 c.hw⟩
  | service => exact ordinary.1.elim
  | configure iface => exact ordinary.2.elim
  | elapse f => exact ordinary.1.elim

/-- No act changes the setup. -/
theorem sameSetup_act (a : Act ω) : SameSetup c (c.act a) := by
  by_cases ordinary : a.Ordinary
  · exact (undisturbed_act ordinary).setup
  · cases a with
    | service | configure | elapse => exact ⟨rfl, rfl, rfl, rfl⟩
    | _ => exact absurd ⟨trivial, trivial⟩ ordinary

/-- **The setup never changes.** -/
theorem Leads.sameSetup (leads : Leads Kind c c') : SameSetup c c' :=
  leads.keeps (SameSetup c) (fun _ a _ same => same.trans (sameSetup_act a)) (.refl c)

/-- **Only configuring changes our addresses.** -/
theorem Leads.iface (leads : Leads Kind c c') (keeps : ∀ a, Kind a → a.KeepsAddress) :
    c'.iface = c.iface := by
  refine leads.keeps (fun c' => c'.iface = c.iface) (fun c₁ a kind same => ?_) rfl
  rw [← same]
  by_cases timeless : a.Timeless
  · exact (undisturbed_act ⟨timeless, keeps a kind⟩).iface
  · cases a with
    | service | elapse => rfl
    | _ => exact absurd trivial timeless

/-- **On prompt hardware the clock stands still** while neither the device nor the world moves
on. -/
theorem Leads.now (prompt : c.Prompt) (leads : Leads Kind c c')
    (timeless : ∀ a, Kind a → a.Timeless) : c'.now = c.now := by
  have kept := leads.keeps (fun c' => SameSetup c c' ∧ c'.now = c.now) ?_ ⟨.refl c, rfl⟩
  · exact kept.2
  · rintro c₁ a kind ⟨setup, same⟩
    refine ⟨setup.trans (sameSetup_act a), ?_⟩
    rw [← same]
    by_cases keeps : a.KeepsAddress
    · exact (undisturbed_act ⟨timeless a kind, keeps⟩).now (setup.prompt prompt)
    · cases a with
      | configure => rfl
      | _ => exact absurd trivial keeps

/-- **Services and transfers disturb nothing**, whatever they do. -/
theorem Leads.undisturbed (leads : Leads Act.Ordinary c c') : Undisturbed c c' where
  setup := leads.sameSetup
  iface := leads.iface fun _ ordinary => ordinary.2
  now prompt := leads.now prompt fun _ ordinary => ordinary.1

end Core

end PolledNet
