import PolledNet.Stack.Pump

/-!
# Starting and ending clients

Acquiring an address and moving files: how the DHCP client and transfers are registered, watched
and taken out again.
-/

namespace PolledNet

/-- What a transfer is asked to do. -/
structure TransferJob where
  /-- Which way the file goes. -/
  direction : Direction
  /-- The server. -/
  server : Ipv4
  /-- The name of the file there. -/
  remote : String
  /-- The name of the file here. -/
  file : String
  deriving DecidableEq, Repr

/-- How the local file is opened. -/
def TransferJob.mode (job : TransferJob) : OpenMode :=
  match job.direction with
  | .get => .create
  | .put => .read

/-- The transfer of a job before its first packet. -/
def TransferJob.transfer {η φ : Type} [FileHandle η φ] (job : TransferJob) (file : η) (volume : φ)
    (port : UInt16) (requested : TransferConfig) (now : Tick) : Transfer η :=
  { direction := job.direction, server := job.server, localPort := port, remote := job.remote
    file := some file, requested
    size :=
      match job.direction with
      | .get => none
      | .put => some (UInt64.ofNat (FileHandle.size file volume))
    started := now, lastReport := now }

namespace Stack

variable {ω η φ : Type}

/-! ## Address acquisition -/

/-- Whether a sink is a DHCP client. -/
def isDhcp (sink : Sink (SinkKind η)) : Bool := sink.kind.service = .dhcp

/-- Starts the DHCP client in place of any other. It keeps the interface configured from then
on. -/
def startDhcp (s : Stack ω η φ) : SinkId × Stack ω η φ :=
  let old := (s.sinks.sinks.filter isDhcp).map (·.id)
  let s := old.foldl (fun s id => ((s.removeSink? id).map (·.2)).getD s) s
  let session : DhcpClient.Session (Core ω) :=
    ⟨DhcpClient.ofMac s.core.mac, Timer.idle, s.core⟩
  let (answer, session) := session.start (Core.uplink ω)
  let core :=
    match answer with
    | .ok () => session.link
    | .error e => session.link.tell (.dhcp (.notSent e))
  let filter : Filter :=
    { ethertype := some Ethernet.typeIpv4, protocol := some Ip.udp
      localPort := some Dhcp.clientPort, remotePort := some Dhcp.serverPort }
  { s with core }.addSink { filter, kind := .dhcp session.client, timer := session.timer }

/-- The DHCP client, if one was started. -/
def dhcpClient? (s : Stack ω η φ) : Option DhcpClient :=
  s.sinks.sinks.findSome? fun sink =>
    match sink.kind with
    | .dhcp client => some client
    | _ => none

/-! ## Transfers -/

/-- The transfer of a sink. -/
def transfer? (s : Stack ω η φ) (id : SinkId) : Option (Transfer η) :=
  (s.sinks.get? id).bind fun sink =>
    match sink.kind with
    | .tftp transfer => some transfer
    | _ => none

/-- Whether a transfer is over, or there is none. -/
def transferFinished (s : Stack ω η φ) (id : SinkId) : Bool :=
  (s.transfer? id).all (·.isFinished)

/-- Octets a transfer has moved. -/
def transferProgress? (s : Stack ω η φ) (id : SinkId) : Option Nat :=
  (s.transfer? id).map (·.bytes)

variable [FileHandle η φ]

/-- Opens the local file, sends the request and registers the transfer. -/
def startTransfer (s : Stack ω η φ) (opener : FileOpener η φ) (job : TransferJob) :
    Except TransferError SinkId × Stack ω η φ :=
  match s.core.address? with
  | none => (.error .notConfigured, s)
  | some ours =>
    match s.allocatePort with
    | (none, s) => (.error .noPortAvailable, s)
    | (some port, s) =>
      let ⟨core, volume, sinks, nextPort⟩ := s
      match opener job.file job.mode volume with
      | (.error e, volume) => (.error (.file e), ⟨core, volume, sinks, nextPort⟩)
      | (.ok file, volume) =>
        let transfer := job.transfer file volume port core.config.transfer core.now
        let session : Transfer.Session η (Core ω) φ := ⟨transfer, Timer.idle, core, volume⟩
        let (answer, session) := session.start (Core.uplink ω)
        let ⟨transfer, timer, core, volume⟩ := session
        let core :=
          match answer with
          | .ok () => core
          | .error e => core.tell (.tftp (.notSent e))
        let event : TftpEvent := .started job.direction job.server job.remote job.file port
        let filter : Filter :=
          { ethertype := some Ethernet.typeIpv4, protocol := some Ip.udp
            localAddress := some ours, remoteAddress := some job.server, localPort := some port }
        let s : Stack ω η φ := ⟨core.tell (.tftp event), volume, sinks, nextPort⟩
        let (id, s) := s.addSink { filter, kind := .tftp transfer, timer }
        (.ok id, s)

/-- Takes a transfer out and says how it ended. One that is still running is abandoned: the server
is told and the file closed. -/
def finishTransfer (s : Stack ω η φ) (id : SinkId) :
    Except TransferError TransferReport × Stack ω η φ :=
  match s.transfer? id, s.removeSink? id with
  | some transfer, some (_, s) =>
    if transfer.isFinished then (transfer.outcome.getD (.error .cancelled), s)
    else
      let ⟨core, volume, sinks, nextPort⟩ := s
      let session : Transfer.Session η (Core ω) φ := ⟨transfer, Timer.idle, core, volume⟩
      let ⟨transfer, _, core, volume⟩ := session.cancel (Core.uplink ω)
      (transfer.outcome.getD (.error .cancelled), ⟨core, volume, sinks, nextPort⟩)
  | _, _ => (.error .unknownTransfer, s)

/-- Runs a transfer to its end, or until the operator gives up. -/
def runTransfer (s : Stack ω η φ) (opener : FileOpener η φ) (job : TransferJob)
    (patience : Patience ω) :
    Except Fault (Except TransferError TransferReport × Stack ω η φ) := do
  match s.startTransfer opener job with
  | (.error e, s) => return (.error e, s)
  | (.ok id, s) =>
    let (answer, s) ← s.pumpUntil (·.transferFinished id) patience
    let s :=
      match answer with
      | .ok () => s
      | .error _ => { s with core := s.core.tell (.tftp .cancelled) }
    return s.finishTransfer id

end Stack

end PolledNet
