import PolledNet.Arp.Message
import PolledNet.Config
import PolledNet.Core.Error
import PolledNet.Dhcp.Lease
import PolledNet.Dhcp.State
import PolledNet.Inet.Icmp
import PolledNet.Sink.Service
import PolledNet.Sink.Table
import PolledNet.Tftp.Packet
import PolledNet.Tftp.Report

/-!
# Events

What the stack has to tell the operator, as data. The words are in `Log.Text`.
-/

namespace PolledNet

/-- How important an event is. -/
inductive Level where
  | trace
  | debug
  | info
  | warn
  deriving DecidableEq, Repr

/-- Events of the stack as a whole. -/
inductive StackEvent where
  | deviceUp (name : String) (mac : Mac)
  | deviceDown (name : String)
  | staticAddress (address netmask : Ipv4)
  | configured (address netmask : Ipv4) (gateway : Option Ipv4)
  | registered (id : SinkId) (service : Service)
  | removed (id : SinkId) (service : Service)
  /-- Handling a received packet failed. -/
  | deliveryFailed (id : SinkId) (service : Service) (cause : NetError)
  /-- Handling an expired timer failed. -/
  | expiryFailed (id : SinkId) (service : Service) (cause : NetError)
  deriving DecidableEq, Repr

/-- Events of a frame on its way in or out. -/
inductive FrameEvent where
  | badEthernet (cause : EthernetError)
  | badIp (cause : IpHeaderError)
  | badUdp (cause : UdpError)
  | queued (length : Nat) (id : SinkId)
  | unclaimed (ethertype : UInt16)
  /-- The device refused a frame of the backlog. -/
  | dropped (device : String) (cause : TransmitError)
  deriving DecidableEq, Repr

/-- Events of address resolution. -/
inductive ArpEvent where
  | malformed (cause : ArpError)
  | asking (target ours : Ipv4)
  | replying (ours : Ipv4) (mac : Mac) (requester : Ipv4)
  | unanswered (hop : Ipv4)
  /-- A parked packet could not be sent. -/
  | sendFailed (hop : Ipv4) (cause : NetError)
  | swept (count : Nat)
  deriving DecidableEq, Repr

/-- Events of the control protocol. -/
inductive IcmpEvent where
  | ignored (type : IcmpType)
  | replying (requester : Ipv4)
  | rateLimited
  | unreachable (sender : Ipv4)
  deriving DecidableEq, Repr

/-- Events of address acquisition. -/
inductive DhcpEvent where
  | discovering (xid : UInt32)
  | requesting (address serverId : Ipv4)
  | malformed (cause : DhcpError)
  /-- A message of another client or exchange. -/
  | foreign (type : DhcpType) (xid : UInt32)
  /-- A message that the state does not wait for. -/
  | unexpected (type : DhcpType) (state : DhcpState)
  | accepting (address serverId : Ipv4)
  | rejecting (address : Ipv4) (reason : OfferRefusal)
  | refused
  | bound (lease : Lease)
  | renewed (address : Ipv4) (seconds : UInt32)
  | backingOff (ticks : Tick)
  | unanswered
  | leaseLost (attempts : UInt32)
  | notSent (cause : NetError)
  deriving DecidableEq, Repr

/-- Events of file transfer. -/
inductive TftpEvent where
  | requesting (direction : Direction) (remote : String) (server : Ipv4)
  | notSent (cause : NetError)
  | started (direction : Direction) (server : Ipv4) (remote file : String) (port : UInt16)
  /-- A packet of another transfer. -/
  | foreign (port : UInt16)
  | malformed (cause : TftpError)
  | serverError (code : UInt16) (text : String)
  | optionsIgnored (server : Ipv4)
  | agreed (blockSize windowSize : UInt16) (rollover : Rollover) (size : Option UInt64)
  | discarding (block : UInt16)
  | acknowledging (block : UInt16)
  | repeatedAck (block : UInt16)
  | strayAck (block : UInt16)
  | unexpected (packet : TftpPacket)
  | progress (bytes : Nat) (timeouts : UInt32)
  | timeout (timeouts retries : UInt32)
  | givingUp (retries : UInt32)
  | finished (remote : String) (report : TransferReport)
  | failed (remote : String) (cause : TransferError)
  | cancelNotSent (cause : NetError)
  | cancelled
  deriving DecidableEq, Repr

/-- What the stack has to tell the operator. -/
inductive Event where
  | stack (event : StackEvent)
  | frame (event : FrameEvent)
  | arp (event : ArpEvent)
  | icmp (event : IcmpEvent)
  | dhcp (event : DhcpEvent)
  | tftp (event : TftpEvent)
  deriving DecidableEq, Repr

end PolledNet
