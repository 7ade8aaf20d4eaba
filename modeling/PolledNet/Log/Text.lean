import PolledNet.Log.Event
import PolledNet.Text.Quoted

/-!
# Events in words

The importance of each event and the line the operator reads.
-/

namespace PolledNet

/-- The level as shown to the operator. -/
def Level.text : Level → String
  | .trace => "trace"
  | .debug => "debug"
  | .info => "info"
  | .warn => "warn"

namespace StackEvent

/-- How important the event is. -/
def level : StackEvent → Level
  | .deviceUp .. | .deviceDown .. | .staticAddress .. | .configured .. => .info
  | .registered .. | .removed .. | .deliveryFailed .. | .expiryFailed .. => .debug

/-- The event in words. -/
def text : StackEvent → String
  | .deviceUp name mac => s!"net: {name} up, MAC {mac.text}"
  | .deviceDown name => s!"net: {name} down"
  | .staticAddress address netmask => s!"net: static address {address.text} / {netmask.text}"
  | .configured address netmask gateway =>
    s!"net: configured {address.text} / {netmask.text} gateway " ++ Text.optional Ipv4.text gateway
  | .registered id service => s!"net: registered {id.text} ({service.text})"
  | .removed id service => s!"net: removed {id.text} ({service.text})"
  | .deliveryFailed id service cause => s!"{id.text} ({service.text}): {cause.message}"
  | .expiryFailed id service cause => s!"{id.text} ({service.text}) timer: {cause.message}"

end StackEvent

namespace FrameEvent

/-- How important the event is. -/
def level : FrameEvent → Level
  | .dropped .. => .warn
  | _ => .trace

/-- The event in words. -/
def text : FrameEvent → String
  | .badEthernet cause => s!"RX: {cause.message}"
  | .badIp cause => s!"RX: {cause.message}"
  | .badUdp cause => s!"RX: {cause.message}"
  | .queued length id => s!"RX: {length} bytes to {id.text}"
  | .unclaimed ethertype => "RX: unclaimed ethertype 0x" ++ Text.hexUpper 4 ethertype.toNat
  | .dropped device cause => s!"TX: {device} dropped backlogged frame: {cause.message}"

end FrameEvent

namespace ArpEvent

/-- How important the event is. -/
def level : ArpEvent → Level
  | .malformed .. => .trace
  | .unanswered .. => .warn
  | _ => .debug

/-- The event in words. -/
def text : ArpEvent → String
  | .malformed cause => s!"ARP: dropping packet: {cause.message}"
  | .asking target ours => s!"ARP: who-has {target.text} tell {ours.text}"
  | .replying ours mac requester =>
    s!"ARP: {ours.text} is at {mac.text}, replying to {requester.text}"
  | .unanswered hop => s!"ARP: {hop.text} did not answer, dropping packet"
  | .sendFailed hop cause => s!"ARP: send for {hop.text} failed: {cause.message}"
  | .swept count => s!"ARP: swept {count} expired entries"

end ArpEvent

/-- The event in words; all events of the control protocol are traces. -/
def IcmpEvent.text : IcmpEvent → String
  | .ignored type => s!"ICMP: ignoring {type.text}"
  | .replying requester => s!"ICMP: echo reply to {requester.text}"
  | .rateLimited => "ICMP: unreachable rate limited"
  | .unreachable sender => s!"ICMP: port unreachable to {sender.text}"

namespace DhcpEvent

/-- How important the event is. -/
def level : DhcpEvent → Level
  | .foreign .. | .unexpected .. => .trace
  | .bound .. => .info
  | .refused | .leaseLost .. | .notSent .. => .warn
  | _ => .debug

/-- The event in words. -/
def text : DhcpEvent → String
  | .discovering xid => "DHCP: DISCOVER xid 0x" ++ Text.hex 8 xid.toNat
  | .requesting address serverId => s!"DHCP: REQUEST {address.text} from {serverId.text}"
  | .malformed cause => s!"DHCP: dropping reply: {cause.message}"
  | .foreign type xid => s!"DHCP: ignoring {type.text} xid 0x" ++ Text.hex 8 xid.toNat
  | .unexpected type state => s!"DHCP: ignoring {type.text} in {state.text}"
  | .accepting address serverId =>
    s!"DHCP: accepting offer {address.text} from {serverId.text}"
  | .rejecting address reason => s!"DHCP: rejecting offer {address.text}: {reason.message}"
  | .refused => "DHCP: NAK from server, restarting"
  | .bound lease =>
    s!"DHCP: bound {lease.address.text} / {lease.netmask.text} gateway {lease.gateway.text}" ++
      s!" dns {lease.nameServer.text} lease {lease.seconds.toNat}s"
  | .renewed address seconds => s!"DHCP: renewed {address.text} for {seconds.toNat}s"
  | .backingOff ticks => s!"DHCP: no usable offer, backing off to {ticks.toNat} ticks"
  | .unanswered => "DHCP: no answer to REQUEST"
  | .leaseLost attempts => s!"DHCP: lease lost after {attempts.toNat} renewal attempts"
  | .notSent cause => s!"DHCP: DISCOVER not sent: {cause.message}"

end DhcpEvent

/-! ## Transfers -/

/-- The rule as shown to the operator. -/
def Rollover.text : Rollover → String
  | .zero => "Zero"
  | .one => "One"

/-- The options as shown to the operator. -/
def TftpOptions.text (o : TftpOptions) : String :=
  Text.record "TftpOptions"
    [("blksize", Text.optional (fun n : UInt16 => toString n.toNat) o.blockSize),
      ("tsize", Text.optional (fun n : UInt64 => toString n.toNat) o.transferSize),
      ("windowsize", Text.optional (fun n : UInt16 => toString n.toNat) o.windowSize),
      ("rollover", Text.optional Rollover.text o.rollover)]

/-- The packet as shown to the operator. -/
def TftpPacket.text : TftpPacket → String
  | .readRequest filename mode options =>
    Text.record "ReadRequest"
      [("filename", Text.quoted filename), ("mode", Text.quoted mode), ("options", options.text)]
  | .writeRequest filename mode options =>
    Text.record "WriteRequest"
      [("filename", Text.quoted filename), ("mode", Text.quoted mode), ("options", options.text)]
  | .data block content =>
    Text.record "Data" [("block", toString block.toNat), ("data", Text.octetList content)]
  | .ack block => Text.record "Ack" [("block", toString block.toNat)]
  | .error code message =>
    Text.record "Error" [("code", toString code.toNat), ("message", Text.quoted message)]
  | .optionAck options => "OptionAck(" ++ options.text ++ ")"

namespace TftpEvent

/-- How important the event is. -/
def level : TftpEvent → Level
  | .foreign .. | .discarding .. | .acknowledging .. | .repeatedAck .. | .timeout .. => .trace
  | .started .. | .progress .. | .finished .. | .cancelled => .info
  | .serverError .. | .optionsIgnored .. | .givingUp .. | .failed .. => .warn
  | _ => .debug

/-- The event in words. -/
def text : TftpEvent → String
  | .requesting direction remote server => s!"TFTP: {direction.text} {remote} from {server.text}"
  | .notSent cause => s!"TFTP: request not sent: {cause.message}"
  | .started direction server remote file port =>
    s!"TFTP: {direction.text} {server.text}:{remote} <-> {file} on port {port.toNat}"
  | .foreign port => s!"TFTP: packet from unknown port {port.toNat}"
  | .malformed cause => s!"TFTP: dropping packet: {cause.message}"
  | .serverError code text => s!"TFTP: server error {code.toNat}: {text}"
  | .optionsIgnored server => s!"TFTP: {server.text} ignored the option request"
  | .agreed blockSize windowSize rollover size =>
    s!"TFTP: blksize {blockSize.toNat} windowsize {windowSize.toNat} rollover {rollover.text}" ++
      " tsize " ++ Text.optional (fun n : UInt64 => toString n.toNat) size
  | .discarding block => s!"TFTP: discarding block {block.toNat}"
  | .acknowledging block => s!"TFTP: ACK {block.toNat}"
  | .repeatedAck block => s!"TFTP: duplicate ACK {block.toNat}, resending window"
  | .strayAck block => s!"TFTP: ACK {block.toNat} outside window"
  | .unexpected packet => s!"TFTP: unexpected {packet.text}"
  | .progress bytes timeouts => s!"TFTP: {bytes} bytes, {timeouts.toNat} timeouts"
  | .timeout timeouts retries => s!"TFTP: timeout {timeouts.toNat} (retry {retries.toNat})"
  | .givingUp retries => s!"TFTP: giving up after {retries.toNat} retries"
  | .finished remote report =>
    s!"TFTP: {remote} {report.bytes} bytes in {report.elapsed.toNat} ticks " ++
      s!"({report.bytesPerSecond} B/s, {report.timeouts.toNat} timeouts)"
  | .failed remote cause => s!"TFTP: {remote} failed: {cause.message}"
  | .cancelNotSent cause => s!"TFTP: cancel notice not sent: {cause.message}"
  | .cancelled => "TFTP: cancelled by user"

end TftpEvent

namespace Event

/-- How important the event is. -/
def level : Event → Level
  | .stack event => event.level
  | .frame event => event.level
  | .arp event => event.level
  | .icmp _ => .trace
  | .dhcp event => event.level
  | .tftp event => event.level

/-- The event in words. -/
def text : Event → String
  | .stack event => event.text
  | .frame event => event.text
  | .arp event => event.text
  | .icmp event => event.text
  | .dhcp event => event.text
  | .tftp event => event.text

end Event

end PolledNet
