/-!
# Services

The services that receive frames.
-/

namespace PolledNet

/-- What a sink does with what it receives. -/
inductive Service where
  /-- Learns and answers address bindings. -/
  | arp
  /-- Answers echo requests. -/
  | icmpEcho
  /-- Answers what nobody else wants. -/
  | icmpUnreachable
  /-- Acquires our address. -/
  | dhcp
  /-- Moves a file. -/
  | tftp
  deriving DecidableEq, Repr

/-- The service as shown to the operator. -/
def Service.text : Service → String
  | .arp => "arp"
  | .icmpEcho => "icmp-echo"
  | .icmpUnreachable => "icmp-unreachable"
  | .dhcp => "dhcp"
  | .tftp => "tftp"

end PolledNet
