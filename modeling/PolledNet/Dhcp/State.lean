/-!
# States of the DHCP client

Discovery leads through selection and request to a bound address, which is then renewed. Any failure
leads back to discovery.
-/

namespace PolledNet

/-- Where the client is. -/
inductive DhcpState where
  /-- About to look for servers. -/
  | discover
  /-- Waiting for an offer. -/
  | select
  /-- Waiting for the requested address. -/
  | request
  /-- Holding an address. -/
  | bound
  /-- Holding an address and asking to keep it. -/
  | renew
  deriving DecidableEq, Repr

/-- The state as shown to the operator. -/
def DhcpState.text : DhcpState → String
  | .discover => "Discover"
  | .select => "Select"
  | .request => "Request"
  | .bound => "Bound"
  | .renew => "Renew"

end PolledNet
