import PolledNet.Inet.Address
import PolledNet.Link.Mac

/-!
# DHCP messages

Messages of the dynamic host configuration protocol, with the options that a booting station needs.
Reading walks the option area from left to right: padding is skipped, the end mark or the end of
the octets stops the walk, an unknown option is skipped by its length, and of an option that comes
twice the last one counts. The first offence decides the error.
-/

namespace PolledNet

/-! ## Message types -/

/-- What a message is for. -/
inductive DhcpType where
  /-- A client looks for servers. -/
  | discover
  /-- A server offers an address. -/
  | offer
  /-- A client asks for the address that it was offered, or for more time. -/
  | request
  /-- A client has found the address in use. -/
  | decline
  /-- A server lends the address. -/
  | ack
  /-- A server does not lend it. -/
  | nak
  /-- A client gives the address back. -/
  | release
  /-- A client that has an address asks for nothing else. -/
  | inform
  deriving DecidableEq, Repr

namespace DhcpType

/-- The type that an option octet names. -/
def ofOctet? (b : UInt8) : Option DhcpType :=
  match b.toNat with
  | 1 => some .discover
  | 2 => some .offer
  | 3 => some .request
  | 4 => some .decline
  | 5 => some .ack
  | 6 => some .nak
  | 7 => some .release
  | 8 => some .inform
  | _ => none

/-- The option octet of the type. -/
def octet : DhcpType → UInt8
  | .discover => 1
  | .offer => 2
  | .request => 3
  | .decline => 4
  | .ack => 5
  | .nak => 6
  | .release => 7
  | .inform => 8

/-- The type as shown to the operator. -/
def text : DhcpType → String
  | .discover => "DHCPDISCOVER"
  | .offer => "DHCPOFFER"
  | .request => "DHCPREQUEST"
  | .decline => "DHCPDECLINE"
  | .ack => "DHCPACK"
  | .nak => "DHCPNAK"
  | .release => "DHCPRELEASE"
  | .inform => "DHCPINFORM"

end DhcpType

/-! ## Errors -/

/-- Why octets are not a DHCP message. -/
inductive DhcpError where
  /-- Too few octets for the fixed header and the cookie. -/
  | packetTooShort
  /-- The magic cookie is missing. -/
  | badMagicCookie
  /-- An option's length is missing or runs past the end. -/
  | truncatedOption
  /-- An option has a length that its kind does not allow. -/
  | badOptionLength (code : UInt8)
  /-- No option says what the message is for. -/
  | missingMessageType
  /-- The message is for something unknown. -/
  | unknownMessageType (type : UInt8)
  deriving DecidableEq, Repr

/-- What to tell the operator. -/
def DhcpError.message : DhcpError → String
  | .packetTooShort => "DHCP message too short"
  | .badMagicCookie => "Bad DHCP magic cookie"
  | .truncatedOption => "Truncated DHCP option"
  | .badOptionLength code => s!"Bad length for DHCP option {code.toNat}"
  | .missingMessageType => "DHCP message type missing"
  | .unknownMessageType type => s!"Unknown DHCP message type {type.toNat}"

/-- An error is shown by what the operator is told. -/
instance : ToString DhcpError := ⟨DhcpError.message⟩

/-! ## Layout -/

namespace Dhcp

/-- Port of servers. -/
def serverPort : UInt16 := 67

/-- Port of clients. -/
def clientPort : UInt16 := 68

/-- Operation octet of a client's message. -/
def bootRequest : UInt8 := 1

/-- Operation octet of a server's message. -/
def bootReply : UInt8 := 2

/-- Octets before the cookie. -/
def headerSize : Nat := 236

/-- The octets that introduce the option area. -/
def cookie : Bytes := [0x63, 0x82, 0x53, 0x63]

/-- Asks servers to broadcast their answers, since we have no address to be reached at. -/
def flagBroadcast : UInt16 := 0x8000

/-- The longest message accepted. -/
def maxMessageSize : UInt16 := 576

/-! ### Option codes -/

/-- Fills up. It has neither length nor content. -/
def optionPad : UInt8 := 0

/-- The mask of the client's network. -/
def optionSubnetMask : UInt8 := 1

/-- The gateways of the client's network. -/
def optionRouter : UInt8 := 3

/-- The servers that resolve names. -/
def optionNameServer : UInt8 := 6

/-- The address that a client asks for. -/
def optionRequestedAddress : UInt8 := 50

/-- For how many seconds an address is lent. -/
def optionLeaseTime : UInt8 := 51

/-- What the message is for. -/
def optionMessageType : UInt8 := 53

/-- The address of the server that is meant. -/
def optionServerId : UInt8 := 54

/-- The options that a client asks for. -/
def optionParameterList : UInt8 := 55

/-- The longest message that the sender accepts. -/
def optionMaxMessageSize : UInt8 := 57

/-- Ends the option area. -/
def optionEnd : UInt8 := 255

/-- The options that a client asks for. -/
def requestedOptions : Bytes :=
  [optionSubnetMask, optionRouter, optionNameServer, optionLeaseTime, optionServerId]

end Dhcp

/-! ## Options -/

/-- The options of a message. -/
structure DhcpOptions where
  /-- What the message is for. -/
  type : Option DhcpType := none
  /-- The mask of the offered subnet. -/
  subnetMask : Option Ipv4 := none
  /-- The first router of the subnet. -/
  router : Option Ipv4 := none
  /-- The first name server. -/
  nameServer : Option Ipv4 := none
  /-- Seconds the address may be used. -/
  leaseSeconds : Option UInt32 := none
  /-- Which server the message is from or for. -/
  serverId : Option Ipv4 := none
  /-- The address the client asks for. -/
  requestedAddress : Option Ipv4 := none
  deriving DecidableEq, Repr

namespace DhcpOptions

/-- The value of an option that is one address. -/
def address (code : UInt8) : Bytes → Except DhcpError Ipv4
  | [a, b, c, d] => .ok ⟨a, b, c, d⟩
  | _ => .error (.badOptionLength code)

/-- The first address of an option that is a list of addresses, which is not empty. -/
def firstAddress (code : UInt8) (value : Bytes) : Except DhcpError Ipv4 :=
  if value.length % 4 ≠ 0 then .error (.badOptionLength code) else address code (value.take 4)

/-- Takes down one option; an unknown one says nothing. -/
def record (o : DhcpOptions) (code : UInt8) (value : Bytes) : Except DhcpError DhcpOptions :=
  if code = Dhcp.optionMessageType then
    match value with
    | [t] =>
      match DhcpType.ofOctet? t with
      | some type => .ok { o with type := some type }
      | none => .error (.unknownMessageType t)
    | _ => .error (.badOptionLength code)
  else if code = Dhcp.optionSubnetMask then
    (address code value).map fun a => { o with subnetMask := some a }
  else if code = Dhcp.optionServerId then
    (address code value).map fun a => { o with serverId := some a }
  else if code = Dhcp.optionRequestedAddress then
    (address code value).map fun a => { o with requestedAddress := some a }
  else if code = Dhcp.optionRouter then
    (firstAddress code value).map fun a => { o with router := some a }
  else if code = Dhcp.optionNameServer then
    (firstAddress code value).map fun a => { o with nameServer := some a }
  else if code = Dhcp.optionLeaseTime then
    match value with
    | [a, b, c, d] => .ok { o with leaseSeconds := some (word32 a b c d) }
    | _ => .error (.badOptionLength code)
  else .ok o

/-- Walks the option area. -/
def read (o : DhcpOptions) (area : Bytes) : Except DhcpError DhcpOptions :=
  match area with
  | [] => .ok o
  | code :: rest =>
    if code = Dhcp.optionPad then read o rest
    else if code = Dhcp.optionEnd then .ok o
    else
      match rest with
      | [] => .error .truncatedOption
      | length :: rest =>
        let value := rest.take length.toNat
        if value.length < length.toNat then .error .truncatedOption
        else
          match o.record code value with
          | .error e => .error e
          | .ok o => read o (rest.drop length.toNat)
termination_by area.length

end DhcpOptions

/-! ## Messages -/

/-- A DHCP message with the options this client uses. -/
structure DhcpMessage where
  /-- From a client or from a server. -/
  op : UInt8 := Dhcp.bootRequest
  /-- What ties answers to a request. -/
  xid : UInt32
  /-- The client's address, while it renews. -/
  clientAddress : Ipv4 := Ipv4.unspecified
  /-- The address offered to the client. -/
  offeredAddress : Ipv4 := Ipv4.unspecified
  /-- The client's hardware address. -/
  clientMac : Mac
  /-- What the message is for. -/
  type : DhcpType
  /-- The mask of the offered subnet. -/
  subnetMask : Option Ipv4 := none
  /-- The first router of the subnet. -/
  router : Option Ipv4 := none
  /-- The first name server. -/
  nameServer : Option Ipv4 := none
  /-- Seconds the address may be used. -/
  leaseSeconds : Option UInt32 := none
  /-- Which server the message is from or for. -/
  serverId : Option Ipv4 := none
  /-- The address the client asks for. -/
  requestedAddress : Option Ipv4 := none
  deriving DecidableEq, Repr

namespace DhcpMessage

/-- The fixed header of a message and its option area. -/
structure Layout where
  op : UInt8
  xid : UInt32
  clientAddress : Ipv4
  offeredAddress : Ipv4
  clientMac : Mac
  /-- What follows the cookie. -/
  options : Bytes

/-- Takes the octets apart at the fixed places. -/
def layout (b : Bytes) : Except DhcpError Layout :=
  match b with
  | op :: _ :: _ :: _ :: x0 :: x1 :: x2 :: x3 :: _ :: _ :: _ :: _ ::
      c0 :: c1 :: c2 :: c3 :: y0 :: y1 :: y2 :: y3 ::
      _ :: _ :: _ :: _ :: _ :: _ :: _ :: _ ::
      m0 :: m1 :: m2 :: m3 :: m4 :: m5 :: rest =>
    let tail := rest.drop (Dhcp.headerSize - 34)
    if (tail.take 4).length < 4 then .error .packetTooShort
    else if tail.take 4 ≠ Dhcp.cookie then .error .badMagicCookie
    else
      .ok { op, xid := word32 x0 x1 x2 x3, clientAddress := ⟨c0, c1, c2, c3⟩
            offeredAddress := ⟨y0, y1, y2, y3⟩, clientMac := ⟨m0, m1, m2, m3, m4, m5⟩
            options := tail.drop 4 }
  | _ => .error .packetTooShort

/-- Reads a message. -/
def parse (b : Bytes) : Except DhcpError DhcpMessage := do
  let l ← layout b
  let o ← DhcpOptions.read {} l.options
  match o.type with
  | none => .error .missingMessageType
  | some type =>
    .ok { op := l.op, xid := l.xid, clientAddress := l.clientAddress
          offeredAddress := l.offeredAddress, clientMac := l.clientMac, type
          subnetMask := o.subnetMask, router := o.router, nameServer := o.nameServer
          leaseSeconds := o.leaseSeconds, serverId := o.serverId
          requestedAddress := o.requestedAddress }

/-- The octets of an option that is one address, if it is there. -/
def addressOption (code : UInt8) : Option Ipv4 → Bytes
  | none => []
  | some a => [code, 4] ++ a.octets

/-- The octets of the lease time, if it is there. -/
def leaseOption : Option UInt32 → Bytes
  | none => []
  | some secs => [Dhcp.optionLeaseTime, 4] ++ octets32 secs

/-- The fixed header and the cookie. -/
def header (m : DhcpMessage) : Bytes :=
  [m.op, 1, 6, 0] ++ octets32 m.xid ++ [0, 0] ++ octets16 Dhcp.flagBroadcast ++
    m.clientAddress.octets ++ m.offeredAddress.octets ++ List.replicate 8 0 ++ m.clientMac.octets ++
    List.replicate (Dhcp.headerSize - 34) 0 ++ Dhcp.cookie

/-- The options that only a client's message carries: what it asks for, and how much it takes. -/
def clientOptions (m : DhcpMessage) : Bytes :=
  if m.op = Dhcp.bootRequest then
    [Dhcp.optionParameterList, 5] ++ Dhcp.requestedOptions ++
      [Dhcp.optionMaxMessageSize, 2] ++ octets16 Dhcp.maxMessageSize
  else []

/-- The octets of the message. -/
def octets (m : DhcpMessage) : Bytes :=
  m.header ++ [Dhcp.optionMessageType, 1, m.type.octet] ++
    addressOption Dhcp.optionRequestedAddress m.requestedAddress ++
    addressOption Dhcp.optionServerId m.serverId ++
    addressOption Dhcp.optionSubnetMask m.subnetMask ++
    addressOption Dhcp.optionRouter m.router ++
    addressOption Dhcp.optionNameServer m.nameServer ++
    leaseOption m.leaseSeconds ++ m.clientOptions ++ [Dhcp.optionEnd]

end DhcpMessage

end PolledNet
