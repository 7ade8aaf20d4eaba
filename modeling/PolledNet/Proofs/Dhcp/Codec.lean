import PolledNet.Dhcp.Message

/-!
# Writing and reading DHCP messages

A message is a header of fixed layout and an area of options, each with its code and its length. The
reader goes from option to option by their lengths and takes down those whose code it knows. So
every message reads back, whatever its fields are and whichever of them are there
(`parse_octets_and_asking`). The options that only a client's message carries change nothing, and
neither does what follows the end mark, such as padding to the least length of a message.
-/

namespace PolledNet

/-! ## Options -/

namespace DhcpOptions

variable {o o' : DhcpOptions} {code : UInt8}

/-- A code that stands for an option with a length and a value. -/
def Valued (code : UInt8) : Prop := code ≠ Dhcp.optionPad ∧ code ≠ Dhcp.optionEnd

/-- Whether a code has a value can be computed. -/
instance (code : UInt8) : Decidable (Valued code) := inferInstanceAs (Decidable (_ ∧ _))

/-- An option is taken down, and reading goes on behind it. -/
theorem read_option (valued : Valued code) {length : UInt8} {value : Bytes}
    (long : value.length = length.toNat) (rest : Bytes) :
    o.read (code :: length :: (value ++ rest)) = (o.record code value).bind (·.read rest) := by
  rw [read, if_neg valued.1, if_neg valued.2, List.take_left' long, List.drop_left' long]
  dsimp only
  rw [if_neg (Nat.not_lt.mpr (Nat.le_of_eq long.symm))]
  cases o.record code value <;> rfl

/-- One address is the first of a list of one. -/
theorem firstAddress_octets (code : UInt8) (a : Ipv4) : firstAddress code a.octets = .ok a := by
  rw [firstAddress, if_neg (by rw [Ipv4.length_octets]; decide)]
  rfl

/-- A gateway is recorded as it was written. -/
theorem record_router (o : DhcpOptions) (a : Ipv4) :
    o.record Dhcp.optionRouter a.octets = .ok { o with router := some a } := by
  show (firstAddress Dhcp.optionRouter a.octets).map _ = _
  rw [firstAddress_octets]
  rfl

/-- A name server is recorded as it was written. -/
theorem record_nameServer (o : DhcpOptions) (a : Ipv4) :
    o.record Dhcp.optionNameServer a.octets = .ok { o with nameServer := some a } := by
  show (firstAddress Dhcp.optionNameServer a.octets).map _ = _
  rw [firstAddress_octets]
  rfl

/-- An address that was written, or left out, is `set` in the options. -/
theorem read_addressOption (valued : Valued code) (set : Option Ipv4 → DhcpOptions)
    (recorded : ∀ a : Ipv4, (set none).record code a.octets = .ok (set (some a)))
    (x : Option Ipv4) (rest : Bytes) :
    (set none).read (DhcpMessage.addressOption code x ++ rest) = (set x).read rest := by
  cases x with
  | none => rw [DhcpMessage.addressOption, List.nil_append]
  | some a =>
    have written : DhcpMessage.addressOption code (some a) ++ rest =
        code :: 4 :: (a.octets ++ rest) := rfl
    rw [written, read_option valued rfl, recorded, Except.bind]

/-- The time of a lease is read as it was written. -/
theorem read_leaseOption (o : DhcpOptions) (x : Option UInt32) (rest : Bytes) :
    read { o with leaseSeconds := none } (DhcpMessage.leaseOption x ++ rest) =
      read { o with leaseSeconds := x } rest := by
  cases x with
  | none => rw [DhcpMessage.leaseOption, List.nil_append]
  | some secs =>
    have written : DhcpMessage.leaseOption (some secs) ++ rest =
        Dhcp.optionLeaseTime :: 4 :: (octets32 secs ++ rest) := rfl
    have taken : record { o with leaseSeconds := none } Dhcp.optionLeaseTime (octets32 secs) =
        .ok { o with leaseSeconds := some secs } :=
      congrArg (fun w => (Except.ok { o with leaseSeconds := some w } :
        Except DhcpError DhcpOptions)) (word32_octets32 secs)
    rw [written, read_option (by decide) rfl, taken, Except.bind]

end DhcpOptions

/-! ## Messages -/

namespace DhcpMessage

open DhcpOptions

/-- What a client asks for, and how much it takes. -/
def asking : Bytes :=
  [Dhcp.optionParameterList, 5] ++ Dhcp.requestedOptions ++ [Dhcp.optionMaxMessageSize, 2] ++
    octets16 Dhcp.maxMessageSize

/-- The options of the message, with or without those that only a client's message carries. -/
def optionArea (m : DhcpMessage) (asks : Bool) : Bytes :=
  [Dhcp.optionMessageType, 1, m.type.octet] ++
    (addressOption Dhcp.optionRequestedAddress m.requestedAddress ++
      (addressOption Dhcp.optionServerId m.serverId ++
        (addressOption Dhcp.optionSubnetMask m.subnetMask ++
          (addressOption Dhcp.optionRouter m.router ++
            (addressOption Dhcp.optionNameServer m.nameServer ++
              (leaseOption m.leaseSeconds ++
                ((if asks then asking else []) ++ [Dhcp.optionEnd])))))))

/-- A message carries them if it is a client's. -/
theorem octets_eq (m : DhcpMessage) :
    m.octets = m.header ++ m.optionArea (m.op = Dhcp.bootRequest) := by
  simp only [octets, optionArea, clientOptions, asking, List.append_assoc, decide_eq_true_eq]

/-- The reader knows none of them. -/
theorem read_asking (o : DhcpOptions) (rest : Bytes) : o.read (asking ++ rest) = o.read rest := by
  have written : asking ++ rest = Dhcp.optionParameterList :: 5 :: (Dhcp.requestedOptions ++
      (Dhcp.optionMaxMessageSize :: 2 :: (octets16 Dhcp.maxMessageSize ++ rest))) := rfl
  have first : o.record Dhcp.optionParameterList Dhcp.requestedOptions = .ok o := rfl
  have second : o.record Dhcp.optionMaxMessageSize (octets16 Dhcp.maxMessageSize) = .ok o := rfl
  rw [written, read_option (by decide) rfl, first, Except.bind,
    read_option (by decide) rfl, second, Except.bind]

/-- With or without them, the end mark ends the area. -/
theorem read_end (o : DhcpOptions) (asks : Bool) (trailer : Bytes) :
    o.read ((if asks then asking else []) ++ ([Dhcp.optionEnd] ++ trailer)) = .ok o := by
  have stops : o.read ([Dhcp.optionEnd] ++ trailer) = .ok o := by
    rw [List.singleton_append, DhcpOptions.read.eq_def]
    rfl
  cases asks with
  | false => exact stops
  | true => rw [if_pos rfl, read_asking, stops]

/-- The options of a message. -/
def options (m : DhcpMessage) : DhcpOptions where
  type := some m.type
  subnetMask := m.subnetMask
  router := m.router
  nameServer := m.nameServer
  leaseSeconds := m.leaseSeconds
  serverId := m.serverId
  requestedAddress := m.requestedAddress

/-- **The options of a message read back**, up to the end mark. -/
theorem read_optionArea (m : DhcpMessage) (asks : Bool) (trailer : Bytes) :
    read {} (m.optionArea asks ++ trailer) = .ok m.options := by
  obtain ⟨op, xid, clientAddress, offeredAddress, clientMac, type, subnetMask, router, nameServer,
    leaseSeconds, serverId, requestedAddress⟩ := m
  -- the options fill up in the order of writing
  have typed (rest : Bytes) :
      DhcpOptions.read {} ([Dhcp.optionMessageType, 1, type.octet] ++ rest) =
        DhcpOptions.read { type := some type } rest := by
    have taken : record {} Dhcp.optionMessageType [type.octet] = .ok { type := some type } := by
      cases type <;> rfl
    have written : [Dhcp.optionMessageType, 1, type.octet] ++ rest =
        Dhcp.optionMessageType :: 1 :: ([type.octet] ++ rest) := rfl
    rw [written, read_option (by decide) rfl, taken, Except.bind]
  have requested := read_addressOption (show Valued Dhcp.optionRequestedAddress by decide)
    (fun requestedAddress => { type := some type, requestedAddress }) (fun _ => rfl)
    requestedAddress
  have server := read_addressOption (show Valued Dhcp.optionServerId by decide)
    (fun serverId => { type := some type, requestedAddress, serverId }) (fun _ => rfl) serverId
  have mask := read_addressOption (show Valued Dhcp.optionSubnetMask by decide)
    (fun subnetMask => { type := some type, requestedAddress, serverId, subnetMask })
    (fun _ => rfl) subnetMask
  have routed := read_addressOption (show Valued Dhcp.optionRouter by decide)
    (fun router => { type := some type, requestedAddress, serverId, subnetMask, router })
    (record_router _) router
  have named := read_addressOption (show Valued Dhcp.optionNameServer by decide)
    (fun nameServer =>
      { type := some type, requestedAddress, serverId, subnetMask, router, nameServer })
    (record_nameServer _) nameServer
  have lent := read_leaseOption
    { type := some type, requestedAddress, serverId, subnetMask, router, nameServer } leaseSeconds
  simp only [optionArea, List.append_assoc]
  rw [typed, requested, server, mask, routed, named, lent, read_end]
  rfl

/-- The fixed header reads back. -/
theorem layout_header (m : DhcpMessage) (area : Bytes) :
    layout (m.header ++ area) =
      .ok { op := m.op, xid := m.xid, clientAddress := m.clientAddress
            offeredAddress := m.offeredAddress, clientMac := m.clientMac, options := area } := by
  have fields (rest : Bytes) :
      layout ([m.op, 1, 6, 0] ++ octets32 m.xid ++ [0, 0] ++ octets16 Dhcp.flagBroadcast ++
          m.clientAddress.octets ++ m.offeredAddress.octets ++ List.replicate 8 0 ++
          m.clientMac.octets ++ rest) =
        let tail := rest.drop (Dhcp.headerSize - 34)
        if (tail.take 4).length < 4 then .error .packetTooShort
        else if tail.take 4 ≠ Dhcp.cookie then .error .badMagicCookie
        else
          .ok { op := m.op, xid := m.xid, clientAddress := m.clientAddress
                offeredAddress := m.offeredAddress, clientMac := m.clientMac
                options := tail.drop 4 } := by
    conv => rhs; rw [← word32_octets32 m.xid]
    rfl
  have tail : (List.replicate (Dhcp.headerSize - 34) 0 ++ (Dhcp.cookie ++ area)).drop
      (Dhcp.headerSize - 34) = Dhcp.cookie ++ area := List.drop_left' List.length_replicate
  rw [header, List.append_assoc, List.append_assoc, fields, tail]
  rfl

/-- What the client sends reads back. -/
theorem parse_octets (m : DhcpMessage) : parse m.octets = .ok m := by
  rw [octets_eq, parse, layout_header, ← List.append_nil (m.optionArea _)]
  show (DhcpOptions.read {} (m.optionArea _ ++ []) >>= _) = _
  rw [read_optionArea]
  rfl

/-- **Messages are read back**, whatever the client asks for in them and whatever follows the end
mark. -/
theorem parse_octets_and_asking (m : DhcpMessage) :
    parse m.octets = .ok m ∧
      ∀ asks trailer, parse (m.header ++ m.optionArea asks ++ trailer) = .ok m := by
  have reads (asks : Bool) (trailer : Bytes) :
      parse (m.header ++ m.optionArea asks ++ trailer) = .ok m := by
    rw [parse, List.append_assoc, layout_header]
    show (DhcpOptions.read {} (m.optionArea asks ++ trailer) >>= _) = _
    rw [read_optionArea]
    rfl
  refine ⟨?_, reads⟩
  rw [octets_eq, ← List.append_nil (m.header ++ _)]
  exact reads _ []

end DhcpMessage

end PolledNet
