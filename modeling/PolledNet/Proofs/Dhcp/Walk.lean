import Mathlib.Data.List.Basic
import Mathlib.Data.List.GetD
import PolledNet.Proofs.Access.Messages
import PolledNet.Proofs.Dhcp.Codec

/-!
# The walk over the options of a DHCP message

What a message says, told apart from how it is read. A walk over the option area only looks at codes
and lengths, and leaves a list of options with their values (`DhcpOptions.walk`). Whether a value is
one that its option allows is a question about that value alone (`DhcpOptions.offence`), and what a
message says is what the last option of each kind says.

Reading does everything in one pass, with an index that a sender drives. It comes to the same
(`parse_eq_decoded`): the first offence on the list decides the error, and only then counts whether
an option was cut off. What comes behind the end mark is not on the list.
-/

namespace PolledNet

/-! ## Places -/

namespace Bytes

/-- The double word of the four octets from a position on. -/
def word32At (b : Bytes) (i : Nat) : UInt32 :=
  word32 (b.getD i 0) (b.getD (i + 1) 0) (b.getD (i + 2) 0) (b.getD (i + 3) 0)

/-- The address of the four octets from a position on. -/
def addressAt (b : Bytes) (i : Nat) : Ipv4 :=
  ⟨b.getD i 0, b.getD (i + 1) 0, b.getD (i + 2) 0, b.getD (i + 3) 0⟩

/-- The station of the six octets from a position on. -/
def stationAt (b : Bytes) (i : Nat) : Mac :=
  ⟨b.getD i 0, b.getD (i + 1) 0, b.getD (i + 2) 0, b.getD (i + 3) 0, b.getD (i + 4) 0,
    b.getD (i + 5) 0⟩

variable {b : Bytes} {i : Nat}

/-- An octet inside is the one at its place. -/
theorem octet?_eq_getD (inside : i < b.length) : b.octet? i = .ok (b.getD i 0) := by
  rw [octet?_eq inside, List.getD_eq_getElem _ _ inside]

/-- A double word inside is the one at its place. -/
theorem word32?_eq (inside : i + 3 < b.length) : b.word32? i = .ok (b.word32At i) := by
  rw [word32?, octet?_eq_getD (by omega), octet?_eq_getD (by omega), octet?_eq_getD (by omega),
    octet?_eq_getD inside]
  rfl

/-- An address inside is the one at its place. -/
theorem address?_eq (inside : i + 3 < b.length) : b.address? i = .ok (b.addressAt i) := by
  rw [address?, octet?_eq_getD (by omega), octet?_eq_getD (by omega), octet?_eq_getD (by omega),
    octet?_eq_getD inside]
  rfl

/-- A station inside is the one at its place. -/
theorem station?_eq (inside : i + 5 < b.length) : b.station? i = .ok (b.stationAt i) := by
  have next {k : Nat} (inside : k < b.length) (n : Nat) :
      (b.drop k).take (n + 1) = b.getD k 0 :: (b.drop (k + 1)).take n := by
    rw [List.drop_eq_getElem_cons inside, List.take_succ_cons, List.getD_eq_getElem _ _ inside]
  have six : (b.drop i).take 6 = [b.getD i 0, b.getD (i + 1) 0, b.getD (i + 2) 0,
      b.getD (i + 3) 0, b.getD (i + 4) 0, b.getD (i + 5) 0] := by
    rw [next (by omega), next (by omega), next (by omega), next (by omega), next (by omega),
      next inside, List.take_zero]
  rw [station?, slice?_eq_ok (by omega) (by omega), Nat.add_sub_cancel_left, six]
  rfl

/-- What is appended leaves the places before it as they are. -/
theorem word32At_append (inside : i + 3 < b.length) (x : Bytes) :
    (b ++ x).word32At i = b.word32At i := by
  simp (disch := omega) only [word32At, List.getD_append]

/-- What follows changes no address inside. -/
theorem addressAt_append (inside : i + 3 < b.length) (x : Bytes) :
    (b ++ x).addressAt i = b.addressAt i := by
  simp (disch := omega) only [addressAt, List.getD_append]

/-- What follows changes no station inside. -/
theorem stationAt_append (inside : i + 5 < b.length) (x : Bytes) :
    (b ++ x).stationAt i = b.stationAt i := by
  simp (disch := omega) only [stationAt, List.getD_append]

end Bytes

namespace DhcpOptions

/-! ## Options met -/

/-- What a walk over an option area finds. -/
structure Walk where
  /-- The options met, each with its code and its value, the first one first. -/
  met : List (UInt8 × Bytes)
  /-- The walk came to the end mark or to the end of the area. Otherwise an option was cut off. -/
  whole : Bool

/-- Walks an option area by the lengths found in it. -/
def walk (area : Bytes) : Walk :=
  match area with
  | [] => ⟨[], true⟩
  | code :: rest =>
    if code = Dhcp.optionPad then walk rest
    else if code = Dhcp.optionEnd then ⟨[], true⟩
    else
      match rest with
      | [] => ⟨[], false⟩
      | length :: rest =>
        if rest.length < length.toNat then ⟨[], false⟩
        else
          let beyond := walk (rest.drop length.toNat)
          ⟨(code, rest.take length.toNat) :: beyond.met, beyond.whole⟩
termination_by area.length
decreasing_by
  · exact Nat.lt_succ_self _
  · rw [List.length_drop, List.length_cons, List.length_cons]
    omega

/-- The value of the last option with a code. -/
def last? (met : List (UInt8 × Bytes)) (code : UInt8) : Option Bytes :=
  ((met.filter (·.1 = code)).getLast?).map (·.2)

/-- The message type in a value. -/
def typeIn (value : Bytes) : Option DhcpType := DhcpType.ofOctet? (value.getD 0 0)

/-- What is wrong with an option. Only those this client knows are looked at. -/
def offence (met : UInt8 × Bytes) : Option DhcpError :=
  if met.1 = Dhcp.optionMessageType then
    if met.2.length ≠ 1 then some (.badOptionLength met.1)
    else if typeIn met.2 = none then some (.unknownMessageType (met.2.getD 0 0))
    else none
  else if met.1 ∈ [Dhcp.optionSubnetMask, Dhcp.optionServerId, Dhcp.optionRequestedAddress,
      Dhcp.optionLeaseTime] then
    if met.2.length ≠ 4 then some (.badOptionLength met.1) else none
  else if met.1 ∈ [Dhcp.optionRouter, Dhcp.optionNameServer] then
    if met.2 = [] ∨ met.2.length % 4 ≠ 0 then some (.badOptionLength met.1) else none
  else none

/-- Options with those met put over them. -/
def overlay (o : DhcpOptions) (met : List (UInt8 × Bytes)) : DhcpOptions where
  type := (last? met Dhcp.optionMessageType).elim o.type typeIn
  subnetMask := (last? met Dhcp.optionSubnetMask).elim o.subnetMask (some <| ·.addressAt 0)
  router := (last? met Dhcp.optionRouter).elim o.router (some <| ·.addressAt 0)
  nameServer := (last? met Dhcp.optionNameServer).elim o.nameServer (some <| ·.addressAt 0)
  leaseSeconds := (last? met Dhcp.optionLeaseTime).elim o.leaseSeconds (some <| ·.word32At 0)
  serverId := (last? met Dhcp.optionServerId).elim o.serverId (some <| ·.addressAt 0)
  requestedAddress :=
    (last? met Dhcp.optionRequestedAddress).elim o.requestedAddress (some <| ·.addressAt 0)

/-- Nothing was met where there is nothing. -/
theorem last?_nil (code : UInt8) : last? [] code = none := rfl

/-- The last one of a list is the last one of its tail, if there is one there. -/
theorem last?_cons (x : UInt8 × Bytes) (met : List (UInt8 × Bytes)) (code : UInt8) :
    last? (x :: met) code = (last? met code).or (if x.1 = code then some x.2 else none) := by
  by_cases same : x.1 = code
  · simp only [last?, List.filter_cons, same, decide_true, if_true, List.getLast?_cons]
    cases (met.filter (·.1 = code)).getLast? <;> rfl
  · simp [last?, same]

/-- Options are put over one another one by one. -/
theorem overlay_cons (o : DhcpOptions) (x : UInt8 × Bytes) (met : List (UInt8 × Bytes)) :
    o.overlay (x :: met) = (o.overlay [x]).overlay met := by
  have field {α : Type} (code : UInt8) (old : Option α) (f : Bytes → Option α) :
      (last? (x :: met) code).elim old f =
        (last? met code).elim ((last? [x] code).elim old f) f := by
    rw [last?_cons, last?_cons, last?_nil, Option.none_or]
    cases last? met code <;> rfl
  simp only [overlay, field]

/-- What the options met say, where nothing was known before. -/
theorem overlay_default (met : List (UInt8 × Bytes)) :
    overlay {} met = {
      type := (last? met Dhcp.optionMessageType).bind typeIn
      subnetMask := (last? met Dhcp.optionSubnetMask).map (·.addressAt 0)
      router := (last? met Dhcp.optionRouter).map (·.addressAt 0)
      nameServer := (last? met Dhcp.optionNameServer).map (·.addressAt 0)
      leaseSeconds := (last? met Dhcp.optionLeaseTime).map (·.word32At 0)
      serverId := (last? met Dhcp.optionServerId).map (·.addressAt 0)
      requestedAddress := (last? met Dhcp.optionRequestedAddress).map (·.addressAt 0) } := by
  have bound {α : Type} (x : Option Bytes) (f : Bytes → Option α) : x.elim none f = x.bind f := by
    cases x <;> rfl
  have mapped {α : Type} (x : Option Bytes) (f : Bytes → α) :
      x.elim none (some <| f ·) = x.map f := by
    cases x <;> rfl
  simp only [overlay, mapped]
  rw [bound]

/-! ## One option -/

/-- Taking down an option comes to looking for what is wrong with it, and to putting it over the
others if nothing is.
-/
def Checked (o : DhcpOptions) (code : UInt8) (value : Bytes) : Prop :=
  o.record code value =
    match offence (code, value) with
    | some e => .error e
    | none => .ok (o.overlay [(code, value)])

/-- An option is taken down by its check if both make the same choice. -/
theorem Checked.of_ite {o : DhcpOptions} {code : UInt8} {value : Bytes} {wrong : Prop}
    [Decidable wrong] {e : DhcpError}
    (recorded : o.record code value = if wrong then .error e else .ok (o.overlay [(code, value)]))
    (checked : offence (code, value) = if wrong then some e else none) :
    o.Checked code value := by
  rw [Checked, recorded, checked]
  split_ifs <;> rfl

/-- An address is four octets. -/
theorem map_address {α : Type} (code : UInt8) (value : Bytes) (f : Ipv4 → α) :
    (address code value).map f =
      if value.length ≠ 4 then .error (.badOptionLength code) else .ok (f (value.addressAt 0)) := by
  by_cases four : value.length = 4
  · obtain ⟨a, b, c, d, rfl⟩ := List.length_eq_four.mp four
    rfl
  · rw [if_pos four, address.eq_2]
    · rfl
    · rintro a b c d rfl
      exact four rfl

/-- The first of a list of addresses is at its head. -/
theorem map_firstAddress {α : Type} (code : UInt8) (value : Bytes) (f : Ipv4 → α) :
    (firstAddress code value).map f =
      if value = [] ∨ value.length % 4 ≠ 0 then .error (.badOptionLength code)
      else .ok (f (value.addressAt 0)) := by
  by_cases uneven : value.length % 4 = 0
  · rcases value with _ | ⟨a, _ | ⟨b, _ | ⟨c, _ | ⟨d, rest⟩⟩⟩⟩
    · rfl
    all_goals simp_all [firstAddress, address, Bytes.addressAt, Except.map]
  · rw [firstAddress, if_pos uneven, if_pos (.inr uneven)]
    rfl

/-- The time of a lease is four octets. -/
theorem record_leaseTime (o : DhcpOptions) (value : Bytes) :
    o.record Dhcp.optionLeaseTime value =
      if value.length ≠ 4 then .error (.badOptionLength Dhcp.optionLeaseTime)
      else .ok { o with leaseSeconds := some (value.word32At 0) } := by
  rcases value with _ | ⟨a, _ | ⟨b, _ | ⟨c, _ | ⟨d, _ | ⟨e, rest⟩⟩⟩⟩⟩ <;> rfl

/-- The type of a message is one octet, which stands for a type. -/
theorem record_messageType (o : DhcpOptions) (t : UInt8) :
    o.record Dhcp.optionMessageType [t] =
      if typeIn [t] = none then .error (.unknownMessageType t)
      else .ok { o with type := typeIn [t] } := by
  rcases known : DhcpType.ofOctet? t with _ | type
  · rw [if_pos (show typeIn [t] = none from known)]
    simp [record, known]
  · have typed : typeIn [t] = some type := known
    rw [typed, if_neg (Option.some_ne_none type)]
    simp [record, known]

/-- **An option is taken down if there is nothing wrong with it.** -/
theorem checked (o : DhcpOptions) (code : UInt8) (value : Bytes) : o.Checked code value := by
  by_cases type : code = Dhcp.optionMessageType
  · subst type
    rcases value with _ | ⟨t, _ | ⟨u, rest⟩⟩
    · rfl
    · exact .of_ite (o.record_messageType t) rfl
    · rfl
  by_cases mask : code = Dhcp.optionSubnetMask
  · subst mask
    exact .of_ite (map_address _ _ _) rfl
  by_cases server : code = Dhcp.optionServerId
  · subst server
    exact .of_ite (map_address _ _ _) rfl
  by_cases requested : code = Dhcp.optionRequestedAddress
  · subst requested
    exact .of_ite (map_address _ _ _) rfl
  by_cases router : code = Dhcp.optionRouter
  · subst router
    exact .of_ite (map_firstAddress _ _ _) rfl
  by_cases nameServer : code = Dhcp.optionNameServer
  · subst nameServer
    exact .of_ite (map_firstAddress _ _ _) rfl
  by_cases lease : code = Dhcp.optionLeaseTime
  · subst lease
    exact .of_ite (o.record_leaseTime value) rfl
  · simp [Checked, record, offence, overlay, last?, *, Ne.symm]

/-! ## The walk -/

variable {code length : UInt8} {value rest : Bytes}

/-- What comes behind a code has no length, or less than its length. -/
def Cut : Bytes → Prop
  | [] => True
  | length :: rest => rest.length < length.toNat

/-- Padding is no option. -/
theorem walk_pad (rest : Bytes) : walk (Dhcp.optionPad :: rest) = walk rest := by
  rw [walk.eq_def]
  rfl

/-- The end mark ends the walk. -/
theorem walk_end (rest : Bytes) : walk (Dhcp.optionEnd :: rest) = ⟨[], true⟩ := by
  rw [walk.eq_def]
  rfl

/-- An option that is cut off ends the walk. -/
theorem walk_cut (valued : Valued code) (cut : Cut rest) : walk (code :: rest) = ⟨[], false⟩ := by
  rw [walk.eq_def]
  dsimp only
  rw [if_neg valued.1, if_neg valued.2]
  cases rest with
  | nil => rfl
  | cons length rest => exact if_pos cut

/-- An option is met, and the walk goes on behind it. -/
theorem walk_option (valued : Valued code) (long : value.length = length.toNat) (rest : Bytes) :
    walk (code :: length :: (value ++ rest)) =
      ⟨(code, value) :: (walk rest).met, (walk rest).whole⟩ := by
  have fits : ¬(value ++ rest).length < length.toNat := by
    rw [List.length_append]
    omega
  rw [walk.eq_def]
  dsimp only
  rw [if_neg valued.1, if_neg valued.2, if_neg fits, List.take_left' long, List.drop_left' long]

/-- An option area is empty, or starts with padding, with the end mark, with an option that is cut
off or with a whole option. -/
theorem area_induction {P : Bytes → Prop} (empty : P [])
    (pad : ∀ rest, P rest → P (Dhcp.optionPad :: rest))
    (marked : ∀ rest, P (Dhcp.optionEnd :: rest))
    (cut : ∀ code rest, Valued code → Cut rest → P (code :: rest))
    (option : ∀ code (length : UInt8) (value : Bytes) rest, Valued code →
      value.length = length.toNat → P rest → P (code :: length :: (value ++ rest)))
    (area : Bytes) : P area := by
  induction size : area.length using Nat.strongRecOn generalizing area with
  | ind size ih =>
    rcases area with _ | ⟨code, rest⟩
    · exact empty
    by_cases padding : code = Dhcp.optionPad
    · exact padding ▸ pad rest (ih _ (by simp [← size]) rest rfl)
    by_cases last : code = Dhcp.optionEnd
    · exact last ▸ marked rest
    rcases rest with _ | ⟨length, rest⟩
    · exact cut code [] ⟨padding, last⟩ trivial
    by_cases short : rest.length < length.toNat
    · exact cut code _ ⟨padding, last⟩ short
    · rw [← List.take_append_drop length.toNat rest]
      refine option code length _ _ ⟨padding, last⟩ (List.length_take_of_le (by omega)) ?_
      refine ih _ ?_ _ rfl
      simp only [← size, List.length_cons, List.length_drop]
      omega

/-- The reader reports an option that is cut off. -/
theorem read_cut (o : DhcpOptions) (valued : Valued code) (cut : Cut rest) :
    o.read (code :: rest) = .error .truncatedOption := by
  rw [read.eq_def]
  dsimp only
  rw [if_neg valued.1, if_neg valued.2]
  cases rest with
  | nil => rfl
  | cons length rest =>
    have short : (rest.take length.toNat).length < length.toNat :=
      Nat.lt_of_le_of_lt (List.length_take_le' _ _) cut
    exact if_pos short

/-- **Reading is the walk, with the options that it meets checked one by one.** -/
theorem read_eq (o : DhcpOptions) (area : Bytes) :
    o.read area =
      match (walk area).met.findSome? offence with
      | some e => .error e
      | none =>
        if (walk area).whole then .ok (o.overlay (walk area).met) else .error .truncatedOption := by
  induction area using area_induction generalizing o with
  | empty =>
    rw [read, walk]
    rfl
  | pad rest ih =>
    rw [read.eq_def, walk_pad]
    exact ih o
  | marked rest =>
    rw [read.eq_def, walk_end]
    rfl
  | cut code rest valued cut =>
    rw [read_cut o valued cut, walk_cut valued cut]
    rfl
  | option code length value rest valued long ih =>
    rw [read_option valued long, walk_option valued long, o.checked code value]
    dsimp only
    rw [List.findSome?_cons, o.overlay_cons (code, value) (walk rest).met]
    rcases offence (code, value) with _ | e
    · exact ih (o.overlay [(code, value)])
    · rfl

/-- **What follows the end mark is never looked at.** -/
theorem walk_append_end (tail : Bytes) {front : Bytes} (whole : (walk front).whole) :
    walk (front ++ Dhcp.optionEnd :: tail) = walk front := by
  induction front using area_induction with
  | empty => rw [List.nil_append, walk_end, walk]
  | pad rest ih =>
    rw [walk_pad] at whole
    rw [List.cons_append, walk_pad, walk_pad, ih whole]
  | marked rest => rw [List.cons_append, walk_end, walk_end]
  | cut code rest valued cut =>
    rw [walk_cut valued cut] at whole
    cases whole
  | option code length value rest valued long ih =>
    rw [walk_option valued long] at whole ⊢
    rw [List.cons_append, List.cons_append, List.append_assoc, walk_option valued long, ih whole]

end DhcpOptions

/-! ## Messages -/

namespace DhcpMessage

open DhcpOptions

/-- **What octets say.** The fixed header is read at its places, and the options by what the walk
over the option area meets.
-/
def decoded (b : Bytes) : Except DhcpError DhcpMessage :=
  if b.length < Dhcp.headerSize + Dhcp.cookie.length then .error .packetTooShort
  else if (b.drop Dhcp.headerSize).take Dhcp.cookie.length ≠ Dhcp.cookie then .error .badMagicCookie
  else
    let found := walk (b.drop (Dhcp.headerSize + Dhcp.cookie.length))
    match found.met.findSome? offence with
    | some e => .error e
    | none =>
      if found.whole then
        match (last? found.met Dhcp.optionMessageType).bind typeIn with
        | none => .error .missingMessageType
        | some type =>
          .ok {
            op := b.getD 0 0
            xid := b.word32At 4
            clientAddress := b.addressAt 12
            offeredAddress := b.addressAt 16
            clientMac := b.stationAt 28
            type
            subnetMask := (last? found.met Dhcp.optionSubnetMask).map (·.addressAt 0)
            router := (last? found.met Dhcp.optionRouter).map (·.addressAt 0)
            nameServer := (last? found.met Dhcp.optionNameServer).map (·.addressAt 0)
            leaseSeconds := (last? found.met Dhcp.optionLeaseTime).map (·.word32At 0)
            serverId := (last? found.met Dhcp.optionServerId).map (·.addressAt 0)
            requestedAddress := (last? found.met Dhcp.optionRequestedAddress).map (·.addressAt 0) }
      else .error .truncatedOption

/-- The fixed header is where its places are. -/
theorem layout_eq (b : Bytes) :
    layout b =
      if b.length < Dhcp.headerSize + Dhcp.cookie.length then .error .packetTooShort
      else if (b.drop Dhcp.headerSize).take Dhcp.cookie.length ≠ Dhcp.cookie then
        .error .badMagicCookie
      else
        .ok { op := b.getD 0 0, xid := b.word32At 4, clientAddress := b.addressAt 12
              offeredAddress := b.addressAt 16, clientMac := b.stationAt 28
              options := b.drop (Dhcp.headerSize + Dhcp.cookie.length) } := by
  refine Except.ok.inj ((checkedLayout_eq b).symm.trans ?_)
  unfold checkedLayout
  refine ite_ok (fun _ => rfl) fun long => ?_
  have inside : Dhcp.headerSize + Dhcp.cookie.length ≤ b.length := Nat.le_of_not_lt long
  have places : 240 ≤ b.length := inside
  rw [Bytes.slice?_eq_ok (Nat.le_add_right _ _) places, ok_bind]
  refine ite_ok (fun _ => rfl) fun _ => ?_
  rw [Bytes.word32?_eq (by omega), Bytes.station?_eq (by omega), Bytes.octet?_eq_getD (by omega),
    Bytes.address?_eq (by omega), Bytes.address?_eq (by omega), Bytes.suffix?_eq inside]
  rfl

/-- **Reading a message is decoding it.** -/
theorem parse_eq_decoded (b : Bytes) : parse b = decoded b := by
  rw [parse, layout_eq, decoded]
  by_cases short : b.length < Dhcp.headerSize + Dhcp.cookie.length
  · rw [if_pos short, if_pos short]
    rfl
  rw [if_neg short, if_neg short]
  by_cases plain : (b.drop Dhcp.headerSize).take Dhcp.cookie.length ≠ Dhcp.cookie
  · rw [if_pos plain, if_pos plain]
    rfl
  rw [if_neg plain, if_neg plain]
  show (read {} (b.drop (Dhcp.headerSize + Dhcp.cookie.length)) >>= _) = _
  rw [read_eq]
  generalize walk (b.drop (Dhcp.headerSize + Dhcp.cookie.length)) = found
  obtain ⟨met, whole⟩ := found
  dsimp only
  rcases met.findSome? offence with _ | e
  · cases whole with
    | false => rfl
    | true =>
      simp only [if_true, overlay_default]
      show (match (last? met Dhcp.optionMessageType).bind typeIn with
        | none => _
        | some type => _) = _
      rfl
  · rfl

/-- **What follows the end mark says nothing**, wherever the walk comes to one. -/
theorem decoded_append_end (tail : Bytes) {front : Bytes}
    (reached : Dhcp.headerSize + Dhcp.cookie.length ≤ front.length)
    (whole : (walk (front.drop (Dhcp.headerSize + Dhcp.cookie.length))).whole) :
    decoded (front ++ Dhcp.optionEnd :: tail) = decoded front := by
  have places : 240 ≤ front.length := reached
  have before : (front ++ Dhcp.optionEnd :: tail).drop Dhcp.headerSize =
      front.drop Dhcp.headerSize ++ Dhcp.optionEnd :: tail :=
    List.drop_append_of_le_length (by rw [Dhcp.headerSize]; omega)
  have cookie : (front.drop Dhcp.headerSize ++ Dhcp.optionEnd :: tail).take Dhcp.cookie.length =
      (front.drop Dhcp.headerSize).take Dhcp.cookie.length :=
    List.take_append_of_le_length (by rw [List.length_drop]; omega)
  have longer : ¬(front ++ Dhcp.optionEnd :: tail).length <
      Dhcp.headerSize + Dhcp.cookie.length := by
    rw [List.length_append]
    omega
  rw [decoded, decoded, before, cookie, List.drop_append_of_le_length reached,
    walk_append_end tail whole, if_neg longer, if_neg (Nat.not_lt.mpr reached),
    List.getD_append _ _ _ _ (by omega), Bytes.word32At_append (by omega),
    Bytes.addressAt_append (by omega), Bytes.addressAt_append (by omega),
    Bytes.stationAt_append (by omega)]

/-- **Reading is decoding.** No octets make the reader look outside them, and what it makes of them
is what they say. Once the walk has come to an end mark, nothing behind it counts.
-/
theorem parse_walks :
    (∀ b, checkedParse b = .ok (parse b) ∧ parse b = decoded b) ∧
      ∀ front tail, Dhcp.headerSize + Dhcp.cookie.length ≤ front.length →
        (walk (front.drop (Dhcp.headerSize + Dhcp.cookie.length))).whole →
        parse (front ++ Dhcp.optionEnd :: tail) = parse front := by
  refine ⟨fun b => ⟨checkedParse_eq b, parse_eq_decoded b⟩, fun front tail reached whole => ?_⟩
  rw [parse_eq_decoded, parse_eq_decoded, decoded_append_end tail reached whole]

/-- The option area starts right behind the header. -/
theorem length_header (m : DhcpMessage) :
    m.header.length = Dhcp.headerSize + Dhcp.cookie.length := by
  rw [header]
  simp only [List.length_append, List.length_replicate, length_octets16, length_octets32,
    Ipv4.length_octets, Mac.length_octets]
  rfl

/-- Of a message that says twice what it is for, the second time counts, and a third time behind the
end mark does not.
-/
theorem parse_walks_twice :
    let offer : DhcpMessage := { xid := 7, clientMac := Mac.zero, type := .offer }
    parse (offer.header ++ [53, 1, 1, 53, 1, 2] ++ Dhcp.optionEnd :: [53, 1, 6]) = .ok offer := by
  intro offer
  have met : walk [53, 1, 1, 53, 1, 2] = ⟨[(53, [1]), (53, [2])], true⟩ := by
    have option (t : UInt8) (rest : Bytes) : walk (53 :: 1 :: ([t] ++ rest)) =
        ⟨(53, [t]) :: (walk rest).met, (walk rest).whole⟩ := walk_option (by decide) rfl rest
    rw [show ([53, 1, 1, 53, 1, 2] : Bytes) = 53 :: 1 :: ([1] ++ 53 :: 1 :: ([2] ++ [])) from rfl,
      option, option, walk]
  have reads : parse (offer.header ++ [53, 1, 1, 53, 1, 2]) = .ok offer := by
    rw [parse, layout_header]
    show (read {} [53, 1, 1, 53, 1, 2] >>= _) = _
    rw [read_eq, met]
    rfl
  refine (parse_walks.2 _ _ ?_ ?_).trans reads
  · rw [List.length_append, length_header]
    exact Nat.le_add_right _ _
  · rw [List.drop_left' offer.length_header, met]

end DhcpMessage

end PolledNet
