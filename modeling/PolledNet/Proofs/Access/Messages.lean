import PolledNet.Arp.Message
import PolledNet.Dhcp.Message
import PolledNet.Proofs.Access.Octets
import PolledNet.Tftp.Packet

/-!
# Checked reading of messages

What handlers read from the content of a packet, access after access: ARP messages at fixed places,
the option area of a DHCP message that is walked by the lengths found in it, and the string fields
of TFTP packets. A sender chooses all of those octets, and none of its choices makes a reader look
at an octet that does not exist (`ArpMessage.checkedParse_eq`, `DhcpMessage.checkedParse_eq`,
`TftpPacket.checkedParse_eq`).
-/

namespace PolledNet

/-! ## ARP -/

namespace ArpMessage

/-- Reads the message that the octets start with. -/
def checkedParse (b : Bytes) : Except Fault (Except ArpError ArpMessage) :=
  if b.length < Arp.messageSize then .ok (.error .packetTooShort)
  else do
    if (← b.word16? 0) ≠ Arp.hardwareEthernet then return .error .invalidHardwareType
    if (← b.word16? 2) ≠ Arp.protocolIpv4 then return .error .invalidProtocolType
    if (← b.octet? 4) ≠ 6 ∨ (← b.octet? 5) ≠ 4 then return .error .invalidAddressLength
    let operation ← b.word16? 6
    if operation ≠ Arp.operationRequest ∧ operation ≠ Arp.operationReply then
      return .error .unknownOperation
    let senderMac ← b.station? 8
    let sender ← b.address? 14
    let targetMac ← b.station? 18
    let target ← b.address? 24
    return .ok ⟨operation, senderMac, sender, targetMac, target⟩

/-- An ARP message is read without a fault. -/
theorem checkedParse_eq (b : Bytes) : checkedParse b = .ok (parse b) := by
  unfold checkedParse
  by_cases short : b.length < Arp.messageSize
  · have unread : parse b = .error .packetTooShort := by
      unfold parse
      split
      · simp only [List.length_cons, Arp.messageSize] at short
        omega
      · rfl
    rw [if_pos short, unread]
  · rw [if_neg short]
    iterate 28
      rcases b with _ | ⟨_, b⟩
      · simp [Arp.messageSize] at short
    simp only [parse, Bytes.word16?, Bytes.octet?_cons_zero, Bytes.octet?_cons_succ, Nat.reduceAdd,
      ok_bind, pure_eq_ok]
    refine ite_ok (fun _ => rfl) fun _ => ?_
    refine ite_ok (fun _ => rfl) fun _ => ?_
    refine ite_ok (fun _ => rfl) fun _ => ?_
    refine ite_ok (fun _ => rfl) fun _ => ?_
    simp [Bytes.station?, Bytes.address?, Bytes.slice?, Bytes.octet?, Mac.ofBytes?]

end ArpMessage

/-! ## DHCP -/

namespace DhcpOptions

/-- The first address of an option that is a list of addresses, which is not empty. -/
def checkedFirstAddress (code : UInt8) (value : Bytes) : Except Fault (Except DhcpError Ipv4) :=
  if value.isEmpty ∨ value.length % 4 ≠ 0 then .ok (.error (.badOptionLength code))
  else do return address code (← value.slice? 0 4)

/-- The first address of an option is read without a fault. -/
theorem checkedFirstAddress_eq (code : UInt8) (value : Bytes) :
    checkedFirstAddress code value = .ok (firstAddress code value) := by
  unfold checkedFirstAddress firstAddress
  by_cases uneven : value.length % 4 ≠ 0
  · rw [if_pos (.inr uneven), if_pos uneven]
  · rw [if_neg uneven]
    cases value with
    | nil => rfl
    | cons x rest =>
      have four : 4 ≤ (x :: rest).length := by
        rw [List.length_cons] at uneven ⊢
        omega
      have listed : ¬((x :: rest).isEmpty ∨ (x :: rest).length % 4 ≠ 0) :=
        not_or.mpr ⟨Bool.false_ne_true, uneven⟩
      rw [if_neg listed, Bytes.slice?_eq_ok (Nat.zero_le _) four]
      rfl

/-- Takes down one option; an unknown one says nothing. -/
def checkedRecord (o : DhcpOptions) (code : UInt8) (value : Bytes) :
    Except Fault (Except DhcpError DhcpOptions) :=
  if code = Dhcp.optionRouter then do
    return (← checkedFirstAddress code value).map fun a => { o with router := some a }
  else if code = Dhcp.optionNameServer then do
    return (← checkedFirstAddress code value).map fun a => { o with nameServer := some a }
  else .ok (o.record code value)

/-- An option is recorded without a fault. -/
theorem checkedRecord_eq (o : DhcpOptions) (code : UInt8) (value : Bytes) :
    o.checkedRecord code value = .ok (o.record code value) := by
  unfold checkedRecord
  split
  · rename_i router
    subst router
    rw [checkedFirstAddress_eq]
    rfl
  · split
    · rename_i nameServer
      subst nameServer
      rw [checkedFirstAddress_eq]
      rfl
    · rfl

/-- Walks the option area from a position on. -/
def checkedRead (o : DhcpOptions) (b : Bytes) (i : Nat) :
    Except Fault (Except DhcpError DhcpOptions) :=
  if _inside : i < b.length then do
    let code ← b.octet? i
    if code = Dhcp.optionPad then checkedRead o b (i + 1)
    else if code = Dhcp.optionEnd then return .ok o
    else
      match b[i + 1]? with
      | none => return .error .truncatedOption
      | some length =>
        if b.length < i + 2 + length.toNat then return .error .truncatedOption
        else
          let value ← b.slice? (i + 2) (i + 2 + length.toNat)
          match ← o.checkedRecord code value with
          | .error e => return .error e
          | .ok o => checkedRead o b (i + 2 + length.toNat)
  else .ok (.ok o)
termination_by b.length - i

/-- **The walk stays inside.** It comes to what reading the octets from the position on does. -/
theorem checkedRead_eq (o : DhcpOptions) (b : Bytes) (i : Nat) :
    checkedRead o b i = .ok (read o (b.drop i)) := by
  -- The walk only moves to the right, and stops at the end.
  induction left : b.length - i using Nat.strongRecOn generalizing o i with
  | ind left ih =>
    rw [checkedRead]
    by_cases inside : i < b.length
    · rw [dif_pos inside, Bytes.octet?_eq inside, ok_bind, List.drop_eq_getElem_cons inside,
        read.eq_def]
      dsimp only
      refine ite_ok (fun _ => ih _ (by omega) _ _ rfl) fun _ => ite_ok (fun _ => rfl) fun _ => ?_
      by_cases more : i + 1 < b.length
      · rw [List.getElem?_eq_getElem more, List.drop_eq_getElem_cons more]
        dsimp only
        have taken : ((b.drop (i + 1 + 1)).take b[i + 1].toNat).length < b[i + 1].toNat ↔
            b.length < i + 2 + b[i + 1].toNat := by
          rw [List.length_take, List.length_drop]
          omega
        simp only [taken]
        refine ite_ok (fun _ => rfl) fun fits => ?_
        rw [Bytes.slice?_eq_ok (Nat.le_add_right _ _) (Nat.le_of_not_lt fits),
          Nat.add_sub_cancel_left, ok_bind, checkedRecord_eq, ok_bind]
        split <;> rename_i recorded <;> rw [recorded]
        · rfl
        · rw [ih _ (by omega) _ _ rfl, List.drop_drop]
      · rw [List.getElem?_eq_none (Nat.le_of_not_lt more),
          List.drop_eq_nil_of_le (Nat.le_of_not_lt more)]
        rfl
    · rw [dif_neg inside, List.drop_eq_nil_of_le (Nat.le_of_not_lt inside), read]

end DhcpOptions

namespace DhcpMessage

/-- Takes the octets apart at the fixed places. -/
def checkedLayout (b : Bytes) : Except Fault (Except DhcpError Layout) :=
  if b.length < Dhcp.headerSize + Dhcp.cookie.length then .ok (.error .packetTooShort)
  else do
    if (← b.slice? Dhcp.headerSize (Dhcp.headerSize + 4)) ≠ Dhcp.cookie then
      return .error .badMagicCookie
    let xid ← b.word32? 4
    let clientMac ← b.station? 28
    let op ← b.octet? 0
    let clientAddress ← b.address? 12
    let offeredAddress ← b.address? 16
    let options ← b.suffix? (Dhcp.headerSize + Dhcp.cookie.length)
    return .ok { op, xid, clientAddress, offeredAddress, clientMac, options }

/-- The fields of a DHCP message are laid out without a fault. -/
theorem checkedLayout_eq (b : Bytes) : checkedLayout b = .ok (layout b) := by
  unfold checkedLayout
  by_cases short : b.length < Dhcp.headerSize + Dhcp.cookie.length
  · have unread : layout b = .error .packetTooShort := by
      unfold layout
      split
      · simp only [List.length_cons, Dhcp.headerSize, Dhcp.cookie, List.length_nil] at short
        rw [if_pos]
        rw [List.length_take, List.length_drop, Dhcp.headerSize]
        omega
      · rfl
    rw [if_pos short, unread]
  · rw [if_neg short]
    simp only [Dhcp.headerSize, Dhcp.cookie, List.length_cons, List.length_nil] at short
    iterate 34
      rcases b with _ | ⟨_, b⟩
      · simp at short
    simp only [List.length_cons] at short
    have whole : ¬((b.drop (Dhcp.headerSize - 34)).take 4).length < 4 := by
      rw [List.length_take, List.length_drop, Dhcp.headerSize]
      omega
    simp only [layout]
    rw [if_neg whole, Bytes.slice?_eq_ok (Nat.le_add_right _ _) (by
      simp only [Dhcp.headerSize, List.length_cons]
      omega), ok_bind, Nat.add_sub_cancel_left, Bytes.suffix?_eq (by
      simp only [Dhcp.headerSize, Dhcp.cookie, List.length_cons, List.length_nil]
      omega)]
    refine ite_ok (fun _ => rfl) fun _ => ?_
    simp [Bytes.word32?, Bytes.address?, Bytes.station?, Bytes.slice?, Bytes.octet?, Mac.ofBytes?,
      Dhcp.headerSize, Dhcp.cookie]

/-- The option area starts after the cookie. -/
theorem options_of_layout {b : Bytes} {l : Layout} (read : layout b = .ok l) :
    l.options = b.drop (Dhcp.headerSize + Dhcp.cookie.length) := by
  unfold layout at read
  split at read
  · dsimp only at read
    split at read
    · cases read
    · split at read
      · cases read
      · cases read
        rw [List.drop_drop]
        rfl
  · cases read

/-- Reads a message. -/
def checkedParse (b : Bytes) : Except Fault (Except DhcpError DhcpMessage) := do
  match ← checkedLayout b with
  | .error e => return .error e
  | .ok l =>
    match ← DhcpOptions.checkedRead {} b (Dhcp.headerSize + Dhcp.cookie.length) with
    | .error e => return .error e
    | .ok o =>
      match o.type with
      | none => return .error .missingMessageType
      | some type =>
        return .ok {
          op := l.op, xid := l.xid, clientAddress := l.clientAddress
          offeredAddress := l.offeredAddress, clientMac := l.clientMac, type
          subnetMask := o.subnetMask, router := o.router, nameServer := o.nameServer
          leaseSeconds := o.leaseSeconds, serverId := o.serverId
          requestedAddress := o.requestedAddress }

/-- A DHCP message is read without a fault. -/
theorem checkedParse_eq (b : Bytes) : checkedParse b = .ok (parse b) := by
  unfold checkedParse parse
  rw [checkedLayout_eq, ok_bind]
  cases read : layout b with
  | error e => rfl
  | ok l =>
    dsimp only
    rw [DhcpOptions.checkedRead_eq, ← options_of_layout read, ok_bind, ok_bind]
    cases walked : DhcpOptions.read {} l.options with
    | error e => rfl
    | ok o =>
      rw [ok_bind]
      dsimp only
      cases o.type <;> rfl

end DhcpMessage

/-! ## Text -/

namespace Text

/-- How many octets, from the first on, are UTF-8. -/
def validUpTo (b : Bytes) : Nat :=
  (octets (String.ofList (leadingChars ⟨b.toArray⟩ 0 b.length))).length

/-- The octets of an array from a position on. -/
theorem toList_extract (b : ByteArray) (i : Nat) :
    (b.extract i b.size).data.toList = b.data.toList.drop i := by
  rw [ByteArray.data_extract, Array.toList_extract, List.extract_eq_take_drop]
  apply List.take_of_length_le
  simp only [List.length_drop, Array.length_toList, ByteArray.size_data, Nat.le_refl]

/-- The leading characters are written in the octets they were read from. -/
theorem octets_leadingChars_prefix (b : ByteArray) (fuel i : Nat) :
    octets (String.ofList (leadingChars b i fuel)) <+: b.data.toList.drop i := by
  induction fuel generalizing i with
  | zero => exact List.nil_prefix
  | succ fuel ih =>
    rw [leadingChars]
    split
    · rename_i c decoded
      rw [ByteArray.utf8DecodeChar?_eq_utf8DecodeChar?_extract] at decoded
      have whole := ByteArray.eq_of_utf8DecodeChar?_eq_some decoded
      have here : b.data.toList.drop i =
          String.utf8EncodeChar c ++ b.data.toList.drop (i + c.utf8Size) := by
        have lists := congrArg (fun b : ByteArray => b.data.toList) whole
        rw [ByteArray.toList_data_append, toList_extract, toList_extract, toList_extract,
          List.drop_drop] at lists
        simpa using lists
      have cons (cs : List Char) : octets (String.ofList (c :: cs)) =
          String.utf8EncodeChar c ++ octets (String.ofList cs) := by
        rw [octets, String.toByteArray_ofList, List.utf8Encode_cons, ByteArray.toList_data_append,
          List.utf8Encode_singleton, octets, String.toByteArray_ofList]
        simp
      rw [here, cons]
      exact (List.prefix_append_right_inj _).mpr (ih _)
    · exact List.nil_prefix

/-- The text of octets as far as they are UTF-8. -/
def checkedOfOctetsPrefix (b : Bytes) : Except Fault String :=
  match ofOctets? b with
  | some s => .ok s
  | none => do return (ofOctets? (← b.slice? 0 (validUpTo b))).getD ""

/-- The part of some octets that is text is read without a fault. -/
theorem checkedOfOctetsPrefix_eq (b : Bytes) :
    checkedOfOctetsPrefix b = .ok (ofOctetsPrefix b) := by
  unfold checkedOfOctetsPrefix ofOctetsPrefix
  cases read : ofOctets? b with
  | some s => rfl
  | none =>
    have start : octets (String.ofList (leadingChars ⟨b.toArray⟩ 0 b.length)) <+: b := by
      simpa using octets_leadingChars_prefix ⟨b.toArray⟩ b.length 0
    have inside : validUpTo b ≤ b.length := start.length_le
    have valid : b.take (validUpTo b) =
        octets (String.ofList (leadingChars ⟨b.toArray⟩ 0 b.length)) :=
      (List.prefix_iff_eq_take.mp start).symm
    dsimp only
    rw [Bytes.slice?_eq_ok (Nat.zero_le _) inside, ok_bind, List.drop_zero, Nat.sub_zero, valid,
      ofOctets?_octets]
    rfl

end Text

/-! ## TFTP -/

namespace Tftp

/-- Takes the next string field, if anything is left. -/
def checkedNextField (b : Bytes) : Except Fault (Except TftpError (Option (String × Bytes))) :=
  if b.isEmpty then .ok (.ok none)
  else
    match b.findIdx? (· = 0) with
    | none => .ok (.error .unterminated)
    | some stop => do
      match Text.ofOctets? (← b.slice? 0 stop) with
      | none => return .error .invalidUtf8
      | some s =>
        let rest ← b.suffix? (stop + 1)
        return .ok (some (s, rest))

/-- A string field is read without a fault. -/
theorem checkedNextField_eq (b : Bytes) : checkedNextField b = .ok (nextField b) := by
  unfold checkedNextField nextField
  refine ite_ok (fun _ => rfl) fun _ => ?_
  cases found : b.findIdx? (· = 0) with
  | none =>
    have nowhere : b.findIdx (fun x => !decide (x ≠ 0)) = b.length :=
      List.findIdx_eq_length.mpr (by simpa using found)
    have none : b.dropWhile (· ≠ 0) = [] := by
      rw [List.dropWhile_eq_drop_findIdx_not, nowhere, List.drop_length]
    rw [none]
  | some stop =>
    obtain ⟨inside, here⟩ := List.findIdx?_eq_some_iff_findIdx_eq.mp found
    have text : b.takeWhile (· ≠ 0) = b.take stop := by
      rw [List.takeWhile_eq_take_findIdx_not, ← here]
      simp
    have after : b.dropWhile (· ≠ 0) = b[stop] :: b.drop (stop + 1) := by
      rw [← List.drop_eq_getElem_cons inside, List.dropWhile_eq_drop_findIdx_not, ← here]
      simp
    rw [text, after]
    dsimp only
    rw [Bytes.slice?_eq_ok (Nat.zero_le _) (Nat.le_of_lt inside), ok_bind, List.drop_zero,
      Nat.sub_zero, Bytes.suffix?_eq inside]
    cases Text.ofOctets? (b.take stop) <;> rfl

end Tftp

namespace TftpOptions

/-- Reads pairs of name and value up to the end. -/
def checkedRead (o : TftpOptions) (b : Bytes) : Except Fault (Except TftpError TftpOptions) :=
  match _named : Tftp.checkedNextField b with
  | .error fault => .error fault
  | .ok (.error e) => .ok (.error e)
  | .ok (.ok none) => .ok (.ok o)
  | .ok (.ok (some (name, afterName))) =>
    match _valued : Tftp.checkedNextField afterName with
    | .error fault => .error fault
    | .ok (.error e) => .ok (.error e)
    | .ok (.ok none) => .ok (.error .unterminated)
    | .ok (.ok (some (value, rest))) =>
      match o.record name value with
      | .error e => .ok (.error e)
      | .ok o => checkedRead o rest
termination_by b.length
decreasing_by
  rw [Tftp.checkedNextField_eq] at _named _valued
  have := Tftp.length_of_nextField (Except.ok.inj _named)
  have := Tftp.length_of_nextField (Except.ok.inj _valued)
  omega

/-- The options of a packet are read without a fault. -/
theorem checkedRead_eq (o : TftpOptions) (b : Bytes) : o.checkedRead b = .ok (o.read b) := by
  -- The equations that the recursion keeps say what each field is, whichever reader took it.
  fun_induction read o b <;> rw [checkedRead] <;> split <;>
    (try split) <;> simp_all [Tftp.checkedNextField_eq]

/-- The block size is none that would have to be refused. -/
def Sized (o : TftpOptions) : Prop := ∀ n ∈ o.blockSize, Tftp.minBlockSize ≤ n.toNat

/-- No options at all are of a fair size. -/
theorem sized_empty : Sized {} := fun _ absent => nomatch absent

/-- Recording an option keeps the block size fair. -/
theorem sized_of_record {o o' : TftpOptions} {name value : String} (sized : o.Sized)
    (recorded : o.record name value = .ok o') : o'.Sized := by
  unfold record at recorded
  dsimp only at recorded
  split at recorded
  · obtain ⟨n, -, recorded⟩ := exists_ok_of_bind recorded
    by_cases bad : n < Tftp.minBlockSize ∨ n > Tftp.maxBlockSize
    · rw [if_pos bad] at recorded
      cases recorded
    · rw [if_neg bad] at recorded
      cases recorded
      rintro _ ⟨⟩
      simp only [Tftp.minBlockSize, Tftp.maxBlockSize] at bad ⊢
      rw [UInt16.toNat_ofNat_of_lt' (by rw [UInt16.size]; omega)]
      omega
  · split at recorded
    · obtain ⟨n, -, recorded⟩ := exists_ok_of_bind recorded
      cases recorded
      exact sized
    · split at recorded
      · obtain ⟨n, -, recorded⟩ := exists_ok_of_bind recorded
        by_cases none : n = 0
        · rw [if_pos none] at recorded
          cases recorded
        · rw [if_neg none] at recorded
          cases recorded
          exact sized
      · split at recorded
        · obtain ⟨n, -, recorded⟩ := exists_ok_of_bind recorded
          split at recorded <;> cases recorded <;> exact sized
        · cases recorded
          exact sized

/-- Reading options keeps the block size fair. -/
theorem sized_of_read {o o' : TftpOptions} {b : Bytes} (sized : o.Sized)
    (read : o.read b = .ok o') : o'.Sized := by
  fun_induction TftpOptions.read o b with
  | case1 | case3 | case4 | case5 => cases read
  | case2 =>
    cases read
    exact sized
  | case6 o _ _ _ _ _ _ _ _ recorded ih => exact ih (sized_of_record sized recorded) read

end TftpOptions

namespace TftpPacket

/-- Reads a file name, a mode and options. -/
def checkedParseRequest (b : Bytes) :
    Except Fault (Except TftpError (String × String × TftpOptions)) := do
  match ← Tftp.checkedNextField b with
  | .error e => return .error e
  | .ok none => return .error .packetTooShort
  | .ok (some (filename, b)) =>
    match ← Tftp.checkedNextField b with
    | .error e => return .error e
    | .ok none => return .error .packetTooShort
    | .ok (some (mode, b)) =>
      return (← TftpOptions.checkedRead {} b).map fun options => (filename, mode, options)

/-- A request is read without a fault. -/
theorem checkedParseRequest_eq (b : Bytes) :
    checkedParseRequest b = .ok (parseRequest b) := by
  unfold checkedParseRequest parseRequest
  rw [Tftp.checkedNextField_eq, ok_bind]
  rcases Tftp.nextField b with e | _ | ⟨filename, b⟩
  · rfl
  · rfl
  · dsimp only
    rw [Tftp.checkedNextField_eq, ok_bind, ok_bind]
    dsimp only
    rcases Tftp.nextField b with e | _ | ⟨mode, b⟩
    · rfl
    · rfl
    · dsimp only
      rw [TftpOptions.checkedRead_eq, ok_bind, ok_bind]
      dsimp only
      cases TftpOptions.read {} b <;> rfl

/-- The message of an error packet. -/
def checkedErrorMessage (b : Bytes) : Except Fault String :=
  Text.checkedOfOctetsPrefix (if b.getLast? = some 0 then b.dropLast else b)

/-- Reads a packet. -/
def checkedParse (b : Bytes) : Except Fault (Except TftpError TftpPacket) :=
  if b.length < 2 then .ok (.error .packetTooShort)
  else do
    let opcode ← b.word16? 0
    let body ← b.suffix? 2
    if opcode = Tftp.opReadRequest then
      return (← checkedParseRequest body).map fun (filename, mode, options) =>
        .readRequest filename mode options
    else if opcode = Tftp.opWriteRequest then
      return (← checkedParseRequest body).map fun (filename, mode, options) =>
        .writeRequest filename mode options
    else if opcode = Tftp.opOptionAck then
      return (← TftpOptions.checkedRead {} body).map .optionAck
    else if opcode = Tftp.opData ∨ opcode = Tftp.opAck ∨ opcode = Tftp.opError then
      if body.length < 2 then return .error .packetTooShort
      else
        let w ← body.word16? 0
        if opcode = Tftp.opData then return .ok (.data w (← body.suffix? 2))
        else if opcode = Tftp.opAck then return .ok (.ack w)
        else return .ok (.error w (← checkedErrorMessage (← body.suffix? 2)))
    else return .error (.unknownOpcode opcode)

/-- A packet is read without a fault. -/
theorem checkedParse_eq (b : Bytes) : checkedParse b = .ok (parse b) := by
  unfold checkedParse
  match b with
  | [] => rfl
  | [_] => rfl
  | hi :: lo :: body =>
    rw [if_neg (by simp), Bytes.suffix?_eq (by simp)]
    simp only [parse, Bytes.word16?, Bytes.octet?_cons_zero, Bytes.octet?_cons_succ, Nat.reduceAdd,
      ok_bind, pure_eq_ok, List.drop_succ_cons, List.drop_zero, checkedParseRequest_eq,
      TftpOptions.checkedRead_eq]
    refine ite_ok (fun _ => rfl) fun _ => ite_ok (fun _ => rfl) fun _ => ite_ok (fun _ => rfl)
      fun _ => ite_ok (fun _ => ?_) fun _ => rfl
    match body with
    | [] => rfl
    | [_] => rfl
    | w0 :: w1 :: rest =>
      rw [if_neg (by simp), Bytes.suffix?_eq (by simp)]
      simp only [Bytes.octet?_cons_zero, Bytes.octet?_cons_succ, ok_bind, List.drop_succ_cons,
        List.drop_zero, checkedErrorMessage, Text.checkedOfOctetsPrefix_eq]
      split
      · rfl
      · split <;> rfl

/-- The content of a data packet starts at the fifth octet. -/
theorem data_of_parse {b content : Bytes} {block : UInt16}
    (read : parse b = .ok (.data block content)) : 4 ≤ b.length ∧ content = b.drop 4 := by
  unfold parse at read
  split at read
  · dsimp only at read
    iterate 3
      split at read
      · obtain ⟨_, _, built⟩ := exists_ok_of_map read
        cases built
    split at read
    · split at read
      · simp only [Except.ok.injEq] at read
        split at read
        · cases read
          simp
        · split at read <;> cases read
      · cases read
    · cases read
  · cases read

/-- Options that were read have a block size that can be worked with. -/
theorem sized_of_parse {b : Bytes} {o : TftpOptions} (read : parse b = .ok (.optionAck o)) :
    o.Sized := by
  unfold parse at read
  split at read
  · dsimp only at read
    iterate 2
      split at read
      · obtain ⟨_, _, built⟩ := exists_ok_of_map read
        cases built
    split at read
    · obtain ⟨_, found, built⟩ := exists_ok_of_map read
      cases built
      exact TftpOptions.sized_of_read TftpOptions.sized_empty found
    · split at read
      · split at read
        · simp only [Except.ok.injEq] at read
          split at read
          · cases read
          · split at read <;> cases read
        · cases read
      · cases read
  · cases read

end TftpPacket

end PolledNet
