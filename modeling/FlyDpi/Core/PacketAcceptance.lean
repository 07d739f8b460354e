import FlyDpi.Core.Ipv4Wire

/-!
# PacketAcceptance — the parser against the wire description

`parseIpv4Transport` and `Ipv4Packet` are connected in both directions: every encoding is parsed to
the packet's own report, and everything that is parsed is an encoding followed by bytes the parser
does not look at.  The transport arms come first, then the header, then the bounds of every read.
-/

namespace FlyDpi
namespace Core

open Lib Lib.Bytes Lib.Outcome

/-! ## The transport arms -/

section Arms

variable {bytes : Bytes} {direction : PacketDirection} {ihl totalLen : Nat} {remoteIp : IpBytes}

theorem parseTcp_encode (s : TcpSegment) (hat : At bytes ihl s.encode) {ports : UInt16 × UInt16}
    (hports : portsByDirection direction s.srcPort s.dstPort = ok ports) :
    parseTcp bytes direction ihl (ihl + s.encode.length) remoteIp =
      ok
        { flow :=
            { protocol := .tcp
              remoteIp := remoteIp
              remotePort := ports.1
              localPort := ports.2 }
          direction := direction
          payloadLen := UInt64.ofNat s.payload.length
          tcpFlags := s.flags } := by
  have hlen := s.length_encode
  have hge := s.dataOffset_ge
  have hle := s.dataOffset_le
  simp only [TcpSegment.encode, At.append_iff, At.cons_iff, length_u16ToBeBytes,
    s.numbers_length] at hat
  rcases hat with ⟨hsrc, hdst, _, hoffset, hflags, _⟩
  -- the high nibble is the header length in words
  have hwords : (nibbles s.dataOffset s.reserved >>> 4).toNat = s.dataOffset := by
    rw [toNat_shiftRight_four, toNat_nibbles (by omega) s.reserved_lt]
    have := s.reserved_lt
    omega
  have hafter : ihl + s.encode.length - ihl = s.encode.length := by omega
  have hpayload : s.encode.length - s.dataOffset * 4 = s.payload.length := by omega
  -- run the function: every check passes, every read finds its field
  unfold parseTcp
  rw [reject_of_not (by omega), ok_bind, readU16Be_eq_ok_iff.2 hsrc, ok_bind,
    readU16Be_eq_ok_iff.2 hdst, ok_bind, index_eq_ok_iff.2 hflags, ok_bind,
    index_eq_ok_iff.2 hoffset, ok_bind]
  simp only [hwords]
  rw [reject_of_not (by omega), ok_bind, hports, ok_bind,
    checkedSub_eq_ok_iff.2 ⟨by omega, hafter⟩, ok_bind,
    checkedSub_eq_ok_iff.2 ⟨by omega, hpayload⟩, ok_bind]
  rfl

theorem parseUdp_encode (d : UdpDatagram) (hat : At bytes ihl d.encode) {ports : UInt16 × UInt16}
    (hports : portsByDirection direction d.srcPort d.dstPort = ok ports) :
    parseUdp bytes direction ihl (ihl + d.encode.length) remoteIp =
      ok
        { flow :=
            { protocol := .udp
              remoteIp := remoteIp
              remotePort := ports.1
              localPort := ports.2 }
          direction := direction
          payloadLen := UInt64.ofNat d.payload.length
          tcpFlags := 0 } := by
  have hlen := d.length_encode
  have hudp : (UInt16.ofNat (8 + d.payload.length)).toNat = 8 + d.payload.length :=
    UInt16.toNat_ofNat_of_lt' d.payload_length
  simp only [UdpDatagram.encode, At.append_iff, length_u16ToBeBytes] at hat
  rcases hat with ⟨hsrc, hdst, hudpLen, _⟩
  have hpayload : 8 + d.payload.length - 8 = d.payload.length := by omega
  unfold parseUdp
  rw [reject_of_not (by omega), ok_bind, readU16Be_eq_ok_iff.2 hsrc, ok_bind,
    readU16Be_eq_ok_iff.2 hdst, ok_bind, readU16Be_eq_ok_iff.2 hudpLen, ok_bind]
  simp only [hudp]
  rw [reject_of_not (by omega), ok_bind, hports, ok_bind,
    checkedSub_eq_ok_iff.2 ⟨by omega, hpayload⟩, ok_bind]
  rfl

/-- The segment behind the header: the fields the parser skips are what stands in their place. -/
def segmentAt (srcPort dstPort : UInt16) (offsetByte flags : UInt8)
    (hwords : 5 ≤ offsetByte.toNat / 16) (hfits : ihl + 4 * (offsetByte.toNat / 16) ≤ totalLen)
    (htotal : totalLen ≤ bytes.length) : TcpSegment where
  srcPort := srcPort
  dstPort := dstPort
  numbers := (bytes.drop (ihl + 4)).take 8
  dataOffset := offsetByte.toNat / 16
  reserved := offsetByte.toNat % 16
  flags := flags
  tail := (bytes.drop (ihl + 14)).take 6
  options := (bytes.drop (ihl + 20)).take (4 * (offsetByte.toNat / 16) - 20)
  payload :=
    (bytes.drop (ihl + 4 * (offsetByte.toNat / 16))).take
      (totalLen - ihl - 4 * (offsetByte.toNat / 16))
  numbers_length := by simp; omega
  dataOffset_ge := hwords
  dataOffset_le := by
    have hbyte : offsetByte.toNat < 256 := offsetByte.toNat_lt
    omega
  reserved_lt := by omega
  tail_length := by simp; omega
  options_length := by simp; omega

section SegmentAt

variable {srcPort dstPort : UInt16} {offsetByte flags : UInt8}
  (hwords : 5 ≤ offsetByte.toNat / 16) (hfits : ihl + 4 * (offsetByte.toNat / 16) ≤ totalLen)
  (htotal : totalLen ≤ bytes.length)

theorem length_payload_segmentAt :
    (segmentAt srcPort dstPort offsetByte flags hwords hfits htotal).payload.length =
      totalLen - ihl - 4 * (offsetByte.toNat / 16) := by
  simp [segmentAt]
  omega

/-- Put together, the windows and the fields that were read are the segment's encoding. -/
theorem at_segmentAt (hsrc : At bytes ihl (u16ToBeBytes srcPort))
    (hdst : At bytes (ihl + 2) (u16ToBeBytes dstPort)) (hoffset : bytes[ihl + 12]? = some offsetByte)
    (hflags : bytes[ihl + 13]? = some flags) :
    At bytes ihl (segmentAt srcPort dstPort offsetByte flags hwords hfits htotal).encode := by
  have hdata : ihl + 2 + 2 + 8 + 1 + 1 + 6 + (4 * (offsetByte.toNat / 16) - 20) =
      ihl + 4 * (offsetByte.toNat / 16) := by
    omega
  simp only [TcpSegment.encode, At.append_iff, At.cons_iff, length_u16ToBeBytes,
    TcpSegment.numbers_length, TcpSegment.tail_length, TcpSegment.options_length]
  refine ⟨hsrc, hdst, At.window (by omega), ?_, hflags, At.window (by omega), At.window (by omega), ?_⟩
  · simpa [segmentAt, nibbles_toNat] using hoffset
  · simp only [segmentAt, hdata]
    exact At.window (by omega)

end SegmentAt

theorem exists_segment_of_parseTcp {m : PacketMeta} (htotal : totalLen ≤ bytes.length)
    (h : parseTcp bytes direction ihl totalLen remoteIp = ok m) :
    ∃ s : TcpSegment, At bytes ihl s.encode ∧ totalLen = ihl + s.encode.length ∧
      ∃ ports, portsByDirection direction s.srcPort s.dstPort = ok ports ∧
        m =
          { flow :=
              { protocol := .tcp
                remoteIp := remoteIp
                remotePort := ports.1
                localPort := ports.2 }
            direction := direction
            payloadLen := UInt64.ofNat s.payload.length
            tcpFlags := s.flags } := by
  simp only [parseTcp, bind_eq_ok_iff, reject_eq_ok_iff, readU16Be_eq_ok_iff, index_eq_ok_iff,
    checkedSub_eq_ok_iff, pure_eq_ok, ok.injEq, toNat_shiftRight_four] at h
  rcases h with ⟨_, hmin, srcPort, hsrc, dstPort, hdst, flags, hflags, offsetByte, hoffset, _,
    hwords, ports, hports, _, ⟨_, rfl⟩, _, ⟨_, rfl⟩, rfl⟩
  have hge : 5 ≤ offsetByte.toNat / 16 := by
    omega
  have hfits : ihl + 4 * (offsetByte.toNat / 16) ≤ totalLen := by
    omega
  have hpayload := @length_payload_segmentAt bytes ihl totalLen srcPort dstPort offsetByte flags hge
    hfits htotal
  refine ⟨segmentAt srcPort dstPort offsetByte flags hge hfits htotal,
    at_segmentAt hge hfits htotal hsrc hdst hoffset hflags, ?_, ports, hports, ?_⟩
  · have hlen := (segmentAt srcPort dstPort offsetByte flags hge hfits htotal).length_encode
    have hs : (segmentAt srcPort dstPort offsetByte flags hge hfits htotal).dataOffset =
        offsetByte.toNat / 16 := rfl
    omega
  · have hpayload' : totalLen - ihl - offsetByte.toNat / 16 * 4 =
        (segmentAt srcPort dstPort offsetByte flags hge hfits htotal).payload.length := by
      omega
    rw [← hpayload']
    rfl

/-- The datagram behind the header; what the total length leaves behind the UDP length is slack, which
the parser never reads. -/
def datagramAt (srcPort dstPort udpLen : UInt16) (hmin : 8 ≤ udpLen.toNat)
    (hfits : ihl + udpLen.toNat ≤ totalLen) (htotal : totalLen ≤ bytes.length) : UdpDatagram where
  srcPort := srcPort
  dstPort := dstPort
  checksum := (bytes.drop (ihl + 6)).take 2
  payload := (bytes.drop (ihl + 8)).take (udpLen.toNat - 8)
  slack := (bytes.drop (ihl + udpLen.toNat)).take (totalLen - ihl - udpLen.toNat)
  checksum_length := by simp; omega
  payload_length := by
    have hlt : udpLen.toNat < 65536 := udpLen.toNat_lt
    simp
    omega

section DatagramAt

variable {srcPort dstPort udpLen : UInt16} (hmin : 8 ≤ udpLen.toNat)
  (hfits : ihl + udpLen.toNat ≤ totalLen) (htotal : totalLen ≤ bytes.length)

theorem length_payload_datagramAt :
    (datagramAt srcPort dstPort udpLen hmin hfits htotal).payload.length = udpLen.toNat - 8 := by
  simp [datagramAt]
  omega

theorem length_slack_datagramAt :
    (datagramAt srcPort dstPort udpLen hmin hfits htotal).slack.length =
      totalLen - ihl - udpLen.toNat := by
  simp [datagramAt]
  omega

theorem at_datagramAt (hsrc : At bytes ihl (u16ToBeBytes srcPort))
    (hdst : At bytes (ihl + 2) (u16ToBeBytes dstPort))
    (hudpLen : At bytes (ihl + 4) (u16ToBeBytes udpLen)) :
    At bytes ihl (datagramAt srcPort dstPort udpLen hmin hfits htotal).encode := by
  have hlenField : UInt16.ofNat (8 + (udpLen.toNat - 8)) = udpLen := by
    have heq : 8 + (udpLen.toNat - 8) = udpLen.toNat := by
      omega
    rw [heq, UInt16.ofNat_toNat]
  have hslack : ihl + 2 + 2 + 2 + 2 + (udpLen.toNat - 8) = ihl + udpLen.toNat := by
    omega
  simp only [UdpDatagram.encode, At.append_iff, length_u16ToBeBytes, UdpDatagram.checksum_length,
    length_payload_datagramAt, hlenField]
  refine ⟨hsrc, hdst, hudpLen, At.window (by omega), At.window (by omega), ?_⟩
  simp only [datagramAt, hslack]
  exact At.window (by omega)

end DatagramAt

theorem exists_datagram_of_parseUdp {m : PacketMeta} (htotal : totalLen ≤ bytes.length)
    (h : parseUdp bytes direction ihl totalLen remoteIp = ok m) :
    ∃ d : UdpDatagram, At bytes ihl d.encode ∧ totalLen = ihl + d.encode.length ∧
      ∃ ports, portsByDirection direction d.srcPort d.dstPort = ok ports ∧
        m =
          { flow :=
              { protocol := .udp
                remoteIp := remoteIp
                remotePort := ports.1
                localPort := ports.2 }
            direction := direction
            payloadLen := UInt64.ofNat d.payload.length
            tcpFlags := 0 } := by
  simp only [parseUdp, bind_eq_ok_iff, reject_eq_ok_iff, readU16Be_eq_ok_iff,
    checkedSub_eq_ok_iff, pure_eq_ok, ok.injEq] at h
  rcases h with ⟨_, hmin, srcPort, hsrc, dstPort, hdst, udpLen, hudpLen, _, hbounds, ports,
    hports, _, ⟨_, rfl⟩, rfl⟩
  have hge : 8 ≤ udpLen.toNat := by
    omega
  have hfits : ihl + udpLen.toNat ≤ totalLen := by
    omega
  have hpayload := @length_payload_datagramAt bytes ihl totalLen srcPort dstPort udpLen hge hfits
    htotal
  have hslack := @length_slack_datagramAt bytes ihl totalLen srcPort dstPort udpLen hge hfits htotal
  refine ⟨datagramAt srcPort dstPort udpLen hge hfits htotal,
    at_datagramAt hge hfits htotal hsrc hdst hudpLen, ?_, ports, hports, ?_⟩
  · have hlen := (datagramAt srcPort dstPort udpLen hge hfits htotal).length_encode
    omega
  · rw [← hpayload]

/-- What the parser reports about a body behind an IPv4 header. -/
def Ipv4Payload.report (body : Ipv4Payload) (direction : PacketDirection) (remoteIp : IpBytes)
    (ports : UInt16 × UInt16) : PacketMeta :=
  { flow :=
      { protocol := body.protocol
        remoteIp := remoteIp
        remotePort := ports.1
        localPort := ports.2 }
    direction := direction
    payloadLen := UInt64.ofNat body.payload.length
    tcpFlags := body.flags }

theorem parseTransport_encode (body : Ipv4Payload) (hat : At bytes ihl body.encode)
    {ports : UInt16 × UInt16}
    (hports : portsByDirection direction body.srcPort body.dstPort = ok ports) :
    parseTransport body.number bytes direction ihl (ihl + body.encode.length) remoteIp =
      ok (body.report direction remoteIp ports) := by
  cases body with
  | tcp s =>
      exact parseTcp_encode s hat hports
  | udp d =>
      exact parseUdp_encode d hat hports

theorem exists_payload_of_parseTransport {number : UInt8} {m : PacketMeta}
    (htotal : totalLen ≤ bytes.length)
    (h : parseTransport number bytes direction ihl totalLen remoteIp = ok m) :
    ∃ body : Ipv4Payload, number = body.number ∧ At bytes ihl body.encode ∧
      totalLen = ihl + body.encode.length ∧
      ∃ ports, portsByDirection direction body.srcPort body.dstPort = ok ports ∧
        m = body.report direction remoteIp ports := by
  unfold parseTransport at h
  by_cases htcp : number = 6
  · rw [if_pos htcp] at h
    rcases exists_segment_of_parseTcp htotal h with ⟨s, hs⟩
    exact ⟨.tcp s, htcp, hs⟩
  · rw [if_neg htcp] at h
    by_cases hudp : number = 17
    · rw [if_pos hudp] at h
      rcases exists_datagram_of_parseUdp htotal h with ⟨d, hd⟩
      exact ⟨.udp d, hudp, hd⟩
    · rw [if_neg hudp] at h
      cases h

end Arms

/-! ## The IPv4 header -/

theorem Ipv4Packet.packetMeta_eq_report (p : Ipv4Packet) (direction : PacketDirection) :
    p.packetMeta direction =
      p.body.report direction (p.flowKey direction).remoteIp
        ((p.flowKey direction).remotePort, (p.flowKey direction).localPort) := by
  cases direction <;> rfl

/-- The first header byte of version 4 splits into the version and the header length. -/
theorem first_nibbles {first : UInt8} (h : first >>> 4 = 4) :
    nibbles 4 (first &&& 0x0f).toNat = first := by
  have hhigh : first.toNat / 16 = 4 := by
    rw [← toNat_shiftRight_four, h]
    rfl
  calc
    nibbles 4 (first &&& 0x0f).toNat = nibbles (first.toNat / 16) (first.toNat % 16) := by
      rw [toNat_and_fifteen, hhigh]
    _ = first := nibbles_toNat first

/-- Where the fields that the parser reads stand in a packet. -/
theorem Ipv4Packet.layout {p : Ipv4Packet} {bytes : Bytes} (hat : At bytes 0 p.encode) :
    bytes[0]? = some (nibbles 4 p.ihl) ∧
    At bytes 2 (u16ToBeBytes (UInt16.ofNat p.totalLen)) ∧
    bytes[9]? = some p.body.number ∧
    At bytes 12 p.src ∧
    At bytes 16 p.dst ∧
    At bytes (4 * p.ihl) p.body.encode := by
  have hbody : At bytes (4 * p.ihl) p.body.encode := by
    have h := (At.append_iff.1 hat).2
    rwa [p.length_header, Nat.zero_add] at h
  simp only [Ipv4Packet.encode, Ipv4Packet.header, List.cons_append, List.append_assoc,
    At.append_iff, At.cons_iff, length_u16ToBeBytes, p.fragmentation_length, p.checksum_length,
    p.src_length] at hat
  rcases hat with ⟨hfirst, _, htotal, _, _, hnumber, _, hsrc, hdst, _⟩
  exact ⟨hfirst, htotal, hnumber, hsrc, hdst, hbody⟩

theorem parseIpv4Transport_encode (p : Ipv4Packet) (trailing : Bytes) {direction : PacketDirection}
    (hdir : direction ≠ .unknown) :
    parseIpv4Transport (p.encode ++ trailing) direction = ok (p.packetMeta direction) := by
  have hlen : (p.encode ++ trailing).length = p.totalLen + trailing.length := by
    simp [p.length_encode]
  have hge := p.ihl_ge
  have hle := p.ihl_le
  have htotal : p.totalLen = 4 * p.ihl + p.body.encode.length := rfl
  have hat : At (p.encode ++ trailing) 0 p.encode := At.of_append _ _
  -- from here on only what stands in the buffer matters, not how it was built
  generalize hbytes : p.encode ++ trailing = bytes at hat hlen
  rcases p.layout hat with ⟨hfirst, htotalLen, hnumber, hsrc, hdst, hbody⟩
  rw [Nat.mul_comm] at hbody
  have hversion : nibbles 4 p.ihl >>> 4 = 4 := by
    apply UInt8.toNat_inj.1
    rw [toNat_shiftRight_four, toNat_nibbles (by omega) (by omega)]
    show (4 * 16 + p.ihl) / 16 = 4
    omega
  have hwords : (nibbles 4 p.ihl &&& 0x0f).toNat = p.ihl := by
    rw [toNat_and_fifteen, toNat_nibbles (by omega) (by omega)]
    omega
  have htotal16 : (UInt16.ofNat p.totalLen).toNat = p.totalLen :=
    UInt16.toNat_ofNat_of_lt' p.total_lt
  have hsrc' : (slice bytes 12 16 : Outcome PacketParseError Bytes) = ok p.src := by
    have h : (slice bytes 12 (12 + p.src.length) : Outcome PacketParseError Bytes) = ok p.src :=
      hsrc.slice_eq
    rwa [p.src_length] at h
  have hdst' : (slice bytes 16 20 : Outcome PacketParseError Bytes) = ok p.dst := by
    have h : (slice bytes 16 (16 + p.dst.length) : Outcome PacketParseError Bytes) = ok p.dst :=
      hdst.slice_eq
    rwa [p.dst_length] at h
  have harms : p.totalLen = p.ihl * 4 + p.body.encode.length := by omega
  -- the header checks in the order of the source, then the transport arm
  unfold parseIpv4Transport
  rw [reject_of_not (by omega), ok_bind, index_eq_ok_iff.2 hfirst, ok_bind,
    reject_of_not (by simp [hversion]), ok_bind]
  simp only [hwords]
  rw [reject_of_not (by omega), ok_bind, readU16Be_eq_ok_iff.2 htotalLen, ok_bind]
  simp only [htotal16]
  rw [reject_of_not (by omega), ok_bind, index_eq_ok_iff.2 hnumber, ok_bind, hsrc', ok_bind,
    hdst', ok_bind, harms]
  rw [p.remoteByDirection_eq hdir, ok_bind]
  rw [p.packetMeta_eq_report]
  exact parseTransport_encode p.body hbody (p.portsByDirection_eq hdir)

/-- The packet at the start of the bytes with a given body: the fields the parser skips are what
stands in their place. -/
def packetAt (bytes : Bytes) (ihl : Nat) (hge : 5 ≤ ihl) (hle : ihl ≤ 15) (body : Ipv4Payload)
    (hbytes : ihl * 4 + body.encode.length ≤ bytes.length)
    (hlt : ihl * 4 + body.encode.length < 65536) : Ipv4Packet where
  ihl := ihl
  service := bytes[1]
  fragmentation := (bytes.drop 4).take 4
  ttl := bytes[8]
  checksum := (bytes.drop 10).take 2
  src := (bytes.drop 12).take 4
  dst := (bytes.drop 16).take 4
  options := (bytes.drop 20).take (4 * ihl - 20)
  body := body
  ihl_ge := hge
  ihl_le := hle
  fragmentation_length := by simp; omega
  checksum_length := by simp; omega
  src_length := by simp; omega
  dst_length := by simp; omega
  options_length := by simp; omega
  total_lt := by omega

/-- A packet whose header fields are the windows the parser skips, around a given body. -/
theorem exists_packet_with_body {bytes : Bytes} {first : UInt8} {ihl : Nat} {total : UInt16}
    (hfirst : bytes[0]? = some first) (hnibbles : nibbles 4 ihl = first) (hge : 5 ≤ ihl)
    (hle : ihl ≤ 15) (htotal : At bytes 2 (u16ToBeBytes total)) (body : Ipv4Payload)
    (hnumber : bytes[9]? = some body.number) (hbody : At bytes (ihl * 4) body.encode)
    (hbodyTotal : total.toNat = ihl * 4 + body.encode.length) :
    ∃ p : Ipv4Packet, At bytes 0 p.encode ∧ p.body = body ∧
      p.src = (bytes.drop 12).take 4 ∧ p.dst = (bytes.drop 16).take 4 := by
  have hlt : total.toNat < 65536 := total.toNat_lt
  have hbytes := hbody.le_length
  have hservice : bytes[1]? = some bytes[1] := List.getElem?_eq_some_iff.2 ⟨by omega, rfl⟩
  have httl : bytes[8]? = some bytes[8] := List.getElem?_eq_some_iff.2 ⟨by omega, rfl⟩
  have hfits : ihl * 4 + body.encode.length < 65536 := by
    omega
  -- the total length field of the packet is the one that was read
  have htotalField :
      UInt16.ofNat (packetAt bytes ihl hge hle body hbytes hfits).totalLen = total := by
    have heq : (packetAt bytes ihl hge hle body hbytes hfits).totalLen = total.toNat := by
      show 4 * ihl + body.encode.length = total.toNat
      omega
    rw [heq, UInt16.ofNat_toNat]
  have hheader : At bytes 0 (packetAt bytes ihl hge hle body hbytes hfits).header := by
    simp only [Ipv4Packet.header, htotalField, At.append_iff, At.cons_iff, length_u16ToBeBytes,
      Ipv4Packet.fragmentation_length, Ipv4Packet.checksum_length, Ipv4Packet.src_length,
      Ipv4Packet.dst_length]
    refine ⟨?_, hservice, htotal, At.window (by omega), httl, hnumber, At.window (by omega),
      At.window (by omega), At.window (by omega), At.window (by omega)⟩
    rw [show nibbles 4 (packetAt bytes ihl hge hle body hbytes hfits).ihl = first from hnibbles]
    exact hfirst
  refine ⟨packetAt bytes ihl hge hle body hbytes hfits, ?_, rfl, rfl, rfl⟩
  rw [Ipv4Packet.encode, At.append_iff, Ipv4Packet.length_header]
  refine ⟨hheader, ?_⟩
  simpa [packetAt, Nat.mul_comm] using hbody

theorem exists_packet_of_parseIpv4Transport {bytes : Bytes} {direction : PacketDirection}
    {m : PacketMeta} (h : parseIpv4Transport bytes direction = ok m) :
    direction ≠ .unknown ∧
      ∃ (p : Ipv4Packet) (trailing : Bytes),
        bytes = p.encode ++ trailing ∧ m = p.packetMeta direction := by
  simp only [parseIpv4Transport, bind_eq_ok_iff, reject_eq_ok_iff, readU16Be_eq_ok_iff,
    index_eq_ok_iff, slice_eq_ok_iff, ne_eq, not_not] at h
  rcases h with ⟨_, hmin, first, hfirst, _, hversion, _, hihl, total, htotal, _, hbounds,
    number, hnumber, src, ⟨_, _, rfl⟩, dst, ⟨_, _, rfl⟩, remoteIp, hremote, harms⟩
  -- an unknown direction is refused before the transport arms are reached
  have hdir : direction ≠ .unknown := by
    rintro rfl
    simp [remoteByDirection] at hremote
  have hlow : (first &&& 0x0f).toNat < 16 := by
    rw [toNat_and_fifteen]
    exact Nat.mod_lt _ (by decide)
  -- inside out: the body first, then the header around it, then the trailing bytes
  rcases exists_payload_of_parseTransport (by omega) harms with
    ⟨body, rfl, hbody, hbodyTotal, ports, hports, rfl⟩
  rcases exists_packet_with_body hfirst (first_nibbles hversion) (by omega) (by omega) htotal body
    hnumber hbody hbodyTotal with ⟨p, hat, rfl, hsrc, hdst⟩
  rcases At.zero_iff.1 hat with ⟨trailing, htrailing⟩
  refine ⟨hdir, p, trailing, htrailing, ?_⟩
  have hportsEq : ports = _ := ok.inj (hports.symm.trans (p.portsByDirection_eq hdir))
  have hremoteEq : remoteIp = (p.flowKey direction).remoteIp := by
    have hflow := p.remoteByDirection_eq hdir
    rw [hsrc, hdst] at hflow
    rw [List.drop_take, List.drop_take] at hremote
    exact ok.inj (hremote.symm.trans hflow)
  rw [p.packetMeta_eq_report, hportsEq, hremoteEq]

/-! ## Bounds -/

section Bounds

variable {bytes : Bytes} {direction : PacketDirection} {ihl totalLen : Nat} {remoteIp : IpBytes}

theorem remoteByDirection_ne_panic {srcIp dstIp : IpBytes} :
    remoteByDirection direction srcIp dstIp ≠ panic := by
  cases direction <;> simp [remoteByDirection]

theorem portsByDirection_ne_panic {srcPort dstPort : UInt16} :
    portsByDirection direction srcPort dstPort ≠ panic := by
  cases direction <;> simp [portsByDirection]

theorem parseTcp_ne_panic (htotal : totalLen ≤ bytes.length) :
    parseTcp bytes direction ihl totalLen remoteIp ≠ panic := by
  -- one rule per statement; `hmin` and `hoffset` pay for every read and both subtractions
  unfold parseTcp
  refine reject_bind_ne_panic fun hmin => ?_
  refine readU16Be_bind_ne_panic (by omega) fun srcPort _ => ?_
  refine readU16Be_bind_ne_panic (by omega) fun dstPort _ => ?_
  refine index_bind_ne_panic (by omega) fun flags _ => ?_
  refine index_bind_ne_panic (by omega) fun offsetByte _ => ?_
  refine reject_bind_ne_panic fun hoffset => ?_
  refine bind_ne_panic_iff.2 ⟨portsByDirection_ne_panic, fun ports _ => ?_⟩
  refine checkedSub_bind_ne_panic (by omega) ?_
  refine checkedSub_bind_ne_panic (by omega) ?_
  simp

theorem parseUdp_ne_panic (htotal : totalLen ≤ bytes.length) :
    parseUdp bytes direction ihl totalLen remoteIp ≠ panic := by
  unfold parseUdp
  refine reject_bind_ne_panic fun hmin => ?_
  refine readU16Be_bind_ne_panic (by omega) fun srcPort _ => ?_
  refine readU16Be_bind_ne_panic (by omega) fun dstPort _ => ?_
  refine readU16Be_bind_ne_panic (by omega) fun udpLen _ => ?_
  refine reject_bind_ne_panic fun hudpLen => ?_
  refine bind_ne_panic_iff.2 ⟨portsByDirection_ne_panic, fun ports _ => ?_⟩
  refine checkedSub_bind_ne_panic (by omega) ?_
  simp

theorem parseIpv4Transport_ne_panic (bytes : Bytes) (direction : PacketDirection) :
    parseIpv4Transport bytes direction ≠ panic := by
  -- the first check pays for the fixed header, `hbounds` for what the arms read
  unfold parseIpv4Transport
  refine reject_bind_ne_panic fun hmin => ?_
  refine index_bind_ne_panic (by omega) fun first _ => ?_
  refine reject_bind_ne_panic fun _ => ?_
  refine reject_bind_ne_panic fun hihl => ?_
  refine readU16Be_bind_ne_panic (by omega) fun total _ => ?_
  refine reject_bind_ne_panic fun hbounds => ?_
  refine index_bind_ne_panic (by omega) fun number _ => ?_
  refine slice_bind_ne_panic (by omega) (by omega) ?_
  refine slice_bind_ne_panic (by omega) (by omega) ?_
  refine bind_ne_panic_iff.2 ⟨remoteByDirection_ne_panic, fun remoteIp _ => ?_⟩
  have htotal : total.toNat ≤ bytes.length := by omega
  unfold parseTransport
  split
  · exact parseTcp_ne_panic htotal
  · split
    · exact parseUdp_ne_panic htotal
    · simp

end Bounds

/-! ## Acceptance -/

/-- The payload length a packet declares: the total length minus both headers, or the UDP length
minus its header. -/
def Ipv4Packet.declaredPayload (p : Ipv4Packet) : Nat :=
  match p.body with
  | .tcp s => p.totalLen - 4 * p.ihl - 4 * s.dataOffset
  | .udp d => (UInt16.ofNat (8 + d.payload.length)).toNat - 8

theorem Ipv4Packet.declaredPayload_eq (p : Ipv4Packet) :
    p.declaredPayload = p.body.payload.length := by
  unfold declaredPayload totalLen
  cases p.body with
  | tcp s =>
      have hlen := s.length_encode
      simp [Ipv4Payload.encode, Ipv4Payload.payload]
      omega
  | udp d =>
      have hlen : (UInt16.ofNat (8 + d.payload.length)).toNat = 8 + d.payload.length :=
        UInt16.toNat_ofNat_of_lt' d.payload_length
      simp only [Ipv4Payload.payload, hlen]
      omega

theorem Ipv4Packet.toNat_payloadLen (p : Ipv4Packet) (direction : PacketDirection) :
    (p.packetMeta direction).payloadLen.toNat = p.declaredPayload := by
  have htotal := p.total_lt
  have hpayload : p.body.payload.length ≤ p.body.encode.length := by
    cases p.body with
    | tcp s =>
        simp [Ipv4Payload.payload, Ipv4Payload.encode, s.length_encode]
    | udp d =>
        simp [Ipv4Payload.payload, Ipv4Payload.encode, d.length_encode]
        omega
  rw [p.declaredPayload_eq, packetMeta]
  exact UInt64.toNat_ofNat_of_lt' (by simp only [UInt64.size]; omega)

/-- `q` travels between the endpoints of `p` in the other direction. -/
structure Ipv4Packet.Answers (q p : Ipv4Packet) : Prop where
  protocol : q.body.protocol = p.body.protocol
  src : q.src = p.dst
  dst : q.dst = p.src
  srcPort : q.body.srcPort = p.body.dstPort
  dstPort : q.body.dstPort = p.body.srcPort

theorem Ipv4Packet.Answers.flowKey_eq {q p : Ipv4Packet} (h : q.Answers p) :
    q.flowKey .inbound = p.flowKey .outbound := by
  simp [Ipv4Packet.flowKey, h.protocol, h.src, h.srcPort, h.dstPort]

/-- The parser never leaves the buffer, accepts exactly the encodings of packets followed by
arbitrary bytes, reports their fields, and gives a packet and its answer one flow key. -/
theorem parseIpv4Transport_exact :
    (∀ bytes direction, parseIpv4Transport bytes direction ≠ panic) ∧
    (∀ bytes direction m,
      parseIpv4Transport bytes direction = ok m ↔
        direction ≠ .unknown ∧ ∃ (p : Ipv4Packet) (trailing : Bytes),
          bytes = p.encode ++ trailing ∧ m = p.packetMeta direction ∧
            m.payloadLen.toNat = p.declaredPayload) ∧
    (∀ (p q : Ipv4Packet) (trailing trailing' : Bytes), q.Answers p →
      ∃ m m', parseIpv4Transport (p.encode ++ trailing) .outbound = ok m ∧
        parseIpv4Transport (q.encode ++ trailing') .inbound = ok m' ∧ m'.flow = m.flow) := by
  refine ⟨parseIpv4Transport_ne_panic, ?_, ?_⟩
  · intro bytes direction m
    constructor
    · intro h
      rcases exists_packet_of_parseIpv4Transport h with ⟨hdir, p, trailing, hbytes, rfl⟩
      exact ⟨hdir, p, trailing, hbytes, rfl, p.toNat_payloadLen direction⟩
    · rintro ⟨hdir, p, trailing, rfl, rfl, _⟩
      exact parseIpv4Transport_encode p trailing hdir
  · intro p q trailing trailing' hanswers
    refine ⟨p.packetMeta .outbound, q.packetMeta .inbound,
      parseIpv4Transport_encode p trailing (by decide),
      parseIpv4Transport_encode q trailing' (by decide), ?_⟩
    exact hanswers.flowKey_eq

/-- A segment with an empty option list. -/
def plainSegment (srcPort dstPort : UInt16) (flags : UInt8) (payload : Bytes) : TcpSegment :=
  { srcPort := srcPort
    dstPort := dstPort
    numbers := [0, 0, 0, 0, 0, 0, 0, 0]
    dataOffset := 5
    reserved := 0
    flags := flags
    tail := [0, 0, 0, 0, 0, 0]
    options := []
    payload := payload
    numbers_length := rfl
    dataOffset_ge := by decide
    dataOffset_le := by decide
    reserved_lt := Nat.zero_lt_succ 15
    tail_length := rfl
    options_length := rfl }

/-- A SYN from 10.0.0.2:50000 to 1.2.3.4:443 when `reply` is false, its SYN-ACK otherwise. -/
def handshakePacket (reply : Bool) : Ipv4Packet :=
  { ihl := 5
    service := 0
    fragmentation := [0, 0, 0, 0]
    ttl := 64
    checksum := [0, 0]
    src := if reply then [1, 2, 3, 4] else [10, 0, 0, 2]
    dst := if reply then [10, 0, 0, 2] else [1, 2, 3, 4]
    options := []
    body :=
      .tcp
        (plainSegment (if reply then 443 else 50000) (if reply then 50000 else 443)
          (if reply then 0x12 else 0x02) [])
    ihl_ge := by decide
    ihl_le := by decide
    fragmentation_length := rfl
    checksum_length := rfl
    src_length := by cases reply <;> rfl
    dst_length := by cases reply <;> rfl
    options_length := rfl
    total_lt := by cases reply <;> decide }

theorem parseIpv4Transport_exact_handshake :
    ∃ m m', parseIpv4Transport ((handshakePacket false).encode ++ [0xff]) .outbound = ok m ∧
      parseIpv4Transport ((handshakePacket true).encode ++ []) .inbound = ok m' ∧
        m'.flow = m.flow :=
  parseIpv4Transport_exact.2.2 (handshakePacket false) (handshakePacket true) [0xff] []
    { protocol := rfl
      src := rfl
      dst := rfl
      srcPort := rfl
      dstPort := rfl }

end Core
end FlyDpi
