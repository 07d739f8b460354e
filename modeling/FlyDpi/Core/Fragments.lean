import FlyDpi.Core.PacketAcceptance

/-!
# Fragments — the packet reader on IPv4 fragments

A datagram is divided into fragments that carry consecutive windows of its body behind headers of
their own.  The reader never looks at the fragment offset: where a later fragment's data happens to
be a transport message of its own, that message is what the reader reports.
-/

namespace FlyDpi
namespace Core

open Lib Lib.Bytes Lib.Outcome

/-! ## Fragments of a datagram -/

/-- A fragment without what it has in common with its datagram: addresses and protocol. -/
structure Fragment where
  /-- Header length in 32-bit words. -/
  ihl : Nat
  service : UInt8
  identification : UInt16
  dontFragment : Bool
  moreFragments : Bool
  /-- Position of the data in the body of the datagram, in units of eight bytes. -/
  offset : Nat
  ttl : UInt8
  checksum : Bytes
  options : Bytes
  data : Bytes
  ihl_ge : 5 ≤ ihl
  ihl_le : ihl ≤ 15
  offset_lt : offset < 8192
  checksum_length : checksum.length = 2
  options_length : options.length = 4 * ihl - 20
  total_lt : 4 * ihl + data.length < 65536

namespace Fragment

def flagsAndOffset (f : Fragment) : UInt16 :=
  UInt16.ofNat ((if f.dontFragment then 0x4000 else 0) + (if f.moreFragments then 0x2000 else 0) +
    f.offset)

def totalLen (f : Fragment) : Nat :=
  4 * f.ihl + f.data.length

/-- The header, with the addresses and the protocol of the datagram. -/
def header (f : Fragment) (p : Ipv4Packet) : Bytes :=
  nibbles 4 f.ihl :: f.service :: (u16ToBeBytes (UInt16.ofNat f.totalLen) ++
    ((u16ToBeBytes f.identification ++ u16ToBeBytes f.flagsAndOffset) ++
      (f.ttl :: p.body.number :: (f.checksum ++ (p.src ++ (p.dst ++ f.options))))))

def encode (f : Fragment) (p : Ipv4Packet) : Bytes :=
  f.header p ++ f.data

theorem length_header (f : Fragment) (p : Ipv4Packet) : (f.header p).length = 4 * f.ihl := by
  have hge := f.ihl_ge
  simp [header, f.checksum_length, p.src_length, p.dst_length, f.options_length]
  omega

end Fragment

/-- A division of a datagram into fragments. -/
structure Division (p : Ipv4Packet) where
  fragments : List Fragment
  /-- The fragments carry the body, in order. -/
  whole : fragments.flatMap Fragment.data = p.body.encode
  offsets : ∀ pre f post, fragments = pre ++ f :: post →
    8 * f.offset = (pre.flatMap Fragment.data).length
  more : ∀ pre f post, fragments = pre ++ f :: post → f.moreFragments = decide (post ≠ [])
  data_ne : ∀ f ∈ fragments, f.data ≠ []

/-! ## A fragment that carries a transport message -/

/-- The fragment as a datagram of its own, when its data is the encoding of `body`. -/
def Fragment.packet (f : Fragment) (p : Ipv4Packet) (body : Ipv4Payload)
    (h : body.encode = f.data) : Ipv4Packet :=
  { ihl := f.ihl
    service := f.service
    fragmentation := u16ToBeBytes f.identification ++ u16ToBeBytes f.flagsAndOffset
    ttl := f.ttl
    checksum := f.checksum
    src := p.src
    dst := p.dst
    options := f.options
    body := body
    ihl_ge := f.ihl_ge
    ihl_le := f.ihl_le
    fragmentation_length := by simp
    checksum_length := f.checksum_length
    src_length := p.src_length
    dst_length := p.dst_length
    options_length := f.options_length
    total_lt := by
      rw [h]
      exact f.total_lt }

namespace Fragment

variable {f : Fragment} {p : Ipv4Packet}

theorem encode_packet {body : Ipv4Payload} (hnumber : body.number = p.body.number)
    (h : body.encode = f.data) : (f.packet p body h).encode = f.encode p := by
  simp [packet, Ipv4Packet.encode, Ipv4Packet.header, Ipv4Packet.totalLen, encode, header, totalLen,
    hnumber, h]

theorem layout (f : Fragment) (p : Ipv4Packet) :
    (f.encode p)[0]? = some (nibbles 4 f.ihl) ∧
    At (f.encode p) 2 (u16ToBeBytes (UInt16.ofNat f.totalLen)) ∧
    (f.encode p)[9]? = some p.body.number ∧
    At (f.encode p) 12 p.src ∧
    At (f.encode p) 16 p.dst ∧
    At (f.encode p) (4 * f.ihl) f.data := by
  -- the buffer is a name of its own, so that only its layout is taken apart
  obtain ⟨bytes, hbytes⟩ : ∃ bytes, bytes = f.encode p := ⟨_, rfl⟩
  have hat : At bytes 0 (f.encode p) := by
    rw [hbytes]
    exact At.self _
  rw [← hbytes]
  have hdata : At bytes (4 * f.ihl) f.data := by
    have h := (At.append_iff.1 hat).2
    rwa [f.length_header, Nat.zero_add] at h
  simp only [encode, header, List.cons_append, List.append_assoc, At.append_iff, At.cons_iff,
    length_u16ToBeBytes, f.checksum_length, p.src_length] at hat
  rcases hat with ⟨hfirst, _, htotal, _, _, _, hnumber, _, hsrc, hdst, _⟩
  exact ⟨hfirst, htotal, hnumber, hsrc, hdst, hdata⟩

/-- Whatever packet the bytes of a fragment encode, its addresses and its protocol are those of the
datagram and its body is the data of the fragment. -/
theorem packet_of_encode {q : Ipv4Packet} {trailing : Bytes}
    (h : f.encode p = q.encode ++ trailing) :
    q.src = p.src ∧ q.dst = p.dst ∧ q.body.number = p.body.number ∧ q.body.encode = f.data := by
  have hq : At (f.encode p) 0 q.encode := by
    rw [h]
    exact At.of_append _ _
  rcases q.layout hq with ⟨hfirst, htotal, hnumber, hsrc, hdst, hbody⟩
  rcases f.layout p with ⟨hfirst', htotal', hnumber', hsrc', hdst', hdata⟩
  -- equal bytes at equal places: the header length, the total length, then the rest
  have hihl : q.ihl = f.ihl := by
    have hlt := q.ihl_le
    have hlt' := f.ihl_le
    rw [hfirst'] at hfirst
    have hvalue := congrArg UInt8.toNat (Option.some.inj hfirst)
    rw [toNat_nibbles (by omega) (by omega), toNat_nibbles (by omega) (by omega)] at hvalue
    omega
  have hlength : q.body.encode.length = f.data.length := by
    have hvalue := congrArg UInt16.toNat (u16ToBeBytes_inj (htotal.eq_of_length_eq htotal' rfl))
    have hq : (UInt16.ofNat q.totalLen).toNat = q.totalLen :=
      UInt16.toNat_ofNat_of_lt' q.total_lt
    have hf : (UInt16.ofNat f.totalLen).toNat = f.totalLen :=
      UInt16.toNat_ofNat_of_lt' f.total_lt
    rw [hq, hf, Ipv4Packet.totalLen, totalLen] at hvalue
    omega
  rw [hihl] at hbody
  rw [hnumber'] at hnumber
  refine ⟨hsrc.eq_of_length_eq hsrc' ?_, hdst.eq_of_length_eq hdst' ?_,
    (Option.some.inj hnumber).symm, hbody.eq_of_length_eq hdata hlength⟩
  · rw [q.src_length, p.src_length]
  · rw [q.dst_length, p.dst_length]

/-- The reader accepts a fragment exactly when its data is a transport message of its own. -/
theorem parseIpv4Transport_eq_ok_iff {direction : PacketDirection} {m : PacketMeta}
    (hdir : direction ≠ .unknown) :
    parseIpv4Transport (f.encode p) direction = ok m ↔
      ∃ (body : Ipv4Payload) (h : body.encode = f.data), body.number = p.body.number ∧
        m = (f.packet p body h).packetMeta direction := by
  constructor
  · intro hok
    rcases exists_packet_of_parseIpv4Transport hok with ⟨_, q, trailing, hbytes, rfl⟩
    rcases packet_of_encode hbytes with ⟨hsrc, hdst, hnumber, hdata⟩
    refine ⟨q.body, hdata, hnumber, ?_⟩
    cases direction <;>
      simp [Ipv4Packet.packetMeta, Ipv4Packet.flowKey, Fragment.packet, hsrc, hdst]
  · rintro ⟨body, h, hnumber, rfl⟩
    have hrun := parseIpv4Transport_encode (f.packet p body h) [] hdir
    rwa [List.append_nil, encode_packet hnumber h] at hrun

end Fragment

/-! ## Ports and flags -/

namespace Ipv4Payload

/-- The two messages have the same ports and the same TCP flags. -/
structure SameEnds (b c : Ipv4Payload) : Prop where
  srcPort : b.srcPort = c.srcPort
  dstPort : b.dstPort = c.dstPort
  flags : b.flags = c.flags

theorem ports_at {body : Ipv4Payload} {bytes : Bytes} (hat : At bytes 0 body.encode) :
    At bytes 0 (u16ToBeBytes body.srcPort) ∧ At bytes 2 (u16ToBeBytes body.dstPort) := by
  cases body with
  | tcp s =>
      simp only [encode, TcpSegment.encode, At.append_iff, length_u16ToBeBytes] at hat
      exact ⟨hat.1, hat.2.1⟩
  | udp d =>
      simp only [encode, UdpDatagram.encode, At.append_iff, length_u16ToBeBytes] at hat
      exact ⟨hat.1, hat.2.1⟩

theorem flags_at {s : TcpSegment} {bytes : Bytes} (hat : At bytes 0 s.encode) :
    bytes[13]? = some s.flags := by
  simp only [TcpSegment.encode, At.append_iff, At.cons_iff, length_u16ToBeBytes,
    s.numbers_length] at hat
  exact hat.2.2.2.2.1

theorem protocol_eq_of_number_eq {b c : Ipv4Payload} (h : b.number = c.number) :
    b.protocol = c.protocol := by
  cases b with
  | tcp s =>
      cases c with
      | tcp t =>
          rfl
      | udp d =>
          simp [number] at h
  | udp d =>
      cases c with
      | tcp t =>
          simp [number] at h
      | udp e =>
          rfl

theorem flags_eq_of_at {b c : Ipv4Payload} {bytes : Bytes} (hnumber : b.number = c.number)
    (hb : At bytes 0 b.encode) (hc : At bytes 0 c.encode) : b.flags = c.flags := by
  cases b with
  | tcp s =>
      cases c with
      | tcp t =>
          have hs : bytes[13]? = some s.flags := flags_at hb
          have ht : bytes[13]? = some t.flags := flags_at hc
          rw [hs] at ht
          exact Option.some.inj ht
      | udp d =>
          simp [number] at hnumber
  | udp d =>
      cases c with
      | tcp t =>
          simp [number] at hnumber
      | udp e =>
          rfl

/-- A message at the front of another one of its protocol has its ports and flags. -/
theorem sameEnds_of_prefix {b c : Ipv4Payload} (hnumber : b.number = c.number)
    (h : b.encode <+: c.encode) : b.SameEnds c := by
  rcases h with ⟨rest, hrest⟩
  have hc : At c.encode 0 c.encode := At.self _
  have hb : At c.encode 0 b.encode := by
    rw [← hrest]
    exact At.of_append _ _
  constructor
  · exact u16ToBeBytes_inj ((ports_at hb).1.eq_of_length_eq (ports_at hc).1 rfl)
  · exact u16ToBeBytes_inj ((ports_at hb).2.eq_of_length_eq (ports_at hc).2 rfl)
  · exact flags_eq_of_at hnumber hb hc

end Ipv4Payload

/-! ## All fragments of a division -/

/-- In a known direction the reader answers with an error or with the flow and the flags of the
datagram. -/
def Fragment.Harmless (f : Fragment) (p : Ipv4Packet) : Prop :=
  ∀ direction, direction ≠ .unknown →
    (∃ e, parseIpv4Transport (f.encode p) direction = err e) ∨
    ∃ m, parseIpv4Transport (f.encode p) direction = ok m ∧ m.flow = p.flowKey direction ∧
      m.tcpFlags = p.body.flags

/-- If the data is a transport message of its own, it has the ports and the flags of the datagram. -/
def Fragment.Inconspicuous (f : Fragment) (p : Ipv4Packet) : Prop :=
  ∀ body : Ipv4Payload, body.number = p.body.number → body.encode = f.data →
    body.SameEnds p.body

theorem Fragment.harmless_iff {f : Fragment} {p : Ipv4Packet} :
    f.Harmless p ↔ f.Inconspicuous p := by
  constructor
  · intro h body hnumber hdata
    have hout : PacketDirection.outbound ≠ .unknown := by
      decide
    have hok := (parseIpv4Transport_eq_ok_iff (f := f) (p := p) hout).2 ⟨body, hdata, hnumber, rfl⟩
    rcases h .outbound hout with ⟨e, herr⟩ | ⟨m, hm, hflow, hflags⟩
    · rw [hok] at herr
      cases herr
    · rw [hok] at hm
      cases hm
      exact
        { srcPort := congrArg FlowKey.localPort hflow
          dstPort := congrArg FlowKey.remotePort hflow
          flags := hflags }
  · intro h direction hdir
    cases hrun : parseIpv4Transport (f.encode p) direction with
    | ok m =>
        right
        rcases (parseIpv4Transport_eq_ok_iff hdir).1 hrun with ⟨body, hdata, hnumber, rfl⟩
        have hends := h body hnumber hdata
        have hprotocol := Ipv4Payload.protocol_eq_of_number_eq hnumber
        refine ⟨_, rfl, ?_, hends.flags⟩
        cases direction <;>
          simp [Ipv4Packet.packetMeta, Ipv4Packet.flowKey, Fragment.packet, hprotocol,
            hends.srcPort, hends.dstPort]
    | err e =>
        exact Or.inl ⟨e, rfl⟩
    | panic =>
        exact absurd hrun (parseIpv4Transport_ne_panic _ _)

namespace Division

variable {p : Ipv4Packet}

/-- The fragment at offset zero carries the front of the body. -/
theorem data_prefix (division : Division p) {f : Fragment} (hf : f ∈ division.fragments)
    (hoffset : f.offset = 0) : f.data <+: p.body.encode := by
  rcases List.append_of_mem hf with ⟨pre, post, hsplit⟩
  have hpre : pre.flatMap Fragment.data = [] := by
    have hlength := division.offsets pre f post hsplit
    rw [hoffset] at hlength
    exact List.eq_nil_of_length_eq_zero (by omega)
  rw [← division.whole, hsplit, List.flatMap_append, hpre, List.flatMap_cons]
  exact List.prefix_append _ _

end Division

/-- No fragment of a division misleads the reader exactly when no later fragment's data is a
transport message with other ports or flags. -/
theorem fragments_harmless_iff (p : Ipv4Packet) (division : Division p) :
    (∀ f ∈ division.fragments, f.Harmless p) ↔
      ∀ f ∈ division.fragments, f.offset ≠ 0 → f.Inconspicuous p := by
  simp only [Fragment.harmless_iff]
  constructor
  · intro h f hf _
    exact h f hf
  · intro h f hf
    by_cases hoffset : f.offset = 0
    · intro body hnumber hdata
      refine Ipv4Payload.sameEnds_of_prefix hnumber ?_
      rw [hdata]
      exact division.data_prefix hf hoffset
    · exact h f hf hoffset

/-! ## A payload that looks like a reset -/

/-- A header with the RST flag, from port 1 to port 2. -/
def resetSegment : TcpSegment := plainSegment 1 2 0x04 []

/-- A data segment from 10.0.0.2:50000 to 1.2.3.4:443 that carries these 20 bytes. -/
def resetCarrier : Ipv4Packet :=
  { handshakePacket false with
    body := .tcp (plainSegment 50000 443 0x10 ([0, 0, 0, 0] ++ resetSegment.encode))
    total_lt := by decide }

/-- A fragment with the settings of `resetCarrier`. -/
def plainFragment (moreFragments : Bool) (offset : Nat) (data : Bytes) (hoffset : offset < 8192)
    (htotal : 20 + data.length < 65536) : Fragment :=
  { ihl := resetCarrier.ihl
    service := resetCarrier.service
    identification := 1
    dontFragment := false
    moreFragments := moreFragments
    offset := offset
    ttl := resetCarrier.ttl
    checksum := resetCarrier.checksum
    options := resetCarrier.options
    data := data
    ihl_ge := resetCarrier.ihl_ge
    ihl_le := resetCarrier.ihl_le
    offset_lt := hoffset
    checksum_length := resetCarrier.checksum_length
    options_length := resetCarrier.options_length
    total_lt := htotal }

/-- The first 24 bytes of the body, and the rest. -/
def resetDivision : Division resetCarrier where
  fragments :=
    [plainFragment true 0 (resetCarrier.body.encode.take 24) (by decide) (by decide),
      plainFragment false 3 resetSegment.encode (by decide) (by decide)]
  whole := by decide
  offsets := by
    intro pre f post h
    rcases pre with _ | ⟨first, _ | ⟨second, pre⟩⟩
    · cases h
      rfl
    · cases h
      rfl
    · simp at h
  more := by
    intro pre f post h
    rcases pre with _ | ⟨first, _ | ⟨second, pre⟩⟩
    · cases h
      rfl
    · cases h
      rfl
    · simp at h
  data_ne := by decide

/-- The second fragment is reported as a reset of a connection that does not exist. -/
theorem resetDivision_misread :
    ¬ ∀ f ∈ resetDivision.fragments, f.Harmless resetCarrier := by
  intro h
  have hlast := Fragment.harmless_iff.1 (h (plainFragment false 3 resetSegment.encode (by decide)
    (by decide)) (List.mem_cons_of_mem _ List.mem_cons_self))
  have hends := hlast (.tcp resetSegment) rfl rfl
  exact absurd hends.srcPort (by decide)

end Core
end FlyDpi
