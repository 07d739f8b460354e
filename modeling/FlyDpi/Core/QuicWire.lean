import FlyDpi.Core.Transport

/-!
# QuicWire — the payloads `analyze_quic_header` accepts

A long header is described by its fields: the first byte with the form bit set, the version, and two
connection ids of at most 20 bytes, each behind its length.  `QuicLongHeader.encode` writes the
fields in wire order and `QuicLongHeader.info` reads off what the analyzer has to report.
-/

namespace FlyDpi
namespace Core

open Lib Lib.Bytes Lib.Outcome

structure QuicLongHeader where
  first : UInt8
  version : UInt32
  dcid : Bytes
  scid : Bytes
  /-- The top bit is set. -/
  first_ge : 128 ≤ first.toNat
  dcid_le : dcid.length ≤ 20
  scid_le : scid.length ≤ 20

namespace QuicLongHeader

def encode (h : QuicLongHeader) : Bytes :=
  h.first :: (u32ToBeBytes h.version ++ (UInt8.ofNat h.dcid.length :: (h.dcid ++
    (UInt8.ofNat h.scid.length :: h.scid))))

/-- The packet type is in bits 5 and 4 of the first byte. -/
def info (h : QuicLongHeader) : QuicHeaderInfo :=
  { version := h.version
    packetType := UInt8.ofNat (h.first.toNat / 16 % 4)
    destinationCidLen := UInt8.ofNat h.dcid.length
    sourceCidLen := UInt8.ofNat h.scid.length }

theorem toNat_dcidLen (h : QuicLongHeader) :
    (UInt8.ofNat h.dcid.length).toNat = h.dcid.length := by
  have hle := h.dcid_le
  rw [UInt8.toNat_ofNat']
  omega

theorem toNat_scidLen (h : QuicLongHeader) :
    (UInt8.ofNat h.scid.length).toNat = h.scid.length := by
  have hle := h.scid_le
  rw [UInt8.toNat_ofNat']
  omega

end QuicLongHeader

theorem packetType_eq (first : UInt8) :
    (first >>> 4) &&& 0x03 = UInt8.ofNat (first.toNat / 16 % 4) := by
  rw [and_0x03, toNat_shiftRight_four]

/-! ## The header, field by field -/

variable {payload : Bytes} {info : QuicHeaderInfo}

/-- What the analyzer has read and checked when it reports a long header. -/
structure QuicFields (payload : Bytes) (info : QuicHeaderInfo) (first : UInt8) : Prop where
  first_at : payload[0]? = some first
  first_ge : 128 ≤ first.toNat
  packetType : info.packetType = UInt8.ofNat (first.toNat / 16 % 4)
  version_at : At payload 1 (u32ToBeBytes info.version)
  dcidLen_at : payload[5]? = some info.destinationCidLen
  dcidLen_le : info.destinationCidLen.toNat ≤ 20
  scidLen_at : payload[6 + info.destinationCidLen.toNat]? = some info.sourceCidLen
  scidLen_le : info.sourceCidLen.toNat ≤ 20
  scid_end : 7 + info.destinationCidLen.toNat + info.sourceCidLen.toNat ≤ payload.length

theorem fields_of_analyzeQuicHeader (h : analyzeQuicHeader payload = ok (.quicLongHeader info)) :
    ∃ first, QuicFields payload info first := by
  simp only [analyzeQuicHeader, bind_eq_ok_iff, reject_eq_ok_iff, index_eq_ok_iff] at h
  rcases h with ⟨_, _, first, hfirst, h⟩
  split at h
  · cases h
  · rename_i hlong
    simp only [bind_eq_ok_iff, reject_eq_ok_iff, index_eq_ok_iff, pure_eq_ok, ok.injEq,
      TransportInfo.quicLongHeader.injEq] at h
    rcases h with ⟨_, _, v1, h1, v2, h2, v3, h3, v4, h4, dcidLen, h5, _, hdcid, scidLen, h6, _,
      hscid, rfl⟩
    rw [and_0x80_eq_zero_iff] at hlong
    have hversion : At payload 1 [v1, v2, v3, v4] := by
      rw [At.cons_iff, At.cons_iff, At.cons_iff, At.singleton_iff]
      exact ⟨h1, h2, h3, h4⟩
    rw [u32FromBeBytes_eq_iff.1 rfl] at hversion
    exact ⟨first,
      { first_at := hfirst
        first_ge := by omega
        packetType := packetType_eq first
        version_at := hversion
        dcidLen_at := h5
        dcidLen_le := Nat.le_of_not_lt fun hlt => hdcid (Or.inl hlt)
        scidLen_at := h6
        scidLen_le := Nat.le_of_not_lt fun hlt => hscid (Or.inl hlt)
        scid_end := by
          dsimp only
          omega }⟩

theorem QuicFields.analyzeQuicHeader {first : UInt8} (h : QuicFields payload info first) :
    analyzeQuicHeader payload = ok (.quicLongHeader info) := by
  have hend := h.scid_end
  obtain ⟨v1, v2, v3, v4, hversion⟩ : ∃ v1 v2 v3 v4, u32ToBeBytes info.version = [v1, v2, v3, v4] :=
    ⟨_, _, _, _, rfl⟩
  have hat := h.version_at
  rw [hversion, At.cons_iff, At.cons_iff, At.cons_iff, At.singleton_iff] at hat
  rcases hat with ⟨h1, h2, h3, h4⟩
  have hlong : ¬ first &&& 0x80 = 0 := by
    rw [and_0x80_eq_zero_iff]
    exact Nat.not_lt.2 h.first_ge
  simp only [Core.analyzeQuicHeader, bind_eq_ok_iff, reject_eq_ok_iff, index_eq_ok_iff]
  refine ⟨⟨⟩, ?_, first, h.first_at, ?_⟩
  · rintro rfl
    simp at hend
  rw [if_neg hlong]
  simp only [bind_eq_ok_iff, reject_eq_ok_iff, index_eq_ok_iff, pure_eq_ok, ok.injEq,
    TransportInfo.quicLongHeader.injEq]
  refine ⟨⟨⟩, by omega, v1, h1, v2, h2, v3, h3, v4, h4, _, h.dcidLen_at, ⟨⟩, ?_, _, h.scidLen_at,
    ⟨⟩, ?_, ?_⟩
  · have hle := h.dcidLen_le
    omega
  · have hle := h.scidLen_le
    omega
  · rw [u32FromBeBytes_eq_iff.2 hversion.symm, packetType_eq, ← h.packetType]

/-! ## The header as a whole -/

/-- The fields that were read are those of a header that the payload begins with. -/
theorem QuicFields.exists_header {first : UInt8} (h : QuicFields payload info first) :
    ∃ header : QuicLongHeader, At payload 0 header.encode ∧ info = header.info := by
  have hend := h.scid_end
  -- the connection ids are cut out behind their lengths
  have hdcid : At payload 6 ((payload.drop 6).take info.destinationCidLen.toNat) :=
    At.window (by omega)
  have hscid : At payload (6 + info.destinationCidLen.toNat + 1)
      ((payload.drop (6 + info.destinationCidLen.toNat + 1)).take info.sourceCidLen.toNat) :=
    At.window (by omega)
  have hdcidLen : ((payload.drop 6).take info.destinationCidLen.toNat).length =
      info.destinationCidLen.toNat := by
    rw [List.length_take, List.length_drop]
    omega
  have hscidLen : ((payload.drop (6 + info.destinationCidLen.toNat + 1)).take
      info.sourceCidLen.toNat).length = info.sourceCidLen.toNat := by
    rw [List.length_take, List.length_drop]
    omega
  refine ⟨
    { first := first
      version := info.version
      dcid := (payload.drop 6).take info.destinationCidLen.toNat
      scid := (payload.drop (6 + info.destinationCidLen.toNat + 1)).take info.sourceCidLen.toNat
      first_ge := h.first_ge
      dcid_le := by
        rw [hdcidLen]
        exact h.dcidLen_le
      scid_le := by
        rw [hscidLen]
        exact h.scidLen_le }, ?_, ?_⟩
  · simp only [QuicLongHeader.encode, hdcidLen, hscidLen, UInt8.ofNat_toNat, At.cons_iff,
      At.append_iff, length_u32ToBeBytes]
    exact ⟨h.first_at, h.version_at, h.dcidLen_at, hdcid, h.scidLen_at, hscid⟩
  · simp only [QuicLongHeader.info, hdcidLen, hscidLen, UInt8.ofNat_toNat, ← h.packetType]

theorem QuicLongHeader.fields (header : QuicLongHeader) (h : At payload 0 header.encode) :
    QuicFields payload header.info header.first := by
  have hlength := h.le_length
  have hdcid := header.toNat_dcidLen
  have hscid := header.toNat_scidLen
  simp only [encode, List.length_cons, List.length_append, length_u32ToBeBytes] at hlength
  simp only [encode, At.cons_iff, At.append_iff, length_u32ToBeBytes] at h
  rcases h with ⟨hfirst, hversion, hdcidLen, _, hscidLen, _⟩
  exact
    { first_at := hfirst
      first_ge := header.first_ge
      packetType := rfl
      version_at := hversion
      dcidLen_at := hdcidLen
      dcidLen_le := by
        change (UInt8.ofNat header.dcid.length).toNat ≤ 20
        rw [hdcid]
        exact header.dcid_le
      scidLen_at := by
        change payload[6 + (UInt8.ofNat header.dcid.length).toNat]? = _
        rw [hdcid]
        exact hscidLen
      scidLen_le := by
        change (UInt8.ofNat header.scid.length).toNat ≤ 20
        rw [hscid]
        exact header.scid_le
      scid_end := by
        change 7 + (UInt8.ofNat header.dcid.length).toNat +
          (UInt8.ofNat header.scid.length).toNat ≤ payload.length
        rw [hdcid, hscid]
        omega }

theorem analyzeQuicHeader_encode (header : QuicLongHeader) (rest : Bytes) :
    Core.analyzeQuicHeader (header.encode ++ rest) = ok (.quicLongHeader header.info) :=
  (header.fields (At.of_append _ _)).analyzeQuicHeader

theorem analyzeQuicHeader_eq_ok_iff :
    Core.analyzeQuicHeader payload = ok (.quicLongHeader info) ↔
      ∃ (header : QuicLongHeader) (rest : Bytes),
        payload = header.encode ++ rest ∧ info = header.info := by
  constructor
  · intro h
    rcases fields_of_analyzeQuicHeader h with ⟨first, hfields⟩
    rcases hfields.exists_header with ⟨header, hat, hinfo⟩
    rcases At.zero_iff.1 hat with ⟨rest, hpayload⟩
    exact ⟨header, rest, hpayload, hinfo⟩
  · rintro ⟨header, rest, rfl, rfl⟩
    exact analyzeQuicHeader_encode header rest

/-- A UDP payload is reported as a long header exactly when it begins with one, with the fields of
that header; the contents of the connection ids and what follows them do not matter. -/
theorem analyzePayload_quic_iff :
    (∀ (payload : Bytes) (info : QuicHeaderInfo),
      analyzePayload .udp payload = ok (.quicLongHeader info) ↔
        ∃ (header : QuicLongHeader) (rest : Bytes),
          payload = header.encode ++ rest ∧ info = header.info) ∧
    (∀ (header : QuicLongHeader) (rest : Bytes),
      analyzePayload .udp (header.encode ++ rest) = ok (.quicLongHeader header.info)) ∧
    ∀ (header header' : QuicLongHeader) (rest rest' : Bytes),
      header'.first = header.first → header'.version = header.version →
      header'.dcid.length = header.dcid.length → header'.scid.length = header.scid.length →
        analyzePayload .udp (header'.encode ++ rest') =
          analyzePayload .udp (header.encode ++ rest) := by
  refine ⟨fun _ _ => analyzeQuicHeader_eq_ok_iff, analyzeQuicHeader_encode, ?_⟩
  intro header header' rest rest' hfirst hversion hdcid hscid
  have hinfo : header'.info = header.info := by
    simp only [QuicLongHeader.info, hfirst, hversion, hdcid, hscid]
  calc
    analyzePayload .udp (header'.encode ++ rest') = ok (.quicLongHeader header'.info) :=
        analyzeQuicHeader_encode header' rest'
    _ = ok (.quicLongHeader header.info) := by
        rw [hinfo]
    _ = analyzePayload .udp (header.encode ++ rest) :=
        (analyzeQuicHeader_encode header rest).symm

/-- An Initial packet of version 1. -/
example : analyzePayload .udp [0xc0, 0, 0, 0, 1, 4, 1, 2, 3, 4, 2, 5, 6] =
    ok (.quicLongHeader
      { version := 1
        packetType := 0
        destinationCidLen := 4
        sourceCidLen := 2 }) := by
  decide

end Core
end FlyDpi
