import FlyDpi.Lib.Cursor
import FlyDpi.Core.Model

/-!
# Transport — passive analysis of observed payloads

The model of `transport.rs`.  The two loops of `analyze_tls_client_hello` are the recursions
`scanNames` (entries of one server-name list) and `scanExtensions` (the extensions block); both
carry the `sni` variable of the source.  Reads are checked, so a read outside its slice is
`Outcome.panic`.
-/

namespace FlyDpi
namespace Core

open Lib Lib.Bytes Lib.Outcome

structure TlsClientHelloInfo where
  legacyVersion : UInt16
  sni : Option String
  handshakeLen : Nat
  deriving DecidableEq, Repr

structure QuicHeaderInfo where
  version : UInt32
  packetType : UInt8
  destinationCidLen : UInt8
  sourceCidLen : UInt8
  deriving DecidableEq, Repr

inductive TransportInfo
  | tlsClientHello (info : TlsClientHelloInfo)
  | quicLongHeader (info : QuicHeaderInfo)
  | unknown
  deriving DecidableEq, Repr

inductive TransportParseError
  | truncated
  | malformed
  | unsupported
  deriving DecidableEq, Repr

/-- `std::str::from_utf8(bytes).ok()`, owned. -/
def fromUtf8 (bytes : Bytes) : Option String :=
  String.fromUTF8? ⟨bytes.toArray⟩

/-- `s.as_bytes()`. -/
def asBytes (s : String) : Bytes :=
  s.toByteArray.data.toList

theorem fromUtf8_eq_some_iff {bytes : Bytes} {s : String} :
    fromUtf8 bytes = some s ↔ asBytes s = bytes := by
  unfold fromUtf8 String.fromUTF8? asBytes
  constructor
  · intro h
    split at h
    · rcases Option.some.inj h with rfl
      simp [String.fromUTF8]
    · cases h
  · rintro rfl
    have hvalid : s.toByteArray.IsValidUTF8 := s.isValidUTF8
    simp [String.fromUTF8, hvalid]

/-! ## TLS -/

/-- `while np + 3 <= 2 + list_len`: the entries of a server-name list. -/
def scanNames (ext : Bytes) (listLen np : Nat) (sni : Option String) :
    Outcome TransportParseError (Option String) :=
  if _h : np + 3 ≤ 2 + listLen then do
    let nameType ← index ext np
    let nameLen ← readU16Be ext (np + 1)
    let np' := np + 3
    reject (np' + nameLen.toNat > 2 + listLen ∨ np' + nameLen.toNat > ext.length) .malformed
    if nameType = 0 ∧ 0 < nameLen.toNat then
      let name ← slice ext np' (np' + nameLen.toNat)
      -- an invalid name leaves `sni` alone; either way the loop is left
      return (fromUtf8 name).or sni
    else
      scanNames ext listLen (np' + nameLen.toNat) sni
  else
    return sni
termination_by 2 + listLen - np

/-- The body of the extension loop for the extension at `pos`. -/
def scanServerName (body : Bytes) (pos : Nat) (extType : UInt16) (extLen : Nat)
    (sni : Option String) : Outcome TransportParseError (Option String) :=
  if extType = 0x0000 ∧ extLen ≥ 5 then do
    let ext ← slice body pos (pos + extLen)
    let listLen ← readU16Be ext 0
    reject (listLen.toNat + 2 > ext.length) .malformed
    scanNames ext listLen.toNat 2 sni
  else
    return sni

/-- `while pos + 4 <= extensions_end`: the extensions block. -/
def scanExtensions (body : Bytes) (extensionsEnd pos : Nat) (sni : Option String) :
    Outcome TransportParseError (Option String) :=
  if _h : pos + 4 ≤ extensionsEnd then do
    let extType ← readU16Be body pos
    let extLen ← readU16Be body (pos + 2)
    let pos' := pos + 4
    reject (pos' + extLen.toNat > extensionsEnd) .malformed
    let sni ← scanServerName body pos' extType extLen.toNat sni
    scanExtensions body extensionsEnd (pos' + extLen.toNat) sni
  else
    return sni
termination_by extensionsEnd - pos

/-- The fixed part of a ClientHello body: the bounds of its extensions block, or `none` when the
body ends with the cipher suites. -/
def extensionsBlock (body : Bytes) : Outcome TransportParseError (Option (Nat × Nat)) := do
  let sessionLen ← index body 34
  let pos := 35
  reject (pos + sessionLen.toNat > body.length) .malformed
  let pos := pos + sessionLen.toNat
  reject (pos + 2 > body.length) .malformed
  let cipherLen ← readU16Be body pos
  let pos := pos + 2
  reject (pos + cipherLen.toNat > body.length) .malformed
  let pos := pos + cipherLen.toNat
  -- a body may end here, before the compression methods
  if pos ≥ body.length then
    return none
  let compressionLen ← index body pos
  let pos := pos + 1
  reject (pos + compressionLen.toNat > body.length) .malformed
  let pos := pos + compressionLen.toNat
  reject (pos + 2 > body.length) .malformed
  let extensionsLen ← readU16Be body pos
  let pos := pos + 2
  reject (pos + extensionsLen.toNat > body.length) .malformed
  return some (pos, pos + extensionsLen.toNat)

/-- `analyze_tls_client_hello` from the handshake body on. -/
def analyzeClientHelloBody (body : Bytes) (handshakeLen : Nat) :
    Outcome TransportParseError TransportInfo := do
  reject (body.length < 34) .malformed
  let legacyVersion ← readU16Be body 0
  let block ← extensionsBlock body
  match block with
  | none =>
      return .tlsClientHello
        { legacyVersion := legacyVersion, sni := none, handshakeLen := handshakeLen }
  | some (pos, extensionsEnd) =>
      let sni ← scanExtensions body extensionsEnd pos none
      return .tlsClientHello
        { legacyVersion := legacyVersion, sni := sni, handshakeLen := handshakeLen }

/-- `analyze_tls_client_hello` from the handshake record on. -/
def analyzeHandshake (hs : Bytes) : Outcome TransportParseError TransportInfo := do
  if hs.length < 4 then
    return .unknown
  let handshakeType ← index hs 0
  -- a handshake of another kind is no error
  if handshakeType ≠ 0x01 then
    return .unknown
  let len1 ← index hs 1
  let len2 ← index hs 2
  let len3 ← index hs 3
  let handshakeLen := (len1.toNat <<< 16) ||| (len2.toNat <<< 8) ||| len3.toNat
  reject (handshakeLen > hs.length - 4) .truncated
  let body ← slice hs 4 (4 + handshakeLen)
  analyzeClientHelloBody body handshakeLen

def analyzeTlsClientHello (payload : Bytes) : Outcome TransportParseError TransportInfo := do
  reject (payload.length < 5) .truncated
  let contentType ← index payload 0
  -- a record that carries no handshake is no error
  if contentType ≠ 0x16 then
    return .unknown
  -- the record version is read and not used
  let _recordVersion ← readU16Be payload 1
  let recordLen ← readU16Be payload 3
  reject (recordLen.toNat > payload.length - 5) .truncated
  let hs ← slice payload 5 (5 + recordLen.toNat)
  analyzeHandshake hs

/-! ## QUIC -/

def analyzeQuicHeader (payload : Bytes) : Outcome TransportParseError TransportInfo := do
  reject (payload = []) .truncated
  let first ← index payload 0
  -- the form bit: short headers carry no version to report
  if first &&& 0x80 = 0 then
    return .unknown
  reject (payload.length < 6) .truncated
  let packetType := (first >>> 4) &&& 0x03
  let v1 ← index payload 1
  let v2 ← index payload 2
  let v3 ← index payload 3
  let v4 ← index payload 4
  let dcidLen ← index payload 5
  let pos := 6
  reject (dcidLen.toNat > 20 ∨ pos + dcidLen.toNat + 1 > payload.length) .malformed
  let pos := pos + dcidLen.toNat
  let scidLen ← index payload pos
  reject (scidLen.toNat > 20 ∨ pos + 1 + scidLen.toNat > payload.length) .malformed
  return .quicLongHeader
    { version := u32FromBeBytes v1 v2 v3 v4
      packetType := packetType
      destinationCidLen := dcidLen
      sourceCidLen := scidLen }

def analyzePayload (protocol : Protocol) (payload : Bytes) :
    Outcome TransportParseError TransportInfo :=
  match protocol with
  | .tcp => analyzeTlsClientHello payload
  | .udp => analyzeQuicHeader payload
  | .unknown => err .unsupported

/-! ## Layer by layer

The record and the handshake header consume their own bytes and hand the rest on. -/

/-- The 24-bit length of a handshake header is the big-endian value of its three bytes. -/
theorem handshakeLen_eq (a b c : UInt8) :
    (a.toNat <<< 16) ||| (b.toNat <<< 8) ||| c.toNat = beNat [a, b, c] := by
  have hb : b.toNat < 256 := b.toNat_lt
  have hc : c.toNat < 256 := c.toNat_lt
  -- the shifted parts do not overlap, so `|||` adds them
  have hlow : (b.toNat <<< 8) ||| c.toNat = b.toNat <<< 8 + c.toNat :=
    (Nat.shiftLeft_add_eq_or_of_lt (by omega) _).symm
  rw [Nat.or_assoc, hlow, ← Nat.shiftLeft_add_eq_or_of_lt]
  · simp [beNat, Nat.shiftLeft_eq]
    omega
  · rw [Nat.shiftLeft_eq]
    omega

theorem analyzeHandshake_short {hs : Bytes} (h : hs.length < 4) :
    analyzeHandshake hs = ok .unknown := by
  unfold analyzeHandshake
  rw [if_pos h]
  rfl

theorem analyzeHandshake_cons (a b c d : UInt8) (rest : Bytes) :
    analyzeHandshake (a :: b :: c :: d :: rest) =
      if a ≠ 1 then ok .unknown
      else if beNat [b, c, d] > rest.length then err .truncated
      else analyzeClientHelloBody (rest.take (beNat [b, c, d])) (beNat [b, c, d]) := by
  have hrun : analyzeHandshake (a :: b :: c :: d :: rest) =
      if a ≠ 1 then ok .unknown else
        reject (beNat [b, c, d] > rest.length) .truncated >>= fun _ =>
          slice (a :: b :: c :: d :: rest) 4 (4 + beNat [b, c, d]) >>= fun body =>
            analyzeClientHelloBody body (beNat [b, c, d]) := by
    rw [← handshakeLen_eq]
    rfl
  rw [hrun]
  by_cases hfit : beNat [b, c, d] > rest.length
  · rw [reject_of hfit, err_bind, if_pos hfit]
  · have hslice : (slice (a :: b :: c :: d :: rest) 4 (4 + beNat [b, c, d]) :
        Outcome TransportParseError Bytes) = ok (rest.take (beNat [b, c, d])) :=
      slice_append_take [a, b, c, d] rest (not_lt.1 hfit)
    rw [reject_of_not hfit, ok_bind, hslice, ok_bind, if_neg hfit]

theorem analyzeTlsClientHello_short {payload : Bytes} (h : payload.length < 5) :
    analyzeTlsClientHello payload = err .truncated := by
  unfold analyzeTlsClientHello
  rw [reject_of h, err_bind]

theorem analyzeTlsClientHello_cons (t v1 v2 l1 l2 : UInt8) (rest : Bytes) :
    analyzeTlsClientHello (t :: v1 :: v2 :: l1 :: l2 :: rest) =
      if t ≠ 0x16 then ok .unknown
      else if beNat [l1, l2] > rest.length then err .truncated
      else analyzeHandshake (rest.take (beNat [l1, l2])) := by
  have hrun : analyzeTlsClientHello (t :: v1 :: v2 :: l1 :: l2 :: rest) =
      if t ≠ 0x16 then ok .unknown else
        reject (beNat [l1, l2] > rest.length) .truncated >>= fun _ =>
          slice (t :: v1 :: v2 :: l1 :: l2 :: rest) 5 (5 + beNat [l1, l2]) >>= fun hs =>
            analyzeHandshake hs := by
    rw [← toNat_u16FromBeBytes]
    rfl
  rw [hrun]
  by_cases hfit : beNat [l1, l2] > rest.length
  · rw [reject_of hfit, err_bind, if_pos hfit]
  · have hslice : (slice (t :: v1 :: v2 :: l1 :: l2 :: rest) 5 (5 + beNat [l1, l2]) :
        Outcome TransportParseError Bytes) = ok (rest.take (beNat [l1, l2])) :=
      slice_append_take [t, v1, v2, l1, l2] rest (not_lt.1 hfit)
    rw [reject_of_not hfit, ok_bind, hslice, ok_bind, if_neg hfit]

/-- A record that is neither passed over nor cut short comes down to the body of a ClientHello. -/
theorem analyzeTlsClientHello_inv {payload : Bytes} {r : Outcome TransportParseError TransportInfo}
    (h : analyzeTlsClientHello payload = r) (hunknown : r ≠ ok .unknown)
    (htruncated : r ≠ err .truncated) :
    ∃ v1 v2 l1 l2 b c d rest n,
      payload = 0x16 :: v1 :: v2 :: l1 :: l2 :: 1 :: b :: c :: d :: rest ∧
      beNat [l1, l2] = n + 4 ∧ n ≤ rest.length ∧ beNat [b, c, d] ≤ n ∧
      analyzeClientHelloBody (rest.take (beNat [b, c, d])) (beNat [b, c, d]) = r := by
  -- peel the record header off, byte by byte
  have hmin : 5 ≤ payload.length := by
    by_contra hshort
    rw [analyzeTlsClientHello_short (by omega)] at h
    exact htruncated h.symm
  rcases payload with _ | ⟨t, _ | ⟨v1, _ | ⟨v2, _ | ⟨l1, _ | ⟨l2, rest⟩⟩⟩⟩⟩ <;> try simp at hmin
  rw [analyzeTlsClientHello_cons] at h
  split at h
  · exact absurd h.symm hunknown
  rename_i htype
  split at h
  · exact absurd h.symm htruncated
  rename_i hfit
  -- a record shorter than a handshake header is reported as unknown
  have hlong : 4 ≤ (rest.take (beNat [l1, l2])).length := by
    by_contra hshort
    rw [analyzeHandshake_short (by omega)] at h
    exact hunknown h.symm
  rcases rest with _ | ⟨a, _ | ⟨b, _ | ⟨c, _ | ⟨d, rest⟩⟩⟩⟩ <;> try simp at hlong
  obtain ⟨n, hn⟩ : ∃ n, beNat [l1, l2] = n + 4 := ⟨beNat [l1, l2] - 4, by omega⟩
  rw [hn] at h
  simp only [List.take_succ_cons] at h
  rw [analyzeHandshake_cons] at h
  split at h
  · exact absurd h.symm hunknown
  rename_i hhandshake
  split at h
  · exact absurd h.symm htruncated
  rename_i hbody
  simp only [List.length_cons] at hfit
  rw [List.length_take] at hbody
  have hinner : beNat [b, c, d] ≤ n := by
    omega
  rw [List.take_take, Nat.min_eq_left hinner] at h
  refine ⟨v1, v2, l1, l2, b, c, d, rest, n, ?_, hn, by omega, hinner, h⟩
  rw [not_not.1 htype, not_not.1 hhandshake]

/-! ## Which protocol reports what -/

theorem analyzeQuicHeader_ne_tls {payload : Bytes} {info : TlsClientHelloInfo} :
    analyzeQuicHeader payload ≠ ok (.tlsClientHello info) := by
  intro h
  simp only [analyzeQuicHeader, bind_eq_ok_iff] at h
  rcases h with ⟨_, _, first, _, h⟩
  split at h
  · cases h
  · simp [bind_eq_ok_iff] at h

theorem analyzeClientHelloBody_ne_quic {body : Bytes} {handshakeLen : Nat} {info : QuicHeaderInfo} :
    analyzeClientHelloBody body handshakeLen ≠ ok (.quicLongHeader info) := by
  intro h
  simp only [analyzeClientHelloBody, bind_eq_ok_iff] at h
  rcases h with ⟨_, _, _, _, block, _, h⟩
  split at h <;> simp [bind_eq_ok_iff] at h

theorem analyzeTlsClientHello_ne_quic {payload : Bytes} {info : QuicHeaderInfo} :
    analyzeTlsClientHello payload ≠ ok (.quicLongHeader info) := by
  intro h
  rcases analyzeTlsClientHello_inv h (by simp) (by simp) with
    ⟨_, _, _, _, _, _, _, _, _, _, _, _, _, hbody⟩
  exact analyzeClientHelloBody_ne_quic hbody

/-- ClientHellos are reported for TCP only. -/
theorem analyzePayload_tls {protocol : Protocol} {payload : Bytes} {info : TlsClientHelloInfo}
    (h : analyzePayload protocol payload = ok (.tlsClientHello info)) : protocol = .tcp := by
  cases protocol with
  | tcp =>
      rfl
  | udp =>
      exact absurd h analyzeQuicHeader_ne_tls
  | unknown =>
      cases h

/-- QUIC long headers are reported for UDP only. -/
theorem analyzePayload_quic {protocol : Protocol} {payload : Bytes} {info : QuicHeaderInfo}
    (h : analyzePayload protocol payload = ok (.quicLongHeader info)) : protocol = .udp := by
  cases protocol with
  | tcp =>
      exact absurd h analyzeTlsClientHello_ne_quic
  | udp =>
      rfl
  | unknown =>
      cases h

end Core
end FlyDpi
