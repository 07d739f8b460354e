import FlyDpi.Core.FlowAnalyzer

/-!
# TransportBounds — which payloads the analyzer can read

Every read of the QUIC header and of the TLS loops is bounded by a guard in front of it.  One read
is not: the session id length, at offset 34 of a ClientHello body, is guarded by `body.len() < 34`.
The main result says that this is the only way to leave a slice: the analysis panics exactly on the
ClientHello messages whose declared body stops right after the random bytes.
-/

namespace FlyDpi
namespace Core

open Lib Lib.Bytes Lib.Outcome

/-! ## The loops stay inside their slices -/

theorem scanNames_ne_panic (ext : Bytes) (listLen np : Nat) (sni : Option String)
    (hlist : 2 + listLen ≤ ext.length) : scanNames ext listLen np sni ≠ panic := by
  fun_induction scanNames ext listLen np sni with
  | case1 np h ih =>
      -- the loop guard pays for the entry header, `hbounds` for the name behind it
      refine index_bind_ne_panic (by omega) fun nameType _ => ?_
      refine readU16Be_bind_ne_panic (by omega) fun nameLen _ => ?_
      refine reject_bind_ne_panic fun hbounds => ?_
      split
      · refine slice_bind_ne_panic (by omega) (by omega) ?_
        simp
      · exact ih nameLen
  | case2 np h =>
      simp

theorem scanServerName_ne_panic {body : Bytes} {pos extLen : Nat} (extType : UInt16)
    (sni : Option String) (hext : pos + extLen ≤ body.length) :
    scanServerName body pos extType extLen sni ≠ panic := by
  unfold scanServerName
  split
  · rename_i hname
    refine slice_bind_ne_panic (by omega) hext ?_
    -- inside the slice `5 ≤ ext_len` pays for the list length
    have hlen : ((body.take (pos + extLen)).drop pos).length = extLen := by
      simp
      omega
    refine readU16Be_bind_ne_panic (by omega) fun listLen _ => ?_
    refine reject_bind_ne_panic fun hlist => ?_
    exact scanNames_ne_panic _ _ _ _ (by omega)
  · simp

theorem scanExtensions_ne_panic (body : Bytes) (extensionsEnd pos : Nat) (sni : Option String)
    (hend : extensionsEnd ≤ body.length) : scanExtensions body extensionsEnd pos sni ≠ panic := by
  fun_induction scanExtensions body extensionsEnd pos sni with
  | case1 pos sni h ih =>
      refine readU16Be_bind_ne_panic (by omega) fun extType _ => ?_
      refine readU16Be_bind_ne_panic (by omega) fun extLen _ => ?_
      refine reject_bind_ne_panic fun hbounds => ?_
      refine bind_ne_panic_iff.2 ⟨scanServerName_ne_panic extType sni (by omega), ?_⟩
      intro sni' _
      exact ih extLen sni'
  | case2 pos sni h =>
      simp

/-! ## The fixed part of the body -/

theorem extensionsBlock_ne_panic {body : Bytes} (h : 35 ≤ body.length) :
    extensionsBlock body ≠ panic := by
  unfold extensionsBlock
  -- the read that only `35 ≤ body.len()` covers
  refine index_bind_ne_panic (by omega) fun sessionLen _ => ?_
  refine reject_bind_ne_panic fun hsession => ?_
  refine reject_bind_ne_panic fun hcipherLen => ?_
  refine readU16Be_bind_ne_panic (by omega) fun cipherLen _ => ?_
  refine reject_bind_ne_panic fun hcipher => ?_
  dsimp only
  split
  · simp
  · refine index_bind_ne_panic (by omega) fun compressionLen _ => ?_
    refine reject_bind_ne_panic fun hcompression => ?_
    refine reject_bind_ne_panic fun hextensionsLen => ?_
    refine readU16Be_bind_ne_panic (by omega) fun extensionsLen _ => ?_
    refine reject_bind_ne_panic fun hextensions => ?_
    simp

/-- The declared extensions block lies inside the body. -/
theorem extensionsBlock_le {body : Bytes} {pos extensionsEnd : Nat}
    (h : extensionsBlock body = ok (some (pos, extensionsEnd))) : extensionsEnd ≤ body.length := by
  simp only [extensionsBlock, bind_eq_ok_iff, reject_eq_ok_iff] at h
  rcases h with ⟨sessionLen, _, _, _, _, _, cipherLen, _, _, _, h⟩
  split at h
  · simp at h
  · simp only [bind_eq_ok_iff, reject_eq_ok_iff, pure_eq_ok, ok.injEq, Option.some.injEq,
      Prod.mk.injEq] at h
    rcases h with ⟨compressionLen, _, _, _, _, _, extensionsLen, _, _, hbounds, rfl, rfl⟩
    omega

theorem analyzeClientHelloBody_ne_panic_iff {body : Bytes} {handshakeLen : Nat} :
    analyzeClientHelloBody body handshakeLen ≠ panic ↔ body.length ≠ 34 := by
  constructor
  · -- 34 bytes pass the length check and end right before the session id length
    intro h hlen
    apply h
    have hblock : extensionsBlock body = panic := by
      have hindex : (index body 34 : Outcome TransportParseError UInt8) = panic := by
        unfold index
        rw [List.getElem?_eq_none (by omega)]
      unfold extensionsBlock
      rw [hindex, panic_bind]
    have hread : ∃ v, (readU16Be body 0 : Outcome TransportParseError UInt16) = ok v :=
      exists_readU16Be (by omega)
    rcases hread with ⟨legacyVersion, hlegacy⟩
    unfold analyzeClientHelloBody
    rw [reject_of_not (by omega), ok_bind, hlegacy, ok_bind, hblock, panic_bind]
  · -- a shorter body is rejected, a longer one has the byte
    intro hlen
    unfold analyzeClientHelloBody
    refine reject_bind_ne_panic fun hmin => ?_
    refine readU16Be_bind_ne_panic (by omega) fun legacyVersion _ => ?_
    refine bind_ne_panic_iff.2 ⟨extensionsBlock_ne_panic (by omega), ?_⟩
    intro block hblock
    cases block with
    | none =>
        simp
    | some bounds =>
        rcases bounds with ⟨pos, extensionsEnd⟩
        refine bind_ne_panic_iff.2 ⟨?_, fun sni _ => by simp⟩
        exact scanExtensions_ne_panic _ _ _ _ (extensionsBlock_le hblock)

/-! ## The record and handshake layers -/

/-- A TLS record whose handshake message is a ClientHello that declares a body of exactly 34
bytes: the version and the random bytes, and nothing after them. -/
def CutAfterRandom (payload : Bytes) : Prop :=
  ∃ (recordVersion recordLen : UInt16) (rest : Bytes),
    payload =
      0x16 :: (u16ToBeBytes recordVersion ++ (u16ToBeBytes recordLen ++ (1 :: 0 :: 0 :: 34 :: rest))) ∧
    38 ≤ recordLen.toNat ∧ recordLen.toNat ≤ rest.length + 4

theorem beNat_eq_34_iff {b c d : UInt8} : beNat [b, c, d] = 34 ↔ [b, c, d] = [0, 0, 34] := by
  constructor
  · intro h
    rw [← beBytes_beNat [b, c, d], h]
    rfl
  · intro h
    rw [h]
    rfl

theorem analyzeTlsClientHello_eq_panic_iff {payload : Bytes} :
    analyzeTlsClientHello payload = panic ↔ CutAfterRandom payload := by
  constructor
  · intro h
    rcases analyzeTlsClientHello_inv h (by simp) (by simp) with
      ⟨v1, v2, l1, l2, b, c, d, rest, n, rfl, hn, hfit, hinner, hbody⟩
    -- the body is as long as declared, so the panic fixes the declared length
    have hlen : (rest.take (beNat [b, c, d])).length = beNat [b, c, d] := by
      rw [List.length_take]
      omega
    have hdeclared : beNat [b, c, d] = 34 := by
      rw [← hlen]
      by_contra hne
      exact analyzeClientHelloBody_ne_panic_iff.2 hne hbody
    refine ⟨u16FromBeBytes v1 v2, u16FromBeBytes l1 l2, rest, ?_, ?_, ?_⟩
    · rw [u16ToBeBytes_fromBeBytes, u16ToBeBytes_fromBeBytes]
      simpa using beNat_eq_34_iff.1 hdeclared
    · rw [toNat_u16FromBeBytes]
      omega
    · rw [toNat_u16FromBeBytes]
      omega
  · rintro ⟨recordVersion, recordLen, rest, rfl, hmin, hfit⟩
    have hlen : beNat [UInt8.ofNat (recordLen.toNat / 256), UInt8.ofNat recordLen.toNat] =
        recordLen.toNat := by
      rw [← toNat_u16FromBeBytes, u16FromBeBytes_toBytes]
    obtain ⟨n, hn⟩ : ∃ n, recordLen.toNat = n + 4 := ⟨recordLen.toNat - 4, by omega⟩
    simp only [u16ToBeBytes_eq, List.cons_append, List.nil_append]
    rw [analyzeTlsClientHello_cons, if_neg (by simp), hlen, if_neg (by simp; omega), hn]
    simp only [List.take_succ_cons]
    have hdeclared : beNat [0, 0, 34] = 34 := rfl
    rw [analyzeHandshake_cons, if_neg (by simp), hdeclared, if_neg (by simp; omega)]
    -- both headers pass, and the body they hand on is 34 bytes long
    by_contra hreturns
    refine analyzeClientHelloBody_ne_panic_iff.1 hreturns ?_
    simp
    omega

theorem analyzeQuicHeader_ne_panic (payload : Bytes) : analyzeQuicHeader payload ≠ panic := by
  unfold analyzeQuicHeader
  refine reject_bind_ne_panic fun hempty => ?_
  -- the connection id checks count the length byte that follows, so the next read is covered
  have hpos : 0 < payload.length := List.length_pos_iff.2 hempty
  refine index_bind_ne_panic hpos fun first _ => ?_
  split
  · simp
  · refine reject_bind_ne_panic fun hmin => ?_
    refine index_bind_ne_panic (by omega) fun v1 _ => ?_
    refine index_bind_ne_panic (by omega) fun v2 _ => ?_
    refine index_bind_ne_panic (by omega) fun v3 _ => ?_
    refine index_bind_ne_panic (by omega) fun v4 _ => ?_
    refine index_bind_ne_panic (by omega) fun dcidLen _ => ?_
    refine reject_bind_ne_panic fun hdcid => ?_
    refine index_bind_ne_panic (by omega) fun scidLen _ => ?_
    refine reject_bind_ne_panic fun hscid => ?_
    simp

theorem analyzePayload_eq_panic_iff {protocol : Protocol} {payload : Bytes} :
    analyzePayload protocol payload = panic ↔ protocol = .tcp ∧ CutAfterRandom payload := by
  cases protocol with
  | tcp =>
      simpa [analyzePayload] using analyzeTlsClientHello_eq_panic_iff
  | udp =>
      simpa [analyzePayload] using analyzeQuicHeader_ne_panic payload
  | unknown =>
      simp [analyzePayload]

/-! ## The observer -/

theorem observePacket_eq_panic_iff {a : FlowSessionAnalyzer} {packet : PacketMeta}
    {payload : Bytes} {now : Instant} :
    a.observePacket packet payload now = panic ↔
      analyzePayload packet.flow.protocol payload = panic := by
  unfold FlowSessionAnalyzer.observePacket observedInfo
  cases analyzePayload packet.flow.protocol payload <;> simp

/-- The payload analysis, and with it the observation of a packet, returns exactly when the packet
does not carry a ClientHello cut after its random bytes over TCP. -/
theorem observation_returns_iff (a : FlowSessionAnalyzer) (packet : PacketMeta) (payload : Bytes)
    (now : Instant) :
    (analyzePayload packet.flow.protocol payload ≠ panic ∧
        a.observePacket packet payload now ≠ panic) ↔
      ¬ (packet.flow.protocol = .tcp ∧ CutAfterRandom payload) := by
  rw [ne_eq, ne_eq, observePacket_eq_panic_iff, and_self, analyzePayload_eq_panic_iff]

/-- The smallest such record: a 34-byte body of zeros. -/
def cutClientHello : Bytes :=
  [0x16, 3, 1, 0, 38, 1, 0, 0, 34] ++ List.replicate 34 0

/-- The packet that carries it. -/
def cutClientHelloPacket : PacketMeta :=
  { flow :=
      { protocol := .tcp
        remoteIp := zeroPadded [1, 1, 1, 1]
        remotePort := 443
        localPort := 50000 }
    direction := .outbound
    payloadLen := 43
    tcpFlags := 0x18 }

theorem cutClientHello_panics :
    ¬ ∀ (a : FlowSessionAnalyzer) (packet : PacketMeta) (payload : Bytes) (now : Instant),
      analyzePayload packet.flow.protocol payload ≠ panic ∧
        a.observePacket packet payload now ≠ panic := by
  intro h
  have hpanic : analyzePayload .tcp cutClientHello = panic := by
    decide
  exact (h FlowSessionAnalyzer.new cutClientHelloPacket cutClientHello 0).1 hpanic

end Core
end FlyDpi
