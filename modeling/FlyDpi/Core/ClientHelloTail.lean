import FlyDpi.Core.ClientHelloWire

/-!
# ClientHelloTail — where the analyzer lets a ClientHello end

The `extensions` field of a ClientHello may be absent, `compression_methods` may not.  The analyzer
tests for the end of the body one field early: before the compression methods instead of behind
them.  A body is split into `HelloStart`, the fields up to the cipher suites, and what follows.
-/

namespace FlyDpi
namespace Core

open Lib Lib.Bytes Lib.Outcome

/-- The fields of a ClientHello up to the cipher suites. -/
structure HelloStartFields where
  legacyVersion : UInt16
  random : Bytes
  sessionId : Bytes
  cipherSuites : Bytes

def HelloStartFields.bytes (f : HelloStartFields) : Bytes :=
  u16ToBeBytes f.legacyVersion ++ (f.random ++ (vec8 f.sessionId ++ vec16 f.cipherSuites))

structure HelloStart extends HelloStartFields where
  random_length : toHelloStartFields.random.length = 32
  sessionId_le : toHelloStartFields.sessionId.length ≤ 255
  fits : toHelloStartFields.bytes.length + 4 ≤ 65535

namespace HelloStart

variable (start : HelloStart)

theorem length_bytes :
    start.bytes.length = 37 + start.sessionId.length + start.cipherSuites.length := by
  simp [HelloStartFields.bytes, start.random_length]
  omega

/-- Where the version and the length fields stand, whatever follows. -/
theorem layout (rest : Bytes) :
    At (start.bytes ++ rest) 0 (u16ToBeBytes start.legacyVersion) ∧
    (start.bytes ++ rest)[34]? = some (UInt8.ofNat start.sessionId.length) ∧
    At (start.bytes ++ rest) (35 + start.sessionId.length)
      (u16ToBeBytes (UInt16.ofNat start.cipherSuites.length)) := by
  have hat : At (start.bytes ++ rest) 0 start.bytes := At.of_append _ _
  -- Name the body, so that unfolding its layout leaves the buffer alone.
  generalize start.bytes ++ rest = body at hat ⊢
  simp only [HelloStartFields.bytes, vec8, vec16, At.append_iff, At.cons_iff,
    length_u16ToBeBytes, start.random_length, List.length_cons] at hat
  rcases hat with ⟨hversion, _, ⟨hsession, _⟩, hcipher, _⟩
  refine ⟨hversion, hsession, ?_⟩
  convert hcipher using 1
  omega

/-- The end-of-body test follows the cipher suites. -/
theorem extensionsBlock_append (rest : Bytes) :
    extensionsBlock (start.bytes ++ rest) =
      if rest = [] then ok none
      else blockBehindCipherSuites (start.bytes ++ rest) start.bytes.length := by
  have hlength := start.length_bytes
  have hfits := start.fits
  have hbody : (start.bytes ++ rest).length = start.bytes.length + rest.length :=
    List.length_append
  rcases start.layout rest with ⟨_, hsessionAt, hcipherAt⟩
  rw [extensionsBlock_eq hsessionAt start.sessionId_le hcipherAt (by omega) (by omega), ← hlength]
  by_cases hend : rest = []
  · rw [if_pos hend, if_pos (by simp [hend])]
  · have hmore : 0 < rest.length := List.length_pos_iff.2 hend
    rw [if_neg hend, if_neg (by omega)]

theorem analyzeClientHelloBody_append (rest : Bytes) (handshakeLen : Nat) :
    analyzeClientHelloBody (start.bytes ++ rest) handshakeLen =
      (extensionsBlock (start.bytes ++ rest) >>= fun block =>
        match block with
        | none => ok (.tlsClientHello
            { legacyVersion := start.legacyVersion, sni := none, handshakeLen := handshakeLen })
        | some (pos, extensionsEnd) =>
            scanExtensions (start.bytes ++ rest) extensionsEnd pos none >>= fun sni =>
              ok (.tlsClientHello
                { legacyVersion := start.legacyVersion, sni := sni
                  handshakeLen := handshakeLen })) := by
  have hlength := start.length_bytes
  have hlong : ¬ (start.bytes ++ rest).length < 34 := by
    rw [List.length_append]
    omega
  unfold analyzeClientHelloBody
  rw [reject_of_not hlong, ok_bind, readU16Be_eq_ok_iff.2 (start.layout rest).1, ok_bind]
  rfl

/-- A body that ends with the cipher suites is taken for a complete ClientHello. -/
theorem analyzeClientHelloBody_bytes (handshakeLen : Nat) :
    analyzeClientHelloBody start.bytes handshakeLen =
      ok (.tlsClientHello
        { legacyVersion := start.legacyVersion, sni := none, handshakeLen := handshakeLen }) := by
  have hrun := start.analyzeClientHelloBody_append [] handshakeLen
  rw [start.extensionsBlock_append, if_pos rfl, List.append_nil] at hrun
  exact hrun

theorem blockBehindCipherSuites_vec8 {compressionMethods : Bytes}
    (hle : compressionMethods.length ≤ 255) :
    blockBehindCipherSuites (start.bytes ++ vec8 compressionMethods) start.bytes.length =
      err .malformed := by
  have hbody : (start.bytes ++ vec8 compressionMethods).length =
      start.bytes.length + (1 + compressionMethods.length) := by
    simp
  have hcompression :
      (UInt8.ofNat compressionMethods.length).toNat = compressionMethods.length :=
    UInt8.toNat_ofNat_of_lt' (Nat.lt_succ_of_le hle)
  have hat : (start.bytes ++ vec8 compressionMethods)[start.bytes.length]? =
      some (UInt8.ofNat compressionMethods.length) := by
    simp [vec8]
  unfold blockBehindCipherSuites
  rw [index_eq_ok_iff.2 hat, ok_bind]
  simp only [hcompression]
  -- the list of methods fits, the length of the extensions is missing
  rw [reject_of_not (by omega), ok_bind, reject_of (by omega), err_bind]

/-- A body that ends with the compression methods is rejected. -/
theorem analyzeClientHelloBody_compressionMethods {compressionMethods : Bytes}
    (hle : compressionMethods.length ≤ 255) (handshakeLen : Nat) :
    analyzeClientHelloBody (start.bytes ++ vec8 compressionMethods) handshakeLen =
      err .malformed := by
  rw [start.analyzeClientHelloBody_append, start.extensionsBlock_append, if_neg (by simp [vec8]),
    start.blockBehindCipherSuites_vec8 hle, err_bind]

/-! ## Whole records -/

theorem analyze_endsBehindCompressionMethods {compressionMethods : Bytes}
    (hle : compressionMethods.length ≤ 255)
    (hfits : (start.bytes ++ vec8 compressionMethods).length + 4 ≤ 65535)
    (recordVersion : UInt16) (trailing : Bytes) :
    analyzeTlsClientHello
        (helloRecord (start.bytes ++ vec8 compressionMethods) recordVersion ++ trailing) =
      err .malformed := by
  rw [analyzeTlsClientHello_helloRecord hfits]
  exact start.analyzeClientHelloBody_compressionMethods hle _

theorem analyze_endsBehindCipherSuites (recordVersion : UInt16) (trailing : Bytes) :
    analyzeTlsClientHello (helloRecord start.bytes recordVersion ++ trailing) =
      ok (.tlsClientHello
        { legacyVersion := start.legacyVersion
          sni := none
          handshakeLen := start.bytes.length }) := by
  rw [analyzeTlsClientHello_helloRecord start.fits]
  exact start.analyzeClientHelloBody_bytes _

end HelloStart

/-- The payload is read as a ClientHello without a host name. -/
def ReadWithoutHost (payload : Bytes) : Prop :=
  ∃ info, analyzeTlsClientHello payload = ok (.tlsClientHello info) ∧ info.sni = none

theorem not_readWithoutHost {payload : Bytes} (h : analyzeTlsClientHello payload = err .malformed) :
    ¬ ReadWithoutHost payload := by
  rintro ⟨info, hread, _⟩
  rw [h] at hread
  cases hread

/-- Every ClientHello without extensions is rejected, and every message that breaks off before its
compression methods is accepted. -/
theorem helloTail_misplaced (start : HelloStart) (recordVersion : UInt16) (trailing : Bytes) :
    (∀ compressionMethods : Bytes, compressionMethods.length ≤ 255 →
      (start.bytes ++ vec8 compressionMethods).length + 4 ≤ 65535 →
        ¬ ReadWithoutHost
          (helloRecord (start.bytes ++ vec8 compressionMethods) recordVersion ++ trailing) ∧
        analyzeTlsClientHello
            (helloRecord (start.bytes ++ vec8 compressionMethods) recordVersion ++ trailing) =
          err .malformed) ∧
    analyzeTlsClientHello (helloRecord start.bytes recordVersion ++ trailing) ≠ err .malformed ∧
    analyzeTlsClientHello (helloRecord start.bytes recordVersion ++ trailing) =
      ok (.tlsClientHello
        { legacyVersion := start.legacyVersion
          sni := none
          handshakeLen := start.bytes.length }) := by
  have hcut := start.analyze_endsBehindCipherSuites recordVersion trailing
  refine ⟨fun compressionMethods hle hfits => ?_, ?_, hcut⟩
  · have hwhole := start.analyze_endsBehindCompressionMethods hle hfits recordVersion trailing
    exact ⟨not_readWithoutHost hwhole, hwhole⟩
  · rw [hcut]
    simp

/-- Version 1.2, no session id, the suite `TLS_AES_128_GCM_SHA256`. -/
def minimalStart : HelloStart where
  legacyVersion := 0x0303
  random := List.replicate 32 0
  sessionId := []
  cipherSuites := [0x13, 0x01]
  random_length := by decide
  sessionId_le := by decide
  fits := by decide

theorem helloTail_misplaced_minimal :
    analyzeTlsClientHello (helloRecord (minimalStart.bytes ++ vec8 [0]) 0x0301 ++ []) =
      err .malformed :=
  ((helloTail_misplaced minimalStart 0x0301 []).1 [0] (by decide) (by decide)).2

/-- The legal message is rejected, the illegal one accepted. -/
theorem minimalHello_misread :
    ¬ ReadWithoutHost (helloRecord (minimalStart.bytes ++ vec8 [0]) 0x0301) ∧
    analyzeTlsClientHello (helloRecord minimalStart.bytes 0x0301) ≠ err .malformed := by
  have hwhole := @HelloStart.analyze_endsBehindCompressionMethods minimalStart [0] (by decide)
    (by decide) 0x0301 []
  have hcut := minimalStart.analyze_endsBehindCipherSuites 0x0301 []
  rw [List.append_nil] at hwhole hcut
  refine ⟨not_readWithoutHost hwhole, ?_⟩
  rw [hcut]
  simp

end Core
end FlyDpi
