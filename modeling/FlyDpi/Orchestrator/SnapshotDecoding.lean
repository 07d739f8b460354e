import FlyDpi.Lib.CLayout
import FlyDpi.Native.Observer
import FlyDpi.Orchestrator.Telemetry

/-!
# SnapshotDecoding — the Go decoder on the memory image of a snapshot

The decoder reads a packed record: ports at offsets 17 and 19, event code at 21, status at 25.  In
the C layout a padding byte stands at 17, the ports at 18 and 20, and both addresses before the
event type.  The main result says on which snapshots the two readings coincide; times before 1970
are lost in any case.
-/

namespace FlyDpi
namespace Orchestrator
namespace Telemetry

open Lib Lib.Bytes Lib.CLayout Native

/-! ## The memory image -/

/-- The fields of the snapshot with their x64 alignments, little-endian. -/
def snapshotFields (s : FlyDpiEventSnapshot) : List Field :=
  [⟨8, u64ToLeBytes s.timestamp100ns⟩, ⟨4, u32ToLeBytes s.flags⟩, ⟨4, u32ToLeBytes s.ipVersion⟩,
    ⟨1, [s.protocol]⟩, ⟨2, u16ToLeBytes s.localPort⟩, ⟨2, u16ToLeBytes s.remotePort⟩,
    ⟨1, s.localAddr.toList⟩, ⟨1, s.remoteAddr.toList⟩, ⟨4, u32ToLeBytes s.eventType⟩,
    ⟨4, u32ToLeBytes s.resultCode⟩, ⟨1, [s.hasLocalAddr]⟩, ⟨1, [s.hasRemoteAddr]⟩,
    ⟨1, [s.hasAppId]⟩, ⟨1, [s.reserved0]⟩, ⟨4, u32ToLeBytes s.appIdLength⟩,
    ⟨1, s.appIdPrefix.toList⟩]

/-- The C ABI memory image of a snapshot, for a given content of the padding bytes. -/
def snapshotImage (s : FlyDpiEventSnapshot) (padding : Nat → UInt8) : Bytes :=
  image padding (snapshotFields s)

/-- Up to the local address: one padding byte stands between the protocol and the ports. -/
theorem place_snapshotFields (s : FlyDpiEventSnapshot) (padding : Nat → UInt8) :
    place padding 0 (snapshotFields s) =
      u64ToLeBytes s.timestamp100ns ++ (u32ToLeBytes s.flags ++ (u32ToLeBytes s.ipVersion ++
        (s.protocol :: padding 17 :: (u16ToLeBytes s.localPort ++ (u16ToLeBytes s.remotePort ++
          (s.localAddr.toList ++ place padding 38 ((snapshotFields s).drop 7))))))) := by
  unfold snapshotFields
  rw [place_aligned (by simp [padTo]), place_aligned (by simp [padTo]), place_aligned (by simp [padTo]),
    place_aligned (by simp [padTo]), place_after_one (by simp [padTo]),
    place_aligned (by simp [padTo]), place_aligned (by simp [padTo])]
  simp

/-- The whole image is 136 bytes long. -/
theorem length_snapshotImage (s : FlyDpiEventSnapshot) (padding : Nat → UInt8) :
    (snapshotImage s padding).length = 136 := by
  simp [snapshotImage, image, snapshotFields, place, padTo, gap, maxAlign]

/-! ## Where the two layouts coincide -/

/-- The decoder succeeds and returns the fields of the snapshot. -/
def DecodesTo (s : FlyDpiEventSnapshot) (padding : Nat → UInt8) : Prop :=
  ∃ e, decodeSnapshot (snapshotImage s padding) = .ok e ∧
    IsUnixTime s.timestamp100ns e.timestamp ∧ e.ipVersion = s.ipVersion ∧
    e.protocol = protocolOf s.protocol ∧ e.localPort = s.localPort ∧
    e.remotePort = s.remotePort ∧ e.eventCode = s.eventType ∧ e.status = s.resultCode

/-- The bytes one position too early, or eight bytes of address too early, are the right ones: all
four bytes of the two ports equal the padding byte in front of them, the event type reads that byte
and the first three of the local address, and the result code the next four of it. -/
structure ShiftInvisible (s : FlyDpiEventSnapshot) (padding : Nat → UInt8) : Prop where
  localPort : u16ToLeBytes s.localPort = [padding 17, padding 17]
  remotePort : u16ToLeBytes s.remotePort = [padding 17, padding 17]
  eventType : u32ToLeBytes s.eventType = padding 17 :: s.localAddr.toList.take 3
  resultCode : u32ToLeBytes s.resultCode = (s.localAddr.toList.drop 3).take 4

theorem u16ToLeBytes_pair (v : UInt16) : ∃ lo hi, u16ToLeBytes v = [lo, hi] :=
  List.length_eq_two.1 (length_u16ToLeBytes v)

/-- What the decoder returns on an image. -/
theorem decodeSnapshot_image (s : FlyDpiEventSnapshot) (padding : Nat → UInt8)
    {lo hi lo' hi' : UInt8} (hlocal : u16ToLeBytes s.localPort = [lo, hi])
    (hremote : u16ToLeBytes s.remotePort = [lo', hi']) :
    decodeSnapshot (snapshotImage s padding) =
      .ok
        { timestamp := filetimeToTime s.timestamp100ns
          ipVersion := s.ipVersion
          protocol := protocolOf s.protocol
          direction := 0
          localPort := UInt16.ofNat (leNat [padding 17, lo])
          remotePort := UInt16.ofNat (leNat [hi, lo'])
          processId := 0
          eventCode := UInt32.ofNat (leNat (hi' :: s.localAddr.toList.take 3))
          status := UInt32.ofNat (leNat ((s.localAddr.toList.drop 3).take 4)) } := by
  obtain ⟨trail, htrail⟩ :
      ∃ trail, snapshotImage s padding = place padding 0 (snapshotFields s) ++ trail :=
    ⟨_, rfl⟩
  -- the decoder takes seven bytes of the local address for the event code and the status
  have haddr : ∀ rest : Bytes, s.localAddr.toList ++ rest =
      s.localAddr.toList.take 3 ++ ((s.localAddr.toList.drop 3).take 4 ++
        (s.localAddr.toList.drop 7 ++ rest)) := by
    intro rest
    have hdrop : (s.localAddr.toList.drop 3).drop 4 = s.localAddr.toList.drop 7 :=
      List.drop_drop
    rw [← hdrop, ← List.append_assoc ((s.localAddr.toList.drop 3).take 4), List.take_append_drop,
      ← List.append_assoc, List.take_append_drop]
  -- the image, cut where the decoder cuts it
  have himage : ∃ rest, snapshotImage s padding =
      u64ToLeBytes s.timestamp100ns ++ (u32ToLeBytes s.flags ++ (u32ToLeBytes s.ipVersion ++
        (s.protocol :: ([padding 17, lo] ++ ([hi, lo'] ++ ((hi' :: s.localAddr.toList.take 3) ++
          ((s.localAddr.toList.drop 3).take 4 ++ rest))))))) := by
    refine ⟨s.localAddr.toList.drop 7 ++ (place padding 38 ((snapshotFields s).drop 7) ++ trail), ?_⟩
    rw [htrail, place_snapshotFields, hlocal, hremote, haddr]
    simp
  rcases himage with ⟨rest, himage⟩
  have hversion : UInt32.ofNat (leNat (u32ToLeBytes s.ipVersion)) = s.ipVersion :=
    (u32OfLe_eq_iff (length_u32ToLeBytes _)).2 rfl
  rw [himage, decodeSnapshot_packed (by simp) (by simp) (by simp) rfl rfl (by simp) (by simp),
    u64OfLe_u64ToLeBytes, hversion]

/-- The decoder returns the fields of the snapshot exactly when its time is not before 1970 and the
shift between the two layouts cannot be seen. -/
theorem decodesTo_iff (s : FlyDpiEventSnapshot) (padding : Nat → UInt8) :
    DecodesTo s padding ↔
      116444736000000000 ≤ s.timestamp100ns.toNat ∧ ShiftInvisible s padding := by
  rcases u16ToLeBytes_pair s.localPort with ⟨lo, hi, hlocal⟩
  rcases u16ToLeBytes_pair s.remotePort with ⟨lo', hi', hremote⟩
  have hdecode := decodeSnapshot_image s padding hlocal hremote
  -- each field is right exactly when the bytes it was read from are its own encoding
  have hlocalIff : UInt16.ofNat (leNat [padding 17, lo]) = s.localPort ↔
      [padding 17, lo] = [lo, hi] := by
    rw [u16OfLe_eq_iff rfl, hlocal]
  have hremoteIff : UInt16.ofNat (leNat [hi, lo']) = s.remotePort ↔ [hi, lo'] = [lo', hi'] := by
    rw [u16OfLe_eq_iff rfl, hremote]
  have heventIff : UInt32.ofNat (leNat (hi' :: s.localAddr.toList.take 3)) = s.eventType ↔
      hi' :: s.localAddr.toList.take 3 = u32ToLeBytes s.eventType :=
    u32OfLe_eq_iff (by simp)
  have hstatusIff : UInt32.ofNat (leNat ((s.localAddr.toList.drop 3).take 4)) = s.resultCode ↔
      (s.localAddr.toList.drop 3).take 4 = u32ToLeBytes s.resultCode :=
    u32OfLe_eq_iff (by simp)
  constructor
  · rintro ⟨e, he, htime, _, _, hl, hr, hevent, hstatus⟩
    rw [hdecode] at he
    cases he
    refine ⟨(filetimeToTime_isUnixTime_iff _).1 htime, ?_⟩
    have hl' := hlocalIff.1 hl
    have hr' := hremoteIff.1 hr
    simp only [List.cons.injEq, and_true] at hl' hr'
    -- byte by byte the padding spreads over both ports
    rcases hl' with ⟨rfl, rfl⟩
    rcases hr' with ⟨rfl, rfl⟩
    exact ⟨hlocal, hremote, (heventIff.1 hevent).symm, (hstatusIff.1 hstatus).symm⟩
  · rintro ⟨hepoch, h⟩
    refine ⟨_, hdecode, (filetimeToTime_isUnixTime_iff _).2 hepoch, rfl, rfl, hlocalIff.2 ?_,
      hremoteIff.2 ?_, heventIff.2 ?_, hstatusIff.2 h.resultCode.symm⟩
    · have hbytes := hlocal.symm.trans h.localPort
      simp only [List.cons.injEq, and_true] at hbytes
      rw [hbytes.1, hbytes.2]
    · have hbytes := hlocal.symm.trans h.localPort
      have hbytes' := hremote.symm.trans h.remotePort
      simp only [List.cons.injEq, and_true] at hbytes hbytes'
      rw [hbytes.2, hbytes'.1, hbytes'.2]
    · have hbytes' := hremote.symm.trans h.remotePort
      simp only [List.cons.injEq, and_true] at hbytes'
      rw [hbytes'.2, h.eventType]

/-- A TCP snapshot from port 51732 to port 443. -/
def portsSnapshot : FlyDpiEventSnapshot :=
  { FlyDpiEventSnapshot.zero with
    timestamp100ns := 133000000000000000
    ipVersion := 4
    protocol := 6
    localPort := 51732
    remotePort := 443
    eventType := 1 }

theorem portsSnapshot_misread :
    ¬ ∀ (s : FlyDpiEventSnapshot) (padding : Nat → UInt8), DecodesTo s padding := by
  intro h
  have hlocal : u16ToLeBytes portsSnapshot.localPort = [0x14, 0xca] := by
    decide
  have hremote : u16ToLeBytes portsSnapshot.remotePort = [0xbb, 0x01] := by
    decide
  rcases h portsSnapshot (fun _ => 0) with ⟨e, he, _, _, _, hport, _⟩
  rw [decodeSnapshot_image portsSnapshot _ hlocal hremote] at he
  cases he
  -- the local port is read from the padding byte and its own low byte
  exact absurd hport (by decide)

end Telemetry
end Orchestrator
end FlyDpi
