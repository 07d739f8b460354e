import FlyDpi.Core.FlowTable
import FlyDpi.Core.WfpBridge

/-!
# AddressFamilies — IPv4 and IPv6 flows in one table

A flow key carries sixteen address bytes and no version, and both formatters guess the family from
the last twelve of them.  The native adapter zeroes these bytes for IPv4, so an IPv6 address is told
from an IPv4 address only if one of them is not zero.
-/

namespace FlyDpi
namespace Core

open Lib Native

/-! ## The two text forms -/

/-- A dotted quad has no colon. -/
theorem colon_not_mem_dottedQuad (a b c d : UInt8) : ':' ∉ (dottedQuad a b c d).toList := by
  have hdigits : ∀ n : Nat, ':' ∉ Nat.toDigits 10 n := by
    intro n hmem
    have hdigit : (':').isDigit := Nat.isDigit_of_mem_toDigits (by decide) (by decide) hmem
    exact absurd hdigit (by decide)
  simp [dottedQuad, hdigits, ToString.toString]

namespace Ipv6Addr

theorem colon_mem_fmtSubslice {chunk : List UInt16} (h : 2 ≤ chunk.length) :
    ':' ∈ (fmtSubslice chunk).toList := by
  match chunk, h with
  | a :: b :: rest, _ =>
      simp [fmtSubslice]

/-- An IPv6 text has a colon, whichever of its three forms it takes. -/
theorem colon_mem_display (addr : IpBytes) : ':' ∈ (display addr).toList := by
  have hmapped : ':' ∈ ("::ffff:").toList := by
    decide
  have hspan : ':' ∈ ("::").toList := by
    decide
  unfold display
  simp only
  split
  · rw [String.toList_append]
    exact List.mem_append_left _ hmapped
  · split
    · rw [String.toList_append, String.toList_append]
      exact List.mem_append_left _ (List.mem_append_right _ hspan)
    · refine colon_mem_fmtSubslice ?_
      simp [segments]

theorem display_ne_dottedQuad (addr : IpBytes) (a b c d : UInt8) :
    display addr ≠ dottedQuad a b c d := by
  intro h
  have hcolon := colon_mem_display addr
  rw [h] at hcolon
  exact colon_not_mem_dottedQuad a b c d hcolon

end Ipv6Addr

/-! ## Snapshots and their families -/

/-- The twelve bytes that an IPv4 address leaves unused. -/
def TailZero (addr : IpBytes) : Prop :=
  (addr.toList.drop 4).all (fun b => b == 0)

instance (addr : IpBytes) : Decidable (TailZero addr) :=
  inferInstanceAs (Decidable (_ = true))

/-- The layout of the native adapter: IPv4 in the first four bytes, with zeros behind. -/
def LaidOut (snapshot : WfpEventSnapshot) : Prop :=
  snapshot.ipVersion = 4 → TailZero snapshot.remoteAddr

instance (snapshot : WfpEventSnapshot) : Decidable (LaidOut snapshot) :=
  inferInstanceAs (Decidable (_ → _))

/-- The text shows the family that the snapshot says. -/
structure TextFits (snapshot : WfpEventSnapshot) (text : String) : Prop where
  v4 : text = ipv4Text snapshot.remoteAddr ↔ snapshot.ipVersion = 4
  v6 : text = Ipv6Addr.display snapshot.remoteAddr ↔ snapshot.ipVersion = 6

/-- Both texts of a snapshot fit its family: that of its event, and that of its flow in whatever
table it is fed to. -/
structure TextsFit (snapshot : WfpEventSnapshot) : Prop where
  event : ∃ event, snapshotToEvent snapshot = some event ∧ TextFits snapshot event.remoteAddr
  context : ∀ ops packet now, snapshotToMeta snapshot = some packet →
    ∃ entry, (feedSnapshot (Datapath.run ops) snapshot now).2.flow packet.flow = some entry ∧
      TextFits snapshot entry.context.remoteAddr

/-- The remote and local ends of two snapshots agree, the address family included. -/
structure SameEndpoints (s t : WfpEventSnapshot) : Prop where
  ipVersion : s.ipVersion = t.ipVersion
  protocol : s.protocol = t.protocol
  remoteAddr : s.remoteAddr = t.remoteAddr
  remotePort : s.remotePort = t.remotePort
  localPort : s.localPort = t.localPort

/-- An IPv6 snapshot whose address cannot be taken for an IPv4 address. -/
def FamilyVisible (snapshot : WfpEventSnapshot) : Prop :=
  snapshot.ipVersion = 6 → ¬ TailZero snapshot.remoteAddr

theorem addressText_of_tailZero {addr : IpBytes} (h : TailZero addr) :
    addressText addr = ipv4Text addr :=
  if_pos h

theorem addressText_of_not_tailZero {addr : IpBytes} (h : ¬ TailZero addr) :
    addressText addr = Ipv6Addr.display addr :=
  if_neg h

/-- The text both formatters write fits exactly when the family is visible in the address. -/
theorem textFits_addressText_iff {snapshot : WfpEventSnapshot} (haccepted : Accepted snapshot)
    (hlaid : LaidOut snapshot) :
    TextFits snapshot (addressText snapshot.remoteAddr) ↔ FamilyVisible snapshot := by
  constructor
  · intro hfits hversion htail
    have h4 := hfits.v4.1 (addressText_of_tailZero htail)
    rw [hversion] at h4
    exact absurd h4 (by decide)
  · intro hvisible
    rcases haccepted.version with h4 | h6
    · have htext := addressText_of_tailZero (hlaid h4)
      constructor
      · simp [htext, h4]
      · have hne : ipv4Text snapshot.remoteAddr ≠ Ipv6Addr.display snapshot.remoteAddr :=
          (Ipv6Addr.display_ne_dottedQuad _ _ _ _ _).symm
        simp [htext, h4, hne]
    · have htext := addressText_of_not_tailZero (hvisible h6)
      constructor
      · have hne : Ipv6Addr.display snapshot.remoteAddr ≠ ipv4Text snapshot.remoteAddr :=
          Ipv6Addr.display_ne_dottedQuad _ _ _ _ _
        simp [htext, h6, hne]
      · simp [htext, h6]

theorem accepted_of_isSome {snapshot : WfpEventSnapshot} (h : (snapshotToMeta snapshot).isSome) :
    Accepted snapshot := by
  by_contra hnot
  rw [snapshotToMeta_of_not_accepted hnot] at h
  exact absurd h (by decide)

/-- Feeding an accepted snapshot is one more call of `on_packet`. -/
theorem feedSnapshot_run {snapshot : WfpEventSnapshot} (h : Accepted snapshot)
    (ops : List DatapathOp) (now : Instant) :
    (feedSnapshot (Datapath.run ops) snapshot now).2 =
      Datapath.run (ops ++ [.packet ⟨acceptedPacket snapshot, now⟩]) := by
  rw [feedSnapshot_of_accepted h, Datapath.run_concat]
  rfl

/-- Whatever the table held before, the flow of an accepted snapshot carries the text of its
address. -/
theorem remoteAddr_feedSnapshot {snapshot : WfpEventSnapshot} (h : Accepted snapshot)
    (ops : List DatapathOp) (now : Instant) {entry : FlowState}
    (hentry : (feedSnapshot (Datapath.run ops) snapshot now).2.flow (acceptedPacket snapshot).flow =
      some entry) : entry.context.remoteAddr = addressText snapshot.remoteAddr := by
  rw [feedSnapshot_run h] at hentry
  exact (Datapath.flowAccount_of_flow hentry).remoteAddr

theorem flow_feedSnapshot_isSome {snapshot : WfpEventSnapshot} (h : Accepted snapshot)
    (datapath : Datapath) (now : Instant) :
    ((feedSnapshot datapath snapshot now).2.flow (acceptedPacket snapshot).flow).isSome := by
  rw [feedSnapshot_of_accepted h, Datapath.flow_onPacket_self]
  rfl

theorem remoteAddr_snapshotToEvent {snapshot : WfpEventSnapshot} (h : Accepted snapshot) :
    ∃ event, snapshotToEvent snapshot = some event ∧
      event.remoteAddr = addressText snapshot.remoteAddr := by
  have hclass : classifySnapshot snapshot ≠ .invalid := by
    simp [classifySnapshot_of_accepted h]
  rw [snapshotToEvent, if_neg hclass]
  exact ⟨_, rfl, rfl⟩

theorem textsFit_iff {snapshot : WfpEventSnapshot} (haccepted : Accepted snapshot)
    (hlaid : LaidOut snapshot) : TextsFit snapshot ↔ FamilyVisible snapshot := by
  rw [← textFits_addressText_iff haccepted hlaid]
  rcases remoteAddr_snapshotToEvent haccepted with ⟨event, hevent, htext⟩
  constructor
  · intro hfit
    rcases hfit.event with ⟨event', hevent', hfits⟩
    rw [hevent] at hevent'
    cases hevent'
    rw [← htext]
    exact hfits
  · intro hfits
    constructor
    · refine ⟨event, hevent, ?_⟩
      rw [htext]
      exact hfits
    · intro ops packet now hpacket
      rw [snapshotToMeta_of_accepted haccepted] at hpacket
      cases hpacket
      rcases Option.isSome_iff_exists.1 (flow_feedSnapshot_isSome haccepted (.run ops) now) with
        ⟨entry, hentry⟩
      refine ⟨entry, hentry, ?_⟩
      rw [remoteAddr_feedSnapshot haccepted ops now hentry]
      exact hfits

/-! ## Flow identity -/

/-- The keys of two snapshots tell their endpoints apart, and every text shows the right family. -/
structure FamiliesSeparate (s t : WfpEventSnapshot) : Prop where
  keys : ∀ p q, snapshotToMeta s = some p → snapshotToMeta t = some q →
    (p.flow = q.flow ↔ SameEndpoints s t)
  left : TextsFit s
  right : TextsFit t

/-- With the family visible in the address, the address decides the version. -/
theorem ipVersion_eq_of_remoteAddr_eq {s t : WfpEventSnapshot} (hs : Accepted s) (ht : Accepted t)
    (hls : LaidOut s) (hlt : LaidOut t) (hvs : FamilyVisible s) (hvt : FamilyVisible t)
    (haddr : s.remoteAddr = t.remoteAddr) : s.ipVersion = t.ipVersion := by
  rcases hs.version with hs4 | hs6
  · rcases ht.version with ht4 | ht6
    · rw [hs4, ht4]
    · have htail : TailZero t.remoteAddr := by
        rw [← haddr]
        exact hls hs4
      exact absurd htail (hvt ht6)
  · rcases ht.version with ht4 | ht6
    · have htail : TailZero s.remoteAddr := by
        rw [haddr]
        exact hlt ht4
      exact absurd htail (hvs hs6)
    · rw [hs6, ht6]

/-- The key tells TCP from UDP. -/
theorem protocol_eq_of_flow_eq {s t : WfpEventSnapshot} (hs : Accepted s) (ht : Accepted t)
    (h : (acceptedPacket s).flow.protocol = (acceptedPacket t).flow.protocol) :
    s.protocol = t.protocol := by
  rcases hs.protocol with hs | hs
  · rcases ht.protocol with ht | ht
    · rw [hs, ht]
    · simp [acceptedPacket, hs, ht] at h
  · rcases ht.protocol with ht | ht
    · simp [acceptedPacket, hs, ht] at h
    · rw [hs, ht]

theorem flow_eq_iff {s t : WfpEventSnapshot} (hs : Accepted s) (ht : Accepted t)
    (hls : LaidOut s) (hlt : LaidOut t) (hvs : FamilyVisible s) (hvt : FamilyVisible t) :
    (acceptedPacket s).flow = (acceptedPacket t).flow ↔ SameEndpoints s t := by
  constructor
  · intro h
    have haddr : s.remoteAddr = t.remoteAddr := congrArg FlowKey.remoteIp h
    exact
      { ipVersion := ipVersion_eq_of_remoteAddr_eq hs ht hls hlt hvs hvt haddr
        protocol := protocol_eq_of_flow_eq hs ht (congrArg FlowKey.protocol h)
        remoteAddr := haddr
        remotePort := congrArg FlowKey.remotePort h
        localPort := congrArg FlowKey.localPort h }
  · intro h
    simp [acceptedPacket, h.protocol, h.remoteAddr, h.remotePort, h.localPort]

/-- Two accepted snapshots are kept apart and shown as what they are exactly when neither is IPv6
with an address that ends in twelve zero bytes. -/
theorem familiesSeparate_iff {s t : WfpEventSnapshot} (hs : (snapshotToMeta s).isSome)
    (ht : (snapshotToMeta t).isSome) (hls : LaidOut s) (hlt : LaidOut t) :
    FamiliesSeparate s t ↔ FamilyVisible s ∧ FamilyVisible t := by
  have has := accepted_of_isSome hs
  have hat := accepted_of_isSome ht
  constructor
  · intro h
    exact ⟨(textsFit_iff has hls).1 h.left, (textsFit_iff hat hlt).1 h.right⟩
  · rintro ⟨hvs, hvt⟩
    refine ⟨?_, (textsFit_iff has hls).2 hvs, (textsFit_iff hat hlt).2 hvt⟩
    intro p q hp hq
    rw [snapshotToMeta_of_accepted has] at hp
    rw [snapshotToMeta_of_accepted hat] at hq
    cases hp
    cases hq
    exact flow_eq_iff has hat hls hlt hvs hvt

/-- A TCP snapshot to port 443 of the given address. -/
def snapshotTo (ipVersion : UInt32) (addr : Bytes) : WfpEventSnapshot :=
  { FlyDpiEventSnapshot.zero with
    ipVersion := ipVersion
    protocol := 6
    localPort := 50000
    remotePort := 443
    remoteAddr := zeroPadded addr
    hasRemoteAddr := 1 }

/-- 1.1.1.1 and 2001:db8::1. -/
theorem familiesSeparate_iff_visible :
    FamiliesSeparate (snapshotTo 4 [1, 1, 1, 1])
        (snapshotTo 6 [0x20, 0x01, 0x0d, 0xb8, 0, 0, 0, 0, 0, 0, 0, 0, 0, 0, 0, 1]) ↔
      FamilyVisible (snapshotTo 4 [1, 1, 1, 1]) ∧
        FamilyVisible (snapshotTo 6 [0x20, 0x01, 0x0d, 0xb8, 0, 0, 0, 0, 0, 0, 0, 0, 0, 0, 0, 1]) :=
  familiesSeparate_iff (by decide) (by decide) (by decide) (by decide)

/-- 32.1.13.184 and 2001:db8::, the subnet router address of a prefix. -/
theorem prefixAddress_collides :
    ¬ ∀ s t : WfpEventSnapshot, (snapshotToMeta s).isSome → (snapshotToMeta t).isSome →
      LaidOut s → LaidOut t → FamiliesSeparate s t := by
  intro h
  have hseparate := h (snapshotTo 4 [32, 1, 13, 184]) (snapshotTo 6 [0x20, 0x01, 0x0d, 0xb8])
    (by decide) (by decide) (by decide) (by decide)
  have hsame := (hseparate.keys _ _ rfl rfl).1 (by decide)
  exact absurd hsame.ipVersion (by decide)

end Core
end FlyDpi
