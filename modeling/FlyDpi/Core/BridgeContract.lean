import FlyDpi.Core.WfpBridge

/-!
# BridgeContract — what the native producer encodes and the Rust consumer decodes

The callback writes the raw `FWP_IP_VERSION` of a record into the snapshot, 0 for IPv4 and 1 for
IPv6; the bridge accepts the values 4 and 6.  The main result says on which records the two halves
agree all the same: those that neither describe a complete transport event nor carry 4 or 6 by
themselves.
-/

namespace FlyDpi
namespace Core

open Lib Lib.Bytes Native

/-- The flags of a record that sets version, protocol, both addresses and both ports. -/
def completeFlags : List UInt32 :=
  [FWPM_NET_EVENT_FLAG_IP_VERSION_SET, FWPM_NET_EVENT_FLAG_IP_PROTOCOL_SET,
    FWPM_NET_EVENT_FLAG_LOCAL_ADDR_SET, FWPM_NET_EVENT_FLAG_REMOTE_ADDR_SET,
    FWPM_NET_EVENT_FLAG_LOCAL_PORT_SET, FWPM_NET_EVENT_FLAG_REMOTE_PORT_SET]

/-- A record that describes a TCP or UDP event in full. -/
structure Complete (event : FwpmNetEvent2) : Prop where
  flags : ∀ flag ∈ completeFlags, hasFlag event.header.flags flag
  version : event.header.ipVersion = FWP_IP_VERSION_V4 ∨ event.header.ipVersion = FWP_IP_VERSION_V6
  protocol : event.header.ipProtocol = 6 ∨ event.header.ipProtocol = 17
  ports : ¬ (event.header.localPort = 0 ∧ event.header.remotePort = 0)

/-- The remote address in network byte order. -/
def networkAddress (header : NetEventHeader) : IpBytes :=
  if header.ipVersion = FWP_IP_VERSION_V4 then
    zeroPadded (u32ToBeBytes header.remoteAddr.v4)
  else
    header.remoteAddr.byteArray16

/-- The flow a complete record belongs to. -/
def recordKey (header : NetEventHeader) : FlowKey :=
  { protocol := if header.ipProtocol = 6 then .tcp else .udp
    remoteIp := networkAddress header
    remotePort := header.remotePort
    localPort := header.localPort }

/-- The two halves agree on a record: what the callback queues for it is taken when the record is
complete, and refused when its version is neither of the SDK's. -/
def HalvesAgree (observer : FlyDpiWfpObserver) (datapath : Datapath) (now : Instant)
    (event : FwpmNetEvent2) : Prop :=
  ∀ observer' snapshot, onNetEvent (some observer) (some event) = some observer' →
    observer'.queue.getLast? = some snapshot →
      (Complete event →
        classifySnapshot snapshot = .transport ∧
        (feedSnapshot datapath snapshot now).1.isSome ∧
        ((feedSnapshot datapath snapshot now).2.flow (recordKey event.header)).isSome) ∧
      (event.header.ipVersion ≠ FWP_IP_VERSION_V4 → event.header.ipVersion ≠ FWP_IP_VERSION_V6 →
        feedSnapshot datapath snapshot now = (none, datapath))

/-- The raw version of the record is one of those the bridge takes, and so are its other fields. -/
structure RawAccepted (event : FwpmNetEvent2) : Prop where
  version : event.header.ipVersion = 4 ∨ event.header.ipVersion = 6
  protocol : event.header.ipProtocol = 6 ∨ event.header.ipProtocol = 17
  ports : ¬ (event.header.remotePort = 0 ∧ event.header.localPort = 0)

theorem accepted_buildSnapshot_iff {event : FwpmNetEvent2} :
    Accepted (buildSnapshot event) ↔ RawAccepted event := by
  constructor
  · intro h
    exact ⟨h.version, h.protocol, h.ports⟩
  · intro h
    exact ⟨h.version, h.protocol, h.ports⟩

theorem Complete.not_accepted {event : FwpmNetEvent2} (h : Complete event) :
    ¬ Accepted (buildSnapshot event) := by
  intro haccepted
  have hraw : event.header.ipVersion = 4 ∨ event.header.ipVersion = 6 := haccepted.version
  -- the SDK's 0 and 1 are neither 4 nor 6
  rcases h.version with hv | hv <;> rw [hv] at hraw <;> revert hraw <;> decide

theorem halvesAgree_iff_snapshot {observer : FlyDpiWfpObserver} {datapath : Datapath}
    {now : Instant} {event : FwpmNetEvent2} :
    HalvesAgree observer datapath now event ↔
      (Complete event →
        classifySnapshot (buildSnapshot event) = .transport ∧
        (feedSnapshot datapath (buildSnapshot event) now).1.isSome ∧
        ((feedSnapshot datapath (buildSnapshot event) now).2.flow (recordKey event.header)).isSome) ∧
      (event.header.ipVersion ≠ FWP_IP_VERSION_V4 → event.header.ipVersion ≠ FWP_IP_VERSION_V6 →
        feedSnapshot datapath (buildSnapshot event) now = (none, datapath)) := by
  -- the snapshot in question is the one the callback has just built
  have hlast : (observer.enqueue (buildSnapshot event)).countEvent.queue.getLast? =
      some (buildSnapshot event) :=
    observer.getLast?_enqueue (buildSnapshot event)
  constructor
  · intro h
    exact h _ _ rfl hlast
  · intro h observer' snapshot hobserver hsnapshot
    rcases Option.some.inj hobserver with rfl
    rw [hlast] at hsnapshot
    rcases Option.some.inj hsnapshot with rfl
    exact h

/-- The two halves agree exactly on the records that are not complete and that the bridge would not
take for their raw version either. -/
theorem halvesAgree_iff (observer : FlyDpiWfpObserver) (datapath : Datapath) (now : Instant)
    (event : FwpmNetEvent2) :
    HalvesAgree observer datapath now event ↔ ¬ Complete event ∧ ¬ RawAccepted event := by
  rw [halvesAgree_iff_snapshot]
  constructor
  · rintro ⟨htaken, hrefused⟩
    -- a complete record would have to be taken, and never is
    have hincomplete : ¬ Complete event := by
      intro hcomplete
      have hsome := (htaken hcomplete).2.1
      rw [feedSnapshot_of_not_accepted hcomplete.not_accepted] at hsome
      cases hsome
    refine ⟨hincomplete, fun hraw => ?_⟩
    -- a raw 4 or 6 is none of the SDK's versions and is taken all the same
    have hV4 : event.header.ipVersion ≠ FWP_IP_VERSION_V4 := by
      rcases hraw.version with hv | hv <;> rw [hv] <;> decide
    have hV6 : event.header.ipVersion ≠ FWP_IP_VERSION_V6 := by
      rcases hraw.version with hv | hv <;> rw [hv] <;> decide
    have haccepted : Accepted (buildSnapshot event) := accepted_buildSnapshot_iff.2 hraw
    have hsome : (normalize (buildSnapshot event)).isSome := normalize_isSome_iff.2 haccepted
    rw [← fst_feedSnapshot datapath _ now, hrefused hV4 hV6] at hsome
    cases hsome
  · rintro ⟨hincomplete, hraw⟩
    refine ⟨fun hcomplete => absurd hcomplete hincomplete, fun _ _ => ?_⟩
    exact feedSnapshot_of_not_accepted (mt accepted_buildSnapshot_iff.1 hraw) datapath now

/-- An IPv4 TCP record to 1.1.1.1:443 with every flag set. -/
def ipv4Record : FwpmNetEvent2 :=
  { header :=
      { timeStamp := { dwLowDateTime := 0, dwHighDateTime := 0x01da0000 }
        flags := 0x11f
        ipVersion := FWP_IP_VERSION_V4
        ipProtocol := 6
        localAddr := { byteArray16 := zeroPadded [2, 0, 168, 192] }
        remoteAddr := { byteArray16 := zeroPadded [1, 1, 1, 1] }
        localPort := 50000
        remotePort := 443
        appId := .null }
    type := 1 }

theorem ipv4Record_discarded :
    ¬ ∀ (observer : FlyDpiWfpObserver) (datapath : Datapath) (now : Instant)
      (event : FwpmNetEvent2), HalvesAgree observer datapath now event := by
  intro h
  have hcomplete : Complete ipv4Record :=
    { flags := List.all_eq_true.1 (by decide)
      version := Or.inl rfl
      protocol := Or.inl rfl
      ports := by decide }
  have htaken := (h FlyDpiWfpObserver.new Datapath.new 0 ipv4Record _ _ rfl rfl).1 hcomplete
  have hrefused : classifySnapshot (buildSnapshot ipv4Record) = .invalid := by
    decide
  have htransport : classifySnapshot (buildSnapshot ipv4Record) = .transport := htaken.1
  rw [hrefused] at htransport
  cases htransport

end Core
end FlyDpi
