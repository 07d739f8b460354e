import FlyDpi.Lib.DropOldest
import FlyDpi.Core.Model

/-!
# Observer — the native side of the observation pipeline

The model of `wfp_observer.cpp` and `wfp_event_snapshot.h`.  The parts of the Windows SDK the
callback reads are records here: the header of `FWPM_NET_EVENT2`, its flags and the values of
`FWP_IP_VERSION`.  A queue is a list with its oldest element first.
-/

namespace FlyDpi
namespace Native

open Lib Lib.Bytes FlyDpi.Core

/-! ## The snapshot shared with Rust -/

/-- `FlyDpiEventSnapshot`; Rust declares the same record as `WfpEventSnapshot`. -/
structure FlyDpiEventSnapshot where
  timestamp100ns : UInt64
  flags : UInt32
  ipVersion : UInt32
  protocol : UInt8
  localPort : UInt16
  remotePort : UInt16
  localAddr : IpBytes
  remoteAddr : IpBytes
  eventType : UInt32
  resultCode : UInt32
  hasLocalAddr : UInt8
  hasRemoteAddr : UInt8
  hasAppId : UInt8
  reserved0 : UInt8
  appIdLength : UInt32
  appIdPrefix : Vector UInt8 64
  deriving DecidableEq

/-- `FlyDpiEventSnapshot snapshot{}`, and `WfpEventSnapshot::default()`. -/
def FlyDpiEventSnapshot.zero : FlyDpiEventSnapshot :=
  { timestamp100ns := 0
    flags := 0
    ipVersion := 0
    protocol := 0
    localPort := 0
    remotePort := 0
    localAddr := zeroPadded []
    remoteAddr := zeroPadded []
    eventType := 0
    resultCode := 0
    hasLocalAddr := 0
    hasRemoteAddr := 0
    hasAppId := 0
    reserved0 := 0
    appIdLength := 0
    appIdPrefix := Vector.replicate 64 0 }

/-! ## Windows SDK -/

def FWP_IP_VERSION_V4 : UInt32 := 0
def FWP_IP_VERSION_V6 : UInt32 := 1

def FWPM_NET_EVENT_FLAG_IP_PROTOCOL_SET : UInt32 := 0x00000001
def FWPM_NET_EVENT_FLAG_LOCAL_ADDR_SET : UInt32 := 0x00000002
def FWPM_NET_EVENT_FLAG_REMOTE_ADDR_SET : UInt32 := 0x00000004
def FWPM_NET_EVENT_FLAG_LOCAL_PORT_SET : UInt32 := 0x00000008
def FWPM_NET_EVENT_FLAG_REMOTE_PORT_SET : UInt32 := 0x00000010
def FWPM_NET_EVENT_FLAG_APP_ID_SET : UInt32 := 0x00000020
def FWPM_NET_EVENT_FLAG_IP_VERSION_SET : UInt32 := 0x00000100

def ERROR_SUCCESS : UInt32 := 0
def ERROR_INVALID_PARAMETER : UInt32 := 87
def ERROR_NOT_FOUND : UInt32 := 1168

structure FileTime where
  dwLowDateTime : UInt32
  dwHighDateTime : UInt32

/-- The union of a host-order IPv4 address and sixteen IPv6 bytes. -/
structure AddressUnion where
  byteArray16 : IpBytes

/-- The first four bytes of the union, read as a little-endian word. -/
def AddressUnion.v4 (addr : AddressUnion) : UInt32 :=
  UInt32.ofNat (leNat (addr.byteArray16.toList.take 4))

/-- `FWP_BYTE_BLOB`; a null `data` pointer is `none`. -/
structure ByteBlob where
  size : UInt32
  data : Option Bytes
  length_data : ∀ bytes ∈ data, bytes.length = size.toNat

/-- A null pointer. -/
def ByteBlob.null : ByteBlob :=
  { size := 0
    data := none
    length_data := by simp }

/-- The header of an event, as far as the callback reads it. -/
structure NetEventHeader where
  timeStamp : FileTime
  flags : UInt32
  ipVersion : UInt32
  ipProtocol : UInt8
  localAddr : AddressUnion
  remoteAddr : AddressUnion
  localPort : UInt16
  remotePort : UInt16
  appId : ByteBlob

structure FwpmNetEvent2 where
  header : NetEventHeader
  type : UInt32

/-! ## The callback -/

def kQueueCapacity : Nat := 4096

structure FlyDpiWfpObserver where
  events : UInt64
  dropped : UInt64
  queue : List FlyDpiEventSnapshot

namespace FlyDpiWfpObserver

def new : FlyDpiWfpObserver :=
  { events := 0
    dropped := 0
    queue := [] }

end FlyDpiWfpObserver

def filetimeToU64 (value : FileTime) : UInt64 :=
  (value.dwHighDateTime.toUInt64 <<< 32) ||| value.dwLowDateTime.toUInt64

def hasFlag (flags flag : UInt32) : Bool :=
  decide (flags &&& flag ≠ 0)

/-- `htonl` on a little-endian host. -/
def htonl (value : UInt32) : UInt32 :=
  UInt32.ofNat (leNat (u32ToBeBytes value))

/-- `memcpy` of the swapped word over the front of a zeroed buffer. -/
def copyIpv4NetworkOrder (value : UInt32) : IpBytes :=
  zeroPadded (u32ToLeBytes (htonl value))

/-- The address bytes the callback copies for one endpoint, if it copies any. -/
def copiedAddr (flags ipVersion addrFlag : UInt32) (addr : AddressUnion) : Option IpBytes :=
  if hasFlag flags FWPM_NET_EVENT_FLAG_IP_VERSION_SET then
    if ipVersion = FWP_IP_VERSION_V4 then
      if hasFlag flags addrFlag then some (copyIpv4NetworkOrder addr.v4) else none
    else if ipVersion = FWP_IP_VERSION_V6 then
      if hasFlag flags addrFlag then some addr.byteArray16 else none
    -- a version that is neither copies nothing
    else none
  else none

/-- The app-id fields: flag, length and prefix. -/
def copiedAppId (flags : UInt32) (appId : ByteBlob) : Option (UInt32 × Vector UInt8 64) :=
  if hasFlag flags FWPM_NET_EVENT_FLAG_APP_ID_SET then
    appId.data.map fun data =>
      -- the length is reported in full, the bytes only as far as the prefix has room
      let copyLen := if appId.size < 64 then appId.size.toNat else 64
      (appId.size, Vector.ofFn fun i => (data.take copyLen).getD i.val 0)
  else none

/-- The snapshot `on_net_event` builds from a record. -/
def buildSnapshot (event : FwpmNetEvent2) : FlyDpiEventSnapshot :=
  let header := event.header
  let localAddr :=
    copiedAddr header.flags header.ipVersion FWPM_NET_EVENT_FLAG_LOCAL_ADDR_SET header.localAddr
  let remoteAddr :=
    copiedAddr header.flags header.ipVersion FWPM_NET_EVENT_FLAG_REMOTE_ADDR_SET header.remoteAddr
  let appId := copiedAppId header.flags header.appId
  { timestamp100ns := filetimeToU64 header.timeStamp
    flags := header.flags
    -- the raw enumeration value, whatever the flags say
    ipVersion := header.ipVersion
    protocol := header.ipProtocol
    localPort := header.localPort
    remotePort := header.remotePort
    localAddr := localAddr.getD FlyDpiEventSnapshot.zero.localAddr
    remoteAddr := remoteAddr.getD FlyDpiEventSnapshot.zero.remoteAddr
    eventType := event.type
    -- reserved: the native event has no result field
    resultCode := 0
    hasLocalAddr := if localAddr.isSome then 1 else 0
    hasRemoteAddr := if remoteAddr.isSome then 1 else 0
    hasAppId := if appId.isSome then 1 else 0
    reserved0 := 0
    appIdLength := (appId.map (·.1)).getD 0
    appIdPrefix := (appId.map (·.2)).getD FlyDpiEventSnapshot.zero.appIdPrefix }

namespace FlyDpiWfpObserver

/-- The critical section of the callback. -/
def enqueue (observer : FlyDpiWfpObserver) (snapshot : FlyDpiEventSnapshot) : FlyDpiWfpObserver :=
  if observer.queue.length ≥ kQueueCapacity then
    { observer with
      queue := observer.queue.tail ++ [snapshot]
      -- `fetch_add` wraps
      dropped := observer.dropped + 1 }
  else
    { observer with queue := observer.queue ++ [snapshot] }

/-- The event counter, raised after the lock is released. -/
def countEvent (observer : FlyDpiWfpObserver) : FlyDpiWfpObserver :=
  { observer with events := observer.events + 1 }

end FlyDpiWfpObserver

/-- `on_net_event`; a null context or a null event does nothing. -/
def onNetEvent (context : Option FlyDpiWfpObserver) (event : Option FwpmNetEvent2) :
    Option FlyDpiWfpObserver :=
  match context, event with
  | some observer, some event => some (observer.enqueue (buildSnapshot event)).countEvent
  | context, _ => context

/-! ## The exported functions -/

def flydpiWfpObserverEventCount (observer : Option FlyDpiWfpObserver) : UInt64 :=
  (observer.map (·.events)).getD 0

def flydpiWfpObserverDroppedCount (observer : Option FlyDpiWfpObserver) : UInt64 :=
  (observer.map (·.dropped)).getD 0

/-- The return code and the snapshot written, with the observer afterwards. -/
def flydpiWfpObserverPop (observer : Option FlyDpiWfpObserver) (outSnapshot : Bool) :
    (UInt32 × Option FlyDpiEventSnapshot) × Option FlyDpiWfpObserver :=
  match observer, outSnapshot with
  | some observer, true =>
      match observer.queue with
      | [] => ((ERROR_NOT_FOUND, none), some observer)
      | snapshot :: queue => ((ERROR_SUCCESS, some snapshot), some { observer with queue := queue })
  | observer, _ => ((ERROR_INVALID_PARAMETER, none), observer)

/-! ## What the callback queues -/

theorem leNat_lt_of_length {bs : Bytes} (h : bs.length = 4) : leNat bs < 2 ^ 32 := by
  have hlt := leNat_lt bs
  rw [h] at hlt
  exact hlt

/-- The bytes written for an IPv4 address are in network order. -/
theorem copyIpv4NetworkOrder_eq (value : UInt32) :
    copyIpv4NetworkOrder value = zeroPadded (u32ToBeBytes value) := by
  have hlen : (u32ToBeBytes value).length = 4 := length_u32ToBeBytes value
  have hswap : (htonl value).toNat = leNat (u32ToBeBytes value) :=
    UInt32.toNat_ofNat_of_lt' (leNat_lt_of_length hlen)
  -- reading the swapped word back little-endian undoes the swap
  have hbytes : u32ToLeBytes (htonl value) = u32ToBeBytes value := by
    unfold u32ToLeBytes
    rw [hswap, ← hlen]
    exact leBytes_leNat _
  calc
    copyIpv4NetworkOrder value = zeroPadded (u32ToLeBytes (htonl value)) := rfl
    _ = zeroPadded (u32ToBeBytes value) := by
          rw [hbytes]

namespace FlyDpiWfpObserver

theorem queue_enqueue (observer : FlyDpiWfpObserver) (snapshot : FlyDpiEventSnapshot) :
    (observer.enqueue snapshot).queue = DropOldest.push kQueueCapacity observer.queue snapshot := by
  unfold enqueue DropOldest.push
  split <;> rfl

theorem getLast?_enqueue (observer : FlyDpiWfpObserver) (snapshot : FlyDpiEventSnapshot) :
    (observer.enqueue snapshot).queue.getLast? = some snapshot := by
  simp [queue_enqueue, DropOldest.push]

theorem toNat_dropped_enqueue (observer : FlyDpiWfpObserver) (snapshot : FlyDpiEventSnapshot)
    (h : observer.dropped.toNat < 2 ^ 64 - 1) :
    (observer.enqueue snapshot).dropped.toNat =
      observer.dropped.toNat + DropOldest.evicted kQueueCapacity observer.queue := by
  unfold enqueue DropOldest.evicted
  split
  · rw [UInt64.toNat_add]
    simp
    omega
  · rfl

end FlyDpiWfpObserver

end Native
end FlyDpi
