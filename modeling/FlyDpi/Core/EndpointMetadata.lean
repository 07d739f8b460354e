import FlyDpi.Core.IngestMemory

/-!
# EndpointMetadata — flows without a remote endpoint

`snapshot_to_meta` refuses a snapshot only when both ports are zero, and it never reads
`has_remote_addr`.  A snapshot that reports no remote address or no remote port is taken like any
other, and its flow is keyed by the zeros that stand for what is missing.
-/

namespace FlyDpi
namespace Core

open Lib Native

/-- The snapshot reports the remote end of its flow. -/
structure EndpointReported (snapshot : WfpEventSnapshot) : Prop where
  remoteAddr : snapshot.hasRemoteAddr ≠ 0
  remotePort : snapshot.remotePort ≠ 0

instance (snapshot : WfpEventSnapshot) : Decidable (EndpointReported snapshot) :=
  decidable_of_iff (snapshot.hasRemoteAddr ≠ 0 ∧ snapshot.remotePort ≠ 0)
    ⟨fun h => ⟨h.1, h.2⟩, fun h => ⟨h.remoteAddr, h.remotePort⟩⟩

/-- Every flow of the table is keyed by the remote end that some fed snapshot reported, and a
snapshot that does not report one was refused when its turn came. -/
structure EndpointsComplete (run : List (WfpEventSnapshot × Instant)) : Prop where
  keyed : ∀ key, ((ingest .new run).flow key).isSome →
    ∃ fed ∈ run, EndpointReported fed.1 ∧ key.remoteIp = fed.1.remoteAddr ∧
      key.remotePort = fed.1.remotePort
  refused : ∀ pre fed rest, run = pre ++ fed :: rest → ¬ EndpointReported fed.1 →
    feedSnapshot (ingest .new pre) fed.1 fed.2 = (none, ingest .new pre)

theorem flow_ingest_isSome {run : List (WfpEventSnapshot × Instant)} {key : FlowKey} :
    ((ingest .new run).flow key).isSome ↔
      ∃ fed ∈ run, Accepted fed.1 ∧ (acceptedPacket fed.1).flow = key := by
  have hkeys : (ingest .new run).flows.keySet = acceptedKeys run := by
    rw [keySet_ingest]
    simp [Datapath.new]
  rw [Datapath.flow, ← Table.mem_keySet, hkeys]
  simp only [acceptedKeys, List.mem_toFinset, List.mem_map, List.mem_filter, decide_eq_true_eq,
    and_assoc]

/-- An accepted snapshot is never refused. -/
theorem feedSnapshot_ne_none {snapshot : WfpEventSnapshot} (h : Accepted snapshot)
    (datapath : Datapath) (now : Instant) : (feedSnapshot datapath snapshot now).1 ≠ none := by
  rw [fst_feedSnapshot]
  exact Option.isSome_iff_ne_none.1 (normalize_isSome_iff.2 h)

/-- The endpoints in the table are complete exactly when every snapshot that passes the tests of
`snapshot_to_meta` happens to report its remote end. -/
theorem endpointsComplete_iff (run : List (WfpEventSnapshot × Instant)) :
    EndpointsComplete run ↔ ∀ fed ∈ run, Accepted fed.1 → EndpointReported fed.1 := by
  constructor
  · intro h fed hfed haccepted
    rcases List.append_of_mem hfed with ⟨pre, rest, hrun⟩
    by_contra hmissing
    have hrefused := h.refused pre fed rest hrun hmissing
    exact feedSnapshot_ne_none haccepted _ _ (congrArg Prod.fst hrefused)
  · intro h
    constructor
    · intro key hkey
      rcases flow_ingest_isSome.1 hkey with ⟨fed, hfed, haccepted, rfl⟩
      exact ⟨fed, hfed, h fed hfed haccepted, rfl, rfl⟩
    · intro pre fed rest hrun hmissing
      have hfed : fed ∈ run := by
        rw [hrun]
        exact List.mem_append_right _ List.mem_cons_self
      refine feedSnapshot_of_not_accepted ?_ _ _
      intro haccepted
      exact hmissing (h fed hfed haccepted)

/-- A TCP snapshot that reports neither remote address nor remote port. -/
def portOnlySnapshot : WfpEventSnapshot :=
  { FlyDpiEventSnapshot.zero with
    ipVersion := 4
    protocol := 6
    localPort := 50000 }

theorem portOnlySnapshot_enters :
    ¬ ∀ run : List (WfpEventSnapshot × Instant), EndpointsComplete run := by
  intro h
  have hrefused := (h [(portOnlySnapshot, 0)]).refused [] (portOnlySnapshot, 0) [] rfl (by decide)
  have haccepted : Accepted portOnlySnapshot := by
    decide
  exact feedSnapshot_ne_none haccepted _ _ (congrArg Prod.fst hrefused)

end Core
end FlyDpi
