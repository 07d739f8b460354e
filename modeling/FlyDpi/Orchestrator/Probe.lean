import FlyDpi.Orchestrator.GoNet

/-!
# Probe — one connection attempt for each target

The model of `probe.go` and of `NewEngine`.  A job dials its target and attempts a TLS handshake;
how the network answers is given by a `Network` for each job, so that every assignment of outcomes
to jobs can be expressed, also to equal targets.
-/

namespace FlyDpi
namespace Orchestrator
namespace Probe

open Lib

/-- How the network answers one job.  Both calls run under the timeout of the job. -/
structure Network where
  /-- `DialContext`: the error text, or the time the connection took. -/
  dial : (timeout : Int) → (addr : Bytes) → Except Bytes Int
  /-- `HandshakeContext`: the error text, if it fails. -/
  handshake : (timeout : Int) → (serverName : Bytes) → Option Bytes

structure Config where
  timeout : Int
  targets : List Bytes
  port : Bytes
  serverName : Bytes

structure Result where
  target : Bytes
  tcpConnected : Bool
  tlsHandshake : Bool
  latency : Int
  error : Bytes
  deriving DecidableEq

/-- `Result{}`. -/
def Result.zero : Result :=
  { target := []
    tcpConnected := false
    tlsHandshake := false
    latency := 0
    error := [] }

/-- An empty setting stands for its default. -/
def orElse (setting fallback : Bytes) : Bytes :=
  if setting = [] then fallback else setting

def runOne (net : Network) (cfg : Config) (target : Bytes) : Result :=
  let result := { Result.zero with target := target }
  match net.dial cfg.timeout (joinHostPort target (orElse cfg.port (lit "443"))) with
  | .error err => { result with error := err }
  | .ok latency =>
      let result := { result with tcpConnected := true, latency := latency }
      match net.handshake cfg.timeout (orElse cfg.serverName target) with
      | some err => { result with error := lit "tls handshake: " ++ err }
      | none => { result with tlsHandshake := true }

/-- The targets one after the other; `nets i` answers the job of the `i`-th target. -/
def run (nets : Nat → Network) (cfg : Config) : List Result :=
  cfg.targets.zipIdx.map fun (target, i) => runOne (nets i) cfg target

structure EngineConfig where
  targets : List Bytes
  port : Bytes
  timeout : Int
  concurrency : Int

/-- An engine as `NewEngine` makes it: its concurrency is positive. -/
structure Engine where
  cfg : EngineConfig
  concurrency_pos : 0 < cfg.concurrency

/-- `2 * time.Second`. -/
def defaultTimeout : Int := 2000000000

def newEngine (cfg : EngineConfig) : Engine :=
  { cfg :=
      { targets := cfg.targets
        port := orElse cfg.port (lit "443")
        timeout := if cfg.timeout ≤ 0 then defaultTimeout else cfg.timeout
        concurrency := if cfg.concurrency ≤ 0 then 8 else cfg.concurrency }
    concurrency_pos := by
      dsimp only
      split
      · decide
      · omega }

/-! ## What a job depends on -/

/-- A job reads the timeout, the port and the server name, not the list of targets. -/
theorem runOne_congr (net : Network) {cfg cfg' : Config} (target : Bytes)
    (htimeout : cfg.timeout = cfg'.timeout)
    (hport : orElse cfg.port (lit "443") = orElse cfg'.port (lit "443"))
    (hserver : cfg.serverName = cfg'.serverName) :
    runOne net cfg target = runOne net cfg' target := by
  unfold runOne
  rw [htimeout, hport, hserver]

/-- A default that was put in before changes nothing. -/
theorem orElse_orElse (setting fallback : Bytes) :
    orElse (orElse setting fallback) fallback = orElse setting fallback := by
  unfold orElse
  split_ifs <;> simp_all

theorem length_run (nets : Nat → Network) (cfg : Config) :
    (run nets cfg).length = cfg.targets.length := by
  simp [run]

theorem getElem?_run (nets : Nat → Network) (cfg : Config) (i : Nat) :
    (run nets cfg)[i]? = cfg.targets[i]?.map (runOne (nets i) cfg) := by
  simp [run, List.getElem?_zipIdx, Function.comp_def]

end Probe
end Orchestrator
end FlyDpi
