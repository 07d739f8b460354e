import FlyDpi.Lib.Table
import FlyDpi.Orchestrator.ProbeEngine

/-!
# Diagnostic — the diagnostic engine

The model of `engine.go`, `dns.go` and `report.go` of the diagnostic package.  What the network
answers is an `Environment`: the system resolver and the DoH servers for each target of the list, and
the probes behind them.  Texts that the program composes are strings, those it receives are bytes.
-/

namespace FlyDpi
namespace Orchestrator
namespace Diagnostic

open Lib

/-! ## The report -/

inductive Severity
  | ok
  | warning
  | critical
  deriving DecidableEq, Repr

inductive StageStatus
  | pending
  | running
  | passed
  | failed
  deriving DecidableEq, Repr

structure DiagnosticStage where
  id : String
  title : String
  status : StageStatus
  progress : Nat
  duration : Int
  summary : String
  details : List String
  deriving DecidableEq, Repr

/-- The four stages of a report, in this order. -/
structure Stages where
  dns : DiagnosticStage
  tcp : DiagnosticStage
  tls : DiagnosticStage
  wfp : DiagnosticStage
  deriving DecidableEq, Repr

structure Features where
  rstDetected : Bool
  poisoningDetected : Bool
  timeoutDetected : Bool
  fragWorks : Bool
  sniSpoofWorks : Bool
  deriving DecidableEq, Repr

structure TargetResult where
  target : Bytes
  dnsOK : Bool
  dnsMismatch : Bool
  tcpConnected : Bool
  tlsHandshake : Bool
  latency : Int
  errorClass : String
  error : Bytes
  deriving DecidableEq, Repr

structure WFPEventSummary where
  observed : UInt64
  resetLike : UInt64
  timeoutLike : UInt64
  classifyDrops : UInt64
  deriving DecidableEq, Repr

/-- `WFPEventSummary{}`. -/
def WFPEventSummary.zero : WFPEventSummary :=
  { observed := 0
    resetLike := 0
    timeoutLike := 0
    classifyDrops := 0 }

structure DiagnosticReport where
  schemaVersion : Nat
  startedAt : Time
  finishedAt : Time
  severity : Severity
  title : String
  explanation : String
  recommendedAction : String
  stages : Stages
  features : Features
  probeResults : List TargetResult
  wfpEvents : WFPEventSummary
  deriving DecidableEq

/-! ## DNS over HTTPS -/

structure DohAnswer where
  type : Int
  data : Bytes

/-- A response: its status, and its body as the JSON decoder reads it. -/
structure DohReply where
  statusCode : Nat
  body : Except Bytes (List DohAnswer)

/-- The `GET` request for `endpoint?name=…&type=…`. -/
structure DohRequest where
  endpoint : Bytes
  name : Bytes
  type : Bytes
  deriving DecidableEq

/-- The addresses of the answers of type 1 that parse; the endpoints are constants, so building the
request does not fail. -/
def lookupDoH (send : DohRequest → Except Bytes DohReply) (endpoint hostname : Bytes) :
    Except Bytes (List Bytes) := do
  let reply ← send { endpoint := endpoint, name := hostname, type := lit "A" }
  if reply.statusCode ≠ 200 then
    throw (lit s!"doh status {reply.statusCode}")
  let answers ← reply.body
  return (answers.filter fun answer => answer.type = 1).filterMap fun answer => parseIP answer.data

def defaultDoHEndpoints : List Bytes :=
  [lit "https://cloudflare-dns.com/dns-query", lit "https://dns.quad9.net/dns-query",
    lit "https://dns.google/resolve"]

/-- The first endpoint that returns an address. -/
def lookupFirst (send : DohRequest → Except Bytes DohReply) (host : Bytes) :
    List Bytes → Except Bytes (List Bytes)
  | [] => throw (lit "all DoH endpoints failed")
  | endpoint :: rest =>
      match lookupDoH send endpoint host with
      | .ok (ip :: ips) => .ok (ip :: ips)
      | _ => lookupFirst send host rest

def lookupAnyDoH (send : DohRequest → Except Bytes DohReply) (host : Bytes) :
    Except Bytes (List Bytes) :=
  lookupFirst send host defaultDoHEndpoints

/-! ## Error classes -/

/-- The lower case of a rune, where it is ASCII.  Besides the capital letters these are the dotted
capital I and the Kelvin sign. -/
def lowerAscii (r : Rune) : Option UInt8 :=
  if 0x41 ≤ r.value ∧ r.value ≤ 0x5a then some (UInt8.ofNat (r.value + 0x20))
  else if r.value < 0x80 then some (UInt8.ofNat r.value)
  else if r.value = 0x130 then some 0x69
  else if r.value = 0x212a then some 0x6b
  else none

/-- `strings.Contains(strings.ToLower(s), word)` for a word in ASCII. -/
def lowerContains (s word : Bytes) : Bool :=
  ((runes s).map lowerAscii).tails.any fun tail => (word.map some).isPrefixOf tail

def classifyError (s : Bytes) : String :=
  if lowerContains s (lit "timeout") || lowerContains s (lit "deadline") then "timeout"
  else if lowerContains s (lit "reset") then "connection_reset"
  else "tcp_failure"

def looksLikeTimeout (s : Bytes) : Bool :=
  classifyError s == "timeout"

/-! ## The engine -/

structure Config where
  targets : List Bytes
  port : Bytes
  timeout : Int
  concurrency : Int

structure Engine where
  cfg : Config

def defaultTargets : List Bytes :=
  [lit "example.com", lit "t.me", lit "youtube.com"]

def newEngine (cfg : Config) : Engine :=
  { cfg :=
      { targets := if cfg.targets = [] then defaultTargets else cfg.targets
        port := Probe.orElse cfg.port (lit "443")
        timeout := if cfg.timeout ≤ 0 then Probe.defaultTimeout else cfg.timeout
        concurrency := if cfg.concurrency ≤ 0 then 4 else cfg.concurrency } }

/-- What the outside world answers during one run; the first argument is the position of the target
in the list. -/
structure Environment where
  /-- `net.DefaultResolver.LookupIP(ctx, "ip", host)`. -/
  system : Nat → (host : Bytes) → Except Bytes (List Bytes)
  /-- `client.Do`. -/
  doh : Nat → DohRequest → Except Bytes DohReply
  nets : Nat → Probe.Network
  started : Time
  finished : Time

/-- The variables of the DNS loop. -/
structure DnsState where
  dnsMap : Table Bytes (List Bytes)
  dnsStageFailed : Bool

def DnsState.step (env : Environment) (st : DnsState) (entry : Bytes × Nat) : DnsState :=
  let (target, i) := entry
  let system := env.system i target
  let doh := lookupAnyDoH (env.doh i) target
  { dnsMap :=
      match system with
      | .ok ips => st.dnsMap.insert target ips
      | .error _ => st.dnsMap
    -- different address sets are normal, different availability is not
    dnsStageFailed := st.dnsStageFailed || (system.isOk != doh.isOk) }

def dnsLoop (env : Environment) (targets : List Bytes) : DnsState :=
  targets.zipIdx.foldl (DnsState.step env)
    { dnsMap := ∅
      dnsStageFailed := false }

/-- The variables of the loop over the probe results. -/
structure Tally where
  failTCP : Nat
  failTLS : Nat
  features : Features
  probeResults : List TargetResult

def Tally.step (dns : DnsState) (t : Tally) (r : Probe.Result) : Tally :=
  let dnsOK := decide ((dns.dnsMap.lookup r.target).getD [] ≠ [])
  let tr : TargetResult :=
    { target := r.target
      dnsOK := dnsOK
      dnsMismatch := dns.dnsStageFailed && dnsOK
      tcpConnected := r.tcpConnected
      tlsHandshake := r.tlsHandshake
      latency := r.latency
      errorClass := ""
      error := [] }
  if !r.tcpConnected then
    let errorClass := classifyError r.error
    { t with
      failTCP := t.failTCP + 1
      features :=
        { t.features with
          timeoutDetected := t.features.timeoutDetected || looksLikeTimeout r.error
          rstDetected := t.features.rstDetected || errorClass == "connection_reset" }
      probeResults := t.probeResults ++ [{ tr with errorClass := errorClass, error := r.error }] }
  else if !r.tlsHandshake then
    { t with
      failTLS := t.failTLS + 1
      probeResults :=
        t.probeResults ++ [{ tr with errorClass := "tls_failure", error := r.error }] }
  else
    { t with probeResults := t.probeResults ++ [tr] }

def stageForFailures (failures total : Nat) : StageStatus :=
  if total = 0 ∨ failures = 0 then .passed else .failed

/-- Severity, title, explanation and recommended action. -/
def summarize (features : Features) (probeResults : List TargetResult) :
    Severity × String × String × String :=
  let failTCP := probeResults.countP fun x => !x.tcpConnected
  let failTLS := probeResults.countP fun x => x.tcpConnected && !x.tlsHandshake
  if features.poisoningDetected then
    (.warning, "Обнаружена DNS-аномалия",
      "Один из DNS-резолверов не вернул пригодный результат, тогда как другой вернул адреса. Это " ++
        "повод проверить DNS-инфраструктуру; само по себе это не доказывает DPI.",
      "Открыть подробности DNS")
  else if failTCP = 0 ∧ failTLS = 0 then
    (.ok, "Сеть работает нормально",
      "DNS, TCP и TLS базовые проверки завершились без явных признаков блокировки.",
      "Ничего не менять")
  else if features.rstDetected then
    (.warning, "Обнаружена сетевая аномалия",
      "Во время части TCP-проверок наблюдался reset. Нужна корреляция с телеметрией WFP и " ++
        "повторная проверка.",
      "Открыть подробную диагностику")
  else
    (.warning, "Часть проверок не пройдена",
      "Некоторые цели недоступны или TLS handshake завершился ошибкой. По одному симптому нельзя " ++
        "уверенно подтвердить DPI-блокировку.",
      "Показать детали")

/-- A stage that has run, with no duration and no details, as all of them are left. -/
def finishedStage (id title : String) (status : StageStatus) (summary : String) :
    DiagnosticStage :=
  { id := id
    title := title
    status := status
    progress := 100
    duration := 0
    summary := summary
    details := [] }

def dnsStage (failed : Bool) : DiagnosticStage :=
  if failed then
    finishedStage "dns" "DNS consistency" .failed
      "Системный DNS и независимый DoH-резолвер дали разные результаты доступности"
  else
    finishedStage "dns" "DNS consistency" .passed
      "Различия адресов между резолверами не считаются аномалией сами по себе"

namespace Engine

variable (e : Engine)

/-- `probeEngine.Run(ctx)`; its workers return what the sequential run does. -/
def probe (env : Environment) : List Probe.Result :=
  Probe.run env.nets
    (Probe.Engine.sequential
      { targets := e.cfg.targets
        port := e.cfg.port
        timeout := e.cfg.timeout
        concurrency := e.cfg.concurrency })

/-- The loop over the probe results, with the features as the DNS stage left them. -/
def tally (env : Environment) (dns : DnsState) : Tally :=
  (e.probe env).foldl (Tally.step dns)
    { failTCP := 0
      failTLS := 0
      features :=
        { rstDetected := false
          poisoningDetected := dns.dnsStageFailed
          timeoutDetected := false
          fragWorks := false
          sniSpoofWorks := false }
      probeResults := [] }

def run (env : Environment) : DiagnosticReport :=
  let dns := dnsLoop env e.cfg.targets
  let total := (e.probe env).length
  let t := e.tally env dns
  let (severity, title, explanation, recommendedAction) := summarize t.features t.probeResults
  { schemaVersion := 1
    startedAt := env.started
    finishedAt := env.finished
    severity := severity
    title := title
    explanation := explanation
    recommendedAction := recommendedAction
    stages :=
      { dns := dnsStage dns.dnsStageFailed
        tcp := finishedStage "tcp" "TCP connect" (stageForFailures t.failTCP total)
          s!"TCP: {total - t.failTCP} из {total} успешно"
        tls := finishedStage "tls" "TLS handshake" (stageForFailures t.failTLS total)
          s!"TLS: {total - t.failTLS} из {total} успешно"
        wfp := finishedStage "wfp" "WFP telemetry correlation" .passed
          "WFP telemetry доступна без изменения сетевого трафика" }
    features := t.features
    probeResults := t.probeResults
    wfpEvents := .zero }

end Engine

end Diagnostic
end Orchestrator
end FlyDpi
