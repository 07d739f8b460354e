import FlyDpi.Lib.JsonCut
import FlyDpi.Orchestrator.GoRunes
import FlyDpi.Orchestrator.Rpc

/-!
# GoJson — the text that `encoding/json` writes

`Encoder.Encode` with the escapes of HTML switched on, which is the default, and the values that it
writes for the types of the server.  Text that is not UTF-8 does not survive: every byte of it becomes
a replacement character.
-/

namespace FlyDpi
namespace Orchestrator
namespace GoJson

open Lib Lib.Json Diagnostic

/-! ## Strings -/

/-- `hex[d]`. -/
def hexByte (d : Nat) : UInt8 :=
  if d < 10 then UInt8.ofNat (0x30 + d) else UInt8.ofNat (0x57 + d)

/-- `htmlSafeSet`, of the bytes below `0x80`. -/
def htmlSafe (b : UInt8) : Bool :=
  decide (0x20 ≤ b ∧ b ≠ 0x22 ∧ b ≠ 0x26 ∧ b ≠ 0x3c ∧ b ≠ 0x3e ∧ b ≠ 0x5c)

/-- A byte below `0x80`. -/
def escapeByte (b : UInt8) : Bytes :=
  if htmlSafe b then [b]
  else if b = 0x5c ∨ b = 0x22 then [0x5c, b]
  else if b = 0x08 then [0x5c, 0x62]
  else if b = 0x0c then [0x5c, 0x66]
  else if b = 0x0a then [0x5c, 0x6e]
  else if b = 0x0d then [0x5c, 0x72]
  else if b = 0x09 then [0x5c, 0x74]
  else [0x5c, 0x75, 0x30, 0x30, hexByte (b.toNat / 16), hexByte (b.toNat % 16)]

def escapeRune (r : Rune) : Bytes :=
  match r.bytes with
  | [b] =>
      if b < 0x80 then escapeByte b
      -- `utf8.RuneError` of size 1
      else [0x5c, 0x75, 0x66, 0x66, 0x66, 0x64]
  | bytes =>
      -- the line separators of JavaScript
      if r.value = 0x2028 ∨ r.value = 0x2029 then
        [0x5c, 0x75, 0x32, 0x30, 0x32, hexByte (r.value % 16)]
      else bytes

/-- `appendString`, without the quotation marks. -/
def appendString (s : Bytes) : Bytes :=
  (runes s).flatMap escapeRune

/-- A rune as a reader of the text gets it. -/
def cleanRune (r : Rune) : Bytes :=
  match r.bytes with
  | [b] => if b < 0x80 then [b] else [0xef, 0xbf, 0xbd]
  | bytes => bytes

/-- `strings.ToValidUTF8` with the replacement character for every single byte. -/
def cleanString (s : Bytes) : Bytes :=
  (runes s).flatMap cleanRune

/-! ### Reading the escapes -/

theorem feed_escapeByte {b : UInt8} (h : b < 0x80) :
    feed .plain (escapeByte b) = some (.plain, [b]) := by
  have hall : ∀ n : Fin 128, feed .plain (escapeByte (UInt8.ofNat n)) =
      some (.plain, [UInt8.ofNat n]) := by
    decide +kernel
  have hb := hall ⟨b.toNat, UInt8.lt_iff_toNat_lt.1 h⟩
  rwa [UInt8.ofNat_toNat] at hb

theorem feed_plain {s : Bytes} (h : ∀ c ∈ s, 0x80 ≤ c) : feed .plain s = some (.plain, s) := by
  induction s with
  | nil =>
      rfl
  | cons c s ih =>
      have hc : 0x80 ≤ c := h c List.mem_cons_self
      have hne : ∀ mark : UInt8, mark < 0x80 → c ≠ mark := by
        rintro mark hmark rfl
        exact UInt8.not_lt.2 hc hmark
      have hcontrol : ¬ c < 0x20 := fun hlt => UInt8.not_lt.2 hc (UInt8.lt_trans hlt (by decide))
      rw [feed]
      simp [Scanner.closes, Scanner.advance, hne 0x22 (by decide), hne 0x5c (by decide), hcontrol,
        ih fun d hd => h d (List.mem_cons_of_mem _ hd)]

/-- What `decodeRune` returns. -/
inductive Decoded : Rune → Prop
  | ascii {b : UInt8} : b < 0x80 → Decoded { value := b.toNat, bytes := [b] }
  | invalid {b : UInt8} : ¬ b < 0x80 → Decoded (invalidRune b)
  | encoded {b : UInt8} {size : Nat} {lo hi : UInt8} {tail : Bytes} : ¬ b < 0x80 →
      leading b = some (size, lo, hi) → tail.length = size - 1 →
      tail.head?.all (inRange lo hi) = true → tail.all (inRange 0x80 0xbf) = true →
      Decoded
        { value := tail.foldl (fun v c => v * 64 + c.toNat % 64) (b.toNat % 2 ^ (7 - size))
          bytes := b :: tail }

theorem decoded_decodeRune (b : UInt8) (rest : Bytes) : Decoded (decodeRune b rest) := by
  unfold decodeRune
  split
  · exact .ascii ‹_›
  · split
    · exact .invalid ‹_›
    · dsimp only
      split
      · rename_i hb _ size lo hi hleading htail
        exact .encoded hb hleading htail.1 htail.2.1 htail.2.2
      · exact .invalid ‹_›

theorem decoded_of_mem_runesFrom {r : Rune} {s : Bytes} {skip : Nat} (h : r ∈ runesFrom skip s) :
    Decoded r := by
  induction s generalizing skip with
  | nil =>
      cases skip <;> cases h
  | cons b s ih =>
      cases skip with
      | succ skip =>
          exact ih h
      | zero =>
          rw [runesFrom, List.mem_cons] at h
          rcases h with rfl | h
          · exact decoded_decodeRune b s
          · exact ih h

/-- The leading bytes of the sizes. -/
theorem leading_cases {b : UInt8} {size : Nat} {lo hi : UInt8}
    (h : leading b = some (size, lo, hi)) :
    size = 2 ∨ (size = 3 ∧ 0xe0 ≤ b.toNat ∧ b.toNat < 0xf0) ∨
      (size = 4 ∧ ((b.toNat = 0xf0 ∧ lo = 0x90) ∨ (0xf0 < b.toNat ∧ b.toNat ≤ 0xf4))) := by
  have hall : ∀ n : Fin 256, ∀ r ∈ leading (UInt8.ofNat n), r.1 = 2 ∨
      (r.1 = 3 ∧ 0xe0 ≤ n.val ∧ n.val < 0xf0) ∨
        (r.1 = 4 ∧ ((n.val = 0xf0 ∧ r.2.1 = 0x90) ∨ (0xf0 < n.val ∧ n.val ≤ 0xf4))) := by
    decide +kernel
  have hb := hall ⟨b.toNat, b.toNat_lt⟩
  rw [UInt8.ofNat_toNat] at hb
  exact hb _ h

/-- The encodings of the two separators. -/
theorem bytes_of_separator {b : UInt8} {size : Nat} {lo hi : UInt8} {tail : Bytes}
    (hleading : leading b = some (size, lo, hi)) (hlength : tail.length = size - 1)
    (hhead : tail.head?.all (inRange lo hi) = true)
    (hall : tail.all (inRange 0x80 0xbf) = true) {u : Nat} (hu : u = 0x2028 ∨ u = 0x2029)
    (hvalue : tail.foldl (fun v c => v * 64 + c.toNat % 64) (b.toNat % 2 ^ (7 - size)) = u) :
    b :: tail = utf8 u := by
  have hrange : ∀ c ∈ tail, 0x80 ≤ c.toNat ∧ c.toNat ≤ 0xbf := by
    intro c hc
    have hc := List.all_eq_true.1 hall c hc
    simpa [inRange, UInt8.le_iff_toNat_le] using hc
  have hbyte : ∀ {c : UInt8} {n : Nat}, c.toNat = n → c = UInt8.ofNat n := by
    rintro c n rfl
    exact UInt8.ofNat_toNat.symm
  rcases leading_cases hleading with rfl | ⟨rfl, hlow, hhigh⟩ | ⟨rfl, hfour⟩
  · -- two bytes are not enough
    rcases List.length_eq_one_iff.1 hlength with ⟨c, rfl⟩
    simp only [List.foldl_cons, List.foldl_nil] at hvalue
    omega
  · rcases List.length_eq_two.1 hlength with ⟨c, d, rfl⟩
    have hc := hrange c (by simp)
    have hd := hrange d (by simp)
    simp only [List.foldl_cons, List.foldl_nil] at hvalue
    have hbytes : b.toNat = 0xe2 ∧ c.toNat = 0x80 ∧ d.toNat = u - 0x2028 + 0xa8 := by
      omega
    rw [hbyte hbytes.1, hbyte hbytes.2.1, hbyte hbytes.2.2]
    rcases hu with rfl | rfl
    · decide
    · decide
  · -- four bytes are too many
    rcases List.length_eq_three.1 hlength with ⟨c, d, e, rfl⟩
    have hc := hrange c (by simp)
    simp only [List.foldl_cons, List.foldl_nil] at hvalue
    rcases hfour with ⟨hb, hlo⟩ | hb
    · have hfirst : 0x90 ≤ c.toNat := by
        simp only [List.head?_cons, Option.all_some, inRange, decide_eq_true_eq, hlo,
          UInt8.le_iff_toNat_le] at hhead
        exact hhead.1
      omega
    · omega

theorem feed_escapeRune {r : Rune} (h : Decoded r) :
    feed .plain (escapeRune r) = some (.plain, cleanRune r) := by
  cases h with
  | @ascii b hb =>
      simp only [escapeRune, cleanRune, if_pos hb]
      exact feed_escapeByte hb
  | @invalid b hb =>
      simp only [escapeRune, cleanRune, invalidRune, if_neg hb]
      decide +kernel
  | @encoded b size lo hi tail hb hleading hlength hhead hall =>
      have hsize : 2 ≤ size := by
        rcases leading_cases hleading with h | h | h <;> omega
      cases tail with
      | nil =>
          rw [List.length_nil] at hlength
          omega
      | cons c tail =>
          simp only [escapeRune, cleanRune]
          split
          · rename_i hseparator
            rw [bytes_of_separator hleading hlength hhead hall hseparator rfl]
            rcases hseparator with hu | hu
            · rw [hu]
              decide +kernel
            · rw [hu]
              decide +kernel
          · refine feed_plain (List.forall_mem_cons.2 ⟨UInt8.not_lt.1 hb, fun d hd => ?_⟩)
            have hrange := List.all_eq_true.1 hall d hd
            simp only [inRange, decide_eq_true_eq] at hrange
            exact hrange.1

theorem feed_appendString (s : Bytes) :
    feed .plain (appendString s) = some (.plain, cleanString s) := by
  have hall : ∀ rs : List Rune, (∀ r ∈ rs, Decoded r) →
      feed .plain (rs.flatMap escapeRune) = some (.plain, rs.flatMap cleanRune) := by
    intro rs hrs
    induction rs with
    | nil =>
        rfl
    | cons r rs ih =>
        rw [List.flatMap_cons, feed_append, feed_escapeRune (hrs r List.mem_cons_self)]
        simp [ih fun r' hr' => hrs r' (List.mem_cons_of_mem _ hr')]
  exact hall (runes s) fun r hr => decoded_of_mem_runesFrom hr

def quoting : Quoting :=
  { escape := appendString
    clean := cleanString
    reads := feed_appendString }

/-! ### What survives -/

def isASCII (s : Bytes) : Bool :=
  s.all fun c => decide (c < 0x80)

theorem cleanString_ascii {s : Bytes} (h : isASCII s = true) : cleanString s = s := by
  have hall : ∀ c ∈ s, c < 0x80 := by
    simpa [isASCII] using h
  rw [cleanString, runes_ascii hall]
  clear h
  induction s with
  | nil =>
      rfl
  | cons c s ih =>
      rw [List.map_cons, List.flatMap_cons, ih fun d hd => hall d (List.mem_cons_of_mem _ hd)]
      simp [cleanRune, asciiRune, hall c List.mem_cons_self]

/-! ## Values -/

/-- How times are written, and the offset of the local zone at an instant. -/
structure Times where
  marshal : Time → Int → Bytes
  zone : Time → Int

/-- A struct, by the names of its fields. -/
def obj (fields : List (String × Value)) : Value :=
  .object (fields.map fun field => (lit field.1, field.2))

def ofString (s : String) : Value :=
  .string (lit s)

/-- A field with `omitempty`. -/
def omitempty {α : Type} [DecidableEq α] (empty : α) (name : String) (value : α → Value) (x : α) :
    List (String × Value) :=
  if x = empty then [] else [(name, value x)]

/-- A slice; nil becomes null. -/
def ofSlice {α : Type} (value : α → Value) : Option (List α) → Value
  | none => .null
  | some xs => .array (xs.map value)

section Values

variable (times : Times)

def ofEvent (e : Server.Event) : Value :=
  obj
    [("timestamp_unix_ms", .number e.timestampUnixMs.toNat),
      ("kind", .number e.kind.toNat),
      ("protocol", .number e.protocol.toNat),
      ("remote_port", .number e.remotePort.toNat),
      ("process_id", .number e.processId.toNat),
      ("latency_ms", .number e.latencyMs.toNat),
      ("error_code", .number e.errorCode.toInt)]

def ofEntry (e : History.Entry) : Value :=
  obj
    [("id", .string e.id),
      ("timestamp", .string (times.marshal e.timestamp.instant e.timestamp.offset)),
      ("severity", .string e.severity),
      ("title", .string e.title),
      ("summary", .string e.summary)]

def ofProfile (p : Profile) : Value :=
  obj
    [("schema_version", .number p.schemaVersion),
      ("name", .string p.name),
      ("preferred_action", .string p.preferredAction),
      ("mode", .string p.mode),
      ("timeout_ms", .number p.timeoutMs),
      ("targets", ofSlice .string p.targets),
      ("last_severity", .string p.lastSeverity),
      ("updated_at", .string (times.marshal p.updatedAt 0))]

def severityText : Severity → String
  | .ok => "ok"
  | .warning => "warning"
  | .critical => "critical"

def statusText : StageStatus → String
  | .pending => "pending"
  | .running => "running"
  | .passed => "passed"
  | .failed => "failed"

def ofStage (stage : DiagnosticStage) : Value :=
  obj
    ([("id", ofString stage.id),
      ("title", ofString stage.title),
      ("status", ofString (statusText stage.status)),
      ("progress", .number stage.progress),
      ("duration_ns", .number stage.duration)] ++
        omitempty "" "summary" ofString stage.summary ++
        omitempty [] "details" (fun details => .array (details.map ofString)) stage.details)

def ofFeatures (features : Features) : Value :=
  obj
    [("rst_detected", .bool features.rstDetected),
      ("poisoning_detected", .bool features.poisoningDetected),
      ("timeout_detected", .bool features.timeoutDetected),
      ("frag_works", .bool features.fragWorks),
      ("sni_spoof_works", .bool features.sniSpoofWorks)]

def ofTargetResult (result : TargetResult) : Value :=
  obj
    ([("target", .string result.target),
      ("dns_ok", .bool result.dnsOK),
      ("dns_mismatch", .bool result.dnsMismatch),
      ("tcp_connected", .bool result.tcpConnected),
      ("tls_handshake", .bool result.tlsHandshake),
      ("latency_ns", .number result.latency)] ++
        omitempty "" "error_class" ofString result.errorClass ++
        omitempty [] "error" .string result.error)

def ofSummary (summary : WFPEventSummary) : Value :=
  obj
    [("observed", .number summary.observed.toNat),
      ("reset_like", .number summary.resetLike.toNat),
      ("timeout_like", .number summary.timeoutLike.toNat),
      ("classify_drops", .number summary.classifyDrops.toNat)]

/-- The fields of a report; its probe results are appended to a nil slice. -/
def reportFields (report : DiagnosticReport) : List (String × Value) :=
  [("schema_version", .number report.schemaVersion),
    ("started_at", .string (times.marshal report.startedAt (times.zone report.startedAt))),
    ("finished_at", .string (times.marshal report.finishedAt (times.zone report.finishedAt))),
    ("severity", ofString (severityText report.severity)),
    ("title", ofString report.title),
    ("explanation", ofString report.explanation),
    ("recommended_action", ofString report.recommendedAction),
    ("stages", .array ([report.stages.dns, report.stages.tcp, report.stages.tls,
      report.stages.wfp].map ofStage)),
    ("features", ofFeatures report.features),
    ("probe_results",
      ofSlice ofTargetResult (if report.probeResults = [] then none else some report.probeResults)),
    ("wfp_events", ofSummary report.wfpEvents)]

/-- The keys of a map are written in their order. -/
def statusFields (enabled : Bool) (error : String) (sequence : UInt64) : List (String × Value) :=
  [("runtime", obj [("enabled", .bool enabled), ("error", ofString error)]),
    ("sequence", .number sequence.toNat),
    ("state", ofString "ready")]

def ofResult : Rpc.Result → Value
  | .status enabled error sequence => obj (statusFields enabled error sequence)
  | .events events => ofSlice ofEvent events
  | .report report => obj (reportFields times report)
  | .history items => .array (items.map (ofEntry times))
  | .profiles items => .array (items.map (ofProfile times))
  | .saved => obj [("saved", .bool true)]

def outcomeField : Except Rpc.RPCError Rpc.Result → String × Value
  | .ok result => ("result", ofResult times result)
  | .error e => ("error", obj [("code", .number e.code), ("message", .string e.message)])

def ofResponse (response : Rpc.Response) : Value :=
  obj [("jsonrpc", ofString "2.0"), ("id", .number response.id.toNat),
    outcomeField times response.outcome]

/-- `Encoder.Encode`: the text and a newline. -/
def encode (response : Rpc.Response) : Bytes :=
  (ofResponse times response).render quoting ++ [0x0a]

end Values

/-! ## The text of a response -/

variable (times : Times) (response : Rpc.Response)

theorem newline_not_mem_render (v : Value) : (0x0a : UInt8) ∉ v.render quoting := by
  intro h
  exact absurd (not_control_render quoting v _ h) (by decide)

theorem escape_jsonrpc : quoting.escape (lit "jsonrpc") = lit "jsonrpc" := by
  decide +kernel

/-- A response begins with the key `jsonrpc`. -/
theorem announced_ofResponse : Announced quoting (ofResponse times response) := by
  have hletter : lit "jsonrpc" = 0x6a :: (lit "jsonrpc").tail := by
    decide +kernel
  exact ⟨_, _, _, 0x6a, _, rfl, escape_jsonrpc.trans hletter, by decide, by decide, by decide,
    by decide, by decide⟩

end GoJson
end Orchestrator
end FlyDpi
