import FlyDpi.Orchestrator.GoJson
import FlyDpi.Ui.RpcFraming
import FlyDpi.Ui.RpcRouting

/-!
# Wire — responses as bytes between the server and the client

What `encoding/json` writes, `QJsonDocument::fromJson` reads.  A response that was cut off when a
connection was lost stays in the client's buffer and spoils the first line of the next connection; it
never makes another response of it.

Qt's parser is a parameter.  Of its documentation two things are relied on, and for no other texts
than those that come about here (`Parses`): JSON within its limits is read as what it says, and what
is not JSON is refused.  That beginnings of responses in front of a response are not JSON is proved.
-/

namespace FlyDpi
namespace Ui

open Lib FlyDpi.Orchestrator FlyDpi.Orchestrator.GoJson
open Lib.Json (Value)

/-! ## Values -/

/-- A key as a string; the server's are UTF-8. -/
def keyText (key : Bytes) : String :=
  (String.fromUTF8? ⟨key.toArray⟩).getD ""

mutual

def ofValue : Value → Json
  | .null => .null
  | .bool b => .bool b
  | .number n => .number n
  | .string s => .string s
  | .array items => .array (ofItems items)
  | .object members => .object (ofMembers members)

def ofItems : List Value → List Json
  | [] => []
  | v :: items => ofValue v :: ofItems items

def ofMembers : List (Bytes × Value) → JsonObject
  | [] => []
  | (key, v) :: members => (keyText key, ofValue v) :: ofMembers members

end

theorem keyText_lit (s : String) : keyText (lit s) = s := by
  have hbytes : (⟨(lit s).toArray⟩ : ByteArray) = s.toByteArray := by
    simp [lit]
  rw [keyText, hbytes, String.fromUTF8?, dif_pos s.isValidUTF8]
  rfl

/-- The value that the client reads for one that the server writes. -/
def received (v : Value) : Json :=
  ofValue (v.clean quoting)

/-- All names of the fields are ASCII. -/
def Named (fields : List (String × Value)) : Prop :=
  ∀ field ∈ fields, isASCII (lit field.1) = true

theorem named_of_names {fields : List (String × Value)} (names : List String)
    (h : fields.map Prod.fst = names)
    (hnames : (names.all fun name => isASCII (lit name)) = true) : Named fields := by
  intro field hfield
  have hmem : field.1 ∈ names := by
    rw [← h]
    exact List.mem_map_of_mem hfield
  exact List.all_eq_true.1 hnames field.1 hmem

theorem ofMembers_clean {fields : List (String × Value)} (h : Named fields) :
    ofMembers (Lib.Json.cleanMembers quoting (fields.map fun field => (lit field.1, field.2))) =
      fields.map fun field => (field.1, received field.2) := by
  induction fields with
  | nil =>
      rw [List.map_nil, Lib.Json.cleanMembers, ofMembers]
      rfl
  | cons field fields ih =>
      have hkey : keyText (cleanString (lit field.1)) = field.1 := by
        rw [cleanString_ascii (h field List.mem_cons_self), keyText_lit]
      rw [List.map_cons, Lib.Json.cleanMembers, ofMembers,
        ih fun other hother => h other (List.mem_cons_of_mem _ hother)]
      exact congrArg (fun key => (key, received field.2) :: _) hkey

theorem received_obj {fields : List (String × Value)} (h : Named fields) :
    received (obj fields) = .object (fields.map fun field => (field.1, received field.2)) := by
  rw [received, obj, Value.clean, ofValue, ofMembers_clean h]

theorem ofItems_clean (items : List Value) :
    ofItems (Lib.Json.cleanItems quoting items) = items.map received := by
  induction items with
  | nil =>
      rw [Lib.Json.cleanItems, ofItems]
      rfl
  | cons v items ih =>
      rw [Lib.Json.cleanItems, ofItems, ih]
      rfl

theorem received_array (items : List Value) :
    received (.array items) = .array (items.map received) := by
  rw [received, Value.clean, ofValue, ofItems_clean]

@[simp] theorem received_number (n : Int) : received (.number n) = .number n := by
  simp only [received, Value.clean, ofValue]

@[simp] theorem received_bool (b : Bool) : received (.bool b) = .bool b := by
  simp only [received, Value.clean, ofValue]

@[simp] theorem received_null : received .null = .null := by
  simp only [received, Value.clean, ofValue]

@[simp] theorem received_string (s : Bytes) : received (.string s) = .string (cleanString s) := by
  rw [received, Value.clean, ofValue]
  rfl

section Responses

variable (times : Times)

/-- What the client reads of the strings and times of the server. -/
def texts : Texts :=
  { string := cleanString
    time := fun t offset => cleanString (times.marshal t offset) }

theorem received_ofEvent (e : Server.Event) : received (ofEvent e) = eventJson e := by
  rw [ofEvent, received_obj (named_of_names ["timestamp_unix_ms", "kind", "protocol", "remote_port",
    "process_id", "latency_ms", "error_code"] rfl (by decide +kernel))]
  simp [eventJson]

theorem received_ofEntry (e : History.Entry) :
    received (ofEntry times e) = entryJson (texts times) e := by
  rw [ofEntry, received_obj (named_of_names ["id", "timestamp", "severity", "title", "summary"] rfl
    (by decide +kernel))]
  simp [entryJson, texts]

theorem received_ofSlice {α : Type} (value : α → Value) (slice : Option (List α)) :
    received (ofSlice value slice) =
      match slice with
      | none => .null
      | some xs => .array (xs.map fun x => received (value x)) := by
  cases slice with
  | none =>
      exact received_null
  | some xs =>
      rw [ofSlice, received_array, List.map_map]
      rfl

theorem received_ofProfile (p : Profile) :
    received (ofProfile times p) = profileJson (texts times) p := by
  rw [ofProfile, received_obj (named_of_names ["schema_version", "name", "preferred_action", "mode",
    "timeout_ms", "targets", "last_severity", "updated_at"] rfl (by decide +kernel))]
  have htargets : received (ofSlice .string p.targets) = targetsJson (texts times) p.targets := by
    rw [received_ofSlice]
    cases p.targets with
    | none =>
        rfl
    | some targets =>
        simp [targetsJson, texts]
  simp [profileJson, texts, htargets]

/-- A report as the client reads it. -/
def reportJson (report : Diagnostic.DiagnosticReport) : JsonObject :=
  (reportFields times report).map fun field => (field.1, received field.2)

def statusJson (enabled : Bool) (error : String) (sequence : UInt64) : JsonObject :=
  [("runtime", .object [("enabled", .bool enabled), ("error", .string (cleanString (lit error)))]),
    ("sequence", .number sequence.toNat),
    ("state", .string (cleanString (lit "ready")))]

def resultJson : Rpc.Result → Json
  | .status enabled error sequence => .object (statusJson enabled error sequence)
  | .events none => .null
  | .events (some events) => .array (events.map eventJson)
  | .report report => .object (reportJson times report)
  | .history items => .array (items.map (entryJson (texts times)))
  | .profiles items => .array (items.map (profileJson (texts times)))
  | .saved => .object [("saved", .bool true)]

theorem received_ofResult (result : Rpc.Result) :
    received (ofResult times result) = resultJson times result := by
  cases result with
  | status enabled error sequence =>
      have hruntime : received (obj [("enabled", .bool enabled), ("error", ofString error)]) =
          .object [("enabled", .bool enabled), ("error", .string (cleanString (lit error)))] := by
        rw [received_obj (named_of_names ["enabled", "error"] rfl (by decide +kernel))]
        simp [ofString]
      rw [ofResult, received_obj (named_of_names ["runtime", "sequence", "state"] rfl
        (by decide +kernel))]
      simp only [statusFields, List.map_cons, List.map_nil, hruntime]
      simp [resultJson, statusJson, ofString]
  | events events =>
      rw [ofResult, received_ofSlice]
      cases events with
      | none =>
          rfl
      | some events =>
          simp [resultJson, received_ofEvent]
  | report report =>
      rw [ofResult, received_obj (named_of_names ["schema_version", "started_at", "finished_at",
        "severity", "title", "explanation", "recommended_action", "stages", "features",
        "probe_results", "wfp_events"] rfl (by decide +kernel))]
      rfl
  | history items =>
      rw [ofResult, received_array, List.map_map]
      simp [resultJson, Function.comp_def, received_ofEntry]
  | profiles items =>
      rw [ofResult, received_array, List.map_map]
      simp [resultJson, Function.comp_def, received_ofProfile]
  | saved =>
      rw [ofResult, received_obj (named_of_names ["saved"] rfl (by decide +kernel))]
      simp [resultJson]

/-- A response as the client reads it. -/
def responseJson (response : Rpc.Response) : JsonObject :=
  [("jsonrpc", .string (cleanString (lit "2.0"))), ("id", .number response.id.toNat),
    match response.outcome with
    | .ok result => ("result", resultJson times result)
    | .error e =>
        ("error", .object [("code", .number e.code), ("message", .string (cleanString e.message))])]

theorem received_ofResponse (response : Rpc.Response) :
    received (ofResponse times response) = .object (responseJson times response) := by
  rw [ofResponse]
  cases houtcome : response.outcome with
  | ok result =>
      rw [outcomeField, received_obj (named_of_names ["jsonrpc", "id", "result"] rfl
        (by decide +kernel))]
      simp [responseJson, houtcome, received_ofResult, ofString]
  | error e =>
      have herror : received (obj [("code", .number e.code), ("message", .string e.message)]) =
          .object [("code", .number e.code), ("message", .string (cleanString e.message))] := by
        rw [received_obj (named_of_names ["code", "message"] rfl (by decide +kernel))]
        simp
      rw [outcomeField, received_obj (named_of_names ["jsonrpc", "id", "error"] rfl
        (by decide +kernel))]
      simp [responseJson, houtcome, herror, ofString]

/-- The text of a response, without its newline. -/
def responseText (response : Rpc.Response) : Bytes :=
  (ofResponse times response).render quoting

/-! ## Texts that were cut off -/

/-- What several connections leave in the buffer: responses that were cut off, one behind the
other. -/
inductive Stale : Bytes → Prop
  | nil : Stale []
  | cut {stale p : Bytes} {response : Rpc.Response} : Stale stale →
      p <+: responseText times response → p ≠ [] → Stale (stale ++ p)

/-- Nothing stale makes a value of what comes behind it. -/
theorem Stale.parse_append {stale : Bytes} (h : Stale times stale) (hne : stale ≠ [])
    (response : Rpc.Response) : Lib.Json.parse (stale ++ responseText times response) = none := by
  -- with every piece that is taken off the end, what stands behind stays foreign to the next one
  have hparse : ∀ {t : Bytes}, Lib.Json.Foreign t → Lib.Json.parse (stale ++ t) = none := by
    induction h with
    | nil =>
        exact absurd rfl hne
    | @cut stale p response' hstale hp hpne ih =>
        intro t ht
        have hcut : Lib.Json.Foreign (p ++ t) :=
          ht.cut (announced_ofResponse times response') hp hpne
        rw [List.append_assoc]
        by_cases hempty : stale = []
        · rw [hempty, List.nil_append]
          exact ht.parse_cut hp hpne
        · exact ih hempty hcut
  exact hparse (Lib.Json.foreign_render (announced_ofResponse times response))

/-! ## Qt's reader -/

/-- The numbers fit into a `qint64`, and the text is one that `QJsonDocument` takes. -/
structure Portable (response : Rpc.Response) : Prop where
  numbers : ∀ n ∈ (ofResponse times response).numbers, -2 ^ 63 ≤ n ∧ n < 2 ^ 63
  length : (responseText times response).length < 2 ^ 27

/-- `QJsonDocument::fromJson` on what can be in a line of the client. -/
structure Parses (qt : Qt) : Prop where
  reads : ∀ {response : Rpc.Response}, Portable times response →
    qt.fromJson (responseText times response) = some (.object (responseJson times response))
  rejects : ∀ {stale : Bytes} {response : Rpc.Response}, Stale times stale →
    Lib.Json.parse (stale ++ responseText times response) = none →
    qt.fromJson (stale ++ responseText times response) = none

/-- A reader that takes strict JSON and nothing else. -/
def strictFromJson (line : Bytes) : Option Json :=
  match Lib.Json.parse line with
  | some (.array items) => some (ofValue (.array items))
  | some (.object members) => some (ofValue (.object members))
  | _ => none

def strictQt : Qt :=
  { fromJson := strictFromJson
    accepts := fun _ => true }

theorem strictFromJson_responseText (response : Rpc.Response) :
    strictFromJson (responseText times response) = some (.object (responseJson times response)) := by
  have hparse := Lib.Json.parse_render quoting (ofResponse times response)
  have hreceived := received_ofResponse times response
  rw [received] at hreceived
  rw [strictFromJson, responseText, hparse, ← hreceived]
  rw [ofResponse, obj, Value.clean]

theorem strict_parses {qt : Qt} (h : qt.fromJson = strictFromJson) : Parses times qt where
  reads := by
    intro response _
    rw [h]
    exact strictFromJson_responseText times response
  rejects := by
    intro stale response _ hparse
    rw [h, strictFromJson, hparse]

/-! ## The bytes of a connection -/

/-- What the server writes on a connection. -/
def streamOf (responses : List Rpc.Response) : Bytes :=
  responses.flatMap (encode times)

theorem newline_not_mem_responseText (response : Rpc.Response) :
    (0x0a : UInt8) ∉ responseText times response :=
  newline_not_mem_render _

theorem streamOf_cons (response : Rpc.Response) (responses : List Rpc.Response) :
    streamOf times (response :: responses) =
      responseText times response ++ 0x0a :: streamOf times responses := by
  rw [streamOf, List.flatMap_cons, encode, List.append_assoc]
  rfl

/-- Of the bytes that have arrived, the newlines end whole responses, and the next one is cut. -/
theorem cut_streamOf {responses : List Rpc.Response} {got : Bytes}
    (h : got <+: streamOf times responses) :
    ∃ k rest, Framing.cut 0x0a got = ((responses.take k).map (responseText times), rest) ∧
      k ≤ responses.length ∧
      (rest ≠ [] → ∃ response, responses[k]? = some response ∧
        rest <+: responseText times response) := by
  induction responses generalizing got with
  | nil =>
      rw [streamOf, List.flatMap_nil] at h
      exact ⟨0, [], by rw [List.prefix_nil.1 h]; rfl, Nat.le_refl 0, fun hne => absurd rfl hne⟩
  | cons response responses ih =>
      rw [streamOf_cons] at h
      have htext := newline_not_mem_responseText times response
      -- the first response is cut, or arrived without its newline, or with it
      rcases Lib.Json.cut_append h with hcut | ⟨p, rfl, hp⟩
      · refine ⟨0, got, Framing.cut_of_not_mem fun hmem => htext (hcut.subset hmem),
          Nat.zero_le _, fun _ => ⟨response, rfl, hcut⟩⟩
      · rcases List.prefix_cons_iff.1 hp with rfl | ⟨p', rfl, hp'⟩
        · rw [List.append_nil]
          exact ⟨0, _, Framing.cut_of_not_mem htext, Nat.zero_le _,
            fun _ => ⟨response, rfl, List.prefix_rfl⟩⟩
        · rcases ih hp' with ⟨k, rest, hcut, hk, hrest⟩
          refine ⟨k + 1, rest, ?_, Nat.succ_le_succ hk, hrest⟩
          rw [Framing.cut_frame htext, hcut]
          rfl

theorem length_cut_streamOf (responses : List Rpc.Response) :
    (Framing.cut 0x0a (streamOf times responses)).1.length = responses.length := by
  induction responses with
  | nil =>
      rfl
  | cons response responses ih =>
      rw [streamOf_cons, Framing.cut_frame (newline_not_mem_responseText times response),
        List.length_cons, List.length_cons, ih]

/-! ### Lines -/

theorem trimmed_braces (x : Bytes) : RpcClient.trimmed (0x7b :: (x ++ [0x7d])) =
    0x7b :: (x ++ [0x7d]) := by
  have hopen : RpcClient.isSpace 0x7b = false := by
    decide
  have hclose : ¬ RpcClient.isSpace 0x7d = true := by
    decide
  rw [RpcClient.trimmed, Framing.trim, List.dropWhile_cons_of_neg (by simp [hopen]),
    ← List.cons_append, List.rdropWhile_concat_neg _ _ _ hclose]

theorem responseText_braces (response : Rpc.Response) :
    ∃ x, responseText times response = 0x7b :: (x ++ [0x7d]) := by
  rw [responseText, ofResponse, obj, Value.render]
  exact ⟨_, rfl⟩

theorem Stale.brace {stale : Bytes} (h : Stale times stale) (hne : stale ≠ []) :
    ∃ x, stale = 0x7b :: x := by
  induction h with
  | nil =>
      exact absurd rfl hne
  | @cut stale p response _ hp hpne ih =>
      by_cases hempty : stale = []
      · rcases responseText_braces times response with ⟨x, htext⟩
        rw [htext] at hp
        rcases List.prefix_cons_iff.1 hp with rfl | ⟨p', rfl, _⟩
        · exact absurd rfl hpne
        · exact ⟨p', by rw [hempty, List.nil_append]⟩
      · rcases ih hempty with ⟨x, rfl⟩
        exact ⟨x ++ p, rfl⟩

theorem Stale.newline_not_mem {stale : Bytes} (h : Stale times stale) : 0x0a ∉ stale := by
  induction h with
  | nil =>
      exact List.not_mem_nil
  | @cut stale p response _ hp _ ih =>
      rw [List.mem_append, not_or]
      exact ⟨ih, fun hmem => newline_not_mem_responseText times response (hp.subset hmem)⟩

theorem lineOf_stale {stale : Bytes} (h : Stale times stale) (response : Rpc.Response) :
    RpcClient.lineOf [stale ++ responseText times response] =
      [stale ++ responseText times response] := by
  have htrimmed : ∃ x, stale ++ responseText times response = 0x7b :: (x ++ [0x7d]) := by
    rcases responseText_braces times response with ⟨x, htext⟩
    by_cases hempty : stale = []
    · exact ⟨x, by rw [hempty, htext, List.nil_append]⟩
    · rcases h.brace times hempty with ⟨y, rfl⟩
      exact ⟨y ++ 0x7b :: x, by rw [htext]; simp⟩
  rcases htrimmed with ⟨x, htext⟩
  rw [htext]
  simp [RpcClient.lineOf, trimmed_braces]

theorem lineOf_texts (responses : List Rpc.Response) :
    RpcClient.lineOf (responses.map (responseText times)) =
      responses.map (responseText times) := by
  induction responses with
  | nil =>
      rfl
  | cons response responses ih =>
      have hfirst := lineOf_stale times .nil response
      rw [List.map_cons, ← List.singleton_append, RpcClient.lineOf_append, ih]
      rw [List.nil_append] at hfirst
      rw [hfirst]

/-- What stands in front of the first line becomes part of it. -/
theorem lineOf_stale_texts {stale : Bytes} (h : Stale times stale) (response : Rpc.Response)
    (responses : List Rpc.Response) :
    RpcClient.lineOf ((stale ++ responseText times response) ::
      responses.map (responseText times)) =
        (stale ++ responseText times response) :: responses.map (responseText times) := by
  rw [← List.singleton_append, RpcClient.lineOf_append, lineOf_stale times h, lineOf_texts]

/-- No line is too long for the index of its newline. -/
theorem linesFit_stale {stale got : Bytes} {responses : List Rpc.Response} (h : Stale times stale)
    (hshort : stale.length < 2 ^ 30) (hportable : ∀ response ∈ responses, Portable times response)
    (hgot : got <+: streamOf times responses) : RpcClient.LinesFit (stale ++ got) := by
  have htext : ∀ response ∈ responses, (responseText times response).length + 1 < 2 ^ 30 := by
    intro response hmem
    have hlength := (hportable response hmem).length
    omega
  rcases cut_streamOf times hgot with ⟨k, rest, hcut, _, _⟩
  intro frame hframe
  rw [Framing.cut_append_left (h.newline_not_mem times), hcut] at hframe
  have htaken : ∀ response ∈ responses.take k, (responseText times response).length + 1 < 2 ^ 30 :=
    fun response hmem => htext response (List.mem_of_mem_take hmem)
  cases htake : responses.take k with
  | nil =>
      rw [htake] at hframe
      cases hframe
  | cons first later =>
      rw [htake] at hframe htaken
      rcases List.forall_mem_cons.1 htaken with ⟨hfirst, hlater⟩
      rcases List.mem_cons.1 hframe with rfl | hmem
      · -- the first line stands behind what is stale
        rw [List.length_append]
        omega
      · rcases List.mem_map.1 hmem with ⟨response, hresponse, rfl⟩
        have hlength := hlater response hresponse
        omega

section Lines

variable {times} {qt : Qt} (hqt : Parses times qt)

/-- A line, and the response that stands at its end. -/
def Hears (times : Times) (qt : Qt) (line : Bytes) (response : Rpc.Response) : Prop :=
  qt.fromJson line = some (.object (responseJson times response)) ∨ qt.fromJson line = none

include hqt

/-- The lines of what has arrived behind something stale are the responses in their order; the first
one may be spoiled. -/
theorem hears_lines {stale got : Bytes} {responses : List Rpc.Response} (h : Stale times stale)
    (hportable : ∀ response ∈ responses, Portable times response)
    (hgot : got <+: streamOf times responses) :
    ∃ k, k = (Framing.cut 0x0a got).1.length ∧ k ≤ responses.length ∧
      List.Forall₂ (Hears times qt) (RpcClient.lineOf (Framing.cut 0x0a (stale ++ got)).1)
        (responses.take k) := by
  rcases cut_streamOf times hgot with ⟨k, rest, hcut, hk, _⟩
  have hframes : (responses.take k).length = k := by
    rw [List.length_take]
    omega
  refine ⟨k, by rw [hcut, List.length_map, hframes], hk, ?_⟩
  rw [Framing.cut_append_left (h.newline_not_mem times), hcut]
  have hwhole : ∀ rs : List Rpc.Response, (∀ r ∈ rs, Portable times r) →
      List.Forall₂ (Hears times qt) (rs.map (responseText times)) rs := by
    intro rs hrs
    induction rs with
    | nil =>
        exact .nil
    | cons r rs ih =>
        rcases List.forall_mem_cons.1 hrs with ⟨hr, hrs⟩
        exact .cons (.inl (hqt.reads hr)) (ih hrs)
  have htaken : ∀ r ∈ responses.take k, Portable times r :=
    fun r hr => hportable r (List.mem_of_mem_take hr)
  cases htake : responses.take k with
  | nil =>
      exact .nil
  | cons r rs =>
      rw [htake] at htaken
      rcases List.forall_mem_cons.1 htaken with ⟨hr, hrs⟩
      rw [List.map_cons]
      simp only [lineOf_stale_texts times h]
      -- only the first line has something in front
      refine .cons ?_ (hwhole rs hrs)
      by_cases hempty : stale = []
      · rw [hempty, List.nil_append]
        exact .inl (hqt.reads hr)
      · exact .inr (hqt.rejects h (h.parse_append times hempty r))

end Lines

/-! ## What the client does with a response -/

section Client

variable (client : RpcClient)

theorem handleLine_of_some {qt : Qt} {line : Bytes} {obj : JsonObject}
    (h : qt.fromJson line = some (.object obj)) :
    client.handleLine qt line = client.handleObject obj := by
  rw [RpcClient.handleLine, h]

theorem handleObject_error {response : Rpc.Response} {e : Rpc.RPCError}
    (h : response.outcome = .error e) :
    client.handleObject (responseJson times response) =
      client.emit (.errorOccurred (cleanString e.message)) := by
  rw [responseJson, h]
  rfl

theorem ofInt_toNat (id : UInt64) : UInt64.ofInt (id.toNat : Int) = id := by
  have hlt := id.toNat_lt
  have hmod : ((id.toNat : Int) % 2 ^ 64).toNat = id.toNat := by
    omega
  rw [UInt64.ofInt, hmod, UInt64.ofNat_toNat]

/-- A result, by the kind of value that it is. -/
theorem handleObject_ok {response : Rpc.Response} {result : Rpc.Result}
    (h : response.outcome = .ok result) :
    client.handleObject (responseJson times response) =
      match resultJson times result with
      | .array list =>
          if 0 < response.id then client.takeList list
          else client.handleResult response.id (.array list)
      | value => client.handleResult response.id value := by
  rw [responseJson, h]
  calc
    client.handleObject [("jsonrpc", .string (cleanString (lit "2.0"))),
        ("id", .number response.id.toNat), ("result", resultJson times result)] =
      match resultJson times result with
      | .array list =>
          if 0 < UInt64.ofInt (response.id.toNat : Int) then client.takeList list
          else client.handleResult (UInt64.ofInt (response.id.toNat : Int)) (.array list)
      | value => client.handleResult (UInt64.ofInt (response.id.toNat : Int)) value := rfl
    _ = _ := by
          rw [ofInt_toNat]

theorem handleResult_report (id : UInt64) (report : Diagnostic.DiagnosticReport) :
    client.handleResult id (.object (reportJson times report)) =
      ({ client with diagnosticReport := reportJson times report }.emit
        .diagnosticReportChanged).emit (.resultReceived id (.object (reportJson times report))) :=
  rfl

section Reads

variable {qt : Qt} (hqt : Parses times qt)

/-- The client takes the responses one after the other. -/
def hear (responses : List Rpc.Response) : RpcClient :=
  responses.foldl (fun client response => client.handleObject (responseJson times response)) client

include hqt

/-- A response that arrives as a whole. -/
theorem onReadyRead_encode (hbuffer : client.buffer = []) {response : Rpc.Response}
    (hportable : Portable times response) :
    client.onReadyRead qt (encode times response) =
      client.handleObject (responseJson times response) := by
  have htext : encode times response = responseText times response ++ 0x0a :: [] := rfl
  have hline := lineOf_stale times .nil response
  rw [List.nil_append] at hline
  have hfit : RpcClient.LinesFit (client.buffer ++ encode times response) := by
    have hlength := hportable.length
    refine RpcClient.linesFit_of_length_lt ?_
    rw [hbuffer, htext, List.nil_append, List.length_append, List.length_singleton]
    omega
  have hsame : client.withBuffer [] = client := by
    rw [← hbuffer]
    rfl
  rw [RpcClient.onReadyRead_eq_cut qt client _ hfit, hbuffer, List.nil_append, htext,
    Framing.cut_frame (newline_not_mem_responseText times response)]
  simp only [Framing.cut, hline, List.foldl_cons, List.foldl_nil,
    handleLine_of_some client (hqt.reads hportable)]
  rw [← RpcClient.handleObject_withBuffer, hsame]

/-! ### A whole connection -/

theorem foldl_handleLine_texts {responses : List Rpc.Response}
    (hportable : ∀ response ∈ responses, Portable times response) :
    (responses.map (responseText times)).foldl (RpcClient.handleLine qt) client =
      hear times client responses := by
  induction responses generalizing client with
  | nil =>
      rfl
  | cons response responses ih =>
      rcases List.forall_mem_cons.1 hportable with ⟨hfirst, hlater⟩
      rw [List.map_cons, List.foldl_cons, ih _ hlater,
        handleLine_of_some client (hqt.reads hfirst)]
      rfl

omit hqt in
/-- What has arrived, divided into whole responses and the beginning of the next one. -/
theorem arrived {responses : List Rpc.Response} {got : Bytes}
    (h : got <+: streamOf times responses) :
    ∃ k rest, k ≤ responses.length ∧ got = streamOf times (responses.take k) ++ rest ∧
      0x0a ∉ rest ∧ Framing.cut 0x0a got = ((responses.take k).map (responseText times), rest) := by
  rcases cut_streamOf times h with ⟨k, rest, hcut, hk, _⟩
  have hjoin := @Framing.join_cut _ _ 0x0a got
  have hrest := @Framing.not_mem_rest _ _ 0x0a got
  rw [hcut] at hjoin hrest
  rw [List.flatMap_map] at hjoin
  exact ⟨k, rest, hk, hjoin.symm, hrest, hcut⟩

/-- On a connection before which nothing was left unread, whatever part of the responses has arrived
and however it was divided into chunks: the client is where taking the whole ones as values would have
brought it, and keeps the rest. -/
theorem whole_responses_heard {responses : List Rpc.Response} {chunks : List Bytes}
    (hportable : ∀ response ∈ responses, Portable times response) (hbuffer : client.buffer = [])
    (harrived : chunks.flatten <+: streamOf times responses) :
    ∃ k rest, k ≤ responses.length ∧
      chunks.flatten = streamOf times (responses.take k) ++ rest ∧ 0x0a ∉ rest ∧
        client.run qt (chunks.map .readyRead) =
          (hear times client (responses.take k)).withBuffer rest := by
  rcases arrived times harrived with ⟨k, rest, hk, hgot, hrest, hcut⟩
  have hclean : 0x0a ∉ client.buffer := by
    rw [hbuffer]
    exact List.not_mem_nil
  have hfit : RpcClient.LinesFit (client.buffer ++ chunks.flatten) := by
    rw [hbuffer]
    exact linesFit_stale times .nil (by decide) hportable harrived
  refine ⟨k, rest, hk, hgot, hrest, ?_⟩
  rw [RpcClient.run_chunks qt client chunks hclean hfit,
    RpcClient.onReadyRead_eq_cut qt client _ hfit, hbuffer, List.nil_append, hcut, lineOf_texts,
    foldl_handleLine_texts times client hqt fun response hmem =>
      hportable response (List.mem_of_mem_take hmem)]

/-- Behind what lost connections left in the buffer, the first response of the connection is lost
and reported as malformed; the others are heard. -/
theorem first_response_lost {responses : List Rpc.Response} {chunks : List Bytes}
    (hportable : ∀ response ∈ responses, Portable times response)
    (hstale : Stale times client.buffer) (hne : client.buffer ≠ [])
    (hshort : client.buffer.length < 2 ^ 30)
    (harrived : chunks.flatten <+: streamOf times responses) :
    ∃ k rest, k ≤ responses.length ∧
      chunks.flatten = streamOf times (responses.take k) ++ rest ∧ 0x0a ∉ rest ∧
        client.run qt (chunks.map .readyRead) =
          match responses.take k with
          | [] => client.withBuffer (client.buffer ++ rest)
          | _ :: heard =>
              (hear times (client.emit (.errorOccurred (lit "Некорректный RPC ответ")))
                heard).withBuffer rest := by
  rcases arrived times harrived with ⟨k, rest, hk, hgot, hrest, hcut⟩
  have hclean := hstale.newline_not_mem times
  have hfit := linesFit_stale times hstale hshort hportable harrived
  have htaken : ∀ response ∈ responses.take k, Portable times response :=
    fun response hmem => hportable response (List.mem_of_mem_take hmem)
  refine ⟨k, rest, hk, hgot, hrest, ?_⟩
  rw [RpcClient.run_chunks qt client chunks hclean hfit,
    RpcClient.onReadyRead_eq_cut qt client _ hfit, Framing.cut_append_left hclean, hcut]
  cases htake : responses.take k with
  | nil =>
      rw [htake] at hgot
      simp only [List.map_nil]
      rw [hgot]
      rfl
  | cons response heard =>
      rw [htake] at htaken
      rcases List.forall_mem_cons.1 htaken with ⟨_, hheard⟩
      -- the first line begins with what is stale
      have hspoiled : qt.fromJson (client.buffer ++ responseText times response) = none :=
        hqt.rejects hstale (hstale.parse_append times hne response)
      simp only [List.map_cons, lineOf_stale_texts times hstale, List.foldl_cons]
      rw [RpcClient.handleLine, hspoiled]
      simp only [foldl_handleLine_texts times _ hqt hheard]

end Reads

end Client

end Responses

def liveTimes : Times :=
  { marshal := fun _ _ => lit "2024-10-27T02:30:00+02:00"
    zone := fun _ => 7200 }

/-- An error, a list and a value. -/
def threeResponses : List Rpc.Response :=
  [{ id := 3
     outcome := .error { code := -32601, message := lit "method \"x\" not found" } },
    { id := 4
      outcome := .ok (.events (some [])) },
    { id := 5
      outcome := .ok .saved }]

theorem threeResponses_portable : ∀ response ∈ threeResponses, Portable liveTimes response := by
  intro response hmem
  simp only [threeResponses, List.mem_cons, List.not_mem_nil, or_false] at hmem
  rcases hmem with rfl | rfl | rfl
  · exact ⟨by decide +kernel, by decide +kernel⟩
  · exact ⟨by decide +kernel, by decide +kernel⟩
  · exact ⟨by decide +kernel, by decide +kernel⟩

/-- Three chunks, without the last bytes; the first one ends inside of the first response. -/
def threeChunks : List Bytes :=
  let bytes := streamOf liveTimes threeResponses
  [bytes.take 9, (bytes.drop 9).take 120, (bytes.drop 129).take 40]

theorem threeChunks_arrive : threeChunks.flatten <+: streamOf liveTimes threeResponses := by
  decide +kernel

theorem three_heard_in_parts :
    ∃ k rest, k ≤ threeResponses.length ∧
      threeChunks.flatten = streamOf liveTimes (threeResponses.take k) ++ rest ∧ 0x0a ∉ rest ∧
        RpcClient.start.run strictQt (threeChunks.map .readyRead) =
          (hear liveTimes .start (threeResponses.take k)).withBuffer rest :=
  whole_responses_heard liveTimes .start (strict_parses liveTimes rfl) threeResponses_portable rfl
    threeChunks_arrive

/-- Two connections were lost, each behind the first byte of a response. -/
def leftOver : RpcClient :=
  { RpcClient.start with buffer := [0x7b, 0x7b] }

theorem first_of_three_lost :
    ∃ k rest, k ≤ threeResponses.length ∧
      threeChunks.flatten = streamOf liveTimes (threeResponses.take k) ++ rest ∧ 0x0a ∉ rest ∧
        leftOver.run strictQt (threeChunks.map .readyRead) =
          match threeResponses.take k with
          | [] => leftOver.withBuffer (leftOver.buffer ++ rest)
          | _ :: heard =>
              (hear liveTimes (leftOver.emit (.errorOccurred (lit "Некорректный RPC ответ")))
                heard).withBuffer rest := by
  have hbrace : ∀ response, [0x7b] <+: responseText liveTimes response := by
    intro response
    rcases responseText_braces liveTimes response with ⟨x, htext⟩
    rw [htext]
    exact ⟨_, rfl⟩
  have hfirst : Stale liveTimes [0x7b] :=
    .cut .nil (hbrace { id := 1, outcome := .ok .saved }) (by decide)
  have hstale : Stale liveTimes leftOver.buffer :=
    .cut hfirst (hbrace { id := 2, outcome := .ok .saved }) (by decide)
  exact first_response_lost liveTimes leftOver (strict_parses liveTimes rfl)
    threeResponses_portable hstale (by decide) (by decide) threeChunks_arrive

end Ui
end FlyDpi
