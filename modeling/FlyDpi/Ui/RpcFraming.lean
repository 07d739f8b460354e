import FlyDpi.Ui.RpcClient

/-!
# RpcFraming — whose bytes the client's lines are made of

The buffer of the client survives a disconnect.  It always holds what stands behind the last newline
of everything received so far, on whatever connection, and the next connection's first line is read
behind it.

All of this is about lines whose end an `int` can count.  The index of the newline behind a line of
2^31 bytes is negative, and the loop stops in front of it for good (`parsedLines_behind_long_line`).
-/

namespace FlyDpi
namespace Ui

open Lib FlyDpi.Orchestrator

namespace RpcClient

/-! ## The loop on the buffer -/

/-- The lines that are parsed of the frames that newlines end. -/
def lineOf (frames : List Bytes) : List Bytes :=
  (frames.map trimmed).filter fun line => line ≠ []

/-- No line of the bytes, its newline included, reaches 2^31 bytes. -/
def LinesFit (bytes : Bytes) : Prop :=
  ∀ frame ∈ (Framing.cut 0x0a bytes).1, frame.length + 1 < 2 ^ 31

theorem LinesFit.of_append {xs ys : Bytes} (h : LinesFit (xs ++ ys)) : LinesFit xs := by
  intro frame hframe
  apply h
  rw [Framing.cut_append]
  exact List.mem_append_left _ hframe

/-- What the loop finds after the frames of `xs` are taken off. -/
theorem LinesFit.rest {xs ys : Bytes} (h : LinesFit (xs ++ ys)) :
    LinesFit ((Framing.cut 0x0a xs).2 ++ ys) := by
  intro frame hframe
  apply h
  rw [Framing.cut_append]
  exact List.mem_append_right _ hframe

theorem linesFit_of_length_lt {bytes : Bytes} (h : bytes.length < 2 ^ 31) : LinesFit bytes := by
  intro frame hframe
  have hlen : frame.length + 1 ≤ bytes.length := Framing.length_frame_lt hframe
  omega

variable (qt : Qt)

theorem newlineIndex_frame {frame : Bytes} (hframe : 0x0a ∉ frame) (rest : Bytes) :
    newlineIndex (frame ++ 0x0a :: rest) = Int.bmod frame.length (2 ^ 32) := by
  have hmem : (0x0a : UInt8) ∈ frame ++ 0x0a :: rest := by simp
  rw [newlineIndex, if_pos hmem, List.idxOf_append_of_notMem hframe, List.idxOf_cons_self,
    Nat.add_zero]

theorem newlineIndex_short {frame : Bytes} (hframe : 0x0a ∉ frame) (rest : Bytes)
    (hlen : frame.length + 1 < 2 ^ 31) :
    newlineIndex (frame ++ 0x0a :: rest) = frame.length := by
  rw [newlineIndex_frame hframe, Int.bmod_eq_of_le_mul_two]
  · omega
  · omega

theorem readLines_eq_cut {buffer : Bytes} (hfit : LinesFit buffer) :
    readLines qt buffer = (lineOf (Framing.cut 0x0a buffer).1, (Framing.cut 0x0a buffer).2) := by
  induction hn : buffer.length using Nat.strongRecOn generalizing buffer with
  | _ n ih =>
      rw [readLines]
      by_cases h : 0x0a ∈ buffer
      · -- the loop takes the first frame off
        rcases List.eq_append_cons_of_mem h with ⟨frame, rest, hbuffer, hframe⟩
        subst hbuffer
        have hcut := Framing.cut_frame hframe rest
        have hlen : frame.length + 1 < 2 ^ 31 := by
          apply hfit
          rw [hcut]
          exact List.mem_cons_self
        have hrest : LinesFit rest := by
          intro later hlater
          apply hfit
          rw [hcut]
          exact List.mem_cons_of_mem _ hlater
        have hidx := newlineIndex_short hframe rest hlen
        have hdrop : (frame ++ 0x0a :: rest).drop (frame.length + 1) = rest := by
          rw [List.drop_length_add_append]
          rfl
        have hless : rest.length < n := by
          rw [← hn, List.length_append, List.length_cons]
          omega
        rw [dif_neg (by omega), if_neg (by omega)]
        simp only [hidx, Int.toNat_natCast, List.take_left, hdrop, ih _ hless hrest rfl]
        rw [hcut]
        by_cases hempty : trimmed frame = []
        · simp [lineOf, hempty]
        · simp [lineOf, hempty]
      · have hnone : newlineIndex buffer < 0 := by
          rw [newlineIndex, if_neg h]
          decide
        rw [dif_pos hnone, Framing.cut_of_not_mem h]
        rfl

/-! ## What touches the buffer -/

theorem buffer_takeRuntimeStatus (client : RpcClient) (runtimeObject : JsonObject) :
    (client.takeRuntimeStatus runtimeObject).buffer = client.buffer := by
  unfold takeRuntimeStatus
  dsimp only
  split
  · rfl
  · rfl

theorem buffer_handleResult (client : RpcClient) (id : UInt64) (value : Json) :
    (client.handleResult id value).buffer = client.buffer := by
  unfold handleResult
  split
  · -- a report is taken over first, then the status of the runtime
    dsimp only [emit]
    split
    · rw [buffer_takeRuntimeStatus]
      split
      · rfl
      · rfl
    · split
      · rfl
      · rfl
  · rfl
  · rfl

theorem buffer_takeList (client : RpcClient) (list : List Json) :
    (client.takeList list).buffer = client.buffer := by
  unfold takeList
  split
  · rfl
  · split <;> rfl

theorem buffer_handleObject (client : RpcClient) (obj : JsonObject) :
    (client.handleObject obj).buffer = client.buffer := by
  unfold handleObject
  split
  · rfl
  · dsimp only
    split
    · split
      · exact buffer_takeList _ _
      · exact buffer_handleResult _ _ _
    · exact buffer_handleResult _ _ _

theorem buffer_handleLine (client : RpcClient) (line : Bytes) :
    (client.handleLine qt line).buffer = client.buffer := by
  unfold handleLine
  split
  · exact buffer_handleObject _ _
  · rfl

theorem buffer_foldl_handleLine (client : RpcClient) (lines : List Bytes) :
    (lines.foldl (handleLine qt) client).buffer = client.buffer := by
  induction lines generalizing client with
  | nil =>
      rfl
  | cons line lines ih =>
      rw [List.foldl_cons, ih, buffer_handleLine]

/-- The bytes that an event delivers. -/
def received : SocketEvent → Bytes
  | .readyRead chunk => chunk
  | _ => []

theorem buffer_handle_readyRead (client : RpcClient) (chunk : Bytes) :
    (client.handle qt (.readyRead chunk)).buffer = (readLines qt (client.buffer ++ chunk)).2 := by
  rw [handle, onReadyRead, buffer_foldl_handleLine]

/-- No slot but `onReadyRead` touches the buffer. -/
theorem buffer_handle_other (client : RpcClient) {event : SocketEvent}
    (hother : ∀ chunk, event ≠ .readyRead chunk) :
    (client.handle qt event).buffer = client.buffer := by
  cases event with
  | connected =>
      exact (sameData_onConnected qt client).buffer
  | readyRead chunk =>
      exact absurd rfl (hother chunk)
  | telemetryTimeout =>
      rw [handle, pollTelemetry]
      split
      · exact (sameData_send qt client _ _).buffer
      · rfl
  | _ =>
      rfl

theorem received_other {event : SocketEvent} (hother : ∀ chunk, event ≠ .readyRead chunk) :
    received event = [] := by
  cases event with
  | readyRead chunk =>
      exact absurd rfl (hother chunk)
  | _ =>
      rfl

/-- One event: of what it delivers, the buffer keeps what stands behind the last newline. -/
theorem buffer_handle (client : RpcClient) (event : SocketEvent) (h : 0x0a ∉ client.buffer)
    (hfit : LinesFit (client.buffer ++ received event)) :
    (client.handle qt event).buffer = (Framing.cut 0x0a (client.buffer ++ received event)).2 := by
  by_cases hread : ∃ chunk, event = .readyRead chunk
  · rcases hread with ⟨chunk, rfl⟩
    rw [received] at hfit ⊢
    rw [buffer_handle_readyRead, readLines_eq_cut qt hfit]
  · have hother : ∀ chunk, event ≠ .readyRead chunk := fun chunk hchunk => hread ⟨chunk, hchunk⟩
    rw [buffer_handle_other qt client hother, received_other hother, List.append_nil,
      Framing.cut_of_not_mem h]

/-! ## Runs -/

/-- Everything that was received, on whatever connection. -/
def stream (events : List SocketEvent) : Bytes :=
  events.flatMap received

theorem stream_cons (event : SocketEvent) (events : List SocketEvent) :
    stream (event :: events) = received event ++ stream events :=
  List.flatMap_cons

/-- What one event does to the lines of the events behind it. -/
theorem linesFit_handle {client : RpcClient} {event : SocketEvent} {events : List SocketEvent}
    (h : 0x0a ∉ client.buffer) (hfit : LinesFit (client.buffer ++ stream (event :: events))) :
    LinesFit (client.buffer ++ received event) ∧ 0x0a ∉ (client.handle qt event).buffer ∧
      LinesFit ((client.handle qt event).buffer ++ stream events) := by
  rw [stream_cons, ← List.append_assoc] at hfit
  rw [buffer_handle qt client event h hfit.of_append]
  exact ⟨hfit.of_append, Framing.not_mem_rest _, hfit.rest⟩

theorem buffer_run (client : RpcClient) (events : List SocketEvent) (h : 0x0a ∉ client.buffer)
    (hfit : LinesFit (client.buffer ++ stream events)) :
    (client.run qt events).buffer = (Framing.cut 0x0a (client.buffer ++ stream events)).2 := by
  induction events generalizing client with
  | nil =>
      rw [run, List.foldl_nil, stream, List.flatMap_nil, List.append_nil,
        Framing.cut_of_not_mem h]
  | cons event events ih =>
      have hrun : client.run qt (event :: events) = (client.handle qt event).run qt events := rfl
      rcases linesFit_handle qt h hfit with ⟨hfirst, hclean, hlater⟩
      rw [hrun, ih _ hclean hlater, buffer_handle qt client event h hfirst, stream_cons,
        ← List.append_assoc, Framing.cut_append (client.buffer ++ received event)]

theorem lineOf_append (xs ys : List Bytes) : lineOf (xs ++ ys) = lineOf xs ++ lineOf ys := by
  simp [lineOf]

theorem parsedBy_eq (client : RpcClient) (event : SocketEvent) (h : 0x0a ∉ client.buffer)
    (hfit : LinesFit (client.buffer ++ received event)) :
    client.parsedBy qt event = lineOf (Framing.cut 0x0a (client.buffer ++ received event)).1 := by
  have hnone : received event = [] →
      lineOf (Framing.cut 0x0a (client.buffer ++ received event)).1 = [] := by
    intro hnone
    rw [hnone, List.append_nil, Framing.cut_of_not_mem h]
    rfl
  cases event with
  | readyRead chunk =>
      rw [received] at hfit ⊢
      rw [parsedBy, readLines_eq_cut qt hfit]
  | _ =>
      exact (hnone rfl).symm

/-- However the bytes are divided into chunks, the lines are those of the buffer and the bytes. -/
theorem parsedLines_eq (client : RpcClient) (events : List SocketEvent)
    (h : 0x0a ∉ client.buffer) (hfit : LinesFit (client.buffer ++ stream events)) :
    parsedLines qt client events =
      lineOf (Framing.cut 0x0a (client.buffer ++ stream events)).1 := by
  induction events generalizing client with
  | nil =>
      rw [parsedLines, stream, List.flatMap_nil, List.append_nil, Framing.cut_of_not_mem h]
      rfl
  | cons event events ih =>
      rcases linesFit_handle qt h hfit with ⟨hfirst, hclean, hlater⟩
      rw [parsedLines, ih _ hclean hlater, parsedBy_eq qt client event h hfirst,
        buffer_handle qt client event h hfirst, ← lineOf_append, stream_cons, ← List.append_assoc,
        Framing.cut_append (client.buffer ++ received event)]

/-! ### Behind a long line -/

/-- What is received behind a newline at a negative index is only stored. -/
theorem newlineIndex_append {buffer : Bytes} (h : 0x0a ∈ buffer) (bytes : Bytes) :
    newlineIndex (buffer ++ bytes) = newlineIndex buffer := by
  rw [newlineIndex, if_pos (List.mem_append_left _ h), newlineIndex, if_pos h,
    List.idxOf_append_of_mem h]

theorem parsedLines_stuck (client : RpcClient) (events : List SocketEvent)
    (hmem : 0x0a ∈ client.buffer) (hneg : newlineIndex client.buffer < 0) :
    parsedLines qt client events = [] := by
  induction events generalizing client with
  | nil =>
      rfl
  | cons event events ih =>
      rw [parsedLines]
      by_cases hread : ∃ chunk, event = .readyRead chunk
      · rcases hread with ⟨chunk, rfl⟩
        have hidx : newlineIndex (client.buffer ++ chunk) < 0 := by
          rw [newlineIndex_append hmem]
          exact hneg
        have hlines : readLines qt (client.buffer ++ chunk) = ([], client.buffer ++ chunk) := by
          rw [readLines, dif_pos hidx]
        have hbuffer : (client.handle qt (.readyRead chunk)).buffer = client.buffer ++ chunk := by
          rw [buffer_handle_readyRead, hlines]
        rw [parsedBy, hlines, List.nil_append, ih]
        · rw [hbuffer]
          exact List.mem_append_left _ hmem
        · rw [hbuffer]
          exact hidx
      · have hother : ∀ chunk, event ≠ .readyRead chunk :=
          fun chunk hchunk => hread ⟨chunk, hchunk⟩
        have hbuffer := buffer_handle_other qt client hother
        have hnone : client.parsedBy qt event = [] := by
          cases event with
          | readyRead chunk =>
              exact absurd rfl (hother chunk)
          | _ =>
              rfl
        rw [hnone, List.nil_append, ih]
        · rw [hbuffer]
          exact hmem
        · rw [hbuffer]
          exact hneg

/-- A line of 2^31 to 2^32 bytes, newline included, is never read, nor is anything behind it, on
whatever connection. -/
theorem parsedLines_behind_long_line (client : RpcClient) (frame rest : Bytes)
    (events : List SocketEvent) (hclean : 0x0a ∉ client.buffer ++ frame)
    (hlong : 2 ^ 31 ≤ (client.buffer ++ frame).length)
    (hless : (client.buffer ++ frame).length < 2 ^ 32) :
    parsedLines qt client (.readyRead (frame ++ 0x0a :: rest) :: events) = [] := by
  have hneg : newlineIndex (client.buffer ++ (frame ++ 0x0a :: rest)) < 0 := by
    rw [← List.append_assoc, newlineIndex_frame hclean, Int.bmod, Int.emod_eq_of_lt] <;>
    omega
  have hlines : readLines qt (client.buffer ++ (frame ++ 0x0a :: rest)) =
      ([], client.buffer ++ (frame ++ 0x0a :: rest)) := by
    rw [readLines, dif_pos hneg]
  have hbuffer : (client.handle qt (.readyRead (frame ++ 0x0a :: rest))).buffer =
      client.buffer ++ (frame ++ 0x0a :: rest) := by
    rw [buffer_handle_readyRead, hlines]
  rw [parsedLines, parsedBy, hlines, List.nil_append, parsedLines_stuck]
  · rw [hbuffer]
    simp
  · rw [hbuffer]
    exact hneg

/-! ### The whole client -/

/-- The same client with other unread bytes. -/
def withBuffer (client : RpcClient) (buffer : Bytes) : RpcClient :=
  { client with buffer := buffer }

@[simp] theorem withBuffer_withBuffer (client : RpcClient) (buffer buffer' : Bytes) :
    (client.withBuffer buffer).withBuffer buffer' = client.withBuffer buffer' := rfl

@[simp] theorem buffer_withBuffer (client : RpcClient) (buffer : Bytes) :
    (client.withBuffer buffer).buffer = buffer := rfl

@[simp] theorem withBuffer_buffer (client : RpcClient) : client.withBuffer client.buffer = client :=
  rfl

theorem takeRuntimeStatus_withBuffer (client : RpcClient) (buffer : Bytes)
    (runtimeObject : JsonObject) : (client.withBuffer buffer).takeRuntimeStatus runtimeObject =
      (client.takeRuntimeStatus runtimeObject).withBuffer buffer := by
  have hsame : (client.withBuffer buffer).runtimeEnabled = client.runtimeEnabled := rfl
  simp only [takeRuntimeStatus, hsame]
  split
  · rfl
  · rfl

theorem handleResult_withBuffer (client : RpcClient) (buffer : Bytes) (id : UInt64)
    (value : Json) : (client.withBuffer buffer).handleResult id value =
      (client.handleResult id value).withBuffer buffer := by
  cases value with
  | object result =>
      simp only [handleResult]
      cases (JsonObject.contains result "schema_version" &&
        JsonObject.contains result "severity") with
      | true =>
          cases JsonObject.contains result "runtime" with
          | true =>
              have htake := takeRuntimeStatus_withBuffer
                ({ client with diagnosticReport := result }.emit .diagnosticReportChanged) buffer
                (JsonObject.value result "runtime").toObject
              exact congrArg (fun c : RpcClient => c.emit (.resultReceived id (.object result)))
                htake
          | false =>
              rfl
      | false =>
          cases JsonObject.contains result "runtime" with
          | true =>
              have htake := takeRuntimeStatus_withBuffer client buffer
                (JsonObject.value result "runtime").toObject
              exact congrArg (fun c : RpcClient => c.emit (.resultReceived id (.object result)))
                htake
          | false =>
              rfl
  | array items =>
      rfl
  | _ =>
      rfl

theorem takeList_withBuffer (client : RpcClient) (buffer : Bytes) (list : List Json) :
    (client.withBuffer buffer).takeList list = (client.takeList list).withBuffer buffer := by
  simp only [takeList]
  cases firstContains list "timestamp" with
  | true =>
      rfl
  | false =>
      cases firstContains list "preferred_action" with
      | true =>
          rfl
      | false =>
          rfl

theorem handleObject_withBuffer (client : RpcClient) (buffer : Bytes) (obj : JsonObject) :
    (client.withBuffer buffer).handleObject obj = (client.handleObject obj).withBuffer buffer := by
  simp only [handleObject]
  split
  · rfl
  · split
    · split
      · exact takeList_withBuffer client buffer _
      · exact handleResult_withBuffer client buffer _ _
    · exact handleResult_withBuffer client buffer _ _

theorem handleLine_withBuffer (client : RpcClient) (buffer line : Bytes) :
    (client.withBuffer buffer).handleLine qt line =
      (client.handleLine qt line).withBuffer buffer := by
  simp only [handleLine]
  split
  · exact handleObject_withBuffer client buffer _
  · rfl

theorem foldl_handleLine_withBuffer (client : RpcClient) (buffer : Bytes) (lines : List Bytes) :
    lines.foldl (handleLine qt) (client.withBuffer buffer) =
      (lines.foldl (handleLine qt) client).withBuffer buffer := by
  induction lines generalizing client with
  | nil =>
      rfl
  | cons line lines ih =>
      rw [List.foldl_cons, List.foldl_cons, handleLine_withBuffer, ih]

theorem onReadyRead_eq_cut (client : RpcClient) (chunk : Bytes)
    (hfit : LinesFit (client.buffer ++ chunk)) :
    client.onReadyRead qt chunk =
      ((lineOf (Framing.cut 0x0a (client.buffer ++ chunk)).1).foldl (handleLine qt) client).withBuffer
        (Framing.cut 0x0a (client.buffer ++ chunk)).2 := by
  rw [onReadyRead, readLines_eq_cut qt hfit]
  exact foldl_handleLine_withBuffer qt client _ _

/-- However the bytes are divided into chunks, the client does with them what it does when they come
at once. -/
theorem run_chunks (client : RpcClient) (chunks : List Bytes) (h : 0x0a ∉ client.buffer)
    (hfit : LinesFit (client.buffer ++ chunks.flatten)) :
    client.run qt (chunks.map .readyRead) = client.onReadyRead qt chunks.flatten := by
  induction chunks generalizing client with
  | nil =>
      rw [onReadyRead_eq_cut qt client _ hfit, List.flatten_nil, List.append_nil,
        Framing.cut_of_not_mem h]
      rfl
  | cons chunk chunks ih =>
      rw [List.flatten_cons] at hfit ⊢
      have hboth : LinesFit ((client.buffer ++ chunk) ++ chunks.flatten) := by
        rw [List.append_assoc]
        exact hfit
      have hfirst := onReadyRead_eq_cut qt client chunk hboth.of_append
      have hbuffer : (client.onReadyRead qt chunk).buffer =
          (Framing.cut 0x0a (client.buffer ++ chunk)).2 := by
        rw [hfirst, buffer_withBuffer]
      have hnext : 0x0a ∉ (client.onReadyRead qt chunk).buffer := by
        rw [hbuffer]
        exact Framing.not_mem_rest _
      have hlater : LinesFit ((client.onReadyRead qt chunk).buffer ++ chunks.flatten) := by
        rw [hbuffer]
        exact hboth.rest
      have hrun : client.run qt ((chunk :: chunks).map .readyRead) =
          (client.onReadyRead qt chunk).run qt (chunks.map .readyRead) := rfl
      rw [hrun, ih _ hnext hlater, onReadyRead_eq_cut qt _ _ hlater, hbuffer, hfirst,
        foldl_handleLine_withBuffer, withBuffer_withBuffer, ← List.foldl_append, ← lineOf_append,
        onReadyRead_eq_cut qt client _ hfit, ← List.append_assoc,
        Framing.cut_append (client.buffer ++ chunk)]

/-! ## Whose lines they are -/

/-- The lines of a connection's own bytes. -/
def ownLines (bytes : Bytes) : List Bytes :=
  lineOf (Framing.cut 0x0a bytes).1

theorem lineOf_singleton_inj {x y : Bytes} :
    lineOf [x] = lineOf [y] ↔ trimmed x = trimmed y := by
  by_cases hx : trimmed x = []
  · by_cases hy : trimmed y = []
    · simp [lineOf, hx, hy]
    · simp [lineOf, hx, hy, Ne.symm hy]
  · by_cases hy : trimmed y = []
    · simp [lineOf, hx, hy]
    · simp [lineOf, hx, hy]

/-- What is left over from before spoils the first line, unless it is white space. -/
theorem lineOf_cut_append_iff {buffer bytes : Bytes} (h : 0x0a ∉ buffer) :
    lineOf (Framing.cut 0x0a (buffer ++ bytes)).1 = ownLines bytes ↔
      (0x0a ∈ bytes → ∀ c ∈ buffer, isSpace c = true) := by
  have hframes : (Framing.cut 0x0a bytes).1 = [] ↔ (0x0a : UInt8) ∉ bytes :=
    Framing.frames_eq_nil_iff
  rw [Framing.cut_append_left h, ownLines]
  cases hcut : (Framing.cut 0x0a bytes).1 with
  | nil =>
      have hnone : (0x0a : UInt8) ∉ bytes := hframes.1 hcut
      simp [hnone]
  | cons frame frames =>
      have hsome : (0x0a : UInt8) ∈ bytes := by
        by_contra hnot
        rw [hframes.2 hnot] at hcut
        cases hcut
      have htrim : trimmed (buffer ++ frame) = trimmed frame ↔ ∀ c ∈ buffer, isSpace c = true :=
        Framing.trim_append_left_iff
      rw [← lineOf_singleton_inj] at htrim
      have hsplit : ∀ line : Bytes, lineOf (line :: frames) = lineOf [line] ++ lineOf frames :=
        fun line => lineOf_append [line] frames
      simp only [hsplit, List.append_left_inj, htrim, hsome, true_imp_iff]

/-- In every part of the run that happens on one connection, the lines that are parsed are those of
the bytes received in it. -/
def FramingExact (qt : Qt) (run : List SocketEvent) : Prop :=
  ∀ pre events post, run = pre ++ .connected :: (events ++ post) → .connected ∉ events →
    parsedLines qt (start.run qt (pre ++ [.connected])) events = ownLines (stream events)

theorem stream_append (events events' : List SocketEvent) :
    stream (events ++ events') = stream events ++ stream events' :=
  List.flatMap_append

theorem parsedLines_connection_iff (qt : Qt) (pre events : List SocketEvent)
    (hfit : LinesFit (stream (pre ++ .connected :: events))) :
    parsedLines qt (start.run qt (pre ++ [.connected])) events = ownLines (stream events) ↔
      (0x0a ∈ stream events → ∀ c ∈ (Framing.cut 0x0a (stream pre)).2, isSpace c = true) := by
  have hstart : (0x0a : UInt8) ∉ start.buffer := List.not_mem_nil
  have hpre : stream (pre ++ [.connected]) = stream pre := by
    simp [stream, received]
  have hopened : received .connected = [] := rfl
  rw [stream_append, stream_cons, hopened, List.nil_append] at hfit
  have hfitPre : LinesFit (start.buffer ++ stream (pre ++ [.connected])) := by
    rw [hpre]
    exact hfit.of_append
  have hbuffer : (start.run qt (pre ++ [.connected])).buffer =
      (Framing.cut 0x0a (stream pre)).2 := by
    rw [buffer_run qt start _ hstart hfitPre, hpre]
    rfl
  have hclean : 0x0a ∉ (start.run qt (pre ++ [.connected])).buffer := by
    rw [hbuffer]
    exact Framing.not_mem_rest _
  have hfitOwn : LinesFit ((start.run qt (pre ++ [.connected])).buffer ++ stream events) := by
    rw [hbuffer]
    exact hfit.rest
  rw [parsedLines_eq qt _ events hclean hfitOwn, lineOf_cut_append_iff hclean, hbuffer]

/-- As long as no line reaches 2^31 bytes, the client frames a run exactly when no connection on
which a line ends is opened behind bytes of earlier connections that are left without a newline and
not white space. -/
theorem framingExact_iff (qt : Qt) (run : List SocketEvent) (hfit : LinesFit (stream run)) :
    FramingExact qt run ↔
      ∀ pre events post, run = pre ++ .connected :: (events ++ post) → .connected ∉ events →
        0x0a ∈ stream events → ∀ c ∈ (Framing.cut 0x0a (stream pre)).2, isSpace c = true := by
  have hconnection : ∀ pre events post, run = pre ++ .connected :: (events ++ post) →
      (parsedLines qt (start.run qt (pre ++ [.connected])) events = ownLines (stream events) ↔
        (0x0a ∈ stream events → ∀ c ∈ (Framing.cut 0x0a (stream pre)).2, isSpace c = true)) := by
    intro pre events post hsplit
    apply parsedLines_connection_iff
    have hrun : run = (pre ++ .connected :: events) ++ post := by
      rw [hsplit]
      simp
    rw [hrun, stream_append] at hfit
    exact hfit.of_append
  constructor
  · intro h pre events post hsplit hnone
    exact (hconnection pre events post hsplit).1 (h pre events post hsplit hnone)
  · intro h pre events post hsplit hnone
    exact (hconnection pre events post hsplit).2 (h pre events post hsplit hnone)

/-- The first connection leaves white space behind; a response comes in two chunks on the second. -/
def cutBetween : List SocketEvent :=
  [.connected, .readyRead (lit "\x7b\x7d\r\n \t"), .disconnected, .connected,
    .readyRead (lit "\x7b"), .readyRead (lit "\x7d\n")]

/-- What is left in front of each connection of `cutBetween`. -/
theorem cutBetween_clean : ∀ k < cutBetween.length, cutBetween[k]? = some .connected →
    ∀ c ∈ (Framing.cut 0x0a (stream (cutBetween.take k))).2, isSpace c = true := by
  decide +kernel

theorem framingExact_cutBetween :
    FramingExact { fromJson := fun _ => none, accepts := fun _ => true } cutBetween := by
  have hfit : LinesFit (stream cutBetween) := linesFit_of_length_lt (by decide +kernel)
  refine (framingExact_iff _ cutBetween hfit).2 ?_
  intro pre events post hsplit _ _
  have htake : cutBetween.take pre.length = pre := by
    rw [hsplit, List.take_left]
  have hopen : cutBetween[pre.length]? = some .connected := by
    rw [hsplit]
    simp
  have hless : pre.length < cutBetween.length := by
    rw [hsplit]
    simp
  have hclean := cutBetween_clean pre.length hless hopen
  rw [htake] at hclean
  exact hclean

/-- A response cut off on the first connection, a whole one on the second. -/
def cutOff : List SocketEvent :=
  [.connected, .readyRead (lit "\x7b"), .disconnected, .connected, .readyRead (lit "\x7b\x7d\n")]

theorem cutOff_misframed : ¬ ∀ qt : Qt, FramingExact qt cutOff := by
  intro h
  have hlines := h { fromJson := fun _ => none, accepts := fun _ => true }
    [.connected, .readyRead (lit "\x7b"), .disconnected] [.readyRead (lit "\x7b\x7d\n")] []
    rfl (by decide)
  rw [parsedLines_connection_iff _ _ _ (linesFit_of_length_lt (by decide +kernel))] at hlines
  exact absurd (hlines (by decide +kernel)) (by decide +kernel)

end RpcClient

end Ui
end FlyDpi
