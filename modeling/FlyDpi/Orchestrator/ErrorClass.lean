import FlyDpi.Lib.Search
import FlyDpi.Orchestrator.DnsAgreement
import FlyDpi.Orchestrator.GoRunes
import FlyDpi.Orchestrator.ProbeTally

/-!
# ErrorClass — what the text of an error says about a failure

`classifyError` searches the whole text of an error.  A text is put together from parts by spaces and
colons, which no searched word contains, so each part is searched for itself.

* The prefix of a handshake error adds nothing, but the loop looks for symptoms in dial errors only.
* The name of the host is a part of a lookup error, and is searched like the cause.
-/

namespace FlyDpi
namespace Orchestrator
namespace Diagnostic

open Lib

/-! ## Texts with several parts -/

def mentionsTimeout (s : Bytes) : Bool :=
  lowerContains s (lit "timeout") || lowerContains s (lit "deadline")

def mentionsReset (s : Bytes) : Bool :=
  lowerContains s (lit "reset")

theorem classifyError_eq (s : Bytes) :
    classifyError s =
      if mentionsTimeout s then "timeout"
      else if mentionsReset s then "connection_reset"
      else "tcp_failure" :=
  rfl

/-- An ASCII byte outside the word cuts the text. -/
theorem lowerContains_append_cons {word : Bytes} {c : UInt8} (hc : c < 0x80)
    (hword : lowerAscii (asciiRune c) ∉ word.map some) (s t : Bytes) :
    lowerContains (s ++ c :: t) word = (lowerContains s word || lowerContains t word) := by
  change occurs (word.map some) ((runes (s ++ c :: t)).map lowerAscii) = _
  rw [runes_append_ascii s t hc, List.map_append, List.map_cons, occurs_append_cons hword]
  rfl

/-- The bytes between the parts of an error text. -/
def IsCut (c : UInt8) : Prop := c = 0x20 ∨ c = 0x3a

/-- A search that can be made in every part of a text by itself. -/
def SearchesParts (mentions : Bytes → Bool) : Prop :=
  ∀ c, IsCut c → ∀ s t, mentions (s ++ c :: t) = (mentions s || mentions t)

theorem mentionsTimeout_searchesParts : SearchesParts mentionsTimeout := by
  intro c hc s t
  have hboth : lowerContains (s ++ c :: t) (lit "timeout") =
        (lowerContains s (lit "timeout") || lowerContains t (lit "timeout")) ∧
      lowerContains (s ++ c :: t) (lit "deadline") =
        (lowerContains s (lit "deadline") || lowerContains t (lit "deadline")) := by
    rcases hc with rfl | rfl
    · exact ⟨lowerContains_append_cons (by decide) (by decide) s t,
        lowerContains_append_cons (by decide) (by decide) s t⟩
    · exact ⟨lowerContains_append_cons (by decide) (by decide) s t,
        lowerContains_append_cons (by decide) (by decide) s t⟩
  rw [mentionsTimeout, hboth.1, hboth.2, mentionsTimeout, mentionsTimeout, Bool.or_assoc,
    Bool.or_assoc, Bool.or_left_comm (lowerContains t _)]

theorem mentionsReset_searchesParts : SearchesParts mentionsReset := by
  rintro c (rfl | rfl) s t
  · exact lowerContains_append_cons (by decide) (by decide) s t
  · exact lowerContains_append_cons (by decide) (by decide) s t

namespace SearchesParts

variable {mentions : Bytes → Bool} (h : SearchesParts mentions)

include h

/-- `head: cause` -/
theorem explained (head cause : Bytes) :
    mentions (head ++ 0x3a :: 0x20 :: cause) = (mentions head || (mentions [] || mentions cause)) :=
  calc
    mentions (head ++ 0x3a :: 0x20 :: cause) = (mentions head || mentions (0x20 :: cause)) :=
        h _ (Or.inr rfl) head (0x20 :: cause)
    _ = (mentions head || (mentions [] || mentions cause)) := by
        rw [← h _ (Or.inl rfl) [] cause]
        rfl

/-- `head subject: cause` -/
theorem framed (head subject cause : Bytes) :
    mentions (head ++ 0x20 :: (subject ++ 0x3a :: 0x20 :: cause)) =
      (mentions head || (mentions subject || (mentions [] || mentions cause))) := by
  rw [h _ (Or.inl rfl), h.explained]

end SearchesParts

/-! ## Symptoms of both phases -/

namespace Engine

variable (e : Engine) (env : Environment)

/-- Some target cannot be connected, for the given reason. -/
def DialFails (err : Bytes) : Prop :=
  ∃ i target, e.cfg.targets[i]? = some target ∧ e.dial env i target = .error err

/-- Some target is connected and fails the handshake, for the given reason. -/
def HandshakeFails (err : Bytes) : Prop :=
  ∃ i target latency, e.cfg.targets[i]? = some target ∧ e.dial env i target = .ok latency ∧
    e.handshake env i target = some err

end Engine

/-- The prefix that `runOne` puts in front of a handshake error mentions nothing. -/
theorem classifyError_tlsHandshake (err : Bytes) :
    classifyError (lit "tls handshake: " ++ err) = classifyError err := by
  have hprefix : lit "tls handshake: " ++ err = lit "tls handshake" ++ 0x3a :: 0x20 :: err := by
    rw [show lit "tls handshake: " = lit "tls handshake" ++ [0x3a, 0x20] by decide,
      List.append_assoc]
    rfl
  have htimeout : mentionsTimeout (lit "tls handshake" ++ 0x3a :: 0x20 :: err) =
      mentionsTimeout err := by
    rw [mentionsTimeout_searchesParts.explained]
    rfl
  have hreset : mentionsReset (lit "tls handshake" ++ 0x3a :: 0x20 :: err) = mentionsReset err := by
    rw [mentionsReset_searchesParts.explained]
    rfl
  rw [classifyError_eq, classifyError_eq, hprefix, htimeout, hreset]

section Symptoms

variable {e : Engine} {env : Environment}

theorem exists_failsTCP_iff {P : Bytes → Prop} :
    (∃ r ∈ e.probe env, r.failsTCP = true ∧ P r.error) ↔ ∃ err, e.DialFails env err ∧ P err := by
  constructor
  · rintro ⟨r, hr, hfails, hP⟩
    rcases Engine.mem_probe_iff.1 hr with ⟨i, target, hi, rfl⟩
    rcases Probe.runOne_cases (env.nets i) e.probeConfig target with
      ⟨err, hdial, hrun⟩ | ⟨_, _, _, _, hrun⟩ | ⟨_, _, _, hrun⟩
    · rw [hrun] at hP
      exact ⟨err, ⟨i, target, hi, hdial⟩, hP⟩
    · rw [hrun] at hfails
      cases hfails
    · rw [hrun] at hfails
      cases hfails
  · rintro ⟨err, ⟨i, target, hi, hdial⟩, hP⟩
    refine ⟨_, Engine.mem_probe_iff.2 ⟨i, target, hi, rfl⟩, ?_⟩
    rw [Probe.runOne_of_dial_error hdial]
    exact ⟨rfl, hP⟩

theorem exists_failsTLS_iff {P : Bytes → Prop} :
    (∃ r ∈ e.probe env, r.failsTLS = true ∧ P r.error) ↔
      ∃ err, e.HandshakeFails env err ∧ P (lit "tls handshake: " ++ err) := by
  constructor
  · rintro ⟨r, hr, hfails, hP⟩
    rcases Engine.mem_probe_iff.1 hr with ⟨i, target, hi, rfl⟩
    rcases Probe.runOne_cases (env.nets i) e.probeConfig target with
      ⟨_, _, hrun⟩ | ⟨latency, err, hdial, hshake, hrun⟩ | ⟨_, _, _, hrun⟩
    · rw [hrun] at hfails
      cases hfails
    · rw [hrun] at hP
      exact ⟨err, ⟨i, target, latency, hi, hdial, hshake⟩, hP⟩
    · rw [hrun] at hfails
      cases hfails
  · rintro ⟨err, ⟨i, target, latency, hi, hdial, hshake⟩, hP⟩
    refine ⟨_, Engine.mem_probe_iff.2 ⟨i, target, hi, rfl⟩, ?_⟩
    rw [Probe.runOne_of_handshake_error hdial hshake]
    exact ⟨rfl, hP⟩

theorem rstDetected_run :
    (e.run env).features.rstDetected = true ↔
      ∃ err, e.DialFails env err ∧ classifyError err = "connection_reset" := by
  change (e.tally env _).features.rstDetected = true ↔ _
  rw [Engine.tally_eq, List.any_eq_true, ← exists_failsTCP_iff]
  simp only [Bool.and_eq_true, beq_iff_eq]

theorem timeoutDetected_run :
    (e.run env).features.timeoutDetected = true ↔
      ∃ err, e.DialFails env err ∧ classifyError err = "timeout" := by
  change (e.tally env _).features.timeoutDetected = true ↔ _
  rw [Engine.tally_eq, List.any_eq_true, ← exists_failsTCP_iff]
  simp only [Bool.and_eq_true, looksLikeTimeout, beq_iff_eq]

variable (e env)

/-- Some probe failed, before it connected or during the handshake, with an error of this class. -/
def SymptomObserved (errorClass : String) : Prop :=
  ∃ r ∈ e.probe env, (r.failsTCP = true ∨ r.failsTLS = true) ∧ classifyError r.error = errorClass

/-- A symptom is reported when it was observed in either phase. -/
structure SymptomsReported : Prop where
  rst : (e.run env).features.rstDetected = true ↔ SymptomObserved e env "connection_reset"
  timeout : (e.run env).features.timeoutDetected = true ↔ SymptomObserved e env "timeout"

/-- When a handshake shows the symptom, some dial does. -/
def SeenByDial (errorClass : String) : Prop :=
  (∃ err, e.HandshakeFails env err ∧ classifyError err = errorClass) →
    ∃ err, e.DialFails env err ∧ classifyError err = errorClass

variable {e env}

theorem symptomObserved_iff {errorClass : String} :
    SymptomObserved e env errorClass ↔
      (∃ err, e.DialFails env err ∧ classifyError err = errorClass) ∨
      ∃ err, e.HandshakeFails env err ∧ classifyError err = errorClass := by
  have htcp := @exists_failsTCP_iff e env fun err => classifyError err = errorClass
  have htls := @exists_failsTLS_iff e env fun err => classifyError err = errorClass
  simp only [classifyError_tlsHandshake] at htls
  rw [← htcp, ← htls]
  simp only [SymptomObserved, or_and_right, and_or_left, exists_or]

end Symptoms

/-- The report of a run shows the symptoms exactly when each of the two, if a handshake shows it, is
shown by a dial as well. -/
theorem symptomsReported_iff (e : Engine) (env : Environment) :
    SymptomsReported e env ↔
      SeenByDial e env "connection_reset" ∧ SeenByDial e env "timeout" := by
  constructor
  · intro h
    refine ⟨fun hshake => ?_, fun hshake => ?_⟩
    · exact rstDetected_run.1 (h.rst.2 (symptomObserved_iff.2 (Or.inr hshake)))
    · exact timeoutDetected_run.1 (h.timeout.2 (symptomObserved_iff.2 (Or.inr hshake)))
  · rintro ⟨hrst, htimeout⟩
    refine ⟨?_, ?_⟩
    · rw [rstDetected_run, symptomObserved_iff]
      exact ⟨Or.inl, fun h => h.elim id hrst⟩
    · rw [timeoutDetected_run, symptomObserved_iff]
      exact ⟨Or.inl, fun h => h.elim id htimeout⟩

/-- Every dial succeeds, and the peer resets the connection after the first message. -/
def resetAfterHello : Environment :=
  { Environment.ofZone plainZone with
    nets := fun _ =>
      { dial := fun _ _ => .ok 1000000
        handshake := fun _ _ => some (lit "read: connection reset by peer") } }

theorem resetAfterHello_not_reported :
    ¬ ∀ (e : Engine) (env : Environment), SymptomsReported e env := by
  intro h
  let e := newEngine (configFor (lit "example.com"))
  have hshake : e.HandshakeFails resetAfterHello (lit "read: connection reset by peer") :=
    ⟨0, lit "example.com", 1000000, rfl, rfl, rfl⟩
  have hseen := ((h e resetAfterHello).rst.2
    (symptomObserved_iff.2 (Or.inr ⟨_, hshake, by decide +kernel⟩)))
  rcases rstDetected_run.1 hseen with ⟨_, ⟨_, _, _, hdial⟩, _⟩
  cases hdial

/-! ## The name of the host -/

/-- The text of a dial error. -/
inductive DialError
  /-- `dial tcp: lookup <host>: <cause>` -/
  | lookup (cause : Bytes)
  /-- `dial tcp <addr>: <cause>`, with the address that was dialled for the host. -/
  | connect (addr : Bytes → Bytes) (cause : Bytes)

namespace DialError

def text : DialError → Bytes → Bytes
  | lookup cause, host => lit "dial tcp: lookup " ++ host ++ lit ": " ++ cause
  | connect addr cause, host => lit "dial tcp " ++ addr host ++ lit ": " ++ cause

def cause : DialError → Bytes
  | lookup cause => cause
  | connect _ cause => cause

/-- The part of the text that the target determines. -/
def subject : DialError → Bytes → Bytes
  | lookup _, host => host
  | connect addr _, host => addr host

/-- The text mentions what the subject or the cause mentions. -/
theorem mentions_text {mentions : Bytes → Bool} (h : SearchesParts mentions)
    (hlookup : mentions (lit "dial tcp: lookup") = false) (hdial : mentions (lit "dial tcp") = false)
    (hnil : mentions [] = false) (err : DialError) (host : Bytes) :
    mentions (err.text host) = (mentions (err.subject host) || mentions err.cause) := by
  have hcolon : lit ": " = [0x3a, 0x20] := by
    decide
  cases err with
  | lookup cause =>
      have htext : text (lookup cause) host =
          lit "dial tcp: lookup" ++ 0x20 :: (host ++ 0x3a :: 0x20 :: cause) := by
        rw [text, hcolon, show lit "dial tcp: lookup " = lit "dial tcp: lookup" ++ [0x20] by decide]
        simp only [List.append_assoc, List.cons_append, List.nil_append]
      rw [htext, h.framed, hlookup, hnil]
      rfl
  | connect addr cause =>
      have htext : text (connect addr cause) host =
          lit "dial tcp" ++ 0x20 :: (addr host ++ 0x3a :: 0x20 :: cause) := by
        rw [text, hcolon, show lit "dial tcp " = lit "dial tcp" ++ [0x20] by decide]
        simp only [List.append_assoc, List.cons_append, List.nil_append]
      rw [htext, h.framed, hdial, hnil]
      rfl

theorem mentionsTimeout_text (err : DialError) (host : Bytes) :
    mentionsTimeout (err.text host) =
      (mentionsTimeout (err.subject host) || mentionsTimeout err.cause) :=
  mentions_text mentionsTimeout_searchesParts (by decide +kernel) (by decide +kernel) rfl err host

theorem mentionsReset_text (err : DialError) (host : Bytes) :
    mentionsReset (err.text host) = (mentionsReset (err.subject host) || mentionsReset err.cause) :=
  mentions_text mentionsReset_searchesParts (by decide +kernel) (by decide +kernel) rfl err host

/-- The names do not tell the texts apart: the cause is a timeout by itself, or both names mention
one or none, and where they do not, the same holds for a reset. -/
def SameSubjects (err : DialError) (host host' : Bytes) : Prop :=
  mentionsTimeout err.cause = true ∨
    mentionsTimeout (err.subject host) = mentionsTimeout (err.subject host') ∧
    (mentionsTimeout (err.subject host) = true ∨ mentionsReset err.cause = true ∨
      mentionsReset (err.subject host) = mentionsReset (err.subject host'))

theorem classifyError_text_eq_iff (err : DialError) (host host' : Bytes) :
    classifyError (err.text host) = classifyError (err.text host') ↔
      err.SameSubjects host host' := by
  rw [classifyError_eq, classifyError_eq, mentionsTimeout_text, mentionsTimeout_text,
    mentionsReset_text, mentionsReset_text, SameSubjects]
  cases mentionsTimeout err.cause <;> cases mentionsReset err.cause <;>
    cases mentionsTimeout (err.subject host) <;> cases mentionsTimeout (err.subject host') <;>
      cases mentionsReset (err.subject host) <;> cases mentionsReset (err.subject host') <;> decide

/-- Digits of both bases, and what an address puts between them. -/
def addressBytes : Bytes := lit "0123456789abcdef.:[]"

theorem not_lowerContains_address {addr word : Bytes} (haddr : ∀ c ∈ addr, c ∈ addressBytes)
    {letter : UInt8} (hletter : letter ∈ word)
    (hother : ∀ c ∈ addressBytes, lowerAscii (asciiRune c) ≠ some letter) :
    lowerContains addr word = false := by
  have hascii : ∀ c ∈ addr, c < 0x80 := by
    intro c hc
    exact (show ∀ c ∈ addressBytes, c < 0x80 by decide +kernel) c (haddr c hc)
  rw [← Bool.not_eq_true]
  intro hfound
  change occurs (word.map some) ((runes addr).map lowerAscii) = true at hfound
  rw [occurs_iff, runes_ascii hascii, List.map_map] at hfound
  rcases List.mem_map.1 (hfound.subset (List.mem_map_of_mem hletter)) with ⟨c, hc, heq⟩
  exact hother c (haddr c hc) heq

/-- The text of an address mentions nothing. -/
theorem sameSubjects_address {addr : Bytes → Bytes}
    (haddr : ∀ host, ∀ c ∈ addr host, c ∈ addressBytes) (cause host host' : Bytes) :
    (connect addr cause).SameSubjects host host' := by
  have htimeout : ∀ host, mentionsTimeout (addr host) = false := by
    intro host
    rw [mentionsTimeout,
      not_lowerContains_address (haddr host) (show 0x74 ∈ lit "timeout" by decide)
        (by decide +kernel),
      not_lowerContains_address (haddr host) (show 0x6c ∈ lit "deadline" by decide)
        (by decide +kernel)]
    rfl
  have hreset : ∀ host, mentionsReset (addr host) = false := by
    intro host
    exact not_lowerContains_address (haddr host) (show 0x72 ∈ lit "reset" by decide)
      (by decide +kernel)
  refine Or.inr ⟨?_, Or.inr (Or.inr ?_)⟩
  · exact (htimeout host).trans (htimeout host').symm
  · exact (hreset host).trans (hreset host').symm

end DialError

/-- What one result adds to the report: the class of its error and the two symptoms. -/
structure Contribution where
  errorClass : String
  rstDetected : Bool
  timeoutDetected : Bool

def contribution (r : Probe.Result) : Contribution :=
  { errorClass :=
      if r.failsTCP then classifyError r.error
      else if r.failsTLS then "tls_failure"
      else ""
    rstDetected := r.failsTCP && classifyError r.error == "connection_reset"
    timeoutDetected := r.failsTCP && looksLikeTimeout r.error }

/-- The classes of the entries and the two symptoms are the same in both reports. -/
structure ClassifiedAlike (report report' : DiagnosticReport) : Prop where
  errorClass : report.probeResults.map TargetResult.errorClass =
    report'.probeResults.map TargetResult.errorClass
  rst : report.features.rstDetected = report'.features.rstDetected
  timeout : report.features.timeoutDetected = report'.features.timeoutDetected

section TwoRuns

variable {e e' : Engine} {env env' : Environment} {i : Nat} {err : DialError} {host host' : Bytes}

theorem classifiedAlike_of_contributions
    (h : (e.probe env).map contribution = (e'.probe env').map contribution) :
    ClassifiedAlike (e.run env) (e'.run env') := by
  have hreport : ∀ (e : Engine) (env : Environment),
      (e.run env).probeResults.map TargetResult.errorClass =
        ((e.probe env).map contribution).map Contribution.errorClass ∧
      (e.run env).features.rstDetected =
        ((e.probe env).map contribution).any Contribution.rstDetected ∧
      (e.run env).features.timeoutDetected =
        ((e.probe env).map contribution).any Contribution.timeoutDetected := by
    intro e env
    change (e.tally env _).probeResults.map TargetResult.errorClass = _ ∧
      (e.tally env _).features.rstDetected = _ ∧ (e.tally env _).features.timeoutDetected = _
    rw [Engine.tally_eq, List.map_map, List.map_map, List.any_map, List.any_map]
    exact ⟨rfl, rfl, rfl⟩
  have hfirst := hreport e env
  have hsecond := hreport e' env'
  rw [h] at hfirst
  exact
    { errorClass := hfirst.1.trans hsecond.1.symm
      rst := hfirst.2.1.trans hsecond.2.1.symm
      timeout := hfirst.2.2.trans hsecond.2.2.symm }

/-- The `i`-th target has the name `host`, and its dial fails with the error. -/
structure DialFailsAt (e : Engine) (env : Environment) (i : Nat) (err : DialError) (host : Bytes) :
    Prop where
  target : e.cfg.targets[i]? = some host
  dial : e.dial env i host = .error (err.text host)

/-- Two runs that differ in the name of one target, which fails to connect for the same cause. -/
structure Renamed (e e' : Engine) (env env' : Environment) (i : Nat) (err : DialError)
    (host host' : Bytes) : Prop where
  first : DialFailsAt e env i err host
  second : DialFailsAt e' env' i err host'
  others : ∀ j, j ≠ i → (e'.probe env')[j]? = (e.probe env)[j]?

theorem DialFailsAt.probe (h : DialFailsAt e env i err host) :
    (e.probe env)[i]? =
      some { Probe.Result.zero with target := host, error := err.text host } := by
  rw [Engine.getElem?_probe, h.target, Option.map_some, Probe.runOne_of_dial_error h.dial]

theorem Renamed.classifiedAlike (h : Renamed e e' env env' i err host host')
    (hsame : err.SameSubjects host host') : ClassifiedAlike (e.run env) (e'.run env') := by
  have hclass := (DialError.classifyError_text_eq_iff err host host').2 hsame
  apply classifiedAlike_of_contributions
  refine List.ext_getElem? fun j => ?_
  rw [List.getElem?_map, List.getElem?_map]
  by_cases hj : j = i
  · subst hj
    rw [h.first.probe, h.second.probe, Option.map_some, Option.map_some]
    simp only [contribution, looksLikeTimeout, hclass]
    rfl
  · rw [h.others j hj]

end TwoRuns

/-- No pair of runs that differ in the name of one failing target is classified differently. -/
def HostIndependent (err : DialError) (host host' : Bytes) : Prop :=
  ∀ (e e' : Engine) (env env' : Environment) (i : Nat),
    Renamed e e' env env' i err host host' → ClassifiedAlike (e.run env) (e'.run env')

/-- No target can be connected, for the same reason. -/
def unreachable (err : Bytes) : Environment :=
  { Environment.ofZone plainZone with
    nets := fun _ =>
      { dial := fun _ _ => .error err
        handshake := fun _ _ => none } }

theorem errorClass_unreachable (host err : Bytes) :
    ((newEngine (configFor host)).run (unreachable err)).probeResults.map TargetResult.errorClass =
      [classifyError err] :=
  rfl

theorem renamed_unreachable (err : DialError) (host host' : Bytes) :
    Renamed (newEngine (configFor host)) (newEngine (configFor host'))
      (unreachable (err.text host)) (unreachable (err.text host')) 0 err host host' where
  first := ⟨rfl, rfl⟩
  second := ⟨rfl, rfl⟩
  others := by
    intro j hj
    have hnone : ∀ (name text : Bytes),
        ((newEngine (configFor name)).probe (unreachable text))[j]? = none := by
      intro name text
      rw [Engine.getElem?_probe]
      obtain ⟨k, rfl⟩ : ∃ k, j = k + 1 := ⟨j - 1, by omega⟩
      rfl
    rw [hnone, hnone]

/-- Two names are classified alike exactly when they do not tell the texts apart. -/
theorem hostIndependent_iff (err : DialError) (host host' : Bytes) :
    HostIndependent err host host' ↔ err.SameSubjects host host' := by
  constructor
  · intro h
    have halike := (h _ _ _ _ 0 (renamed_unreachable err host host')).errorClass
    rw [errorClass_unreachable, errorClass_unreachable, List.cons.injEq] at halike
    exact (DialError.classifyError_text_eq_iff err host host').1 halike.1
  · intro h _ _ _ _ _ hrenamed
    exact hrenamed.classifiedAlike h

/-- For connect errors with the text of an address no names are told apart. -/
theorem hostIndependent_address {addr : Bytes → Bytes}
    (haddr : ∀ host, ∀ c ∈ addr host, c ∈ DialError.addressBytes) (cause host host' : Bytes) :
    HostIndependent (.connect addr cause) host host' := by
  intro _ _ _ _ _ hrenamed
  exact hrenamed.classifiedAlike (DialError.sameSubjects_address haddr cause host host')

/-- A host that does not exist counts as a reset when its name says so. -/
theorem reset_host_classified :
    ¬ ∀ (err : DialError) (host host' : Bytes), HostIndependent err host host' := by
  intro h
  have halike := (h (.lookup (lit "no such host")) (lit "reset.example.com") (lit "example.com")
    _ _ _ _ 0 (renamed_unreachable _ _ _)).errorClass
  rw [errorClass_unreachable, errorClass_unreachable, List.cons.injEq] at halike
  exact absurd halike.1 (by decide +kernel)

end Diagnostic
end Orchestrator
end FlyDpi
