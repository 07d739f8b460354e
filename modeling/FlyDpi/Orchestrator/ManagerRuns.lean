import FlyDpi.Orchestrator.RuntimeManager

/-!
# ManagerRuns — what a process acquires, it releases once

Every run of the manager's operations, whatever the operating system answers: nothing is used after
its release, nothing is released twice, and a closed manager leaves nothing but what the failing calls
leave: what could not be ended, and a library without one of its entry points, which stays loaded.
The error of a manager that did not start names the first call that failed.
-/

namespace FlyDpi
namespace Orchestrator
namespace RuntimeManager

open Lib Lib.Resources Native Core.Lifecycle

/-! ## The Go runtime -/

namespace Runtime

def resources (r : Runtime) : Multiset Handle :=
  (match r.rt with
    | some rt => rt.resources
    | none => 0) + ↑r.dll.toList

structure Running (r : Runtime) : Prop where
  code : r.code.kind = .coreDll
  dll : r.dll = some r.code
  rt : ∃ rt, r.rt = some rt ∧ rt.Running

theorem Running.resources_eq {r : Runtime} (h : r.Running) {rt : FlyDpiRuntime}
    (hrt : r.rt = some rt) : r.resources = rt.resources + {r.code} := by
  simp only [resources, hrt, h.dll]
  rfl

theorem Running.code_mem {r : Runtime} (h : r.Running) : r.code ∈ r.resources := by
  rcases h.rt with ⟨rt, hrt, _⟩
  simp [h.resources_eq hrt]

end Runtime

/-! ## Which error is reported -/

def startFailure (code : UInt32) (cause : Bytes) : Bytes :=
  lit "runtime start failed (code " ++ decimal code ++ lit "): " ++ cause

/-- What a manager that did not start says of the call that failed. -/
def explain (os : OsTexts) (core observer : Bytes) : Call × UInt32 → Bytes
  | (.stat file, rc) =>
      if file = "flydpi-core.dll" then lit "core runtime unavailable: " ++ pathError os core rc
      else lit "WFP observer unavailable: " ++ pathError os observer rc
  | (.loadDll, rc) => lit "load core dll: " ++ loadError os core rc
  | (.findProc name, rc) =>
      lit ((procs.lookup name).getD name) ++ lit ": " ++ findError os core (lit name) rc
  | (.loadLibrary, _) => startFailure 3 (lit "failed to load observer DLL")
  | (.getProcAddress _, _) => startFailure 4 (lit "required observer entry point is missing")
  | (.spawn, _) => startFailure 5 (lit "failed to start WFP ingest worker")
  | (.engineOpen, rc) => observerText rc
  | (.netEventSubscribe, rc) => observerText rc
  -- no start fails by these
  | _ => []
where
  /-- Codes from `0xf0000000` on do not fit behind the offset, and the largest is shown. -/
  observerText (rc : UInt32) : Bytes :=
    let shown := min rc 0xefffffff
    startFailure (0x10000000 + shown)
      (lit "WFP observer start failed with Win32 code " ++ decimal shown)

theorem startFailedText_eq {os : OsTexts} {code callErr : UInt32} {cause : Bytes}
    (h : describeStartError os code callErr = cause) :
    startFailedText os code callErr = startFailure code cause := by
  unfold startFailedText startFailure
  rw [h]

theorem saturatingAdd32_offset (rc : UInt32) :
    saturatingAdd32 0x10000000 rc = 0x10000000 + min rc 0xefffffff := by
  have hlt := rc.toNat_lt
  apply UInt32.toNat_inj.1
  simp only [saturatingAdd32, UInt32.toNat_ofNat', UInt32.toNat_add, UInt32.toNat_min]
  simp
  omega

theorem describeStartError_offset (os : OsTexts) (callErr : UInt32) {shown : UInt32}
    (hle : shown.toNat ≤ 0xefffffff) :
    describeStartError os (0x10000000 + shown) callErr =
      lit "WFP observer start failed with Win32 code " ++ decimal shown := by
  have hval : (0x10000000 + shown).toNat = 0x10000000 + shown.toNat := by
    rw [UInt32.toNat_add]
    simp
    omega
  -- the codes of the other errors lie below the offset
  have hne : ∀ k : UInt32, k.toNat ≤ 5 → 0x10000000 + shown ≠ k := by
    intro k hk heq
    rw [← heq, hval] at hk
    omega
  have hge : 0x10000000 ≤ 0x10000000 + shown := by
    rw [UInt32.le_iff_toNat_le, hval]
    exact Nat.le_add_right _ _
  have hsub : 0x10000000 + shown - 0x10000000 = shown := by
    apply UInt32.toNat_inj.1
    rw [UInt32.toNat_sub_of_le _ _ hge, hval]
    exact Nat.add_sub_cancel_left _ _
  unfold describeStartError
  rw [if_neg (hne 0 (by simp)), if_neg (hne 1 (by simp)), if_neg (hne 2 (by simp)),
    if_neg (hne 3 (by simp)), if_neg (hne 4 (by simp)), if_neg (hne 5 (by simp)), if_pos hge, hsub]

theorem startFailedText_startFailed (os : OsTexts) (callErr rc : UInt32) :
    startFailedText os (bridgeErrorCode (.startFailed rc)) callErr = explain.observerText rc := by
  have hcode : bridgeErrorCode (.startFailed rc) = 0x10000000 + min rc 0xefffffff := by
    rw [bridgeErrorCode, saturatingAdd32_offset]
  have hle : (min rc 0xefffffff).toNat ≤ 0xefffffff := by
    simp [UInt32.toNat_min]
  rw [hcode]
  exact startFailedText_eq (describeStartError_offset os callErr hle)

/-- The error of a native start is that of the call that failed. -/
theorem startFailedText_bridgeErrorOf (os : OsTexts) (callErr : UInt32) (core observer : Bytes)
    {c : Call × UInt32} (h : ofStart c.1) :
    startFailedText os (bridgeErrorCode (bridgeErrorOf c)) callErr = explain os core observer c := by
  rcases c with ⟨call, rc⟩
  cases call with
  | loadLibrary =>
      have hcode : bridgeErrorCode (bridgeErrorOf (.loadLibrary, rc)) = 3 := rfl
      rw [hcode]
      exact startFailedText_eq (by simp [describeStartError])
  | getProcAddress name =>
      have hcode : bridgeErrorCode (bridgeErrorOf (.getProcAddress name, rc)) = 4 := rfl
      rw [hcode]
      exact startFailedText_eq (by simp [describeStartError])
  | spawn =>
      have hcode : bridgeErrorCode (bridgeErrorOf (.spawn, rc)) = 5 := rfl
      rw [hcode]
      exact startFailedText_eq (by simp [describeStartError])
  | engineOpen =>
      exact startFailedText_startFailed os callErr rc
  | netEventSubscribe =>
      exact startFailedText_startFailed os callErr rc
  | _ =>
      exact h.elim

section Specs

variable (env : OsEnv) (os : OsTexts) (callErr : UInt32)

theorem findProcs_spec (coreDLL : Bytes) (dll : Handle) (names : List (String × String)) :
    Triple env {dll} (findProcs os coreDLL dll names) fun missing owned made =>
      owned = {dll} ∧ leaked made = 0 ∧
        ((missing = none ∧ failure made = none) ∨
          ∃ name what rc, (name, what) ∈ names ∧ failure made = some (.findProc name, rc) ∧
            missing = some (lit what ++ lit ": " ++ findError os coreDLL (lit name) rc)) := by
  induction names with
  | nil =>
      exact Triple.pure ⟨rfl, rfl, Or.inl ⟨rfl, rfl⟩⟩
  | cons entry names ih =>
      rcases entry with ⟨name, what⟩
      refine Triple.use (Multiset.mem_singleton_self _) ?_
      refine Triple.ask fun rc => ?_
      split
      · rename_i hrc
        exact Triple.pure ⟨rfl, leaked_single rfl rc, Or.inr
          ⟨name, what, rc, List.mem_cons_self, failure_cons hrc _, rfl⟩⟩
      · rename_i hrc
        have hrc : rc = 0 := not_not.1 hrc
        subst hrc
        refine ih.consequence ?_
        rintro missing owned made ⟨howned, hleaked, hmissing⟩
        refine ⟨howned, hleaked, ?_⟩
        rcases hmissing with hnone | ⟨name', what', rc, hmem, hmade, hmissing⟩
        · exact Or.inl hnone
        · exact Or.inr ⟨name', what', rc, List.mem_cons_of_mem _ hmem, hmade, hmissing⟩

theorem openCore_spec (coreDLL observerDLL : Bytes) :
    Triple env 0 (Runtime.openCore os callErr coreDLL observerDLL) fun result owned made =>
      (∃ r : Runtime, result = .ok r ∧ r.Running ∧ owned = r.resources ∧ failure made = none) ∨
      (∃ error, result = .error error ∧ owned.map Resource.kind = leaked made ∧
        (PathOk observerDLL →
          ∃ c, failure made = some c ∧ error = explain os coreDLL observerDLL c)) := by
  unfold Runtime.openCore
  refine Triple.ask fun rc => ?_
  split
  · rename_i hrc
    refine Triple.pure (Or.inr ⟨_, rfl, ?_, fun _ => ⟨_, failure_cons hrc _, rfl⟩⟩)
    rw [leaked_cons_fails hrc]
    rfl
  · rename_i hrc
    have hrc : rc = 0 := not_not.1 hrc
    subst hrc
    refine Triple.acquire fun dll hdll => ?_
    have hrelease : Closes leftBy env {dll} (closeWith .releaseDll dll) :=
      closes_call env (by rw [hdll]; rfl)
    refine Triple.bind (findProcs_spec env os coreDLL dll procs) fun missing owned made hprocs => ?_
    rcases hprocs with ⟨rfl, hleaked, ⟨rfl, hmade⟩ | ⟨name, what, rc, hmem, hmade, rfl⟩⟩
    · dsimp only
      split
      · -- the path is refused before the native start, whether or not the library is released
        rename_i hnul
        refine Triple.bind hrelease fun _ owned made' hleft => ?_
        refine Triple.pure (Or.inr ⟨_, rfl, ?_, fun hpath => absurd hnul hpath.noNul⟩)
        rw [hleft, ← leaked, leaked_cons_zero, leaked_append, hleaked, List.append_nil,
          Multiset.zero_add]
      · rename_i hnul
        refine Triple.use (Multiset.mem_singleton_self _) ?_
        by_cases hpath : PathOk observerDLL
        · refine Triple.bind ((flydpiRuntimeStart_spec env hpath).frame_zero {dll})
            fun result owned made' hstart => ?_
          rcases hstart with ⟨rest, hstarted | hrefused, rfl⟩
          · rcases hstarted with ⟨rt, rfl, hrunning, rfl, hmade'⟩
            refine Triple.pure (Or.inl ⟨_, rfl, ⟨hdll, rfl, rt, rfl, hrunning⟩, rfl, ?_⟩)
            simp [failure_cons_zero, failure_append, hmade, hmade']
          · rcases hrefused with ⟨error, rfl, hrest, c, hmade', hc, rfl⟩
            refine Triple.use (by simp) ?_
            rw [Multiset.add_comm]
            refine Triple.bind (hrelease.frame rest) fun _ owned made'' hreleased => ?_
            rcases hreleased with ⟨rest', hleft, rfl⟩
            refine Triple.pure (Or.inr ⟨_, rfl, ?_, fun _ => ⟨c, ?_, ?_⟩⟩)
            · rw [Multiset.map_add, hleft, hrest, ← leaked, leaked_cons_zero, leaked_append, hleaked,
                leaked_append, List.append_nil, Multiset.zero_add, Multiset.add_comm]
            · simp [failure_cons_zero, failure_append, hmade, hmade']
            · exact startFailedText_bridgeErrorOf os callErr coreDLL observerDLL hc
        · rw [flydpiRuntimeStart_badPath hnul hpath]
          refine Triple.pure_bind (Triple.use (Multiset.mem_singleton_self _) ?_)
          refine Triple.bind hrelease fun _ owned made' hleft => ?_
          refine Triple.pure (Or.inr ⟨_, rfl, ?_, fun hok => absurd hok hpath⟩)
          rw [hleft, ← leaked, leaked_cons_zero, leaked_append, hleaked, List.append_nil,
            Multiset.zero_add]
    · refine Triple.bind hrelease fun _ owned made' hleft => ?_
      refine Triple.pure (Or.inr ⟨_, rfl, ?_, fun _ => ⟨(.findProc name, rc), ?_, ?_⟩⟩)
      · rw [hleft, ← leaked, leaked_cons_zero, leaked_append, hleaked, List.append_nil,
          Multiset.zero_add]
      · simp [failure_cons_zero, failure_append, hmade]
      · simp only [procs, List.mem_cons, Prod.mk.injEq, List.not_mem_nil, or_false] at hmem
        rcases hmem with ⟨rfl, rfl⟩ | ⟨rfl, rfl⟩ | ⟨rfl, rfl⟩ | ⟨rfl, rfl⟩ <;> rfl

end Specs

namespace Runtime

variable (env : OsEnv)

theorem poll_spec {r : Runtime} (h : r.Running) :
    Triple env r.resources r.poll fun _ owned made => owned = r.resources ∧ leaked made = 0 := by
  rcases h.rt with ⟨rt, hrt, _⟩
  simp only [poll, hrt]
  refine Triple.use h.code_mem (Triple.use ?_ ?_)
  · simp [h.resources_eq hrt, FlyDpiRuntime.resources]
  · exact Triple.ask fun rc => Triple.pure ⟨rfl, leaked_single rfl rc⟩

theorem pollLoop_spec {r : Runtime} (h : r.Running) (wanted : Nat) :
    Triple env r.resources (r.pollLoop wanted) fun found owned made =>
      owned = r.resources ∧ leaked made = 0 ∧ found ≤ wanted := by
  induction wanted with
  | zero =>
      exact Triple.pure ⟨rfl, rfl, Nat.le_refl _⟩
  | succ wanted ih =>
      rw [pollLoop]
      refine Triple.bind (poll_spec env h) fun found owned made hpoll => ?_
      rcases hpoll with ⟨rfl, hleaked⟩
      split
      · refine Triple.pure ⟨rfl, ?_, Nat.zero_le _⟩
        rw [List.append_nil]
        exact hleaked
      · refine Triple.bind ih fun rest owned made' hrest => ?_
        rcases hrest with ⟨rfl, hleaked', hle⟩
        refine Triple.pure ⟨rfl, ?_, Nat.succ_le_succ hle⟩
        simp [leaked_append, hleaked, hleaked']

theorem close_spec {r : Runtime} (h : r.Running) :
    Closes leftBy env r.resources r.close := by
  rcases h.rt with ⟨rt, hrt, hrunning⟩
  have hmem := h.code_mem
  rw [h.resources_eq hrt] at hmem ⊢
  simp only [close, hrt, h.dll, Option.isSome_some, if_true, closeHandle]
  have hrelease : Closes leftBy env {r.code} (closeWith .releaseDll r.code) :=
    closes_call env (by rw [h.code]; rfl)
  refine Closes.use hmem ?_
  refine (flydpiRuntimeStop_spec env hrunning).bind fun _ => ?_
  rw [← Multiset.add_zero {r.code}]
  exact hrelease.bind fun _ => Closes.pure _

end Runtime

/-! ## The manager -/

namespace Manager

def resources (m : Manager) : Multiset Handle :=
  match m.rt with
  | some r => r.resources
  | none => 0

theorem resources_of_none {m : Manager} (h : m.rt = none) : m.resources = 0 := by
  rw [resources, h]

/-- What the process holds: the resources of the manager, whose runtime is running if there is one,
and what failing calls have left. -/
def Holds (m : Manager) (owned : Multiset Handle) (made : List (Call × UInt32)) : Prop :=
  (∀ r, m.rt = some r → r.Running) ∧
    ∃ lost, owned = m.resources + lost ∧ lost.map Resource.kind = leaked made

variable (env : OsEnv)

theorem Holds.append {m : Manager} {owned : Multiset Handle} {made made' : List (Call × UInt32)}
    (h : m.Holds owned made) (hmade' : leaked made' = 0) : m.Holds owned (made ++ made') := by
  rcases h with ⟨hrunning, lost, howned, hlost⟩
  refine ⟨hrunning, lost, howned, ?_⟩
  rw [leaked_append, hmade', hlost, Multiset.add_zero]

theorem events_spec {m : Manager} (hrunning : ∀ r, m.rt = some r → r.Running) (limit : Int) :
    Triple env m.resources (m.events limit) fun _ owned made =>
      owned = m.resources ∧ leaked made = 0 := by
  unfold events resources
  cases hrt : m.rt with
  | none =>
      exact Triple.pure ⟨rfl, rfl⟩
  | some r =>
      refine (Runtime.pollLoop_spec env (hrunning r hrt) _).consequence fun _ owned made hpolled => ?_
      exact ⟨hpolled.1, hpolled.2.1⟩

theorem close_spec {m : Manager} (hrunning : ∀ r, m.rt = some r → r.Running) :
    Triple env m.resources m.close fun m' owned made =>
      m'.rt = none ∧ owned.map Resource.kind = leaked made := by
  unfold close resources
  cases hrt : m.rt with
  | none =>
      exact Triple.pure ⟨hrt, rfl⟩
  | some r =>
      refine Triple.bind (Runtime.close_spec env (hrunning r hrt)) fun _ owned made hleft => ?_
      refine Triple.pure ⟨rfl, ?_⟩
      rw [List.append_nil]
      exact hleft

/-- Each operation of the manager; once disabled, it stays so, and `close` disables it. -/
theorem handle_spec (m : Manager) (op : ManagerOp) (owned : Multiset Handle)
    (made : List (Call × UInt32)) (h : m.Holds owned made) :
    Triple env owned (m.handle op) fun m' owned' made' =>
      m'.Holds owned' (made ++ made') ∧ (m'.rt ≠ none → leaked made' = 0) ∧
        (m.rt = none → m'.rt = none) ∧ (op = .close → m'.rt = none) := by
  cases op with
  | enabled =>
      exact Triple.pure ⟨h.append rfl, fun _ => rfl, id, nofun⟩
  | error =>
      exact Triple.pure ⟨h.append rfl, fun _ => rfl, id, nofun⟩
  | events limit =>
      have hmade := h
      rcases h with ⟨hrunning, lost, rfl, hlost⟩
      refine Triple.bind ((events_spec env hrunning limit).frame lost) fun _ owned made' hevents => ?_
      rcases hevents with ⟨rest, ⟨rfl, hleaked⟩, rfl⟩
      have hleaked' : leaked (made' ++ []) = 0 := by
        rw [List.append_nil]
        exact hleaked
      exact Triple.pure ⟨hmade.append hleaked', fun _ => hleaked', id, nofun⟩
  | close =>
      rcases h with ⟨hrunning, lost, rfl, hlost⟩
      refine ((close_spec env hrunning).frame lost).consequence fun m' owned made' hclosed => ?_
      rcases hclosed with ⟨rest, ⟨hrt, hrest⟩, rfl⟩
      refine ⟨⟨?_, rest + lost, ?_, ?_⟩, fun hopen => absurd hrt hopen, fun _ => hrt, fun _ => hrt⟩
      · intro r hr
        rw [hrt] at hr
        cases hr
      · rw [resources_of_none hrt, Multiset.zero_add]
      · rw [Multiset.map_add, hrest, hlost, leaked_append, Multiset.add_comm]

end Manager

section Processes

variable (env : OsEnv) (os : OsTexts) (callErr : UInt32) (join : List Bytes → Bytes)

/-- A base directory in which a start can only fail by a call that fails. -/
def Usable (baseDir : Bytes) : Prop :=
  baseDir ≠ [] ∧ PathOk (observerPath join baseDir)

/-- A new manager runs, or its error explains the call that failed. -/
theorem newManager_spec (baseDir : Bytes) :
    Triple env 0 (newManager os callErr join baseDir) fun m owned made =>
      m.Holds owned made ∧
        ((m.rt.isSome ∧ failure made = none ∧ m.err = none) ∨
          (m.rt = none ∧ (Usable join baseDir → ∃ c, failure made = some c ∧
            m.err = some (explain os (corePath join baseDir) (observerPath join baseDir) c)))) := by
  -- a manager without a runtime holds nothing but what a start left behind
  have hholds : ∀ (err : Option Bytes) (owned : Multiset Handle) (made : List (Call × UInt32)),
      owned.map Resource.kind = leaked made →
      Manager.Holds { rt := none, err := err } owned made := by
    intro err owned made hleaked
    refine ⟨?_, owned, ?_, hleaked⟩
    · intro r hr
      cases hr
    · rw [Manager.resources_of_none rfl, Multiset.zero_add]
  unfold newManager
  split
  · rename_i hempty
    exact Triple.pure ⟨hholds _ _ _ rfl, Or.inr ⟨rfl, fun h => absurd hempty h.1⟩⟩
  · refine Triple.ask fun rc => ?_
    split
    · rename_i hrc
      refine Triple.pure ⟨hholds _ _ _ (leaked_single rfl rc).symm,
        Or.inr ⟨rfl, fun _ => ⟨(.stat "flydpi-core.dll", rc), ?_, rfl⟩⟩⟩
      exact failure_cons hrc _
    · rename_i hrc
      have hrc : rc = 0 := not_not.1 hrc
      subst hrc
      refine Triple.ask fun rc => ?_
      split
      · rename_i hrc
        refine Triple.pure ⟨hholds _ _ _ (leaked_single rfl rc).symm,
          Or.inr ⟨rfl, fun _ => ⟨(.stat "flydpi_wfp_observer.dll", rc), ?_, rfl⟩⟩⟩
        rw [failure_cons_zero]
        exact failure_cons hrc _
      · rename_i hrc
        have hrc : rc = 0 := not_not.1 hrc
        subst hrc
        refine Triple.bind (openCore_spec env os callErr _ _) fun result owned made hopened => ?_
        rcases hopened with ⟨r, rfl, hrunning, rfl, hmade⟩ | ⟨error, rfl, hleaked, hexplain⟩
        · refine Triple.pure ⟨⟨?_, 0, (Multiset.add_zero _).symm, ?_⟩, Or.inl ⟨rfl, ?_, rfl⟩⟩
          · intro r' hr'
            cases hr'
            exact hrunning
          · simp [leaked_cons_zero, leaked_of_failure_eq_none hmade]
          · simp [failure_cons_zero, hmade]
        · refine Triple.pure ⟨hholds _ _ _ ?_, Or.inr ⟨rfl, fun husable => ?_⟩⟩
          · simp [leaked_cons_zero, hleaked]
          · rcases hexplain husable.2 with ⟨c, hc, herror⟩
            refine ⟨c, ?_, congrArg some herror⟩
            simp [failure_cons_zero, hc]

/-- Between operations: what the manager holds; no call of a running one has left anything. -/
structure ProcessInv (done : List ManagerOp) (m : Manager) (owned : Multiset Handle)
    (made : List (Call × UInt32)) : Prop where
  holds : m.Holds owned made
  clean : m.rt ≠ none → leaked made = 0
  closed : .close ∈ done → m.rt = none

theorem ProcessInv.handle {done : List ManagerOp} {m : Manager} {owned : Multiset Handle}
    {made : List (Call × UInt32)} (h : ProcessInv done m owned made) (op : ManagerOp) :
    Triple env owned (m.handle op) fun m' owned' made' =>
      ProcessInv (done ++ [op]) m' owned' (made ++ made') := by
  refine (Manager.handle_spec env m op owned made h.holds).consequence ?_
  rintro m' owned' made' ⟨hholds, hleaked, hkept, hclose⟩
  refine ⟨hholds, fun hrt => ?_, fun hmem => ?_⟩
  · rw [leaked_append, h.clean (mt hkept hrt), hleaked hrt, Multiset.add_zero]
  · rcases List.mem_append.1 hmem with hdone | hop
    · exact hkept (h.closed hdone)
    · exact hclose (List.mem_singleton.1 hop).symm

/-- A manager that did not start reports the first call that failed. -/
theorem newManager_explains (baseDir : Bytes) (h : Usable join baseDir) :
    let run := (newManager os callErr join baseDir).run env .empty
    run.1.enabled = (failure run.2.calls).isNone ∧
    run.1.error = ((failure run.2.calls).map
      (explain os (corePath join baseDir) (observerPath join baseDir))).getD [] := by
  have hrun := (newManager_spec env os callErr join baseDir).run_empty
  generalize (newManager os callErr join baseDir).run env .empty = run at hrun
  rcases hrun with ⟨owned, made, ⟨_, hnew⟩, _, rfl, _, _⟩
  rcases hnew with ⟨hrt, hmade, herr⟩ | ⟨hrt, hexplain⟩
  · simp [Manager.enabled, Manager.error, hrt, hmade, herr]
  · rcases hexplain h with ⟨c, hc, herr⟩
    simp [Manager.enabled, Manager.error, hrt, hc, herr]

/-- `filepath.Join` of a clean directory and two names. -/
def joinPath (parts : List Bytes) : Bytes :=
  [0x5c].intercalate parts

/-- The subscription is denied with error 5. -/
def deniedEnv : OsEnv :=
  fun _ call => if call = .netEventSubscribe then 5 else 0

/-- The core library is not there. -/
def missingEnv : OsEnv :=
  fun _ call => if call = .stat "flydpi-core.dll" then 2 else 0

/-- The texts of an English Windows for what is missing. -/
def windowsTexts : OsTexts :=
  { errno := fun rc =>
      if rc = 2 then lit "The system cannot find the file specified." else lit "Access is denied."
    statOp := fun _ => lit "CreateFile" }

theorem newManager_explains_denied :
    ((newManager windowsTexts 0 joinPath (lit "C:\\FlyDPI")).run deniedEnv .empty).1.error =
      lit "runtime start failed (code 268435461): WFP observer start failed with Win32 code 5" ∧
    ((newManager windowsTexts 0 joinPath (lit "C:\\FlyDPI")).run missingEnv .empty).1.error =
      lit "core runtime unavailable: CreateFile C:\\FlyDPI\\bin\\flydpi-core.dll: " ++
        lit "The system cannot find the file specified." := by
  have husable : Usable joinPath (lit "C:\\FlyDPI") :=
    ⟨by decide +kernel, by decide +kernel, by decide +kernel, by decide +kernel⟩
  refine ⟨?_, ?_⟩
  · exact (newManager_explains deniedEnv windowsTexts 0 joinPath _ husable).2.trans
      (by decide +kernel)
  · exact (newManager_explains missingEnv windowsTexts 0 joinPath _ husable).2.trans
      (by decide +kernel)

end Processes

end RuntimeManager
end Orchestrator
end FlyDpi
