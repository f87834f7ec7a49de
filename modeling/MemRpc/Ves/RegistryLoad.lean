import MemRpc.Lib.Machine
import MemRpc.Ves.Registry

/-!
# A load request among registrations

`HandleLoadRequest` takes the registry's mutex three times: to look the path up, to remove it if
nothing answers at its socket, and to look it up again for the response. In between it connects to
the socket and calls the load callback, and meanwhile other threads call `RegisterService` and
`UnregisterService`. The accept loop handles one request after another, so there is at most one
load at a time. Sockets and the load callback answer as they like; what the callback registers
is a `RegisterService` like any other.

An entry counts as stale if it has the path that was probed. A service that registers again under
the path it had, after the probe and before the removal, is taken for the stale one
(`not_freshKept_of_reregistration`). Without such a registration, a load removes only entries that
are older than its probe (`freshKept_of_reach`).

## Main definitions

* `Registration`: an entry, with the number of the call that registered it.
* `registryLoad`: the machine.
* `RegistryLoad.FreshKept`: no load has erased an entry that was registered after its probe.

## Main results

* `freshKept_of_reach`.
* `RegistryLoad.load_alone`: without other threads, a load is `Services.handleLoadRequest`.
-/

namespace MemRpc

open Concurrency

/-- An entry of `services_`, with the number of the `RegisterService` call it comes from. -/
structure Registration where
  path : List UInt8
  serial : ℕ
  deriving DecidableEq, Repr

/-- Where the load request is. -/
inductive LoadPc
  | idle
  | lookUp (saId : Int32)
  | probe (saId : Int32) (servicePath : List UInt8)
  | removeStale (saId : Int32) (servicePath : List UInt8)
  | tryLoad (saId : Int32)
  | populate (saId : Int32)
  deriving DecidableEq, Repr

/-- The registry, and the load request it is handling. -/
structure RegistryLoad where
  services : Int32 → Option Registration := fun _ => none
  /-- How often `RegisterService` was called. -/
  registered : ℕ := 0
  pc : LoadPc := .idle
  /-- How often it had been called when the load made its probe. -/
  probedAt : ℕ := 0
  /-- What loads have erased, each with the `probedAt` of its load. -/
  erased : List (Registration × ℕ) := []
  /-- The responses, the latest first. -/
  responses : List RegistryResponse := []

/-- A call of another thread, or the next step of the load with what it is answered. -/
inductive LoadAction
  | registerService (saId : Int32) (path : List UInt8)
  | unregisterService (saId : Int32)
  | load (saId : Int32)
  | lookUp
  | probe (reachable : Bool)
  | removeStale
  | tryLoad (loaded : Bool)
  | populate
  deriving DecidableEq, Repr

namespace RegistryLoad

/-- `RegisterService`. -/
def registerService (s : RegistryLoad) (saId : Int32) (path : List UInt8) : RegistryLoad :=
  { s with
    services := Function.update s.services saId (some ⟨path, s.registered⟩)
    registered := s.registered + 1 }

/-- `UnregisterService`. -/
def unregisterService (s : RegistryLoad) (saId : Int32) : RegistryLoad :=
  { s with services := Function.update s.services saId none }

/-- `TryGetServicePath`. -/
def tryGetServicePath (s : RegistryLoad) (saId : Int32) : Option (List UInt8) :=
  (s.services saId).map Registration.path

/-- `RemoveStaleService`. -/
def removeStaleService (s : RegistryLoad) (saId : Int32) (servicePath : List UInt8) :
    RegistryLoad :=
  match s.services saId with
  | none => s
  | some entry =>
    if entry.path ≠ servicePath then s
    else
      { s with
        services := Function.update s.services saId none
        erased := (entry, s.probedAt) :: s.erased }

/-- `PopulateServiceResponse`, or the error that `HandleLoadRequest` returns. -/
def response (s : RegistryLoad) (saId : Int32) : RegistryResponse :=
  match s.tryGetServicePath saId with
  | none => { errCode := -1 }
  | some servicePath => { errCode := 0, payload := servicePath }

end RegistryLoad

/-- Load requests one after another, and any calls of other threads. -/
def registryLoad : Machine RegistryLoad LoadAction where
  init := {}
  step s
    | .registerService saId path => some (s.registerService saId path)
    | .unregisterService saId => some (s.unregisterService saId)
    | .load saId =>
      match s.pc with
      | .idle => some { s with pc := .lookUp saId }
      | _ => none
    | .lookUp =>
      match s.pc with
      | .lookUp saId =>
        match s.tryGetServicePath saId with
        | none => some { s with pc := .tryLoad saId }
        | some servicePath => some { s with pc := .probe saId servicePath }
      | _ => none
    | .probe reachable =>
      match s.pc with
      | .probe saId servicePath =>
        some { s with
          probedAt := s.registered
          pc := if reachable then .populate saId else .removeStale saId servicePath }
      | _ => none
    | .removeStale =>
      match s.pc with
      | .removeStale saId servicePath =>
        some { s.removeStaleService saId servicePath with pc := .tryLoad saId }
      | _ => none
    | .tryLoad loaded =>
      match s.pc with
      | .tryLoad saId =>
        if loaded then some { s with pc := .populate saId }
        else some { s with pc := .idle, responses := { errCode := -1 } :: s.responses }
      | _ => none
    | .populate =>
      match s.pc with
      | .populate saId =>
        some { s with pc := .idle, responses := s.response saId :: s.responses }
      | _ => none

namespace RegistryLoad

/-- No load has erased an entry that was registered after the load made its probe. -/
def FreshKept (s : RegistryLoad) : Prop := ∀ e ∈ s.erased, e.1.serial < e.2

instance (s : RegistryLoad) : Decidable s.FreshKept :=
  inferInstanceAs (Decidable (∀ e ∈ s.erased, e.1.serial < e.2))

/-- Between a failed probe and the removal, the service is not registered again under the path
that was probed. -/
def NotAgain (s : RegistryLoad) : LoadAction → Prop
  | .registerService saId path => s.pc ≠ .removeStale saId path
  | _ => True

instance (s : RegistryLoad) : (a : LoadAction) → Decidable (s.NotAgain a)
  | .registerService saId path => inferInstanceAs (Decidable (s.pc ≠ .removeStale saId path))
  | .unregisterService _ | .load _ | .lookUp | .probe _ | .removeStale | .tryLoad _ | .populate =>
    .isTrue trivial

/-- Entries are older than the calls to come. The one that is about to be removed is older than
the probe. -/
structure Inv (s : RegistryLoad) : Prop where
  kept : s.FreshKept
  serial : ∀ saId, ∀ entry ∈ s.services saId, entry.serial < s.registered
  stale : ∀ saId servicePath, s.pc = .removeStale saId servicePath →
    ∀ entry ∈ s.services saId, entry.path = servicePath → entry.serial < s.probedAt

/-- What is left after an erasure was there before. -/
theorem mem_of_mem_erased {services : Int32 → Option Registration} {saId id : Int32}
    {entry : Registration} (h : entry ∈ Function.update services saId none id) :
    entry ∈ services id := by
  rw [Function.update_apply] at h
  split at h
  · cases h
  · exact h

namespace Inv

variable {s s' : RegistryLoad}

theorem registerService (h : s.Inv) {saId : Int32} {path : List UInt8}
    (hagain : s.pc ≠ .removeStale saId path) : (s.registerService saId path).Inv where
  kept := h.kept
  serial id entry hentry := by
    change entry ∈ Function.update s.services saId _ id at hentry
    rw [Function.update_apply] at hentry
    split at hentry
    · cases hentry
      exact Nat.lt_succ_self _
    · exact Nat.lt_succ_of_lt (h.serial id entry hentry)
  stale id servicePath hpc entry hentry hpath := by
    change entry ∈ Function.update s.services saId _ id at hentry
    rw [Function.update_apply] at hentry
    split at hentry
    · -- the new entry has another path than the one that was probed
      rename_i hid
      cases hentry
      subst hid hpath
      exact absurd hpc hagain
    · exact h.stale id servicePath hpc entry hentry hpath

/-- Removing an entry keeps what is known of the others. -/
theorem erase (h : s.Inv) (saId : Int32) {erased : List (Registration × ℕ)}
    (hkept : ∀ e ∈ erased, e.1.serial < e.2) :
    Inv { s with services := Function.update s.services saId none, erased } where
  kept := hkept
  serial id entry hentry := h.serial id entry (mem_of_mem_erased hentry)
  stale id servicePath hpc entry hentry hpath :=
    h.stale id servicePath hpc entry (mem_of_mem_erased hentry) hpath

/-- The load goes on to a point from which it does not remove anything. -/
theorem goto (h : s.Inv) {pc : LoadPc} (hpc : ∀ saId path, pc ≠ .removeStale saId path)
    (probedAt : ℕ) (responses : List RegistryResponse) :
    Inv { s with pc, probedAt, responses } where
  __ := h
  stale saId servicePath hremove := absurd hremove (hpc saId servicePath)

/-- A failed probe: every entry there is was registered before it. -/
theorem probe (h : s.Inv) (saId : Int32) (servicePath : List UInt8) :
    Inv { s with probedAt := s.registered, pc := .removeStale saId servicePath } where
  __ := h
  stale id _ _ entry hentry _ := h.serial id entry hentry

/-- The removal erases an entry that is older than the probe, or none. -/
theorem removeStale (h : s.Inv) {saId : Int32} {servicePath : List UInt8}
    (hpc : s.pc = .removeStale saId servicePath) : (s.removeStaleService saId servicePath).Inv := by
  unfold RegistryLoad.removeStaleService
  split
  · exact h
  · rename_i entry hentry
    split
    · exact h
    · rename_i hpath
      have hold := h.stale saId servicePath hpc entry hentry (not_not.mp hpath)
      exact h.erase saId (List.forall_mem_cons.mpr ⟨hold, h.kept⟩)

theorem step (h : s.Inv) {a : LoadAction} (hok : s.NotAgain a)
    (hs : registryLoad.step s a = some s') : s'.Inv := by
  cases a with
  | registerService saId path =>
    cases hs
    exact h.registerService hok
  | unregisterService saId =>
    cases hs
    exact h.erase saId h.kept
  | load saId =>
    simp only [registryLoad] at hs
    split at hs
    · cases hs
      exact h.goto (by simp) _ _
    · cases hs
  | lookUp =>
    simp only [registryLoad] at hs
    split at hs
    · split at hs <;> cases hs <;> exact h.goto (by simp) _ _
    · cases hs
  | probe reachable =>
    simp only [registryLoad] at hs
    split at hs
    · cases reachable with
      | false =>
        cases hs
        exact h.probe _ _
      | true =>
        cases hs
        exact h.goto (by simp) _ _
    · cases hs
  | removeStale =>
    simp only [registryLoad] at hs
    split at hs
    · rename_i hpc
      cases hs
      exact (h.removeStale hpc).goto (by simp) _ _
    · cases hs
  | tryLoad loaded =>
    simp only [registryLoad] at hs
    split at hs
    · split at hs <;> cases hs <;> exact h.goto (by simp) _ _
    · cases hs
  | populate =>
    simp only [registryLoad] at hs
    split at hs
    · cases hs
      exact h.goto (by simp) _ _
    · cases hs

end Inv

/-! ## A load that nobody interrupts -/

/-- The paths that are registered. -/
def paths (s : RegistryLoad) : Services := s.tryGetServicePath

/-- The steps from the load callback on. -/
def tryLoadSteps (loaded : Bool) : List LoadAction :=
  if loaded then [.tryLoad true, .populate] else [.tryLoad false]

/-- The steps of a load that looks up `found`. -/
def loadSteps (found : Option (List UInt8)) (reachable loaded : Bool) : List LoadAction :=
  match found with
  | none => .lookUp :: tryLoadSteps loaded
  | some _ => .lookUp :: .probe reachable ::
      if reachable then [.populate] else .removeStale :: tryLoadSteps loaded

variable {s : RegistryLoad} {saId : Int32} {hooks : RegistryHooks} {loaded : Bool}

/-- What is answered once the load callback has returned. -/
def answerLoaded (services : Services) (saId : Int32) (loaded : Bool) : RegistryResponse :=
  if loaded then (services.populateServiceResponse saId).getD { errCode := -1 }
  else { errCode := -1 }

theorem response_eq (s : RegistryLoad) (saId : Int32) :
    s.response saId = (s.paths.populateServiceResponse saId).getD { errCode := -1 } := by
  unfold response paths Services.populateServiceResponse
  cases s.tryGetServicePath saId <;> rfl

/-- What is seen of a load from outside. -/
def seen (s : RegistryLoad) : List RegistryResponse × Services := (s.responses, s.paths)

theorem seen_tryLoadSteps (hpc : s.pc = .tryLoad saId) (loaded : Bool) :
    (registryLoad.run s (tryLoadSteps loaded)).map seen =
      some (answerLoaded s.paths saId loaded :: s.responses, s.paths) := by
  cases loaded with
  | false =>
    have hstep : registryLoad.step s (.tryLoad false) =
        some { s with pc := .idle, responses := { errCode := -1 } :: s.responses } := by
      simp only [registryLoad, hpc, Bool.false_eq_true, if_false]
    rw [tryLoadSteps, if_neg (by simp), Machine.run_cons, hstep]
    rfl
  | true =>
    have hstep : registryLoad.step s (.tryLoad true) = some { s with pc := .populate saId } := by
      simp only [registryLoad, hpc, if_true]
    rw [tryLoadSteps, if_pos rfl, Machine.run_cons, hstep, answerLoaded, if_pos rfl, ← response_eq]
    rfl

/-- Removing the entry that was looked up. -/
theorem paths_removeStaleService {entry : Registration} (hentry : s.services saId = some entry) :
    (s.removeStaleService saId entry.path).paths = Function.update s.paths saId none := by
  funext id
  simp only [removeStaleService, hentry, ne_eq, not_true_eq_false, if_false, paths,
    tryGetServicePath]
  by_cases hid : id = saId
  · simp [hid]
  · simp [hid, tryGetServicePath]

theorem responses_removeStaleService (s : RegistryLoad) (saId : Int32) (servicePath : List UInt8) :
    (s.removeStaleService saId servicePath).responses = s.responses := by
  unfold removeStaleService
  split
  · rfl
  · split <;> rfl

/-- A load that nobody interrupts answers what `Services.handleLoadRequest` computes, and leaves
the same paths. -/
theorem load_alone (hload : hooks.loadCb = some fun _ services => (loaded, services))
    (hpc : s.pc = .lookUp saId) :
    (registryLoad.run s (loadSteps (s.paths saId)
        (((s.paths saId).map hooks.isReachableServiceSocket).getD false) loaded)).map seen =
      some ((s.paths.handleLoadRequest hooks saId).1 :: s.responses,
        (s.paths.handleLoadRequest hooks saId).2) := by
  cases hservice : s.services saId with
  | none =>
    have hpath : s.paths saId = none := by simp [paths, tryGetServicePath, hservice]
    have hlook : registryLoad.step s .lookUp = some { s with pc := .tryLoad saId } := by
      simp [registryLoad, hpc, tryGetServicePath, hservice]
    have hhandle : s.paths.handleLoadRequest hooks saId =
        (answerLoaded s.paths saId loaded, s.paths) := by
      simp only [Services.handleLoadRequest, hpath, Services.tryLoadService, hload, answerLoaded]
      cases loaded <;> rfl
    rw [hpath, loadSteps, Machine.run_cons, hlook, hhandle]
    exact seen_tryLoadSteps rfl loaded
  | some entry =>
    have hpath : s.paths saId = some entry.path := by simp [paths, tryGetServicePath, hservice]
    have hlook : registryLoad.step s .lookUp = some { s with pc := .probe saId entry.path } := by
      simp [registryLoad, hpc, tryGetServicePath, hservice]
    rw [hpath, loadSteps, Machine.run_cons, hlook, Option.bind_some, Option.map_some,
      Option.getD_some]
    cases hreach : hooks.isReachableServiceSocket entry.path with
    | true =>
      have hhandle : s.paths.handleLoadRequest hooks saId = (s.response saId, s.paths) := by
        simp only [Services.handleLoadRequest, hpath, hreach, response_eq, if_true]
      rw [hhandle]
      rfl
    | false =>
      have hhandle : s.paths.handleLoadRequest hooks saId =
          (answerLoaded (Function.update s.paths saId none) saId loaded,
            Function.update s.paths saId none) := by
        simp only [Services.handleLoadRequest, hpath, hreach, Services.tryLoadService, hload,
          answerLoaded, Bool.false_eq_true, if_false]
        cases loaded <;> rfl
      -- the state in which the stale entry is removed
      let s₁ := { s with probedAt := s.registered, pc := .removeStale saId entry.path }
      have hpaths : (s₁.removeStaleService saId entry.path).paths =
          Function.update s.paths saId none := paths_removeStaleService hservice
      have hresponses : (s₁.removeStaleService saId entry.path).responses = s.responses :=
        responses_removeStaleService s₁ saId entry.path
      have htail : (registryLoad.run
          { s₁.removeStaleService saId entry.path with pc := .tryLoad saId }
          (tryLoadSteps loaded)).map seen =
            some (answerLoaded (s₁.removeStaleService saId entry.path).paths saId loaded ::
              (s₁.removeStaleService saId entry.path).responses,
              (s₁.removeStaleService saId entry.path).paths) := seen_tryLoadSteps rfl loaded
      rw [hpaths, hresponses] at htail
      rw [hhandle]
      exact htail

end RegistryLoad

open RegistryLoad

/-- In every run in which a service is not registered again under the probed path between a
failed probe and the removal, a load erases only entries that were registered before its probe. -/
theorem freshKept_of_reach {s : RegistryLoad} (h : registryLoad.Reach NotAgain s) :
    s.FreshKept := by
  have hinv : s.Inv := by
    refine Machine.Reach.invariant ⟨?_, ?_, ?_⟩ (fun s a s' hinv hok hs => hinv.step hok hs) h
    · intro e he
      cases he
    · intro saId entry hentry
      cases hentry
    · intro saId servicePath hpc
      cases hpc
  exact hinv.kept

/-- A service that has moved to another path registers while the load finds the old one dead. -/
def movedServiceRun : List LoadAction :=
  [.registerService 7 [47, 97], .load 7, .lookUp, .probe false, .registerService 8 [47, 97],
    .registerService 7 [47, 98], .removeStale, .tryLoad true, .populate]

theorem freshKept_movedService :
    ∃ s, registryLoad.runOk NotAgain registryLoad.init movedServiceRun = some s ∧ s.FreshKept ∧
      s.responses = [{ errCode := 0, payload := [47, 98] }] := by
  obtain ⟨s, hrun, hresponses⟩ := Machine.exists_of_any
    (o := registryLoad.runOk NotAgain registryLoad.init movedServiceRun)
    (P := fun s => s.responses = [{ errCode := 0, payload := [47, 98] }]) (by decide +kernel)
  exact ⟨s, hrun, freshKept_of_reach (Machine.reach_of_runOk movedServiceRun hrun), hresponses⟩

/-- A service that restarts under the path it had. -/
def restartedServiceRun : List LoadAction :=
  [.registerService 7 [47, 97], .load 7, .lookUp, .probe false, .registerService 7 [47, 97],
    .removeStale]

/-- The registration of the restarted service is erased. -/
theorem not_freshKept_of_reregistration :
    ∃ s, registryLoad.Reach Machine.Always s ∧ ¬ s.FreshKept ∧ s.services 7 = none := by
  obtain ⟨s, hrun, hlost⟩ := Machine.exists_of_any
    (o := registryLoad.run registryLoad.init restartedServiceRun)
    (P := fun s => ¬ s.FreshKept ∧ s.services 7 = none) (by decide +kernel)
  exact ⟨s, Machine.reach_of_run restartedServiceRun hrun, hlost⟩

end MemRpc
