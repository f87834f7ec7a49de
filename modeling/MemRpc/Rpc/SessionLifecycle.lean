import MemRpc.Lib.Machine
import MemRpc.Core.Protocol

/-!
# Opening, breaking and stopping sessions

The shared state word over the life of a session. A `SharedMemorySessionHost` hands out
the handles of its current session; clients fetch handles, attach, store `Alive` and
publish requests; servers start, break the session and stop. The client stores `Alive`
without a look at the word, at a time when the server may have stored `Broken`.

Clients and servers are arbitrary many. Each store and load of a shared word is a step,
so is each call on the host. The answers of the system (mapping and validating the
header, whether the attached process is alive, room in the request ring) are part of
the action. One client is one point: `lifecycleMutex_` covers the opening and closing
of its session and `sessionMutex_` covers `PushRequest`. Of `MarkSessionBroken` and the
shutdown of `Stop` only the accesses to the words modelled here are steps. A server
object runs one `Stop` at a time.

## Main definitions

* `SessionLifecycle`: the host, its sessions, the clients and the servers.
* `sessionLifecycle`: the machine.
* `BrokenForGood`: a broken session stays broken, and nobody publishes after a stop.
-/

namespace MemRpc

open Concurrency

/-- The points of a client: `OpenSession` from `handed` to `publishing`, `PushRequest`
from `checking` to `rechecking`, and the second half of `CloseLiveSession`. -/
inductive ClientPc
  | idle
  | handed (k : ℕ)
  | attached (k : ℕ)
  | publishing (k : ℕ)
  | live (k : ℕ)
  | checking (k : ℕ)
  | pushing (k : ℕ)
  | rechecking (k : ℕ)
  | closing
  | dead
  deriving DecidableEq, Repr

/-- The client has the handles of the session and has not stored `Alive` yet. -/
def ClientPc.opening (k : ℕ) : ClientPc → Bool
  | .handed k' | .attached k' => k' == k
  | _ => false

/-- The points of `RpcServer::Stop` after `running.exchange(false)`. -/
inductive StopPc
  | outside
  | marking
  | joining
  deriving DecidableEq, Repr

/-- `RpcServer::Impl` as far as its session is concerned. -/
structure ServerState where
  /-- `handles`, until `Attach` takes them. -/
  handles : Option ℕ := none
  running : Bool := false
  /-- `Start` is between `running.exchange(true)` and the end of `Attach`. -/
  starting : Bool := false
  /-- The session whose header is mapped. -/
  session : Option ℕ := none
  stop : StopPc := .outside
  deriving DecidableEq, Repr

/-- The words of a session's header, and what has happened to it. -/
structure SharedSession where
  state : SessionState := .alive
  clientAttached : Bool := false
  /-- `Broken` has been stored. -/
  everBroken : Bool := false
  /-- `Stop` of its server is past the store of `MarkSessionBroken`. -/
  stopped : Bool := false
  deriving DecidableEq, Repr

/-- A `PushRequest` that returned `Ok`. -/
structure Publication where
  session : ℕ
  afterStop : Bool
  deriving DecidableEq, Repr

/-- The host with the sessions it has created, and everyone who uses them. -/
structure SessionLifecycle (C S : Type) where
  created : ℕ := 0
  host : Option ℕ := none
  session : ℕ → SharedSession := fun _ => {}
  client : C → ClientPc := fun _ => .idle
  server : S → ServerState := fun _ => {}
  published : List Publication := []

/-- Who moves. -/
inductive LifecycleAction (C S : Type)
  | openSession (i : C)
  | client (i : C) (ok peerAlive : Bool)
  | invoke (i : C)
  | close (i : C)
  | die (i : C)
  | setBootstrapHandles (j : S)
  | start (j : S)
  | attach (j : S) (ok : Bool)
  | markBroken (j : S)
  | stop (j : S)
  | stopStep (j : S)

namespace SessionLifecycle
variable {C S : Type} [DecidableEq C] [DecidableEq S]

def setClient (s : SessionLifecycle C S) (i : C) (pc : ClientPc) : SessionLifecycle C S :=
  { s with client := Function.update s.client i pc }

def setServer (s : SessionLifecycle C S) (j : S) (v : ServerState) : SessionLifecycle C S :=
  { s with server := Function.update s.server j v }

def setSession (s : SessionLifecycle C S) (k : ℕ) (t : SharedSession) :
    SessionLifecycle C S :=
  { s with session := Function.update s.session k t }

/-- `SharedMemorySessionHost::OpenSession`: create the session on first use. -/
def openSession (s : SessionLifecycle C S) (i : C) : SessionLifecycle C S :=
  match s.host with
  | some k => s.setClient i (.handed k)
  | none => { s with created := s.created + 1, host := some s.created }.setClient i (.handed s.created)

/-- `Session::SetState(Broken)`, which does nothing without a mapped header. -/
def storeBroken (s : SessionLifecycle C S) : Option ℕ → SessionLifecycle C S
  | none => s
  | some k => s.setSession k { s.session k with state := .broken, everBroken := true }

/-- Record that the server of a session has been stopped. -/
def recordStop (s : SessionLifecycle C S) : Option ℕ → SessionLifecycle C S
  | none => s
  | some k => s.setSession k { s.session k with stopped := true }

/-- The session of a server: the mapped one, or the one its handles name. -/
def serves (s : SessionLifecycle C S) (j : S) : Option ℕ :=
  (s.server j).session <|> (s.server j).handles

/-- The next step of a client. `ok` answers the mapping and validation of `Attach` and
the push on the ring, `peerAlive` answers `ProcessIsAlive`. -/
def clientStep (s : SessionLifecycle C S) (i : C) (ok peerAlive : Bool) :
    Option (SessionLifecycle C S) :=
  match s.client i with
  | .idle | .live _ | .dead => none
  | .handed k =>
    if ok = false ∨ ((s.session k).clientAttached = true ∧ peerAlive = true) then
      some (s.setClient i .idle)
    else
      some ((s.setSession k { s.session k with clientAttached := true }).setClient i (.attached k))
  | .attached k =>
    some ((s.setSession k { s.session k with state := .alive }).setClient i (.publishing k))
  | .publishing k => some (s.setClient i (.live k))
  | .checking k =>
    match (s.session k).state with
    | .alive => some (s.setClient i (.pushing k))
    | .broken => some (s.setClient i (.live k))
  | .pushing k => some (s.setClient i (if ok then .rechecking k else .live k))
  | .rechecking k =>
    match (s.session k).state with
    | .alive =>
      some ({ s with published := ⟨k, (s.session k).stopped⟩ :: s.published }.setClient i
        (.live k))
    | .broken => some (s.setClient i (.live k))
  | .closing => some ({ s with host := none }.setClient i .idle)

/-- The first half of `CloseLiveSession`: `Session::Reset` gives the attachment up. -/
def close (s : SessionLifecycle C S) (i : C) : Option (SessionLifecycle C S) :=
  match s.client i with
  | .idle => some (s.setClient i .closing)
  | .live k =>
    some ((s.setSession k { s.session k with clientAttached := false }).setClient i .closing)
  | _ => none

/-- `Session::Attach` of `Start`, which takes the handles. -/
def attach (s : SessionLifecycle C S) (j : S) (ok : Bool) : Option (SessionLifecycle C S) :=
  if (s.server j).starting then
    match (s.server j).handles, ok with
    | some k, true =>
      some (s.setServer j
        { s.server j with handles := none, starting := false, session := some k })
    | _, _ =>
      some (s.setServer j
        { s.server j with handles := none, starting := false, running := false, session := none })
  else none

/-- The next step of `Stop`. -/
def stopStep (s : SessionLifecycle C S) (j : S) : Option (SessionLifecycle C S) :=
  match (s.server j).stop with
  | .outside => none
  | .marking =>
    some (((s.storeBroken (s.server j).session).recordStop (s.serves j)).setServer j
      { s.server j with stop := .joining })
  | .joining => some (s.setServer j { s.server j with stop := .outside, session := none })

end SessionLifecycle

/-- All interleavings of clients, servers and the host. -/
def sessionLifecycle (C S : Type) [DecidableEq C] [DecidableEq S] :
    Machine (SessionLifecycle C S) (LifecycleAction C S) where
  init := {}
  step s
    | .openSession i => if s.client i = .idle then some (s.openSession i) else none
    | .client i ok peerAlive => s.clientStep i ok peerAlive
    | .invoke i =>
      match s.client i with
      | .live k => some (s.setClient i (.checking k))
      | _ => none
    | .close i => s.close i
    | .die i => some (s.setClient i .dead)
    | .setBootstrapHandles j => some (s.setServer j { s.server j with handles := s.host })
    | .start j =>
      if (s.server j).running then none
      else some (s.setServer j { s.server j with running := true, starting := true })
    | .attach j ok => s.attach j ok
    | .markBroken j => some (s.storeBroken (s.server j).session)
    | .stop j =>
      if (s.server j).running ∧ (s.server j).stop = .outside then
        some (s.setServer j { s.server j with running := false, stop := .marking })
      else none
    | .stopStep j => s.stopStep j

/-! ## The property and its condition -/

namespace SessionLifecycle
variable {C S : Type}

/-- A session that was broken is broken, and no request was published on a session
whose server had been stopped. -/
structure BrokenForGood (s : SessionLifecycle C S) : Prop where
  permanent : ∀ k, (s.session k).everBroken = true → (s.session k).state = .broken
  publishedBefore : ∀ p ∈ s.published, p.afterStop = false

/-- No client is between the handles of the session and its store of `Alive`. -/
def NoneOpening (s : SessionLifecycle C S) (o : Option ℕ) : Prop :=
  ∀ k ∈ o, ∀ i, (s.client i).opening k = false

end SessionLifecycle

/-- The host hands out a live session, no session is broken while a client opens it, and
`Stop` finds the header that `Start` has mapped. -/
def OpensLive {C S : Type} (s : SessionLifecycle C S) : LifecycleAction C S → Prop
  | .openSession _ => ∀ k ∈ s.host, (s.session k).state = .alive
  | .markBroken j => s.NoneOpening (s.server j).session
  | .stopStep j =>
    (s.server j).stop = .marking →
      (s.server j).session.isSome = true ∧ s.NoneOpening (s.server j).session
  | _ => True

section Decidable
variable {C S : Type} [Fintype C] (s : SessionLifecycle C S)

instance (o : Option ℕ) : Decidable (s.NoneOpening o) :=
  Option.decidableForallMem (p := fun k => ∀ i, (s.client i).opening k = false) o

instance : (a : LifecycleAction C S) → Decidable (OpensLive s a)
  | .openSession _ => inferInstanceAs (Decidable (∀ k ∈ s.host, (s.session k).state = .alive))
  | .markBroken j => inferInstanceAs (Decidable (s.NoneOpening (s.server j).session))
  | .stopStep j =>
    inferInstanceAs (Decidable (_ → _ ∧ s.NoneOpening (s.server j).session))
  | .client _ _ _ | .invoke _ | .close _ | .die _ | .setBootstrapHandles _ | .start _
  | .attach _ _ | .stop _ => .isTrue trivial

end Decidable

/-! ## The invariant -/

/-- `Broken` was the last store, and a stop stores it. -/
structure SharedSession.Consistent (t : SharedSession) : Prop where
  permanent : t.everBroken = true → t.state = .broken
  stopBreaks : t.stopped = true → t.everBroken = true

/-- The sessions a server refers to exist. -/
def ServerState.Below (created : ℕ) (v : ServerState) : Prop :=
  (∀ k ∈ v.handles, k < created) ∧ ∀ k ∈ v.session, k < created

namespace SessionLifecycle
variable {C S : Type} {s : SessionLifecycle C S}

structure LifeInv (s : SessionLifecycle C S) : Prop where
  sessions : ∀ k, (s.session k).Consistent
  unbroken : ∀ i k, (s.client i).opening k = true → (s.session k).everBroken = false
  publishedBefore : ∀ p ∈ s.published, p.afterStop = false
  fresh : ∀ k, s.created ≤ k → (s.session k).everBroken = false
  hostBelow : ∀ k ∈ s.host, k < s.created
  serversBelow : ∀ j, (s.server j).Below s.created

namespace LifeInv

theorem init [DecidableEq C] [DecidableEq S] : (sessionLifecycle C S).init.LifeInv := by
  constructor <;> simp [sessionLifecycle, ServerState.Below, ClientPc.opening]
  constructor <;> simp

/-- A client may go anywhere that is not the opening of a broken session. -/
theorem setClient [DecidableEq C] (H : s.LifeInv) (i : C) {pc : ClientPc}
    (hpc : ∀ k, pc.opening k = true → (s.session k).everBroken = false) :
    (s.setClient i pc).LifeInv := by
  refine { H with unbroken := ?_ }
  intro i' k hopening
  by_cases hi : i' = i
  · subst hi
    apply hpc
    simpa [SessionLifecycle.setClient] using hopening
  · apply H.unbroken i'
    simpa [SessionLifecycle.setClient, hi] using hopening

theorem setServer [DecidableEq S] (H : s.LifeInv) (j : S) {v : ServerState} (hv : v.Below s.created) :
    (s.setServer j v).LifeInv := by
  refine { H with serversBelow := ?_ }
  intro j'
  by_cases hj : j' = j
  · subst hj
    simpa [SessionLifecycle.setServer] using hv
  · simpa [SessionLifecycle.setServer, hj] using H.serversBelow j'

/-- A store that breaks nothing new. -/
theorem setSession (H : s.LifeInv) (k : ℕ) {t : SharedSession} (ht : t.Consistent)
    (hbroken : t.everBroken = (s.session k).everBroken) : (s.setSession k t).LifeInv := by
  have hsame : ∀ k', ((s.setSession k t).session k').everBroken = (s.session k').everBroken := by
    intro k'
    by_cases hk : k' = k
    · subst hk
      simpa [SessionLifecycle.setSession] using hbroken
    · simp [SessionLifecycle.setSession, hk]
  refine ⟨?_, ?_, H.publishedBefore, ?_, H.hostBelow, H.serversBelow⟩
  · intro k'
    by_cases hk : k' = k
    · subst hk
      simpa [SessionLifecycle.setSession] using ht
    · simpa [SessionLifecycle.setSession, hk] using H.sessions k'
  · intro i k' hopening
    rw [hsame]
    exact H.unbroken i k' hopening
  · intro k' hk'
    rw [hsame]
    exact H.fresh k' hk'

theorem storeBroken (H : s.LifeInv) {o : Option ℕ} (hbelow : ∀ k ∈ o, k < s.created)
    (hnone : s.NoneOpening o) : (s.storeBroken o).LifeInv := by
  cases o with
  | none => exact H
  | some k =>
    have hk := hbelow k rfl
    refine ⟨?_, ?_, H.publishedBefore, ?_, H.hostBelow, H.serversBelow⟩
    · intro k'
      by_cases hkk : k' = k
      · subst hkk
        constructor <;> simp [SessionLifecycle.storeBroken, SessionLifecycle.setSession]
      · simpa [SessionLifecycle.storeBroken, SessionLifecycle.setSession, hkk]
          using H.sessions k'
    · intro i k' hopening
      have hkk : k' ≠ k := by
        rintro rfl
        have hquiet := hnone k' rfl i
        simp_all [SessionLifecycle.storeBroken, SessionLifecycle.setSession]
      simpa [SessionLifecycle.storeBroken, SessionLifecycle.setSession, hkk]
        using H.unbroken i k' hopening
    · intro k' hk'
      have hkk : k' ≠ k := by
        rintro rfl
        exact absurd hk (not_lt.mpr hk')
      simpa [SessionLifecycle.storeBroken, SessionLifecycle.setSession, hkk]
        using H.fresh k' hk'

/-- The host creates a session that nobody has broken. -/
theorem openSession [DecidableEq C] (H : s.LifeInv) (i : C)
    (hlive : ∀ k ∈ s.host, (s.session k).state = .alive) :
    (s.openSession i).LifeInv := by
  rw [SessionLifecycle.openSession]
  cases hhost : s.host with
  | some k =>
    apply H.setClient
    intro k' hk'
    obtain rfl : k = k' := by simpa [ClientPc.opening] using hk'
    have halive := hlive k hhost
    by_contra hbroken
    simp [(H.sessions k).permanent (by simpa using hbroken)] at halive
  | none =>
    apply setClient
    · refine ⟨H.sessions, H.unbroken, H.publishedBefore, ?_, ?_, ?_⟩
      · intro k hk
        apply H.fresh
        exact (Nat.le_succ _).trans hk
      · intro k hk
        obtain rfl : s.created = k := by simpa using hk
        exact Nat.lt_succ_self _
      · intro j
        obtain ⟨hhandles, hsession⟩ := H.serversBelow j
        constructor
        · intro k hk
          exact (hhandles k hk).trans (Nat.lt_succ_self _)
        · intro k hk
          exact (hsession k hk).trans (Nat.lt_succ_self _)
    · intro k hk
      obtain rfl : s.created = k := by simpa [ClientPc.opening] using hk
      exact H.fresh _ le_rfl

variable {s' : SessionLifecycle C S}

/-- One step of a client. `Alive` is stored on a session that is not broken, and a
request is published on one that is not. -/
theorem clientStep [DecidableEq C] (H : s.LifeInv) {i : C} {ok peerAlive : Bool}
    (hs : s.clientStep i ok peerAlive = some s') : s'.LifeInv := by
  rw [SessionLifecycle.clientStep] at hs
  cases hpc : s.client i with
  | idle | live k | dead => simp [hpc] at hs
  | handed k =>
    have hunbroken : (s.session k).everBroken = false :=
      H.unbroken i k (by simp [hpc, ClientPc.opening])
    simp only [hpc] at hs
    split at hs
    · cases hs
      exact H.setClient i (by simp [ClientPc.opening])
    · cases hs
      have hattached := H.setSession k (t := { s.session k with clientAttached := true })
        ⟨(H.sessions k).permanent, (H.sessions k).stopBreaks⟩ rfl
      apply hattached.setClient
      intro k' hk'
      obtain rfl : k = k' := by simpa [ClientPc.opening] using hk'
      simpa [SessionLifecycle.setSession] using hunbroken
  | attached k =>
    have hunbroken : (s.session k).everBroken = false :=
      H.unbroken i k (by simp [hpc, ClientPc.opening])
    simp only [hpc, Option.some.injEq] at hs
    subst hs
    have halive := H.setSession k (t := { s.session k with state := .alive })
      ⟨by simp [hunbroken], (H.sessions k).stopBreaks⟩ rfl
    exact halive.setClient i (by simp [ClientPc.opening])
  | publishing k =>
    simp only [hpc, Option.some.injEq] at hs
    subst hs
    exact H.setClient i (by simp [ClientPc.opening])
  | checking k =>
    simp only [hpc] at hs
    split at hs <;> cases hs <;> exact H.setClient i (by simp [ClientPc.opening])
  | pushing k =>
    simp only [hpc, Option.some.injEq] at hs
    subst hs
    apply H.setClient
    cases ok <;> simp [ClientPc.opening]
  | rechecking k =>
    simp only [hpc] at hs
    split at hs
    · rename_i halive
      cases hs
      have hrunning : (s.session k).stopped = false := by
        by_contra hstopped
        have hbroken := (H.sessions k).stopBreaks (by simpa using hstopped)
        simp [(H.sessions k).permanent hbroken] at halive
      have hpublished : LifeInv
          { s with published := ⟨k, (s.session k).stopped⟩ :: s.published } := by
        refine { H with publishedBefore := ?_ }
        intro p hp
        rcases List.mem_cons.mp hp with rfl | hp
        · exact hrunning
        · exact H.publishedBefore p hp
      exact hpublished.setClient i (by simp [ClientPc.opening])
    · cases hs
      exact H.setClient i (by simp [ClientPc.opening])
  | closing =>
    simp only [hpc, Option.some.injEq] at hs
    subst hs
    have hclosed : LifeInv { s with host := none } :=
      { H with hostBelow := by simp }
    exact hclosed.setClient i (by simp [ClientPc.opening])

theorem close [DecidableEq C] (H : s.LifeInv) {i : C} (hs : s.close i = some s') : s'.LifeInv := by
  rw [SessionLifecycle.close] at hs
  split at hs
  · cases hs
    exact H.setClient i (by simp [ClientPc.opening])
  · rename_i k hpc
    cases hs
    have hreleased := H.setSession k (t := { s.session k with clientAttached := false })
      ⟨(H.sessions k).permanent, (H.sessions k).stopBreaks⟩ rfl
    exact hreleased.setClient i (by simp [ClientPc.opening])
  · cases hs

theorem attach [DecidableEq S] (H : s.LifeInv) {j : S} {ok : Bool}
    (hs : s.attach j ok = some s') : s'.LifeInv := by
  have hfailed : (s.setServer j
      { s.server j with handles := none, starting := false, running := false,
                        session := none }).LifeInv :=
    H.setServer j ⟨by simp, by simp⟩
  unfold SessionLifecycle.attach at hs
  rw [Option.ite_none_right_eq_some] at hs
  obtain ⟨-, hs⟩ := hs
  cases hhandles : (s.server j).handles with
  | none =>
    simp only [hhandles, Option.some.injEq] at hs
    exact hs ▸ hfailed
  | some k =>
    cases ok with
    | false =>
      simp only [hhandles, Option.some.injEq] at hs
      exact hs ▸ hfailed
    | true =>
      simp only [hhandles, Option.some.injEq] at hs
      subst hs
      apply H.setServer
      refine ⟨by simp, ?_⟩
      intro k' hk'
      obtain rfl : k = k' := by simpa using hk'
      exact (H.serversBelow j).1 k hhandles

/-- `Stop` records its session as stopped after it has broken it. -/
theorem stopStep [DecidableEq S] (H : s.LifeInv) {j : S}
    (hok : OpensLive s (.stopStep j)) (hs : s.stopStep j = some s') : s'.LifeInv := by
  rw [SessionLifecycle.stopStep] at hs
  have hbelow := H.serversBelow j
  split at hs
  · cases hs
  · rename_i hstop
    cases hs
    obtain ⟨hmapped, hnone⟩ := hok hstop
    obtain ⟨k, hk⟩ := Option.isSome_iff_exists.mp hmapped
    have hbroken := H.storeBroken hbelow.2 hnone
    simp only [hk] at hbroken
    have hstopped := hbroken.setSession k
      (t := { (s.storeBroken (some k)).session k with stopped := true })
      ⟨(hbroken.sessions k).permanent, by
        simp [SessionLifecycle.storeBroken, SessionLifecycle.setSession]⟩ rfl
    have hserves : s.serves j = some k := by simp [serves, hk]
    rw [hk, hserves]
    exact hstopped.setServer j hbelow
  · cases hs
    exact H.setServer j ⟨hbelow.1, by simp⟩

theorem step [DecidableEq C] [DecidableEq S] (H : s.LifeInv) {a : LifecycleAction C S}
    (hok : OpensLive s a) (hs : (sessionLifecycle C S).step s a = some s') : s'.LifeInv := by
  cases a with
  | openSession i =>
    simp only [sessionLifecycle, Option.ite_none_right_eq_some, Option.some.injEq] at hs
    exact hs.2 ▸ H.openSession i hok
  | client i ok peerAlive => exact H.clientStep hs
  | invoke i =>
    simp only [sessionLifecycle] at hs
    split at hs
    · cases hs
      exact H.setClient i (by simp [ClientPc.opening])
    · cases hs
  | close i => exact H.close hs
  | die i =>
    simp only [sessionLifecycle, Option.some.injEq] at hs
    exact hs ▸ H.setClient i (by simp [ClientPc.opening])
  | setBootstrapHandles j =>
    simp only [sessionLifecycle, Option.some.injEq] at hs
    exact hs ▸ H.setServer j ⟨H.hostBelow, (H.serversBelow j).2⟩
  | start j =>
    simp only [sessionLifecycle, Option.ite_none_left_eq_some, Option.some.injEq] at hs
    exact hs.2 ▸ H.setServer j (H.serversBelow j)
  | attach j ok => exact H.attach hs
  | markBroken j =>
    simp only [sessionLifecycle, Option.some.injEq] at hs
    exact hs ▸ H.storeBroken (H.serversBelow j).2 hok
  | stop j =>
    simp only [sessionLifecycle, Option.ite_none_right_eq_some, Option.some.injEq] at hs
    exact hs.2 ▸ H.setServer j (H.serversBelow j)
  | stopStep j => exact H.stopStep hok hs

end LifeInv
end SessionLifecycle

/-- In every run in which sessions are handed out live and not broken while a client
opens them, `Broken` is permanent and nobody publishes after a stop. -/
theorem brokenForGood_of_opensLive (C S : Type) [DecidableEq C] [DecidableEq S]
    {s : SessionLifecycle C S} (h : (sessionLifecycle C S).Reach OpensLive s) :
    s.BrokenForGood := by
  have H : s.LifeInv := by
    refine Machine.Reach.invariant SessionLifecycle.LifeInv.init ?_ h
    intro s a s' H hok hs
    exact H.step hok hs
  constructor
  · intro k
    exact (H.sessions k).permanent
  · exact H.publishedBefore

/-! ## The revived session -/

/-- One client and one server. -/
def lifecyclePair : Machine (SessionLifecycle (Fin 1) (Fin 1)) (LifecycleAction (Fin 1) (Fin 1)) :=
  sessionLifecycle (Fin 1) (Fin 1)

/-- The client fetches its handles and the server starts on the same session. -/
def handedAndStarted : List (LifecycleAction (Fin 1) (Fin 1)) :=
  [.openSession 0, .setBootstrapHandles 0, .start 0, .attach 0 true]

/-- `Attach`, the store of `Alive` and the session id. -/
def attachClient : List (LifecycleAction (Fin 1) (Fin 1)) :=
  List.replicate 3 (.client 0 true false)

/-- One `PushRequest`. -/
def pushOnce : List (LifecycleAction (Fin 1) (Fin 1)) :=
  .invoke 0 :: List.replicate 3 (.client 0 true false)

/-- `Stop` to its end. -/
def stopServer : List (LifecycleAction (Fin 1) (Fin 1)) := [.stop 0, .stopStep 0, .stopStep 0]

theorem not_brokenForGood_revived :
    ∃ s, lifecyclePair.run lifecyclePair.init
        (handedAndStarted ++ stopServer ++ attachClient ++ pushOnce) = some s ∧
      ((s.session 0).everBroken = true ∧ (s.session 0).state = .alive) ∧
      s.published = [⟨0, true⟩] ∧ ¬ s.BrokenForGood := by
  have hrun : (lifecyclePair.run lifecyclePair.init
      (handedAndStarted ++ stopServer ++ attachClient ++ pushOnce)).any
      (fun s => ((s.session 0).everBroken = true ∧ (s.session 0).state = .alive) ∧
        s.published = [⟨0, true⟩]) = true := by decide +kernel
  obtain ⟨s, hs, hrevived⟩ := Machine.exists_of_any hrun
  refine ⟨s, hs, hrevived.1, hrevived.2, ?_⟩
  intro h
  have hbroken := h.permanent 0 hrevived.1.1
  simp [hrevived.1.2] at hbroken

theorem brokenForGood_stopped :
    ∃ s, lifecyclePair.runOk OpensLive lifecyclePair.init
        (handedAndStarted ++ attachClient ++ pushOnce ++ stopServer ++ pushOnce.take 2) = some s ∧
      (s.session 0).everBroken = true ∧ s.published = [⟨0, false⟩] ∧ s.BrokenForGood := by
  have hrun : (lifecyclePair.runOk OpensLive lifecyclePair.init
      (handedAndStarted ++ attachClient ++ pushOnce ++ stopServer ++ pushOnce.take 2)).any
      (fun s => (s.session 0).everBroken = true ∧ s.published = [⟨0, false⟩]) = true := by
    decide +kernel
  obtain ⟨s, hs, hstopped⟩ := Machine.exists_of_any hrun
  exact ⟨s, hs, hstopped.1, hstopped.2,
    brokenForGood_of_opensLive _ _ (Machine.reach_of_runOk _ hs)⟩

end MemRpc
