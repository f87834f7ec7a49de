import MemRpc.Rpc.ClientStore

/-!
# What `Shutdown` waits for

`Shutdown` closes the session, stops the worker threads and joins them before it fails the
requests that are left. A worker that has returned from its loop has nothing to do any
more, and `Shutdown` goes through its points in order (`ShutdownInv`).

## Main results

* `ShutdownInv.of_reach`.
* `ShutdownInv.idle_of_joined`: where `Shutdown` fails the requests that are left, the
  workers are idle.
-/

namespace MemRpc

open Concurrency RpcClient

variable {mode : ClientInitMode} {t : ClientThread} {answer : ClientAnswer}
  {s s' : RpcClient} {r r' : ClientRuntime} {a : ClientAction} {next rest : List ClientOp}

/-- The threads that `Shutdown` joins. -/
def workers : List ClientThread := [.submit, .response, .watchdog]

/-- The head of a worker's loop. -/
def ClientOp.isLoop : ClientOp → Bool
  | .submit .run | .response .run | .watchdog .run => true
  | _ => false

def ClientOp.shutdown? : ClientOp → Option ShutdownOp
  | .shutdown o => some o
  | _ => none

/-! ## What an operation does not leave behind -/

/-- The operation neither starts a loop nor is a point of `Shutdown`. -/
def ClientOp.Inner (op : ClientOp) : Prop := op.isLoop = false ∧ op.shutdown? = none

variable {op : ClientOp}

theorem ClientOp.inner_of_job {job : SubmitJob} (h : op.job? = some job) :
    op.Inner := by
  cases op with
  | submit o =>
    cases o with
    | run => cases h
    | _ => exact ⟨rfl, rfl⟩
  | wait o => exact ⟨rfl, rfl⟩
  | _ => cases h

theorem inner_failAndResolve (info : PendingInfo) (status : StatusCode) (cause : Option ℕ)
    (call : ℕ) : (failAndResolve info status cause call).Forall ClientOp.Inner :=
  ⟨⟨rfl, rfl⟩, ⟨rfl, rfl⟩, ⟨rfl, rfl⟩, ⟨rfl, rfl⟩⟩

theorem ClientOp.inner_locked (h : next.Forall ClientOp.isLocked) : next.Forall ClientOp.Inner := by
  refine h.imp fun op hop => ?_
  cases op with
  | recovery o | resolve call reply => exact ⟨rfl, rfl⟩
  | _ => cases hop

theorem SubmitMove.inner {o : SubmitOp} (hm : SubmitMove s answer o s' next) (ho : o ≠ .run) :
    next.Forall ClientOp.Inner := by
  cases hm with
  | dequeue hqueue => exact absurd rfl ho
  | exit hqueue | published => trivial
  | pass credit hjob hpush hdetour hop hpush' =>
    have hinner := ClientOp.inner_of_job hop
    cases hdetour with
    | none => exact hinner
    | ensureLive | closeLive cause => exact ⟨⟨rfl, rfl⟩, ⟨rfl, rfl⟩, ⟨rfl, rfl⟩, hinner⟩
  | fail => exact inner_failAndResolve ..
  | _ => exact ⟨rfl, rfl⟩

theorem WaitOp.inner {o : WaitOp} (h : o.exec s answer = some (s', next)) :
    next.Forall ClientOp.Inner := by
  rcases WaitOp.exec_next h with ⟨o', rfl, -⟩ | ⟨status, rfl⟩
  · exact ⟨rfl, rfl⟩
  · cases o.waiter with
    | submit job info =>
      rcases Waiter.resume_submit job info status with h | h <;> rw [h] <;> exact ⟨rfl, rfl⟩
    | retry call st =>
      rcases Waiter.resume_retry call st status with h | h <;> rw [h]
      · exact ⟨rfl, rfl⟩
      · trivial

theorem ReceiveMove.inner {o : ResponseOp} (hm : ReceiveMove s o s' next) (ho : o ≠ .run) :
    next.Forall ClientOp.Inner := by
  cases hm with
  | run => exact absurd rfl ho
  | exit => trivial
  | @pass o l poll hrun hl =>
    refine List.forall_iff_forall_mem.mpr fun op hop => ?_
    obtain ⟨o', ho', rfl⟩ := List.mem_map.mp hop
    cases o' with
    | run => exact absurd ho' hl
    | _ => exact ⟨rfl, rfl⟩
  | badEntry | pollFailed => exact ⟨⟨rfl, rfl⟩, ⟨rfl, rfl⟩, ⟨rfl, rfl⟩⟩
  | take => exact ⟨rfl, rfl⟩
  | takeFailed => exact ⟨⟨rfl, rfl⟩, ⟨rfl, rfl⟩, ⟨rfl, rfl⟩, ⟨rfl, rfl⟩⟩

theorem WatchdogMove.inner {o : WatchdogOp} (hm : WatchdogMove s o s' next) (ho : o ≠ .run) :
    next.Forall ClientOp.Inner := by
  cases hm with
  | run => exact absurd rfl ho
  | exit => trivial
  | @pass o l hrun hl =>
    refine List.forall_iff_forall_mem.mpr fun op hop => ?_
    obtain ⟨o', ho', rfl⟩ := List.mem_map.mp hop
    cases o' with
    | run => exact absurd ho' hl
    | _ => exact ⟨rfl, rfl⟩
  | takeExpired => exact forall_flatMap fun p => inner_failAndResolve ..
  | unhealthy | idle => exact ⟨⟨rfl, rfl⟩, ⟨rfl, rfl⟩, ⟨rfl, rfl⟩⟩

theorem CallMove.inner {o : CallerOp} (hm : CallMove t s o s' next) :
    next.Forall ClientOp.Inner := by
  cases hm with
  | skip => trivial
  | enqueue | reject =>
    cases t with
    | retrier k => exact ⟨rfl, rfl⟩
    | _ => trivial
  | external | engineDied => exact ⟨⟨rfl, rfl⟩, ⟨rfl, rfl⟩, ⟨rfl, rfl⟩⟩
  | accept | refuse | ready | wait => exact ⟨rfl, rfl⟩

theorem ShutdownMove.inner {o : ShutdownOp} (hm : ShutdownMove s o s' next) :
    next.Forall ClientOp.Inner := by
  cases hm with
  | failAllPending => exact forall_flatMap fun p => inner_failAndResolve ..
  | failQueued hfree => exact forall_map fun job => ⟨rfl, rfl⟩
  | _ => trivial

/-- Only the head of a loop starts its loop again, and nothing but the call of `Shutdown`
starts `Shutdown`. -/
theorem ClientOp.inner_exec (h : op.exec t answer s = some (s', next))
    (hloop : op.isLoop = false) : next.Forall ClientOp.Inner := by
  cases op with
  | lock =>
    simp only [ClientOp.exec] at h
    split at h <;> cases h
    trivial
  | unlock | resolve call reply =>
    cases h
    trivial
  | recovery o => exact inner_locked (RecoveryMove.of_exec h).locked
  | submit o =>
    refine (SubmitMove.of_exec h).inner ?_
    rintro rfl
    cases hloop
  | wait o => exact WaitOp.inner h
  | response o =>
    refine (ReceiveMove.of_exec h).inner ?_
    rintro rfl
    cases hloop
  | watchdog o =>
    refine (WatchdogMove.of_exec h).inner ?_
    rintro rfl
    cases hloop
  | caller o => exact (CallMove.of_exec h).inner
  | shutdown o => exact (ShutdownMove.of_exec h).inner

/-! ## Loops -/

/-- A round of a loop: the worker returns, or executes something before the next round. -/
theorem ClientOp.loop_exec (hop : op.OnThread t) (hloop : op.isLoop = true)
    (h : op.exec t answer s = some (s', next)) :
    next = [] ∧ t ∈ workers ∧ s'.exited = t :: s.exited ∨
      ∃ first, next = [first, op] ∧ first.Inner ∧ s'.exited = s.exited := by
  cases op with
  | submit o =>
    obtain rfl : t = .submit := hop
    cases SubmitMove.of_exec h with
    | dequeue hqueue => exact .inr ⟨_, rfl, ⟨rfl, rfl⟩, rfl⟩
    | exit hqueue => exact .inl ⟨rfl, by decide, rfl⟩
    | pass credit hjob =>
      have hinner : (ClientOp.submit o).Inner := ClientOp.inner_of_job hjob
      rw [hinner.1] at hloop
      cases hloop
    | _ => cases hloop
  | response o =>
    obtain rfl : t = .response := hop
    cases ReceiveMove.of_exec h with
    | run => exact .inr ⟨_, rfl, ⟨rfl, rfl⟩, rfl⟩
    | exit => exact .inl ⟨rfl, by decide, rfl⟩
    | pass poll ho => cases o <;> first | exact absurd rfl ho | cases hloop
    | _ => cases hloop
  | watchdog o =>
    obtain rfl : t = .watchdog := hop
    cases WatchdogMove.of_exec h with
    | @run o ho =>
      refine .inr ⟨_, rfl, ?_, rfl⟩
      cases o with
      | run => exact absurd rfl ho
      | _ => exact ⟨rfl, rfl⟩
    | exit => exact .inl ⟨rfl, by decide, rfl⟩
    | pass ho => cases o <;> first | exact absurd rfl ho | cases hloop
    | _ => cases hloop
  | _ => cases hloop

theorem ClientOp.exited_exec (hloop : op.isLoop = false)
    (h : op.exec t answer s = some (s', next)) : s'.exited = s.exited := by
  cases op with
  | submit o =>
    cases SubmitMove.of_exec h with
    | exit hqueue => cases hloop
    | _ => rfl
  | response o =>
    cases ReceiveMove.of_exec h with
    | exit => cases hloop
    | _ => rfl
  | watchdog o =>
    cases WatchdogMove.of_exec h with
    | exit => cases hloop
    | _ => rfl
  | _ => exact (framed h).exited nofun nofun nofun

theorem ShutdownMove.exited_of_join {u : ClientThread} (hm : ShutdownMove s (.join u) s' next) :
    u ∈ s.exited := by
  cases hm with
  | join hexited => exact hexited

/-! ## The invariant -/

/-- Loops, joins and the points of `Shutdown`. -/
structure ShutdownInv (r : ClientRuntime) : Prop where
  loops : ∀ t, (r.ops t).dropLast.Forall fun op => op.isLoop = false
  exited : ∀ t ∈ r.shared.exited, t ∈ workers ∧ r.ops t = []
  unstarted : r.shared.control = .opened → r.ops .shutdown = []
  points : ∃ pre points, r.ops .shutdown = pre ++ points.map .shutdown ∧
    (pre.Forall fun op => op.shutdown? = none) ∧ points <:+ shutdownOps
  joined : r.shared.control ≠ .opened → ∀ t ∈ workers,
    ClientOp.shutdown (.join t) ∉ r.ops .shutdown → t ∈ r.shared.exited

/-- A loop ends as the last thing its thread does. -/
theorem ShutdownInv.rest_of_loop (h : ShutdownInv r) (hops : r.ops t = op :: rest)
    (hloop : op.isLoop = true) : rest = [] := by
  cases rest with
  | nil => rfl
  | cons op' rest =>
    have hloops := h.loops t
    rw [hops, List.dropLast_cons_cons] at hloops
    have hop := ((List.forall_cons _ _ _).mp hloops).1
    rw [hloop] at hop
    cases hop

theorem ShutdownInv.exited_step (h : ShutdownInv r) (hop : op.OnThread t)
    (hops : r.ops t = op :: rest) (hexec : op.exec t answer r.shared = some (s', next)) :
    s'.exited = r.shared.exited ∨
      next ++ rest = [] ∧ t ∈ workers ∧ s'.exited = t :: r.shared.exited := by
  by_cases hloop : op.isLoop = true
  · obtain rfl := h.rest_of_loop hops hloop
    rcases ClientOp.loop_exec hop hloop hexec with ⟨rfl, ht, hexit⟩ | ⟨first, -, -, hsame⟩
    · exact .inr ⟨rfl, ht, hexit⟩
    · exact .inl hsame
  · exact .inl (ClientOp.exited_exec (Bool.not_eq_true _ ▸ hloop) hexec)

theorem ShutdownInv.loops_step (h : ShutdownInv r) (hop : op.OnThread t)
    (hops : r.ops t = op :: rest) (hexec : op.exec t answer r.shared = some (s', next)) :
    (next ++ rest).dropLast.Forall fun op => op.isLoop = false := by
  by_cases hloop : op.isLoop = true
  · obtain rfl := h.rest_of_loop hops hloop
    rcases ClientOp.loop_exec hop hloop hexec with ⟨rfl, -, -⟩ | ⟨first, rfl, hfirst, -⟩
    · trivial
    · exact hfirst.1
  · have hnext := ClientOp.inner_exec hexec (Bool.not_eq_true _ ▸ hloop)
    have hnext' : next.Forall fun op => op.isLoop = false := hnext.imp fun _ hop => hop.1
    cases rest with
    | nil =>
      rw [List.append_nil]
      refine List.forall_iff_forall_mem.mpr fun op hmem => ?_
      exact List.forall_iff_forall_mem.mp hnext' op (List.dropLast_subset _ hmem)
    | cons op' rest =>
      have hloops := h.loops t
      rw [hops, List.dropLast_cons_cons] at hloops
      rw [List.dropLast_append_of_ne_nil (by simp)]
      exact List.forall_append.mpr ⟨hnext', ((List.forall_cons _ _ _).mp hloops).2⟩

/-- `Shutdown` goes from point to point. -/
theorem ShutdownInv.points_step (h : ShutdownInv r) (hop : op.OnThread .shutdown)
    (hops : r.ops .shutdown = op :: rest)
    (hexec : op.exec .shutdown answer r.shared = some (s', next)) :
    ∃ pre points, next ++ rest = pre ++ points.map ClientOp.shutdown ∧
      (pre.Forall fun op => op.shutdown? = none) ∧ points <:+ shutdownOps := by
  have hloop : op.isLoop = false := by
    match op, hop with
    | .submit _, hop | .response _, hop | .watchdog _, hop => cases hop
    | .lock, _ | .unlock, _ | .resolve _ _, _ | .recovery _, _ | .wait _, _ | .caller _, _
    | .shutdown _, _ => rfl
  have hnext : next.Forall fun op => op.shutdown? = none :=
    (ClientOp.inner_exec hexec hloop).imp fun _ hop => hop.2
  obtain ⟨pre, points, heq, hpre, hsuffix⟩ := h.points
  rw [hops] at heq
  cases pre with
  | nil =>
    cases points with
    | nil => cases heq
    | cons o points =>
      cases heq
      exact ⟨next, points, rfl, hnext, (List.suffix_cons o points).trans hsuffix⟩
  | cons op' pre =>
    cases heq
    refine ⟨next ++ pre, points, (List.append_assoc ..).symm, ?_, hsuffix⟩
    exact List.forall_append.mpr ⟨hnext, ((List.forall_cons _ _ _).mp hpre).2⟩

theorem ShutdownInv.exec (h : ShutdownInv r) (hop : op.OnThread t)
    (hops : r.ops t = op :: rest) (hexec : op.exec t answer r.shared = some (r'.shared, next))
    (hops' : r'.ops = Function.update r.ops t (next ++ rest)) : ShutdownInv r' := by
  have hself : r'.ops t = next ++ rest := by rw [hops', Function.update_self]
  have hne : ∀ u, u ≠ t → r'.ops u = r.ops u := fun u hu => by
    rw [hops', Function.update_of_ne hu]
  have hexited := h.exited_step hop hops hexec
  -- the control state leaves `Open` by the call of `Shutdown` only
  have hcontrol : r'.shared.control ≠ .opened → r.shared.control ≠ .opened := by
    rcases ClientOp.control hexec with hc | ⟨-, rfl⟩
    · rw [hc]
      exact id
    · intro _ hopen
      obtain rfl : t = .shutdown := hop
      rw [h.unstarted hopen] at hops
      cases hops
  refine ⟨fun u => ?_, fun u hu => ?_, fun hopen => ?_, ?_, fun hclosed u hu hjoin => ?_⟩
  · by_cases hut : u = t
    · subst hut
      rw [hself]
      exact h.loops_step hop hops hexec
    · rw [hne u hut]
      exact h.loops u
  · rcases hexited with heq | ⟨hnil, ht, heq⟩
    · rw [heq] at hu
      obtain ⟨hworker, hidle⟩ := h.exited u hu
      refine ⟨hworker, (hne u ?_).trans hidle⟩
      rintro rfl
      rw [hidle] at hops
      cases hops
    · rw [heq] at hu
      by_cases hut : u = t
      · subst hut
        exact ⟨ht, hself.trans hnil⟩
      · obtain ⟨hworker, hidle⟩ := h.exited u ((List.mem_cons.mp hu).resolve_left hut)
        exact ⟨hworker, (hne u hut).trans hidle⟩
  · have hopen' : r.shared.control = .opened := by
      rcases ClientOp.control hexec with hc | ⟨hc, -⟩
      · exact hc.symm.trans hopen
      · rw [hc] at hopen
        cases hopen
    have hidle := h.unstarted hopen'
    refine (hne _ ?_).trans hidle
    rintro rfl
    rw [hidle] at hops
    cases hops
  · by_cases ht : ClientThread.shutdown = t
    · subst ht
      rw [hself]
      exact h.points_step hop hops hexec
    · rw [hne _ ht]
      exact h.points
  · have hsub : r.shared.exited ⊆ r'.shared.exited := by
      rcases hexited with heq | ⟨-, -, heq⟩ <;> rw [heq]
      · exact List.Subset.refl _
      · exact List.subset_cons_self _ _
    refine hsub ?_
    by_cases ht : ClientThread.shutdown = t
    · subst ht
      rw [hself] at hjoin
      by_cases hjoined : op = .shutdown (.join u)
      · subst hjoined
        exact ShutdownMove.exited_of_join (.of_exec hexec)
      · refine h.joined (hcontrol hclosed) u hu ?_
        rw [hops]
        exact fun hmem => (List.mem_cons.mp hmem).elim (fun heq => hjoined heq.symm)
          fun hrest => hjoin (List.mem_append_right _ hrest)
    · rw [hne _ ht] at hjoin
      exact h.joined (hcontrol hclosed) u hu hjoin

/-- A public call starts on a thread of its own. -/
theorem ShutdownInv.start {program : List ClientOp} (h : ShutdownInv r) (ht : t.isCaller = true)
    (hops' : r'.ops = Function.update r.ops t program) (hshared : r'.shared = r.shared)
    (hprogram : program.dropLast.Forall fun op => op.isLoop = false) : ShutdownInv r' := by
  have hworkers : ∀ u ∈ workers, u ≠ t := by
    rintro u hu rfl
    cases u with
    | external n | retrier n => simp [workers] at hu
    | _ => cases ht
  have hshutdown : ClientThread.shutdown ≠ t := by
    rintro rfl
    cases ht
  have hsame : r'.ops .shutdown = r.ops .shutdown := by rw [hops', Function.update_of_ne hshutdown]
  refine ⟨fun u => ?_, fun u hu => ?_, fun hopen => ?_, ?_, fun hclosed u hu hjoin => ?_⟩
  · by_cases hut : u = t
    · subst hut
      rw [hops', Function.update_self]
      exact hprogram
    · rw [hops', Function.update_of_ne hut]
      exact h.loops u
  · rw [hshared] at hu
    obtain ⟨hworker, hidle⟩ := h.exited u hu
    rw [hops', Function.update_of_ne (hworkers u hworker)]
    exact ⟨hworker, hidle⟩
  · rw [hshared] at hopen
    exact hsame.trans (h.unstarted hopen)
  · rw [hsame]
    exact h.points
  · rw [hshared] at hclosed ⊢
    rw [hsame] at hjoin
    exact h.joined hclosed u hu hjoin

theorem ShutdownInv.step (h : ShutdownInv r)
    (hthread : ∀ t, (r.ops t).Forall (ClientOp.OnThread t))
    (hs : (rpcClient mode).step r a = some r') : ShutdownInv r' := by
  cases ClientMove.of_step hs with
  | @exec t answer op rest next hops hexec hops' =>
    have hop : op.OnThread t := ((List.forall_cons _ _ _).mp (hops ▸ hthread t)).1
    exact h.exec hop hops hexec hops'
  | @call n entry hidle hshared hops' =>
    refine h.start rfl hops' hshared ?_
    cases entry with
    | init => exact ⟨rfl, rfl⟩
    | _ => trivial
  | @retry k hnew hidle hshared hops' => exact h.start rfl hops' hshared trivial
  | shutdown hcontrol hidle hshared hops' =>
    have hself : r'.ops .shutdown = shutdownProgram := by rw [hops', Function.update_self]
    refine ⟨fun u => ?_, fun u hu => ?_, fun hopen => ?_, ?_, fun _ u hu hjoin => ?_⟩
    · by_cases hut : u = .shutdown
      · subst hut
        rw [hself]
        repeat' constructor
      · rw [hops', Function.update_of_ne hut]
        exact h.loops u
    · rw [hshared] at hu
      obtain ⟨hworker, hidle'⟩ := h.exited u hu
      have hut : u ≠ .shutdown := by
        rintro rfl
        simp [workers] at hworker
      rw [hops', Function.update_of_ne hut]
      exact ⟨hworker, hidle'⟩
    · rw [hshared] at hopen
      cases hopen
    · exact ⟨_, _, hself, ⟨rfl, rfl, rfl, rfl⟩, List.suffix_refl _⟩
    · have hall : ∀ u ∈ workers, ClientOp.shutdown (.join u) ∈ shutdownProgram := by decide
      rw [hself] at hjoin
      exact absurd (hall u hu) hjoin
  | tick hshared hops' =>
    refine ⟨hops' ▸ h.loops, fun u hu => ?_, fun hopen => ?_, hops' ▸ h.points,
      fun hclosed u hu hjoin => ?_⟩
    · rw [hshared] at hu
      exact hops' ▸ h.exited u hu
    · rw [hshared] at hopen
      exact hops' ▸ h.unstarted hopen
    · rw [hshared] at hclosed ⊢
      exact h.joined hclosed u hu (hops' ▸ hjoin)

theorem ShutdownInv.of_reach {ok : ClientRuntime → ClientAction → Prop}
    (h : (rpcClient mode).Reach ok r) : ShutdownInv r := by
  refine Machine.Reach.invariant_of_reach ?_ ?_ h
  · refine ⟨fun t => by cases t <;> trivial, fun t ht => ?_, fun _ => rfl, ?_, fun hclosed => ?_⟩
    · cases mode <;> cases ht
    · exact ⟨[], [], rfl, trivial, List.nil_suffix⟩
    · cases mode <;> exact absurd rfl hclosed
  · exact fun r a r' hreach hinv _ hs => hinv.step (onThread_of_reach hreach) hs

/-- From one of its points on, `Shutdown` has the remaining points to go through. -/
theorem ShutdownInv.points_of_head {o : ShutdownOp} (h : ShutdownInv r)
    (hops : r.ops .shutdown = .shutdown o :: rest) :
    ∃ points, o :: points <:+ shutdownOps ∧ rest = points.map .shutdown := by
  obtain ⟨pre, points, heq, hpre, hsuffix⟩ := h.points
  rw [hops] at heq
  cases pre with
  | nil =>
    cases points with
    | nil => cases heq
    | cons o' points =>
      cases heq
      exact ⟨points, hsuffix, rfl⟩
  | cons op pre =>
    cases heq
    cases ((List.forall_cons _ _ _).mp hpre).1

/-- Where `Shutdown` fails what is left, the workers have returned. -/
theorem ShutdownInv.idle_of_failing {o : ShutdownOp} (h : ShutdownInv r)
    (hops : r.ops .shutdown = .shutdown o :: rest) (ho : o ∈ shutdownOps.drop 6)
    (ht : t ∈ workers) : r.ops t = [] := by
  obtain ⟨points, hsuffix, rfl⟩ := h.points_of_head hops
  have hlate : ∀ l ∈ shutdownOps.tails, ∀ o ∈ l.head?, o ∈ shutdownOps.drop 6 →
      ∀ t ∈ workers, ShutdownOp.join t ∉ l := by decide
  have hclosed : r.shared.control ≠ .opened := by
    intro hopen
    rw [h.unstarted hopen] at hops
    cases hops
  refine (h.exited t (h.joined hclosed t ht ?_)).2
  rw [hops, ← List.map_cons]
  intro hmem
  obtain ⟨o', ho', heq⟩ := List.mem_map.mp hmem
  cases heq
  exact hlate _ ((List.mem_tails _ _).mpr hsuffix) o rfl ho t ht ho'

end MemRpc
