import MemRpc.Rpc.ClientFutures

/-!
# Retrying a call until recovery settles

`RetryUntilRecoverySettles` calls its callback again when the last attempt failed with a
status that points to a recovery and a recovery is going on. The same status is used for
requests that were never published and for published ones that a recovery takes out of the
store: an attempt of the second kind is repeated although the server may have executed it.

`AttemptsSpared` says that no pending attempt is failed with such a status, and
`retriesUnpublished_of_reach` that then every attempt but the last of a retry loop was
never published. What carries the proof is that an attempt is dead once it has failed with
such a status: it is neither published nor held by anyone who could publish it.
-/

namespace MemRpc

open Concurrency RpcClient

variable {mode : ClientInitMode} {t : ClientThread} {answer : ClientAnswer}
  {s s' : RpcClient} {r r' : ClientRuntime} {a : ClientAction} {next rest : List ClientOp}
  {n k : ℕ} {reply : RpcReply}

/-- A callback that was called again had not published its request. -/
def RetriesUnpublished (s : RpcClient) : Prop :=
  s.attempts.Pairwise fun newer older => newer.1 = older.1 → ¬ s.WasPublished older.2

instance (s : RpcClient) : Decidable (RetriesUnpublished s) :=
  inferInstanceAs (Decidable (s.attempts.Pairwise _))

/-- The call was made by the callback of a retry loop. -/
def RpcClient.IsAttempt (s : RpcClient) (call : ℕ) : Prop := call ∈ s.attempts.map Prod.snd

instance (s : RpcClient) (call : ℕ) : Decidable (s.IsAttempt call) :=
  inferInstanceAs (Decidable (call ∈ s.attempts.map Prod.snd))

/-- Neither a recovery nor a reply fails a pending attempt with a status that is retried. -/
def AttemptsSpared (s : RpcClient) (_ : ClientAnswer) : ClientOp → Prop
  | .recovery (.handlePending .failWithRecoveryPolicy) =>
    ∀ p ∈ s.requestStore, ¬ s.IsAttempt p.call
  | .recovery (.resolveAll status) =>
    status.retryable = true → ∀ p ∈ s.requestStore, ¬ s.IsAttempt p.call
  | .response (.resolveCompleted requestId reply) =>
    reply.status.retryable = true →
      ∀ p ∈ s.requestStore, p.info.requestId = requestId → ¬ s.IsAttempt p.call
  | _ => True

instance (s : RpcClient) (answer : ClientAnswer) (op : ClientOp) :
    Decidable (AttemptsSpared s answer op) := by
  cases op with
  | recovery o =>
    cases o with
    | handlePending action => cases action <;> (dsimp only [AttemptsSpared]; infer_instance)
    | _ => dsimp only [AttemptsSpared]; infer_instance
  | response o => cases o <;> (dsimp only [AttemptsSpared]; infer_instance)
  | _ => exact inferInstanceAs (Decidable True)

/-! ## Dead calls -/

/-- The call was made, its request was not published, and nobody holds it any more. -/
structure Dead (s : RpcClient) (ops : ClientThread → List ClientOp) (n : ℕ) : Prop where
  made : n < s.calls
  unpublished : ¬ s.WasPublished n
  unheld : n ∉ (heldJobs s (ops .submit)).map (·.call)

variable {op : ClientOp}

theorem Dead.exec (h : Dead r.shared r.ops n) (hop : op.OnThread t)
    (hops : r.ops t = op :: rest) (hexec : op.exec t answer r.shared = some (s', next)) :
    Dead s' (Function.update r.ops t (next ++ rest)) n := by
  refine ⟨h.made.trans_le (ClientOp.calls_le hexec), fun hpub => ?_, fun hheld => ?_⟩
  · obtain ⟨session, hpub⟩ := hpub.exists_published
    rcases ClientOp.published hexec hpub with hold | ⟨job, info, rfl, rfl, -, -⟩
    · exact h.unpublished hold.wasPublished
    · obtain rfl : t = .submit := hop
      exact h.unheld (List.mem_map_of_mem (JobInv.mem_of_head hops rfl))
  · obtain ⟨job, hjob, rfl⟩ := List.mem_map.mp hheld
    rcases mem_heldJobs_exec hop hops hexec hjob with hold | ⟨-, hnew⟩
    · exact h.unheld (List.mem_map_of_mem hold)
    · exact h.made.ne hnew

/-- A request that fails before it is published is dead. -/
theorem Dead.of_resolveFailure {job : SubmitJob} {info : PendingInfo} {status : StatusCode}
    (hinv : ClientInv r) (hops : r.ops .submit = .submit (.resolveFailure job info status) :: rest)
    (hexec : (ClientOp.submit (.resolveFailure job info status)).exec .submit answer r.shared =
      some (s', next)) : Dead s' (Function.update r.ops .submit (next ++ rest)) job.call := by
  have hheld : job ∈ heldJobs r.shared (r.ops .submit) := JobInv.mem_of_head hops rfl
  cases hexec
  refine ⟨(hinv.job.ids job hheld).1, fun hpub => ?_, ?_⟩
  · obtain ⟨session, hpub⟩ := hpub.exists_published
    exact (hinv.job.published _ session hpub).2 (List.mem_map_of_mem hheld)
  · have hjob := hinv.job
    rw [hops] at hjob
    rw [Function.update_self]
    exact hjob.not_mem_of_head rfl

/-! ## The invariant -/

/-- Every call that retry loop `k` has made is dead. -/
def AllDead (s : RpcClient) (ops : ClientThread → List ClientOp) (k : ℕ) : Prop :=
  ∀ p ∈ s.attempts, p.1 = k → Dead s ops p.2

/-- What retry loop `k` knows about its calls at each of its points. -/
def RetryPoint (s : RpcClient) (ops : ClientThread → List ClientOp) (k : ℕ) : ClientOp → Prop
  | .caller .invoke | .caller (.enqueue _) | .caller .reject => AllDead s ops k
  | .caller (.retryAwait n) => ∀ p ∈ s.attempts, p.1 = k → p.2 ≠ n → Dead s ops p.2
  | .caller (.retrySnapshot _ status) => status.retryable = true → AllDead s ops k
  | .wait o => ∃ n status, o.waiter = .retry n status ∧ AllDead s ops k
  | _ => False

/-- A failure with a status that is retried is that of a dead call, and a retry loop goes on
only when all its calls are dead. -/
structure RetryInv (s : RpcClient) (ops : ClientThread → List ClientOp) : Prop where
  carried : ∀ n reply, Carried ops n reply → reply.status.retryable = true → s.IsAttempt n →
    Dead s ops n
  ready : ∀ n reply, s.future n = some reply → reply.status.retryable = true → s.IsAttempt n →
    Dead s ops n
  older : s.attempts.Pairwise fun newer older => newer.1 = older.1 → Dead s ops older.2
  points : ∀ k, ops (.retrier k) = [] ∨ ∃ op, ops (.retrier k) = [op] ∧ RetryPoint s ops k op

/-- A call of `InvokeAsync` by a callback is an attempt. -/
theorem ClientOp.attempts_exec (h : op.exec t answer s = some (s', next)) :
    s'.attempts = s.attempts ∨
      (op = .caller .reject ∨ ∃ ms, op = .caller (.enqueue ms)) ∧ next = t.await s.calls ∧
        s'.attempts = t.attempt s.calls ++ s.attempts := by
  cases op with
  | caller o =>
    cases CallMove.of_exec h with
    | enqueue => exact .inr ⟨.inr ⟨_, rfl⟩, rfl, rfl⟩
    | reject => exact .inr ⟨.inl rfl, rfl, rfl⟩
    | _ => exact .inl rfl
  | _ => exact .inl ((framed h).attempts nofun)

theorem ClientThread.mem_attempt {p : ℕ × ℕ} (h : p ∈ t.attempt n) :
    t = .retrier p.1 ∧ p.2 = n := by
  cases t with
  | retrier k =>
    obtain rfl := List.mem_singleton.mp h
    exact ⟨rfl, rfl⟩
  | _ => cases h

/-- An attempt after the step is an older one, or the call that was just made. -/
theorem ClientOp.mem_attempts (h : op.exec t answer s = some (s', next))
    {p : ℕ × ℕ} (hp : p ∈ s'.attempts) : p ∈ s.attempts ∨ t = .retrier p.1 ∧ p.2 = s.calls := by
  rcases attempts_exec h with hsame | ⟨-, -, hnew⟩
  · exact .inl (hsame ▸ hp)
  · rw [hnew] at hp
    exact (List.mem_append.mp hp).symm.imp_right ClientThread.mem_attempt

theorem ClientOp.isAttempt (h : op.exec t answer s = some (s', next))
    (hn : s'.IsAttempt n) : s.IsAttempt n ∨ n = s.calls := by
  obtain ⟨p, hp, rfl⟩ := List.mem_map.mp hn
  exact (mem_attempts h hp).imp List.mem_map_of_mem And.right

/-- The reply that a thread carries from now on is not retried, or that of a dead call. -/
theorem ReplySource.dead (h : ReplySource r.shared n reply op)
    (hinv : ClientInv r) (hops : r.ops t = op :: rest) (hok : AttemptsSpared r.shared answer op)
    (hexec : op.exec t answer r.shared = some (s', next))
    (hretry : reply.status.retryable = true) (hn : r.shared.IsAttempt n) :
    Dead s' (Function.update r.ops t (next ++ rest)) n := by
  cases h with
  | recovered hp => exact absurd hn (hok _ hp)
  | all hp => exact absurd hn (hok hretry _ hp)
  | completed hp hid => exact absurd hn (hok hretry _ hp hid)
  | expired hp hexpired | closed hp | unqueued hjob => cases hretry
  | failed =>
    obtain rfl : t = .submit := hinv.onThread hops
    exact Dead.of_resolveFailure hinv hops hexec

/-! ## The points of a retry loop -/

variable {ops ops' : ClientThread → List ClientOp}

theorem AllDead.mono (h : AllDead s ops k) (hdead : ∀ n, Dead s ops n → Dead s' ops' n)
    (hold : ∀ p ∈ s'.attempts, p.1 = k → p ∈ s.attempts) : AllDead s' ops' k :=
  fun p hp hk => hdead _ (h p (hold p hp hk) hk)

/-- A point of the loop stays as it is while the loop makes no call. -/
theorem RetryPoint.mono (h : RetryPoint s ops k op) (hdead : ∀ n, Dead s ops n → Dead s' ops' n)
    (hold : ∀ p ∈ s'.attempts, p.1 = k → p ∈ s.attempts) : RetryPoint s' ops' k op := by
  cases op with
  | caller o =>
    cases o with
    | invoke | enqueue ms | reject => exact AllDead.mono h hdead hold
    | retryAwait n => exact fun p hp hk hne => hdead _ (h p (hold p hp hk) hk hne)
    | retrySnapshot n status => exact fun hr => (h hr).mono hdead hold
    | _ => cases h
  | wait o =>
    obtain ⟨n, status, hw, hall⟩ := h
    exact ⟨n, status, hw, hall.mono hdead hold⟩
  | _ => cases h

/-- The retry loop goes from point to point. -/
theorem RetryInv.point (h : RetryInv r.shared r.ops)
    (hpoint : RetryPoint r.shared r.ops k op) (hop : op.OnThread (.retrier k))
    (hops : r.ops (.retrier k) = [op])
    (hexec : op.exec (.retrier k) answer r.shared = some (s', next)) :
    next = [] ∨ ∃ op', next = [op'] ∧
      RetryPoint s' (Function.update r.ops (.retrier k) (next ++ [])) k op' := by
  have hdead : AllDead r.shared r.ops k → s'.attempts = r.shared.attempts →
      AllDead s' (Function.update r.ops (.retrier k) (next ++ [])) k := by
    intro hall hsame
    exact hall.mono (fun n hn => hn.exec hop hops hexec) fun p hp _ => hsame ▸ hp
  cases op with
  | caller o =>
    have hm := CallMove.of_exec hexec
    cases hm with
    | skip => exact .inl rfl
    | accept | refuse => exact .inr ⟨_, rfl, hdead hpoint rfl⟩
    | enqueue | reject =>
      -- all calls before the new one are dead
      refine .inr ⟨_, rfl, fun p hp hk hne => ?_⟩
      rcases ClientOp.mem_attempts hexec hp with hold | ⟨-, hnew⟩
      · exact (hpoint p hold hk).exec hop hops hexec
      · exact absurd hnew hne
    | external | engineDied => cases hpoint
    | @ready n reply hready =>
      refine .inr ⟨_, rfl, fun hretry => hdead (fun p hp hk => ?_) rfl⟩
      by_cases hn : p.2 = n
      · subst hn
        exact h.ready _ reply hready hretry (List.mem_map_of_mem hp)
      · exact hpoint p hp hk hn
    | wait hstatus hw => exact .inr ⟨_, rfl, _, _, hw, hdead (hpoint hstatus) rfl⟩
  | wait o =>
    obtain ⟨n, status, hw, hall⟩ := hpoint
    have hall' := hdead hall (by rw [WaitOp.exec_frame hexec])
    rcases WaitOp.exec_next hexec with ⟨o', rfl, hw'⟩ | ⟨status', rfl⟩
    · exact .inr ⟨_, rfl, n, status, hw'.trans hw, hall'⟩
    · rw [hw]
      rcases Waiter.resume_retry n status status' with hr | hr <;> rw [hr]
      · rw [hw, hr] at hall'
        exact .inr ⟨_, rfl, hall'⟩
      · exact .inl rfl
  | _ => cases hpoint

theorem RetryInv.points_exec (h : RetryInv r.shared r.ops) (hop : op.OnThread t)
    (hops : r.ops t = op :: rest) (hexec : op.exec t answer r.shared = some (s', next)) (k : ℕ) :
    Function.update r.ops t (next ++ rest) (.retrier k) = [] ∨
      ∃ op', Function.update r.ops t (next ++ rest) (.retrier k) = [op'] ∧
        RetryPoint s' (Function.update r.ops t (next ++ rest)) k op' := by
  by_cases ht : ClientThread.retrier k = t
  · subst ht
    rcases h.points k with hidle | ⟨op', hop', hpoint⟩
    · rw [hidle] at hops
      cases hops
    · obtain ⟨rfl, rfl⟩ : op' = op ∧ [] = rest := by simpa using hop'.symm.trans hops
      rw [Function.update_self, List.append_nil]
      have := h.point hpoint hop hops hexec
      rwa [List.append_nil] at this
  · rw [Function.update_of_ne ht]
    refine (h.points k).imp_right ?_
    rintro ⟨op', hop', hpoint⟩
    refine ⟨op', hop', hpoint.mono (fun n hn => hn.exec hop hops hexec) ?_⟩
    rintro p hp rfl
    exact (ClientOp.mem_attempts hexec hp).resolve_right fun hnew => ht hnew.1.symm

/-- A call that a retry loop makes finds the older ones dead. -/
theorem RetryInv.older_exec (h : RetryInv r.shared r.ops) (hop : op.OnThread t)
    (hops : r.ops t = op :: rest) (hexec : op.exec t answer r.shared = some (s', next)) :
    s'.attempts.Pairwise fun newer older => newer.1 = older.1 →
      Dead s' (Function.update r.ops t (next ++ rest)) older.2 := by
  have hmono : r.shared.attempts.Pairwise fun newer older => newer.1 = older.1 →
      Dead s' (Function.update r.ops t (next ++ rest)) older.2 :=
    h.older.imp fun hdead heq => (hdead heq).exec hop hops hexec
  rcases ClientOp.attempts_exec hexec with hsame | ⟨hcall, -, hnew⟩
  · rwa [hsame]
  · rw [hnew]
    cases t with
    | retrier k =>
      refine List.pairwise_cons.mpr ⟨fun p hp hk => ?_, hmono⟩
      have hall : AllDead r.shared r.ops k := by
        rcases h.points k with hidle | ⟨op', hop', hpoint⟩
        · rw [hidle] at hops
          cases hops
        · obtain ⟨rfl, -⟩ : op' = op ∧ [] = rest := by simpa using hop'.symm.trans hops
          rcases hcall with rfl | ⟨ms, rfl⟩ <;> exact hpoint
      exact (hall p hp hk.symm).exec hop hops hexec
    | _ => exact hmono

theorem RetryInv.exec (h : RetryInv r.shared r.ops) (hinv : ClientInv r)
    (hops : r.ops t = op :: rest) (hok : AttemptsSpared r.shared answer op)
    (hexec : op.exec t answer r.shared = some (s', next)) :
    RetryInv s' (Function.update r.ops t (next ++ rest)) := by
  have hop := hinv.onThread hops
  refine ⟨fun n reply hcarried hretry hn => ?_, fun n reply hready hretry hn => ?_,
    h.older_exec hop hops hexec, h.points_exec hop hops hexec⟩
  · have hn' : n < r.shared.calls → r.shared.IsAttempt n := fun hlt =>
      (ClientOp.isAttempt hexec hn).resolve_right hlt.ne
    rcases hcarried.of_exec hops hexec with hold | hnew
    · exact (h.carried n reply hold hretry (hn' (hinv.call.carried n reply hold))).exec hop hops hexec
    · exact hnew.dead hinv hops hok hexec hretry (hn' (hnew.lt_calls hinv.job hop hops))
  · have hn' : n < r.shared.calls → r.shared.IsAttempt n := fun hlt =>
      (ClientOp.isAttempt hexec hn).resolve_right hlt.ne
    rcases ClientOp.future_exec hexec n with hsame | ⟨reply', -, hnew, hwrite⟩
    · rw [hsame] at hready
      exact (h.ready n reply hready hretry (hn' (hinv.call.ready n reply hready))).exec hop hops hexec
    · obtain rfl : reply' = reply := Option.some.inj (hnew.symm.trans hready)
      rcases hwrite with rfl | ⟨-, -, rfl⟩
      · have hold : Carried r.ops n reply' := ⟨t, hops ▸ List.mem_cons_self⟩
        exact (h.carried n reply' hold hretry (hn' (hinv.call.carried n reply' hold))).exec hop hops
          hexec
      · cases hretry

/-- A step that executes nothing. -/
theorem RetryInv.mono (h : RetryInv s ops) (hdead : ∀ n, Dead s ops n → Dead s' ops' n)
    (hcarried : ∀ n reply, Carried ops' n reply → Carried ops n reply)
    (hfuture : s'.future = s.future) (hattempts : s'.attempts = s.attempts)
    (hpoints : ∀ k, ops' (.retrier k) = ops (.retrier k) ∨
      ∃ op, ops' (.retrier k) = [op] ∧ RetryPoint s' ops' k op) : RetryInv s' ops' := by
  have hattempt : ∀ n, s'.IsAttempt n → s.IsAttempt n := fun n hn => by
    rwa [IsAttempt, hattempts] at hn
  refine ⟨fun n reply hn hretry hatt => ?_, fun n reply hn hretry hatt => ?_, ?_, fun k => ?_⟩
  · exact hdead n (h.carried n reply (hcarried n reply hn) hretry (hattempt n hatt))
  · rw [hfuture] at hn
    exact hdead n (h.ready n reply hn hretry (hattempt n hatt))
  · rw [hattempts]
    exact h.older.imp fun hd heq => hdead _ (hd heq)
  · rcases hpoints k with hsame | hnew
    · rw [hsame]
      refine (h.points k).imp_right ?_
      rintro ⟨op, hop, hpoint⟩
      exact ⟨op, hop, hpoint.mono hdead fun p hp _ => hattempts ▸ hp⟩
    · exact .inr hnew

theorem RetryInv.of_reach (h : (rpcClient mode).Reach (NextOp AttemptsSpared) r) :
    RetryInv r.shared r.ops := by
  refine Machine.Reach.invariant_of_reach (I := fun r => RetryInv r.shared r.ops) ?_ ?_ h
  · refine ⟨fun n reply hn => ?_, fun n reply hn => ?_, ?_, fun k => .inl rfl⟩
    · obtain ⟨t, ht⟩ := hn
      cases t <;> simp [rpcClient, initialOps] at ht
    · cases mode <;> cases hn
    · cases mode <;> exact List.Pairwise.nil
  · intro r a r' hreach h hok hs
    cases ClientMove.of_step hs with
    | exec hops hexec hops' =>
      rw [hops']
      exact h.exec (.of_reach hreach) hops (hok.of_ops hops) hexec
    | call hidle hshared hops' =>
      rw [hops', hshared]
      refine h.mono (fun n hn => ⟨hn.made, hn.unpublished, ?_⟩)
        (fun n reply => Carried.of_start fun _ _ => ClientEntry.not_mem_program _) rfl rfl
        fun k => .inl (Function.update_of_ne (by simp) _ _)
      rw [Function.update_of_ne (by simp)]
      exact hn.unheld
    | @retry k hnew hidle hshared hops' =>
      rw [hops', hshared]
      refine h.mono (fun n hn => ⟨hn.made, hn.unpublished, ?_⟩)
        (fun n reply => Carried.of_start fun _ _ => by simp) rfl rfl fun k' => ?_
      · rw [Function.update_of_ne (by simp)]
        exact hn.unheld
      · by_cases hk : k' = k
        · subst hk
          exact .inr ⟨_, Function.update_self .., fun p hp hk => absurd hk (hnew p hp)⟩
        · exact .inl (Function.update_of_ne (by simpa using hk) _ _)
    | shutdown hcontrol hidle hshared hops' =>
      rw [hops', hshared]
      refine h.mono (fun n hn => ⟨hn.made, hn.unpublished, ?_⟩)
        (fun n reply => Carried.of_start fun _ _ => not_mem_shutdownProgram) rfl rfl
        fun k => .inl (Function.update_of_ne (by simp) _ _)
      rw [Function.update_of_ne (by simp)]
      exact hn.unheld
    | tick hshared hops' =>
      rw [hops', hshared]
      exact h.mono (fun n hn => ⟨hn.made, hn.unpublished, hn.unheld⟩) (fun _ _ hn => hn) rfl rfl
        fun _ => .inl rfl

/-- **A published call is not repeated** by `RetryUntilRecoverySettles`, in every run in
which no pending attempt is failed with a status that is retried. -/
theorem retriesUnpublished_of_reach (h : (rpcClient mode).Reach (NextOp AttemptsSpared) r) :
    RetriesUnpublished r.shared :=
  (RetryInv.of_reach h).older.imp fun hdead heq => (hdead heq).unpublished

/-- The callback makes its call. -/
def attemptSchedule : List ClientAction := List.replicate 2 (.exec (.retrier 0) {})

/-- The callback sees that its call has failed, waits for the end of the cooldown, and makes
its call again. -/
def retrySchedule : List ClientAction :=
  List.replicate 2 (.exec (.retrier 0) {}) ++ [.tick 5, .exec (.retrier 0) {}] ++ attemptSchedule

/-- No session can be opened, and the policy asks for a restart after a delay: the call fails
without being published. -/
def unpublishedRetry : List ClientAction :=
  [.retry 0] ++ attemptSchedule ++ List.replicate 6 (.exec .submit {}) ++
    [.exec .submit { openStatus := .peerDisconnected }] ++ List.replicate 6 (.exec .submit {}) ++
    [.exec .submit { decision := some { action := .restart, delayMs := 5 } }] ++
    List.replicate 8 (.exec .submit {}) ++ retrySchedule

theorem retriesUnpublished_retried :
    ∃ r, (rpcClient .lazySession).Reach (NextOp AttemptsSpared) r ∧
      r.shared.attempts = [(0, 1), (0, 0)] ∧ RetriesUnpublished r.shared := by
  obtain ⟨r, hreach, hattempts⟩ :=
    (rpcClient .lazySession).exists_reachOk (NextOp AttemptsSpared) unpublishedRetry
    (P := fun r => r.shared.attempts = [(0, 1), (0, 0)]) (by decide +kernel)
  exact ⟨r, hreach, hattempts, retriesUnpublished_of_reach hreach⟩

/-- The call is published, an external recovery with a delay fails it, and the callback makes
it again. -/
def publishedRetry : List ClientAction :=
  [.retry 0] ++ attemptSchedule ++ submitSchedule ++ [.exec .submit {}] ++
    [.call 0 (.requestExternalRecovery ⟨1, 5⟩)] ++
    List.replicate 11 (.exec (.external 0) {}) ++ retrySchedule

theorem not_retriesUnpublished_of_recovery :
    ∃ r, (rpcClient .eagerSession).Reach Machine.Always r ∧
      r.shared.attempts = [(0, 1), (0, 0)] ∧ r.shared.Published 0 1 ∧
        ¬ RetriesUnpublished r.shared := by
  exact (rpcClient .eagerSession).exists_reach publishedRetry
    (P := fun r => r.shared.attempts = [(0, 1), (0, 0)] ∧ .published 0 1 ∈ r.shared.log ∧
      ¬ RetriesUnpublished r.shared) (by decide +kernel)

end MemRpc
