import Mathlib.Tactic

/-!
# The control connection of a client

`VesControlProxy` has the socket of its session and a thread, `MonitorSocket`, that reports when
the peer is gone. `OpenSession` and `CloseSession` take both out of the proxy, wait for the thread
and close the socket. The report may open a session itself; its thread is then detached.

Monitor `n` is the thread of connection `n`. An action that is not possible changes nothing, so
every list of actions is a run.
-/

namespace MemRpc

/-- Where a thread stands in `MonitorSocket` and `NotifyPeerDisconnected`. -/
inductive MonitorPc
  | absent
  | starting
  | looping (fd : ℕ)
  | polling (fd : ℕ)
  | polled (fd : ℕ) (signal : Bool)
  | peeking (fd : ℕ)
  | notifying
  | reading
  | calling (sessionId : ℕ)
  | callback (sessionId : ℕ)
  | exited
  deriving DecidableEq

namespace MonitorPc

@[grind] def inCallback : MonitorPc → Bool
  | callback _ => true
  | _ => false

/-- The thread has not come to its callback. -/
@[grind] def Watching (pc : MonitorPc) : Prop := pc ≠ absent ∧ pc ≠ exited ∧ ¬pc.inCallback

/-- `monitoredFd`, while the thread may still use it. -/
@[grind] def fd? : MonitorPc → Option ℕ
  | looping fd | polling fd | polled fd _ | peeking fd => some fd
  | _ => none

end MonitorPc

/-- Where the holder of `operationMutex_` stands in `OpenSession` or `CloseSession`. -/
inductive ControlOperation
  | idle
  | resetting
  | joining (thread fd : Option ℕ)
  | closing (fd : Option ℕ)
  | connecting
  | connected (fd : ℕ)
  deriving DecidableEq

/-- The descriptor that only the operation knows. -/
@[simp, grind] def ControlOperation.held : ControlOperation → Option ℕ
  | joining _ fd | closing fd => fd
  | connected fd => some fd
  | _ => none

/-- A `VesControlProxy` with its threads. The last three fields record the descriptors made and
closed and the session of each connection. -/
structure ControlProxy where
  stopMonitor : Bool := false
  sockFd : Option ℕ := none
  sessionId : ℕ := 0
  monitorThread : Option ℕ := none
  operation : ControlOperation := .idle
  /-- The monitor in whose callback the operation runs, if it does. -/
  caller : Option ℕ := none
  monitors : ℕ → MonitorPc := fun _ => .absent
  connections : ℕ := 0
  closed : List ℕ := []
  sessionOf : ℕ → ℕ := fun _ => 0

inductive ControlAction
  /-- A thread takes `operationMutex_`. -/
  | call (caller : Option ℕ)
  /-- The operation goes on; `answer` is what `connect`, or the service to `OpenSession`, gives. -/
  | proceed (answer : Option ℕ)
  /-- Monitor `n` goes on; `seen` is what `poll`, `recv` or `deathCallback_` gives it. -/
  | monitor (n : ℕ) (seen : Bool)

namespace ControlProxy

/-- The next step of `MonitorSocket` and `NotifyPeerDisconnected`. -/
@[grind] def monitorNext (s : ControlProxy) (seen : Bool) : MonitorPc → MonitorPc
  | .absent => .absent
  | .starting => s.sockFd.elim .exited .looping
  | .looping fd => if s.stopMonitor then .exited else .polling fd
  | .polling fd => .polled fd seen
  | .polled fd signal =>
    if s.stopMonitor then .exited else if signal then .peeking fd else .looping fd
  | .peeking fd => if seen then .notifying else .looping fd
  | .notifying => if s.stopMonitor then .exited else .reading
  | .reading => .calling s.sessionId
  | .calling id => if seen then .callback id else .exited
  | .callback _ | .exited => .exited

/-- One step of an operation, with `StopMonitorThread`, or of a monitor. -/
def step (s : ControlProxy) : ControlAction → ControlProxy
  | .call caller =>
    if s.operation = .idle ∧ ∀ n ∈ caller, (s.monitors n).inCallback then
      { s with operation := .resetting, caller }
    else s
  | .proceed answer =>
    match s.operation with
    | .idle => s
    | .resetting =>
      { s with
        stopMonitor := true, sockFd := none, sessionId := 0, monitorThread := none
        operation := .joining s.monitorThread s.sockFd }
    | .joining thread fd =>
      -- `JoinThread` detaches its own thread and waits for another one
      if ∀ m ∈ thread, s.caller = some m ∨ s.monitors m = .exited then
        { s with operation := .closing fd }
      else s
    | .closing fd => { s with closed := s.closed ++ fd.toList, operation := .connecting }
    | .connecting =>
      if answer.isSome then
        { s with operation := .connected s.connections, connections := s.connections + 1 }
      else { s with operation := .idle }
    | .connected fd =>
      match answer with
      | some id =>
        { s with
          stopMonitor := false, sockFd := some fd, sessionId := id, monitorThread := some fd
          monitors := Function.update s.monitors fd .starting
          sessionOf := Function.update s.sessionOf fd id, operation := .idle }
      | none => { s with closed := s.closed ++ [fd], operation := .idle }
  | .monitor n seen =>
    -- a monitor whose callback is in an operation waits for it
    if s.operation ≠ .idle ∧ s.caller = some n then s
    else
      { s with monitors := Function.update s.monitors n (s.monitorNext seen (s.monitors n)) }

/-- The proxy after a run. -/
def after (actions : List ControlAction) : ControlProxy := actions.foldl step {}

/-- `ledger` says who has each descriptor, `watching` that a monitor before its callback is one
that the proxy, or the operation that has its socket, can join. -/
structure Inv (s : ControlProxy) : Prop where
  handle : s.monitorThread = s.sockFd
  session : s.sessionId = s.sockFd.elim 0 s.sessionOf
  ledger : s.closed ++ s.operation.held.toList ++ s.sockFd.toList = List.range s.connections
  taken : s.operation = .idle ∨ s.operation = .resetting ∨ s.sockFd = none
  caller : s.operation ≠ .idle → ∀ n, s.caller = some n → (s.monitors n).inCallback
  watching : ∀ n, (s.monitors n).Watching →
    s.sockFd = some n ∨ s.operation = .joining (some n) (some n)
  monitored : ∀ n fd, (s.monitors n).fd? = some fd → fd = n
  reported : ∀ n id, s.monitors n = .calling id ∨ s.monitors n = .callback id →
    id = s.sessionOf n ∨ id = 0
  fresh : ∀ n, s.connections ≤ n ∨ s.operation = .connected n → s.monitors n = .absent

theorem Inv.step {s : ControlProxy} (h : s.Inv) (action : ControlAction) : (s.step action).Inv := by
  have htaken := h.taken
  have hledger := h.ledger
  have hcaller := h.caller
  have hwatch := h.watching
  have hfresh := h.fresh
  unfold ControlProxy.step
  split
  case h_3 n seen =>
    -- a monitor that watches finds its own connection in the proxy, or none
    have hsock : (s.monitors n).Watching → s.sockFd = some n ∨ s.sockFd = none :=
      fun hw => (hwatch n hw).imp_right fun hop => by simpa [hop] using htaken
    split
    · exact h
    · clear hledger
      refine { h with caller := ?_, watching := ?_, monitored := ?_, reported := ?_, fresh := ?_ }
      · grind
      · cases hpc : s.monitors n <;> grind
      · cases hpc : s.monitors n <;> grind [h.monitored n, h.monitored]
      · cases hpc : s.monitors n <;> grind [h.reported, h.session]
      · grind
  all_goals split
  case h_2 hop =>
    refine { h with
      handle := rfl, session := rfl, ledger := by simpa [hop] using hledger
      taken := .inr (.inr rfl), caller := ?_, watching := ?_, fresh := ?_ } <;>
      grind [h.handle]
  case h_6 fd hop =>
    have hnone : s.sockFd = none := by grind
    simp only [hop, hnone, ControlOperation.held, Option.toList, List.append_nil] at hledger
    have hlt : fd < s.connections := List.mem_range.mp (hledger ▸ by simp)
    split
    · refine {
        handle := rfl, session := by simp, ledger := by simpa using hledger
        taken := .inl rfl, caller := ?_, watching := ?_, monitored := ?_, reported := ?_
        fresh := ?_ } <;>
        clear hledger <;> grind [h.monitored, h.reported]
    · refine { h with
        ledger := by simpa [hnone] using hledger
        taken := .inl rfl, caller := ?_, watching := ?_, fresh := ?_ } <;> grind
  -- the other steps leave the proxy and its threads as they are
  all_goals try split
  all_goals
    refine { h with ledger := ?_, taken := ?_, caller := ?_, watching := ?_, fresh := ?_ } <;>
      grind [List.range_succ]

theorem inv_after (actions : List ControlAction) : (after actions).Inv := by
  induction actions using List.reverseRecOn with
  | nil => constructor <;> simp [after, MonitorPc.Watching, MonitorPc.fd?]
  | append_singleton actions action ih =>
    rw [after, List.foldl_concat]
    exact ih.step action

example : (after ([.call none] ++ List.replicate 5 (.proceed (some 7)) ++
    List.replicate 8 (.monitor 0 true))).monitors 0 = .callback 7 := by decide

/-- Descriptors are closed once each and in the order they were made, all but the newest one,
which the operation or the proxy has. No monitor uses one that is closed. -/
theorem control_descriptors_closed_once (actions : List ControlAction) :
    let s := after actions
    s.closed ++ s.operation.held.toList ++ s.sockFd.toList = List.range s.connections ∧
    (s.operation.held = none ∨ s.sockFd = none) ∧
    ∀ n fd, (s.monitors n).fd? = some fd → fd ∉ s.closed := by
  intro s
  have h : s.Inv := inv_after actions
  have hnodup : (s.closed ++ (s.operation.held.toList ++ s.sockFd.toList)).Nodup := by
    rw [← List.append_assoc, h.ledger]
    exact List.nodup_range
  refine ⟨h.ledger, ?_, fun n fd hfd hclosed => ?_⟩
  · cases hop : s.operation <;> grind [h.taken]
  · obtain rfl := h.monitored n fd hfd
    have hw : (s.monitors fd).Watching := by cases hpc : s.monitors fd <;> grind
    refine List.disjoint_of_nodup_append hnodup hclosed ?_
    rcases h.watching fd hw with hw | hw <;> simp [hw]

/-- At most one monitor watches, and none does when `OpenSession` stores the next thread, over a
handle that is then not joinable. -/
theorem one_monitor_watches (actions : List ControlAction) :
    let s := after actions
    (∀ n m, (s.monitors n).Watching → (s.monitors m).Watching → n = m) ∧
    ∀ fd, s.operation = .connected fd → s.monitorThread = none ∧ ∀ n, ¬(s.monitors n).Watching := by
  intro s
  have h : s.Inv := inv_after actions
  have htaken := h.taken
  refine ⟨fun n m hn hm => ?_, fun fd hop => ⟨?_, fun n hn => ?_⟩⟩
  · grind [h.watching n hn, h.watching m hm]
  · grind [h.handle]
  · grind [h.watching n hn]

end ControlProxy

end MemRpc
