import Mathlib.Data.List.TakeWhile
import MemRpc.Core.Protocol

/-!
# The failure monitor of the test kit

`FailureMonitor` keeps the times of execution timeouts in a queue. At each timeout it drops those at
the front that are older than the window, and if enough are left it calls back and empties the
queue. Disconnections call back at once and leave the queue alone.

The queue is shorter than the history, but with times that do not decrease it has all that counts:
what was dropped is too old for every later timeout (`FailureMonitor.Window`).

Times are nanoseconds, and an age is cut to milliseconds. The time of a failure is taken before the
mutex, so the times are those of the events in the order of the critical sections.

## Main definitions

* `FailureMonitor`, with `onFailure`, `reset` and `setThresholdCallback`.
* `timeoutsSince`: the timeouts since the last one that called back, or the last reset.

## Main results

* `failureMonitor_fires_iff`.
-/

namespace MemRpc

/-- `FailureMonitor::Options`. -/
structure FailureMonitorOptions where
  windowMs : UInt32 := 60000
  execTimeoutThreshold : UInt32 := 3
  triggerOnDisconnect : Bool := true
  deriving DecidableEq, Repr

/-- The members of `FailureMonitor`. Of the callback it is known whether there is one. -/
structure FailureMonitor where
  options : FailureMonitorOptions := {}
  callback : Bool := false
  execTimeouts : List ℤ := []
  deriving DecidableEq, Repr

/-- The age of a timeout in whole milliseconds. -/
def ageMs (now time : ℤ) : ℤ := (now - time).tdiv 1000000

namespace FailureMonitor

variable (m : FailureMonitor)

/-- A timeout that is too old at the time `now`. -/
def outdated (now time : ℤ) : Bool := decide ((m.options.windowMs.toNat : ℤ) < ageMs now time)

/-- `SetThresholdCallback`. -/
def setThresholdCallback (callback : Bool) : FailureMonitor := { m with callback }

/-- `Reset`. -/
def reset : FailureMonitor := { m with execTimeouts := [] }

/-- `OnFailure` at the time `now`: whether it calls back, and the monitor behind it. -/
def onFailure (status : StatusCode) (now : ℤ) : Bool × FailureMonitor :=
  match status with
  | .peerDisconnected | .protocolMismatch => (m.options.triggerOnDisconnect && m.callback, m)
  | .execTimeout =>
    let execTimeouts := (m.execTimeouts ++ [now]).dropWhile (m.outdated now)
    if m.options.execTimeoutThreshold.toNat ≤ execTimeouts.length ∧ m.callback = true then
      (true, { m with execTimeouts := [] })
    else (false, { m with execTimeouts })
  | _ => (false, m)

end FailureMonitor

/-- The calls of a monitor. -/
inductive MonitorEvent
  | failure (status : StatusCode) (now : ℤ)
  | reset
  | setThresholdCallback (callback : Bool)
  deriving DecidableEq, Repr

namespace FailureMonitor

/-- A call: whether it calls back, and the monitor behind it. -/
def handle (m : FailureMonitor) : MonitorEvent → Bool × FailureMonitor
  | .failure status now => m.onFailure status now
  | .reset => (false, m.reset)
  | .setThresholdCallback callback => (false, m.setThresholdCallback callback)

/-- The monitor behind some calls, and for each call whether it called back. -/
def run (m : FailureMonitor) (events : List MonitorEvent) :
    FailureMonitor × List (MonitorEvent × Bool) :=
  events.foldl
    (fun s event => ((s.1.handle event).2, s.2 ++ [(event, (s.1.handle event).1)])) (m, [])

end FailureMonitor

/-- The time of an execution timeout. -/
def MonitorEvent.timeoutAt : MonitorEvent → Option ℤ
  | .failure .execTimeout now => some now
  | _ => none

/-- The timeouts that count behind a call, from those before it. -/
def timeoutsAfter (times : List ℤ) (event : MonitorEvent) (fired : Bool) : List ℤ :=
  match event with
  | .failure .execTimeout now => if fired then [] else times ++ [now]
  | .reset => []
  | _ => times

/-- The timeouts of a log since the last one that called back, or the last reset. -/
def timeoutsSince (log : List (MonitorEvent × Bool)) : List ℤ :=
  log.foldl (fun times entry => timeoutsAfter times entry.1 entry.2) []

/-! ## Ages -/

theorem ageMs_mono {now now' time time' : ℤ} (hnow : now ≤ now') (htime : time' ≤ time) :
    ageMs now time ≤ ageMs now' time' :=
  Int.tdiv_le_tdiv (by decide) (by omega)

/-- What is too old remains so, and so is what is older. -/
theorem FailureMonitor.outdated_mono {m : FailureMonitor} {now now' time time' : ℤ}
    (hnow : now ≤ now') (htime : time' ≤ time) (h : m.outdated now time = true) :
    m.outdated now' time' = true := by
  have hage := ageMs_mono hnow htime
  simp only [outdated, decide_eq_true_eq] at h ⊢
  omega

/-- Where the entries that are dropped stand at the front, dropping from the front drops them
all. -/
theorem dropWhile_eq_filter {α : Type*} {p : α → Bool} {l : List α}
    (h : l.Pairwise fun a b => p b = true → p a = true) : l.dropWhile p = l.filter (!p ·) := by
  induction l with
  | nil => rfl
  | cons a l ih =>
    obtain ⟨ha, hl⟩ := List.pairwise_cons.mp h
    cases hp : p a with
    | true => rw [List.dropWhile_cons_of_pos hp, ih hl, List.filter_cons_of_neg (by simp [hp])]
    | false =>
      have hkept : ∀ b ∈ a :: l, (!p b) = true := by
        intro b hb
        rcases List.mem_cons.mp hb with rfl | hb
        · simp [hp]
        · cases hpb : p b with
          | true => rw [ha b hb hpb] at hp; cases hp
          | false => rfl
      rw [List.dropWhile_cons_of_neg (by simp [hp]), List.filter_eq_self.mpr hkept]

/-! ## The queue and the history -/

namespace FailureMonitor

/-- Of the timeouts that count, the queue has all but some at the front, which are too old at the
last of these times and from then on. -/
def Window (m : FailureMonitor) (times : List ℤ) : Prop :=
  ∃ expired, times = expired ++ m.execTimeouts ∧
    ∀ time ∈ expired, ∀ now, (∀ t ∈ times, t ≤ now) → m.outdated now time = true

variable {m : FailureMonitor} {times : List ℤ} {now : ℤ}

theorem window_nil (h : m.execTimeouts = []) : m.Window [] :=
  ⟨[], by simp [h], by simp⟩

/-- At a timeout, what is left in the queue is what is not too old. -/
theorem Window.dropWhile_eq (h : m.Window times) (hsorted : (times ++ [now]).Pairwise (· ≤ ·)) :
    (m.execTimeouts ++ [now]).dropWhile (m.outdated now) =
      (times ++ [now]).filter (!m.outdated now ·) := by
  obtain ⟨expired, rfl, hexpired⟩ := h
  rw [List.append_assoc] at hsorted ⊢
  have hqueue : (m.execTimeouts ++ [now]).Pairwise (· ≤ ·) := (List.pairwise_append.mp hsorted).2.1
  have hnow : ∀ t ∈ expired ++ m.execTimeouts, t ≤ now := by
    rw [← List.append_assoc] at hsorted
    exact fun t ht => (List.pairwise_append.mp hsorted).2.2 t ht now List.mem_cons_self
  have hgone : expired.filter (!m.outdated now ·) = [] := by
    rw [List.filter_eq_nil_iff]
    intro time htime
    simp [hexpired time htime now hnow]
  rw [List.filter_append, hgone, List.nil_append]
  exact dropWhile_eq_filter (hqueue.imp fun hle => outdated_mono le_rfl hle)

/-- A timeout that does not call back. -/
theorem Window.dropWhile (h : m.Window times) :
    Window { m with execTimeouts := (m.execTimeouts ++ [now]).dropWhile (m.outdated now) }
      (times ++ [now]) := by
  obtain ⟨expired, rfl, hexpired⟩ := h
  refine ⟨expired ++ (m.execTimeouts ++ [now]).takeWhile (m.outdated now), ?_, ?_⟩
  · rw [List.append_assoc, List.append_assoc, List.takeWhile_append_dropWhile]
  · intro time htime now' hnow'
    rcases List.mem_append.mp htime with hold | hnew
    · exact hexpired time hold now' fun t ht => hnow' t (List.mem_append_left _ ht)
    · have hlater : now ≤ now' := hnow' now (List.mem_append_right _ List.mem_cons_self)
      exact outdated_mono (m := m) hlater le_rfl (List.mem_takeWhile_imp hnew)

/-- What a run keeps: the options, the callback, and the queue as the end of the timeouts that
count, which are among those of the run. -/
structure Follows (options : FailureMonitorOptions) (events : List MonitorEvent)
    (s : FailureMonitor × List (MonitorEvent × Bool)) : Prop where
  options_eq : s.1.options = options
  callback : s.1.callback = true
  window : s.1.Window (timeoutsSince s.2)
  times : (timeoutsSince s.2).Sublist (events.filterMap MonitorEvent.timeoutAt)

theorem follows_nil (options : FailureMonitorOptions) :
    Follows options [] (run { options, callback := true } []) :=
  ⟨rfl, rfl, window_nil rfl, List.Sublist.refl _⟩

variable {options : FailureMonitorOptions} {events : List MonitorEvent}
  {s : FailureMonitor × List (MonitorEvent × Bool)}

/-- A call keeps the relation, if it does not take the callback away. -/
theorem Follows.handle (h : Follows options events s) {event : MonitorEvent}
    (hcallback : ∀ callback, event = .setThresholdCallback callback → callback = true) :
    Follows options (events ++ [event])
      ((s.1.handle event).2, s.2 ++ [(event, (s.1.handle event).1)]) := by
  have hlog (fired : Bool) : timeoutsSince (s.2 ++ [(event, fired)]) =
      timeoutsAfter (timeoutsSince s.2) event fired := List.foldl_concat ..
  have hbefore : (timeoutsSince s.2).Sublist
      ((events ++ [event]).filterMap MonitorEvent.timeoutAt) := by
    rw [List.filterMap_append]
    exact h.times.trans (List.sublist_append_left _ _)
  -- a call that leaves the queue and the timeouts that count as they are
  have hother (m : FailureMonitor) (fired : Bool) (hm : m = { s.1 with callback := m.callback })
      (hm' : m.callback = true) (htimes : timeoutsAfter (timeoutsSince s.2) event fired =
        timeoutsSince s.2) :
      Follows options (events ++ [event]) (m, s.2 ++ [(event, fired)]) := by
    refine ⟨?_, hm', ?_, ?_⟩
    · rw [hm]
      exact h.options_eq
    · rw [hlog, htimes, hm]
      exact h.window
    · rw [hlog, htimes]
      exact hbefore
  cases event with
  | reset =>
    refine ⟨h.options_eq, h.callback, ?_, ?_⟩
    · rw [hlog]
      exact window_nil rfl
    · rw [hlog]
      exact List.nil_sublist _
  | setThresholdCallback callback =>
    exact hother _ _ rfl (hcallback callback rfl) rfl
  | failure status now =>
    cases status with
    | execTimeout =>
      simp only [FailureMonitor.handle, onFailure]
      split
      · refine ⟨h.options_eq, h.callback, ?_, ?_⟩
        · rw [hlog]
          exact window_nil rfl
        · rw [hlog]
          exact List.nil_sublist _
      · refine ⟨h.options_eq, h.callback, ?_, ?_⟩
        · rw [hlog]
          exact h.window.dropWhile
        · rw [hlog, List.filterMap_append]
          exact h.times.append (List.Sublist.refl [now])
    | _ => exact hother s.1 _ rfl h.callback rfl

theorem follows_run {history : List MonitorEvent}
    (hcallback : ∀ callback, .setThresholdCallback callback ∈ history → callback = true) :
    Follows options history (run { options, callback := true } history) := by
  induction history using List.reverseRecOn with
  | nil => exact follows_nil options
  | append_singleton history event ih =>
    have hbefore := ih fun callback hmem => hcallback callback (List.mem_append_left _ hmem)
    rw [run, List.foldl_concat, ← run]
    refine hbefore.handle fun callback hevent => hcallback callback ?_
    rw [hevent]
    exact List.mem_append_right _ List.mem_cons_self

/-- A timeout calls back exactly if the timeouts that are left in the queue reach the threshold. -/
theorem onFailure_execTimeout_iff (hcallback : m.callback = true) :
    (m.onFailure .execTimeout now).1 = true ↔
      m.options.execTimeoutThreshold.toNat ≤
        ((m.execTimeouts ++ [now]).dropWhile (m.outdated now)).length := by
  simp only [onFailure, hcallback, and_true]
  split
  · next hreached => simp [hreached]
  · next hbelow => simp [hbelow]

end FailureMonitor

/-- In every run with times that do not decrease and with a callback, a timeout calls back exactly
if, with itself, the timeouts since the last one that called back or since the last reset that are
not older than the window reach the threshold. -/
theorem failureMonitor_fires_iff (options : FailureMonitorOptions) (history : List MonitorEvent)
    (now : ℤ)
    (hcallback : ∀ callback, .setThresholdCallback callback ∈ history → callback = true)
    (htimes : (history.filterMap MonitorEvent.timeoutAt ++ [now]).Pairwise (· ≤ ·)) :
    ((FailureMonitor.run { options, callback := true } history).1.onFailure .execTimeout now).1 =
        true ↔
      options.execTimeoutThreshold.toNat ≤
        ((timeoutsSince (FailureMonitor.run { options, callback := true } history).2 ++
          [now]).filter fun time => ageMs now time ≤ options.windowMs.toNat).length := by
  have hfollows : FailureMonitor.Follows options history _ := FailureMonitor.follows_run hcallback
  generalize FailureMonitor.run { options, callback := true } history = s at hfollows
  have hsorted : (timeoutsSince s.2 ++ [now]).Pairwise (· ≤ ·) :=
    htimes.sublist (hfollows.times.append (List.Sublist.refl [now]))
  have hyoung : (fun time => !s.1.outdated now time) =
      fun time => decide (ageMs now time ≤ options.windowMs.toNat) := by
    funext time
    rw [FailureMonitor.outdated, hfollows.options_eq, ← decide_not, decide_eq_decide, not_lt]
  rw [FailureMonitor.onFailure_execTimeout_iff hfollows.callback, hfollows.options_eq,
    hfollows.window.dropWhile_eq hsorted, hyoung]

/-- With a window of two milliseconds and a threshold of two, the second timeout calls back if it
comes within 2.999999 milliseconds, and not later. -/
theorem failureMonitor_fires_iff_window :
    ((FailureMonitor.run
        { options := { windowMs := 2, execTimeoutThreshold := 2 }, callback := true }
        [.failure .execTimeout 0, .failure .peerDisconnected 5]).1.onFailure
          .execTimeout 2999999).1 = true ∧
      ((FailureMonitor.run
        { options := { windowMs := 2, execTimeoutThreshold := 2 }, callback := true }
        [.failure .execTimeout 0, .failure .peerDisconnected 5]).1.onFailure
          .execTimeout 3000000).1 = false := by
  refine ⟨?_, ?_⟩
  · exact (failureMonitor_fires_iff _ _ _ (by simp) (by decide)).mpr (by decide)
  · rw [← Bool.not_eq_true, failureMonitor_fires_iff _ _ _ (by simp) (by decide)]
    decide

end MemRpc
