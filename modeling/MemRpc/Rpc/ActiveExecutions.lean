import Mathlib.Data.List.AList
import MemRpc.Lib.Machine
import MemRpc.Rpc.ServerRuntime

/-!
# Counting the executions of a server

`ProcessEntry` marks an execution as started before it calls the handler and as finished when it
returns. The marks are kept in `activeExecutions`, a map from request ids to start times, and
`GetRuntimeStats` reports its size. The ids are those of the popped entries, so they are whatever
the peer has written, and a client that attaches to the session anew starts again with 1. Two
executions with one id have one mark: the first that finishes takes it away, and the other runs
unseen (`not_countExact_of_equalIds`). As long as the ids of the executions that run at the same
time differ, the number that is reported is exact (`countExact_of_reach`).

Any number of calls of `ProcessEntry` run beside each other. A critical section of
`executionMutex` is one step, so the mutex is free in every state of the machine.

## Main definitions

* `ActiveExecutions`: the map, and the calls of `ProcessEntry`.
* `entryExecutions`: the machine.
* `ActiveExecutions.CountExact`: the size of the map is the number of executions.
-/

namespace MemRpc

open Concurrency

/-- A call of `ProcessEntry`, by its number, and the request id of its entry. -/
structure EntryCall where
  number : ℕ
  requestId : UInt64
  deriving DecidableEq, Repr

/-- The map of the server, the clock, and the calls of `ProcessEntry`. -/
structure ActiveExecutions where
  nowMs : UInt64 := 0
  activeExecutions : AList (fun _ : UInt64 => UInt64) := ∅
  /-- How many entries have been popped. -/
  popped : ℕ := 0
  /-- The calls that have passed the checks and not executed `MarkExecutionStarted`. -/
  accepted : List EntryCall := []
  /-- The calls that have executed `MarkExecutionStarted` and not `MarkExecutionFinished`. -/
  executing : List EntryCall := []

/-- What the step is. -/
inductive ExecutionAction
  | advance (nowMs : UInt64)
  | pop (entry : RequestRingEntry)
  | markStarted (call : EntryCall)
  | markFinished (call : EntryCall)

/-- The part of `RpcServerRuntimeStats` that is read under `executionMutex`. -/
structure ExecutionStats where
  activeRequestExecutions : UInt32 := 0
  oldestExecutionAgeMs : UInt32 := 0
  deriving DecidableEq, Repr

namespace ActiveExecutions

/-- `MarkExecutionStarted`. -/
def markExecutionStarted (s : ActiveExecutions) (requestId : UInt64) : ActiveExecutions :=
  { s with activeExecutions := s.activeExecutions.insert requestId s.nowMs }

/-- `MarkExecutionFinished`. -/
def markExecutionFinished (s : ActiveExecutions) (requestId : UInt64) : ActiveExecutions :=
  { s with activeExecutions := s.activeExecutions.erase requestId }

/-- The section of `GetRuntimeStats` that holds `executionMutex`. -/
def getRuntimeStats (s : ActiveExecutions) : ExecutionStats where
  activeRequestExecutions := UInt32.ofNat s.activeExecutions.keys.length
  oldestExecutionAgeMs :=
    match s.activeExecutions.entries with
    | [] => 0
    | ⟨_, startMs⟩ :: entries =>
      let oldestStartMs := entries.foldl (fun oldest entry => min oldest entry.2) startMs
      (min (s.nowMs - oldestStartMs) 0xFFFFFFFF).toUInt32

end ActiveExecutions

/-- A server that pops entries and processes them, with the payload limit of its session. An entry
that fails the checks is answered and not executed. -/
def entryExecutions (maxRequestBytes : UInt32) : Machine ActiveExecutions ExecutionAction where
  init := {}
  step s
    | .advance nowMs => if s.nowMs ≤ nowMs then some { s with nowMs } else none
    | .pop entry =>
      let s' := { s with popped := s.popped + 1 }
      match invalidTransport maxRequestBytes entry with
      | some _ => some s'
      | none => some { s' with accepted := ⟨s.popped, entry.requestId⟩ :: s.accepted }
    | .markStarted call =>
      if call ∈ s.accepted then
        some { s.markExecutionStarted call.requestId with
          accepted := s.accepted.erase call
          executing := call :: s.executing }
      else none
    | .markFinished call =>
      if call ∈ s.executing then
        some { s.markExecutionFinished call.requestId with executing := s.executing.erase call }
      else none

namespace ActiveExecutions

/-- `GetRuntimeStats` reports the number of the calls between the two marks. -/
def CountExact (s : ActiveExecutions) : Prop :=
  s.getRuntimeStats.activeRequestExecutions.toNat = s.executing.length

instance (s : ActiveExecutions) : Decidable s.CountExact := inferInstanceAs (Decidable (_ = _))

/-- An execution does not start while one with the same id is running, and there are fewer than
`2 ^ 32` of them. -/
def IdsApart (s : ActiveExecutions) : ExecutionAction → Prop
  | .markStarted call =>
    call.requestId ∉ s.executing.map EntryCall.requestId ∧ s.executing.length + 1 < 2 ^ 32
  | _ => True

instance (s : ActiveExecutions) : (a : ExecutionAction) → Decidable (s.IdsApart a)
  | .markStarted _ => inferInstanceAs (Decidable (_ ∧ _))
  | .advance _ | .pop _ | .markFinished _ => .isTrue trivial

/-- The map has the ids of the executions, once each. -/
structure Inv (s : ActiveExecutions) : Prop where
  keys : s.activeExecutions.keys.Perm (s.executing.map EntryCall.requestId)
  bounded : s.executing.length < 2 ^ 32

namespace Inv

variable {s s' : ActiveExecutions} {call : EntryCall}

theorem start (h : s.Inv) (hapart : call.requestId ∉ s.executing.map EntryCall.requestId)
    (hbounded : s.executing.length + 1 < 2 ^ 32) :
    Inv { s.markExecutionStarted call.requestId with
      accepted := s.accepted.erase call, executing := call :: s.executing } where
  keys := by
    change (s.activeExecutions.insert call.requestId s.nowMs).keys.Perm
      (call.requestId :: s.executing.map EntryCall.requestId)
    rw [AList.keys_insert, List.erase_of_not_mem fun hmem => hapart (h.keys.mem_iff.mp hmem)]
    exact h.keys.cons _
  bounded := hbounded

theorem finish (h : s.Inv) (hcall : call ∈ s.executing) :
    Inv { s.markExecutionFinished call.requestId with executing := s.executing.erase call } where
  keys := by
    change (s.activeExecutions.erase call.requestId).keys.Perm
      ((s.executing.erase call).map EntryCall.requestId)
    have hids : (s.executing.map EntryCall.requestId).Perm
        (call.requestId :: (s.executing.erase call).map EntryCall.requestId) :=
      (List.perm_cons_erase hcall).map EntryCall.requestId
    rw [AList.keys_erase, ← List.erase_cons_head call.requestId (List.map _ _)]
    exact (h.keys.trans hids).erase _
  bounded := (List.length_erase_le ..).trans_lt h.bounded

theorem step {maxRequestBytes : UInt32} (h : s.Inv) {a : ExecutionAction} (hok : s.IdsApart a)
    (hs : (entryExecutions maxRequestBytes).step s a = some s') : s'.Inv := by
  cases a with
  | advance nowMs =>
    obtain ⟨-, rfl⟩ := Option.ite_none_right_eq_some.mp hs |>.imp_right Option.some.inj
    exact ⟨h.keys, h.bounded⟩
  | pop entry =>
    simp only [entryExecutions] at hs
    split at hs <;> cases hs <;> exact ⟨h.keys, h.bounded⟩
  | markStarted call =>
    obtain ⟨-, rfl⟩ := Option.ite_none_right_eq_some.mp hs |>.imp_right Option.some.inj
    exact h.start hok.1 hok.2
  | markFinished call =>
    obtain ⟨hcall, rfl⟩ := Option.ite_none_right_eq_some.mp hs |>.imp_right Option.some.inj
    exact h.finish hcall

theorem countExact (h : s.Inv) : s.CountExact := by
  have hlength : s.activeExecutions.keys.length = s.executing.length := by
    rw [h.keys.length_eq, List.length_map]
  have hbounded := h.bounded
  rw [CountExact, getRuntimeStats, hlength]
  exact UInt32.toNat_ofNat_of_lt' hbounded

end Inv

end ActiveExecutions

open ActiveExecutions

/-- In every run in which the executions that run at the same time have different ids, and are
fewer than `2 ^ 32`, the number that `GetRuntimeStats` reports is that of the executions. -/
theorem countExact_of_reach {maxRequestBytes : UInt32} {s : ActiveExecutions}
    (h : (entryExecutions maxRequestBytes).Reach IdsApart s) : s.CountExact := by
  have hinv : s.Inv := by
    refine Machine.Reach.invariant ⟨.refl _, ?_⟩ (fun s a s' hinv hok hs => hinv.step hok hs) h
    exact Nat.two_pow_pos 32
  exact hinv.countExact

/-- Two executions with the given ids, and the end of the first. -/
def twoExecutionsRun (first second : UInt64) : List ExecutionAction :=
  [.pop { requestId := first }, .pop { requestId := second }, .markStarted ⟨0, first⟩,
    .advance 30, .markStarted ⟨1, second⟩, .markFinished ⟨0, first⟩]

theorem countExact_twoExecutions :
    ∃ s, (entryExecutions 4096).runOk IdsApart (entryExecutions 4096).init
        (twoExecutionsRun 1 2) = some s ∧ s.CountExact ∧ s.executing = [⟨1, 2⟩] := by
  obtain ⟨s, hrun, hexecuting⟩ := Machine.exists_of_any
    (o := (entryExecutions 4096).runOk IdsApart (entryExecutions 4096).init (twoExecutionsRun 1 2))
    (P := fun s => s.executing = [⟨1, 2⟩]) (by decide +kernel)
  exact ⟨s, hrun, countExact_of_reach (Machine.reach_of_runOk _ hrun), hexecuting⟩

/-- With equal ids, the second execution is not counted once the first has finished. -/
theorem not_countExact_of_equalIds :
    ∃ s, (entryExecutions 4096).Reach Machine.Always s ∧ ¬ s.CountExact ∧
      s.executing = [⟨1, 1⟩] ∧ s.getRuntimeStats.activeRequestExecutions = 0 := by
  obtain ⟨s, hrun, hlost⟩ := Machine.exists_of_any
    (o := (entryExecutions 4096).run (entryExecutions 4096).init (twoExecutionsRun 1 1))
    (P := fun s => ¬ s.CountExact ∧ s.executing = [⟨1, 1⟩] ∧
      s.getRuntimeStats.activeRequestExecutions = 0) (by decide +kernel)
  exact ⟨s, Machine.reach_of_run _ hrun, hlost⟩

end MemRpc
