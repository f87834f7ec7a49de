import MemRpc.Rpc.ClientLifetime

/-!
# The lifecycle mutex over the life of a client

Every thread takes `lifecycleMutex_` around its functions under it and gives it back, also
the threads of `Init` and `Shutdown`. A report is delivered and a session is attached before
its thread does anything else, and the mutex is held meanwhile.

## Main definitions

* `Apart`, `Within`: what a thread has to do without and with the mutex.
* `MutexInv`.

## Main results

* `MutexInv.of_reach`.
-/

namespace MemRpc

open Concurrency RpcClient

variable {t u : ClientThread} {answer : ClientAnswer} {s s' : Lifetime}
  {r r' : LifetimeRuntime} {a : LifetimeAction} {op : LifetimeOp} {ops next rest : List LifetimeOp}

/-! ## What a thread has to do -/

/-- The operations of a thread without the mutex, its sections apart. -/
def LifetimeOp.isFree : LifetimeOp → Bool
  | .client .lock | .client .unlock | .client (.recovery _) | .attach .. | .deliver _ => false
  | _ => true

/-- The operations under the mutex, `EnterTerminalClosed` apart. -/
def LifetimeOp.isHeld : LifetimeOp → Bool
  | .client (.recovery .enterTerminalClosed) => false
  | .client (.recovery _) | .client (.resolve ..) | .attach .. | .deliver _ => true
  | _ => false

/-- The operations that follow at once on the step that leaves them to do. -/
def LifetimeOp.isUrgent : LifetimeOp → Bool
  | .attach .. | .deliver _ => true
  | _ => false

/-- What a thread without the mutex has to do. -/
inductive Apart : List LifetimeOp → Prop
  | nil : Apart []
  | free {op : LifetimeOp} {rest : List LifetimeOp} (hop : op.isFree = true) (h : Apart rest) :
      Apart (op :: rest)
  | enter {o : RecoveryOp} {rest : List LifetimeOp} (ho : o.isSection = true) (h : Apart rest) :
      Apart (.client .lock :: .client (.recovery o) :: .client .unlock :: rest)
  | close {rest : List LifetimeOp} (h : Apart rest) : Apart (closeSection ++ rest)

/-- What the holder of the mutex has to do. `EnterTerminalClosed` comes last. -/
inductive Within : List LifetimeOp → Prop
  | leave {rest : List LifetimeOp} (h : Apart rest) : Within (.client .unlock :: rest)
  | held {op : LifetimeOp} {rest : List LifetimeOp} (hop : op.isHeld = true) (h : Within rest) :
      Within (op :: rest)
  | terminal {rest : List LifetimeOp} (h : Apart rest) :
      Within (.client (.recovery .enterTerminalClosed) :: .client .unlock :: rest)

theorem Apart.append (h : Apart ops) (hrest : Apart rest) : Apart (ops ++ rest) := by
  induction h with
  | nil => exact hrest
  | free hop _ ih => exact .free hop ih
  | enter ho _ ih => exact .enter ho ih
  | close _ ih =>
    rw [List.append_assoc]
    exact .close ih

theorem Outside.apart {ops : List ClientOp} (h : Outside ops) : Apart (ops.map .client) := by
  induction h with
  | nil => exact .nil
  | @plain op rest hop _ ih =>
    have hfree : (LifetimeOp.client op).isFree = true := by
      cases op with
      | lock | unlock | resolve call reply | recovery o => cases hop
      | _ => rfl
    exact .free hfree ih
  | resolve _ ih => exact .free rfl ih
  | enter ho _ ih => exact .enter ho ih

theorem Within.append (hops : ops.Forall fun op => op.isHeld = true) (h : Within rest) :
    Within (ops ++ rest) := by
  induction ops with
  | nil => exact h
  | cons op ops ih =>
    obtain ⟨hop, htail⟩ := (List.forall_cons _ _ _).mp hops
    exact .held hop (ih htail)

/-- The first operation of a thread without the mutex. -/
theorem Apart.of_cons (h : Apart (op :: rest)) :
    op.isFree = true ∧ Apart rest ∨ op = .client .lock ∧ Within rest := by
  cases h with
  | free hop h => exact .inl ⟨hop, h⟩
  | @enter o rest ho h =>
    refine .inr ⟨rfl, .held ?_ (.leave h)⟩
    cases o with
    | enterTerminalClosed => cases ho
    | _ => rfl
  | close h => exact .inr ⟨rfl, .held rfl (.terminal h)⟩

/-! ## What an operation leaves to do -/

theorem LifetimeMove.apart (hm : LifetimeMove t answer s op s' next) (hop : op.isFree = true) :
    Apart next := by
  cases hm with
  | bootstrap | refused | recovery | attached | attachFailed | deliver => cases hop
  | @other o c next ho h =>
    cases o with
    | lock | unlock => cases hop
    | resolve call reply =>
      cases h
      exact .nil
    | recovery o => exact absurd rfl (ho o)
    | _ => exact (ClientOp.outside_exec rfl h).apart
  | initAgain hrunning hl =>
    rcases hl with rfl | rfl
    · exact .nil
    · exact .enter rfl .nil
  | @initFirst mode =>
    cases mode with
    | eagerSession => exact .free rfl (.free rfl (.free rfl (.enter rfl (.free rfl .nil))))
    | lazySession => exact .free rfl (.free rfl (.free rfl (.free rfl .nil)))
  | startRuntime => exact .free rfl (.free rfl (.free rfl .nil))
  | initAdmitted | initEnsured | initFailed => exact .free rfl .nil
  | beginShutdown =>
    exact .close (.free rfl (.free rfl (.free rfl (.free rfl (.free rfl .nil)))))
  | stopRuntime => exact .free rfl (.free rfl (.free rfl (.free rfl (.free rfl .nil))))
  | _ => exact .nil

/-- A function that makes a transition has its report to deliver. -/
theorem Lifetime.deliveries_cases (s : Lifetime) (o : RecoveryOp) (c : RpcClient) :
    s.deliveries o c = [] ∨ ∃ report, s.deliveries o c = [.deliver report] := by
  unfold Lifetime.deliveries RecoveryOp.reports
  split
  · split
    · exact .inr ⟨_, rfl⟩
    · exact .inl rfl
  · exact .inl rfl

theorem LifetimeMove.held (hm : LifetimeMove t answer s op s' next)
    (hop : op.isHeld = true ∨ op = .client (.recovery .enterTerminalClosed)) :
    next.Forall fun op => op.isHeld = true := by
  cases hm with
  | bootstrap | refused | attached | attachFailed => exact rfl
  | deliver => trivial
  | @recovery o c next ensured overtaken ho h hovertaken =>
    have hmove := RecoveryMove.of_exec h
    refine List.forall_append.mpr ⟨?_, ?_⟩
    · rcases s.deliveries_cases o c with h | ⟨report, h⟩ <;> rw [h]
      · trivial
      · exact rfl
    refine List.forall_iff_forall_mem.mpr fun op hop => ?_
    obtain ⟨o, ho, rfl⟩ := List.mem_map.mp hop
    have hlocked := List.forall_iff_forall_mem.mp hmove.locked o ho
    cases o with
    | recovery o =>
      cases o with
      | enterTerminalClosed => exact absurd ho hmove.not_terminal
      | _ => rfl
    | resolve call reply => rfl
    | _ => cases hlocked
  | @other o c next ho h =>
    cases o with
    | resolve call reply =>
      cases h
      trivial
    | recovery o => exact absurd rfl (ho o)
    | _ => rcases hop with hop | hop <;> cases hop
  | _ => rcases hop with hop | hop <;> cases hop

theorem LifetimeMove.mutex (hm : LifetimeMove t answer s op s' next) (hlock : op ≠ .client .lock)
    (hunlock : op ≠ .client .unlock) : s'.client.lifecycleMutex = s.client.lifecycleMutex := by
  cases hm with
  | @recovery o c next ensured overtaken ho h hovertaken =>
    have hframed : Framed s.client c (.recovery o) := ClientOp.framed (t := t) h
    exact hframed.lifecycleMutex nofun nofun
  | other ho h =>
    refine (ClientOp.framed h).lifecycleMutex ?_ ?_
    · rintro rfl
      exact hlock rfl
    · rintro rfl
      exact hunlock rfl
  | _ => rfl

theorem LifetimeMove.lock (hm : LifetimeMove t answer s (.client .lock) s' next) :
    s.client.lifecycleMutex = none ∧ s'.client.lifecycleMutex = some t ∧ next = [] := by
  cases hm with
  | other ho h =>
    obtain ⟨hfree, hmutex, rfl⟩ := ClientOp.lock_exec h
    exact ⟨hfree, hmutex, rfl⟩

theorem LifetimeMove.unlock (hm : LifetimeMove t answer s (.client .unlock) s' next) :
    s'.client.lifecycleMutex = none ∧ next = [] := by
  cases hm with
  | other ho h =>
    obtain ⟨hmutex, rfl⟩ := ClientOp.unlock_exec h
    exact ⟨hmutex, rfl⟩

theorem forall_client (ops : List ClientOp) :
    (ops.map LifetimeOp.client).Forall fun op => op.isUrgent = false :=
  forall_map fun _ => rfl

theorem forall_tail {P : LifetimeOp → Prop} (h : ops.Forall P) : ops.tail.Forall P := by
  cases ops with
  | nil => exact h
  | cons op ops => exact ((List.forall_cons _ _ _).mp h).2

/-- Only the first operation of what a step leaves to do is urgent. -/
theorem LifetimeMove.urgent (hm : LifetimeMove t answer s op s' next) :
    next.tail.Forall fun op => op.isUrgent = false := by
  cases hm with
  | @recovery o c next ensured overtaken ho h hovertaken =>
    rcases s.deliveries_cases o c with h | ⟨report, h⟩ <;> rw [h]
    · exact forall_tail (forall_client next)
    · exact forall_client next
  | other ho h => exact forall_tail (forall_client _)
  | initAgain hrunning hl =>
    rcases hl with rfl | rfl
    · trivial
    · exact ⟨rfl, rfl⟩
  | @initFirst mode =>
    cases mode with
    | eagerSession => exact ⟨rfl, rfl, rfl, rfl, rfl, rfl⟩
    | lazySession => exact ⟨rfl, rfl, rfl⟩
  | startRuntime => exact ⟨rfl, rfl⟩
  | beginShutdown => exact ⟨rfl, rfl, rfl, rfl, rfl, rfl, rfl, rfl⟩
  | stopRuntime => exact ⟨rfl, rfl, rfl, rfl⟩
  | _ => trivial

/-! ## The invariant -/

/-- What thread `t` has to do, where `m` is the holder of the mutex. -/
structure Placed (m : Option ClientThread) (t : ClientThread) (ops : List LifetimeOp) : Prop where
  within : m = some t → Within ops
  apart : m ≠ some t → Apart ops
  urgent : ops.tail.Forall fun op => op.isUrgent = false

theorem Placed.congr {m m' : Option ClientThread} (h : Placed m t ops)
    (hm : m' = some t ↔ m = some t) : Placed m' t ops :=
  ⟨fun hheld => h.within (hm.mp hheld), fun hfree => h.apart (mt hm.mpr hfree), h.urgent⟩

/-- The discipline of the mutex. -/
def MutexInv (r : LifetimeRuntime) : Prop :=
  ∀ t, Placed r.shared.client.lifecycleMutex t (r.ops t)

variable {program : List LifetimeOp}

namespace MutexInv

/-- A function under the mutex is executed by its holder, and so is what is urgent. -/
theorem holder (h : MutexInv r) (hops : r.ops t = op :: rest) (hop : op.isFree = false)
    (hlock : op ≠ .client .lock) : r.shared.client.lifecycleMutex = some t := by
  by_contra hne
  have hapart := (h t).apart hne
  rw [hops] at hapart
  rcases hapart.of_cons with ⟨hfree, -⟩ | ⟨rfl, -⟩
  · rw [hop] at hfree
    cases hfree
  · exact hlock rfl

theorem urgent_append (h : MutexInv r) (hops : r.ops t = op :: rest)
    (hnext : next.tail.Forall fun op => op.isUrgent = false) :
    (next ++ rest).tail.Forall fun op => op.isUrgent = false := by
  have hrest := (h t).urgent
  rw [hops, List.tail_cons] at hrest
  cases next with
  | nil => exact forall_tail hrest
  | cons op next => exact List.forall_append.mpr ⟨hnext, hrest⟩

/-- The holder executes an operation. -/
theorem placed_of_held (h : MutexInv r) (hops : r.ops t = op :: rest)
    (hm : LifetimeMove t answer r.shared op r'.shared next)
    (hheld : r.shared.client.lifecycleMutex = some t) :
    Placed r'.shared.client.lifecycleMutex t (next ++ rest) ∧
      ∀ u ≠ t, (r'.shared.client.lifecycleMutex = some u ↔ (some t : Option _) = some u) := by
  have hwithin := (h t).within hheld
  have hurgent := h.urgent_append hops hm.urgent
  rw [hops] at hwithin
  cases hwithin with
  | leave hrest =>
    obtain ⟨hmutex, rfl⟩ := hm.unlock
    rw [hmutex]
    exact ⟨⟨nofun, fun _ => hrest, hurgent⟩, fun u hu => by simp [Ne.symm hu]⟩
  | held hop hrest =>
    have hmutex := hm.mutex (by rintro rfl; cases hop) (by rintro rfl; cases hop)
    rw [hmutex, hheld]
    have hwithin : Within (next ++ _) := .append (hm.held (.inl hop)) hrest
    exact ⟨⟨fun _ => hwithin, absurd rfl, hurgent⟩, fun _ _ => Iff.rfl⟩
  | terminal hrest =>
    rw [hm.mutex nofun nofun, hheld]
    have hwithin : Within (next ++ _) := .append (hm.held (.inr rfl)) (.leave hrest)
    exact ⟨⟨fun _ => hwithin, absurd rfl, hurgent⟩, fun _ _ => Iff.rfl⟩

/-- Another thread executes an operation. -/
theorem placed_of_free (h : MutexInv r) (hops : r.ops t = op :: rest)
    (hm : LifetimeMove t answer r.shared op r'.shared next)
    (hfree : r.shared.client.lifecycleMutex ≠ some t) :
    Placed r'.shared.client.lifecycleMutex t (next ++ rest) ∧
      ∀ u ≠ t, (r'.shared.client.lifecycleMutex = some u ↔
        r.shared.client.lifecycleMutex = some u) := by
  have hapart := (h t).apart hfree
  have hurgent := h.urgent_append hops hm.urgent
  rw [hops] at hapart
  rcases hapart.of_cons with ⟨hop, hrest⟩ | ⟨rfl, hrest⟩
  · have hmutex := hm.mutex (by rintro rfl; cases hop) (by rintro rfl; cases hop)
    rw [hmutex]
    exact ⟨⟨(absurd · hfree), fun _ => (hm.apart hop).append hrest, hurgent⟩, fun _ _ => Iff.rfl⟩
  · obtain ⟨hnone, hsome, rfl⟩ := hm.lock
    rw [hnone, hsome]
    exact ⟨⟨fun _ => hrest, absurd rfl, hurgent⟩, fun u hu => by simp [Ne.symm hu]⟩

theorem exec (h : MutexInv r) (hops : r.ops t = op :: rest)
    (hm : LifetimeMove t answer r.shared op r'.shared next)
    (hops' : r'.ops = Function.update r.ops t (next ++ rest)) : MutexInv r' := by
  have hplaced : Placed r'.shared.client.lifecycleMutex t (next ++ rest) ∧
      ∀ u ≠ t, (r'.shared.client.lifecycleMutex = some u ↔
        r.shared.client.lifecycleMutex = some u) := by
    by_cases hheld : r.shared.client.lifecycleMutex = some t
    · rw [hheld]
      exact h.placed_of_held hops hm hheld
    · exact h.placed_of_free hops hm hheld
  intro u
  rw [hops']
  by_cases hut : u = t
  · subst hut
    rw [Function.update_self]
    exact hplaced.1
  · rw [Function.update_of_ne hut]
    exact (h u).congr (hplaced.2 u hut)

/-- An idle thread is given a program. -/
theorem start (h : MutexInv r) (hidle : r.ops t = [])
    (hops' : r'.ops = Function.update r.ops t program)
    (hmutex : r'.shared.client.lifecycleMutex = r.shared.client.lifecycleMutex)
    (hprogram : Apart program) (hurgent : program.tail.Forall fun op => op.isUrgent = false) :
    MutexInv r' := by
  have hfree : r.shared.client.lifecycleMutex ≠ some t := by
    intro hheld
    have hwithin := (h t).within hheld
    rw [hidle] at hwithin
    cases hwithin
  intro u
  rw [hops', hmutex]
  by_cases hut : u = t
  · subst hut
    rw [Function.update_self]
    exact ⟨(absurd · hfree), fun _ => hprogram, hurgent⟩
  · rw [Function.update_of_ne hut]
    exact h u

end MutexInv

theorem Starts.apart (h : Starts s t program) : Apart program := by
  cases h with
  | @call n entry henabled =>
    cases entry with
    | engineDied dead => exact .free rfl (.free rfl .nil)
    | _ => exact .free rfl .nil
  | retry => exact .free rfl .nil
  | run hw =>
    cases t with
    | submit | response | watchdog => exact .free rfl .nil
    | _ => exact .nil

theorem Starts.not_urgent (h : Starts s t program) :
    program.Forall fun op => op.isUrgent = false := by
  cases h with
  | @call n entry henabled =>
    cases entry with
    | engineDied dead => exact ⟨rfl, rfl⟩
    | _ => exact rfl
  | retry => exact rfl
  | run hw => exact forall_client _

theorem MutexInv.step (h : MutexInv r) (hs : LifetimeStep r r' a) : MutexInv r' := by
  cases hs with
  | exec hops hmove hops' => exact h.exec hops hmove hops'
  | start hidle hprogram hcreated hshared hops' =>
    exact h.start hidle hops' (by rw [hshared]) hprogram.apart
      (forall_tail hprogram.not_urgent)
  | tick hshared hops' =>
    intro u
    rw [hops', hshared]
    exact h u

theorem MutexInv.of_reach {ok : LifetimeRuntime → LifetimeAction → Prop}
    (h : clientLifetime.Reach ok r) : MutexInv r := by
  refine Machine.Reach.invariant ?_ ?_ h
  · exact fun _ => ⟨nofun, fun _ => .nil, trivial⟩
  · exact fun _ _ _ hinv _ hs => hinv.step (.of_step hs)

end MemRpc
