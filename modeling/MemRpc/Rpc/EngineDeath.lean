import MemRpc.Rpc.LifetimeShutdown

/-!
# The death of an engine

The bootstrap channel calls its death callback with the id of a session that it has returned. The
callback loads the id of the current session, takes the mutex, and closes that session if it is the
dead one. The client publishes the id of a session some steps after the channel has returned it, and
it handles a death only while the API is open. A callback that comes before the publication compares
with another id, and one that comes before `Init` has opened the API is turned away; both return,
and the dead session becomes, or stays, the current one (`death_lost`).

If neither happens (`ReportSeen`), no death is lost: once the callback has returned, the dead
session is not the current one, and it never is again.

## Main definitions

* `Known`, `Gone`: what becomes of a session.
* `Promise`: what the thread of a callback has still to do.

## Main results

* `death_not_lost`.
-/

namespace MemRpc

open Concurrency RpcClient

variable {t u : ClientThread} {answer : ClientAnswer} {s s' : Lifetime}
  {r r' : LifetimeRuntime} {a : LifetimeAction} {op o : LifetimeOp}
  {ops next rest : List LifetimeOp} {ok : LifetimeRuntime → LifetimeAction → Prop} {dead : ℕ}

/-! ## Sessions come and go -/

/-- The channel has returned the session, and it is not about to be published. -/
structure Known (s : Lifetime) (dead : ℕ) : Prop where
  opened : dead ≤ s.client.opened
  published : s.opening ≠ some dead

/-- The session is not the current one, and will not be. -/
structure Gone (s : Lifetime) (dead : ℕ) : Prop extends Known s dead where
  session : s.client.session ≠ dead

/-- What a step does to the sessions. -/
inductive SessionMove (s s' : Lifetime) : LifetimeOp → Prop
  | opens {reports : Bool} (hopened : s'.client.opened = s.client.opened + 1)
      (hopening : s'.opening = some (s.client.opened + 1))
      (hsession : s'.client.session = s.client.session) :
      SessionMove s s' (.client (.recovery (.openSession reports)))
  | attaches {reports : Bool} {session : ℕ} (hopened : s'.client.opened = s.client.opened)
      (hopening : s'.opening = none)
      (hsession : s'.client.session = s.client.session ∨ s'.client.session = session) :
      SessionMove s s' (.attach reports session)
  | other {op : LifetimeOp} (hopened : s'.client.opened = s.client.opened)
      (hopening : s'.opening = s.opening)
      (hsession : s'.client.session = s.client.session ∨ s'.client.session = 0) :
      SessionMove s s' op

theorem RecoveryMove.sessionMove {o : RecoveryOp} {c c' : RpcClient} {next : List ClientOp}
    (hm : RecoveryMove c answer o c' next) (ho : ∀ reports, o ≠ .openSession reports) :
    c'.opened = c.opened ∧ (c'.session = c.session ∨ c'.session = 0) := by
  cases hm with
  | opened | openRefused => exact absurd rfl (ho _)
  | close | closeLive => exact ⟨rfl, .inr rfl⟩
  | _ => exact ⟨rfl, .inl rfl⟩

theorem LifetimeMove.sessionMove (hm : LifetimeMove t answer s op s' next) :
    SessionMove s s' op := by
  cases hm with
  | bootstrap => exact .opens rfl rfl rfl
  | recovery ho h hovertaken =>
    obtain ⟨hopened, hsession⟩ := (RecoveryMove.of_exec h).sessionMove ho
    exact .other hopened rfl hsession
  | other ho h =>
    have hinterferes := ClientOp.interferes ho h
    exact .other hinterferes.opened rfl (.inl hinterferes.session)
  | attached => exact .attaches rfl rfl (.inr rfl)
  | attachFailed => exact .attaches rfl rfl (.inl rfl)
  | _ => exact .other rfl rfl (.inl rfl)

theorem Known.move (h : Known s dead) (hm : SessionMove s s' op) : Known s' dead := by
  cases hm with
  | opens hopened hopening hsession =>
    refine ⟨hopened ▸ Nat.le_succ_of_le h.opened, ?_⟩
    rw [hopening]
    intro heq
    have := Option.some.inj heq
    have := h.opened
    omega
  | attaches hopened hopening hsession => exact ⟨hopened ▸ h.opened, hopening ▸ nofun⟩
  | other hopened hopening hsession => exact ⟨hopened ▸ h.opened, hopening ▸ h.published⟩

/-- A session that is gone stays so, since only a session that is about to be published becomes the
current one. -/
theorem Gone.move (h : Gone s dead) (hdead : dead ≠ 0) (hm : SessionMove s s' op)
    (hattach : ∀ reports session, op = .attach reports session → s.opening = some session) :
    Gone s' dead := by
  refine ⟨h.toKnown.move hm, ?_⟩
  cases hm with
  | opens hopened hopening hsession =>
    rw [hsession]
    exact h.session
  | attaches hopened hopening hsession =>
    rcases hsession with hsame | hnew
    · rw [hsame]
      exact h.session
    · rw [hnew]
      rintro rfl
      exact h.published (hattach _ _ rfl)
  | other hopened hopening hsession =>
    rcases hsession with hsame | hzero
    · rw [hsame]
      exact h.session
    · rw [hzero]
      exact Ne.symm hdead

/-! ## Sessions that are about to be published -/

/-- What is urgent comes first, and its thread holds the mutex. -/
theorem MutexInv.urgent_head (h : MutexInv r) (ho : o ∈ r.ops u) (hurgent : o.isUrgent = true) :
    r.shared.client.lifecycleMutex = some u := by
  cases hops : r.ops u with
  | nil =>
    rw [hops] at ho
    cases ho
  | cons op rest =>
    have htail := (h u).urgent
    rw [hops] at ho htail
    rcases List.mem_cons.mp ho with rfl | hrest
    · cases o with
      | attach | deliver => exact h.holder hops rfl nofun
      | _ => cases hurgent
    · rw [List.forall_iff_forall_mem.mp htail o hrest] at hurgent
      cases hurgent

/-- What a step that leads to state `s'` can leave to do: it attaches only the session that it has
just opened, and no step leaves the return of a callback. -/
def LeftTo (s' : Lifetime) : LifetimeOp → Prop
  | .attach _ session => s'.opening = some session
  | .deathReturned _ => False
  | _ => True

theorem LifetimeMove.leftTo (hm : LifetimeMove t answer s op s' next) :
    next.Forall (LeftTo s') := by
  cases hm with
  | bootstrap => exact rfl
  | @recovery o c next ensured overtaken ho h hovertaken =>
    refine List.forall_append.mpr ⟨?_, forall_map fun _ => trivial⟩
    rcases s.deliveries_cases o c with h | ⟨report, h⟩ <;> rw [h] <;> trivial
  | other ho h => exact forall_map fun _ => trivial
  | initAgain hrunning hl =>
    rcases hl with rfl | rfl
    · trivial
    · exact ⟨trivial, trivial, trivial⟩
  | @initFirst mode =>
    cases mode with
    | eagerSession => exact ⟨trivial, trivial, trivial, trivial, trivial, trivial, trivial⟩
    | lazySession => exact ⟨trivial, trivial, trivial, trivial⟩
  | startRuntime => exact ⟨trivial, trivial, trivial⟩
  | beginShutdown =>
    exact ⟨trivial, trivial, trivial, trivial, trivial, trivial, trivial, trivial, trivial⟩
  | stopRuntime => exact ⟨trivial, trivial, trivial, trivial, trivial⟩
  | _ => trivial

/-- The session that is being attached is the one that is about to be published. -/
def AttachInv (r : LifetimeRuntime) : Prop :=
  ∀ t reports session, .attach reports session ∈ r.ops t → r.shared.opening = some session

theorem AttachInv.exec (h : AttachInv r) (hmutex : MutexInv r) (hops : r.ops t = op :: rest)
    (hm : LifetimeMove t answer r.shared op r'.shared next)
    (hops' : r'.ops = Function.update r.ops t (next ++ rest)) : AttachInv r' := by
  intro u reports session ho
  rw [hops'] at ho
  by_cases hut : u = t
  · subst hut
    rw [Function.update_self] at ho
    rcases List.mem_append.mp ho with hnext | hrest
    · exact List.forall_iff_forall_mem.mp hm.leftTo _ hnext
    · have htail := (hmutex u).urgent
      rw [hops] at htail
      cases List.forall_iff_forall_mem.mp htail _ hrest
  · -- the thread of the other session holds the mutex, so this step opens and attaches none
    rw [Function.update_of_ne hut] at ho
    have hheld := hmutex.urgent_head ho rfl
    have hother : op.isFree = false → op ≠ .client .lock → False := by
      intro hfree hlock
      have hholder := hmutex.holder hops hfree hlock
      rw [hheld] at hholder
      exact hut (Option.some.inj hholder)
    cases hm.sessionMove with
    | opens | attaches => exact (hother rfl nofun).elim
    | other hopened hopening hsession =>
      rw [hopening]
      exact h u reports session ho

theorem AttachInv.of_reach (h : clientLifetime.Reach ok r) : AttachInv r := by
  refine Machine.Reach.invariant_of_reach ?_ ?_ h
  · intro t reports session ho
    cases ho
  intro r a r' hreach hinv _ hs
  cases LifetimeStep.of_step hs with
  | exec hops hmove hops' => exact hinv.exec (.of_reach hreach) hops hmove hops'
  | start hidle hprogram hcreated hshared hops' =>
    intro u reports session ho
    rw [hops'] at ho
    rw [hshared]
    rcases Pool.mem_start ho with hold | ⟨-, hnew⟩
    · exact hinv u reports session hold
    · cases List.forall_iff_forall_mem.mp hprogram.not_urgent _ hnew
  | tick hshared hops' =>
    rw [AttachInv, hops', hshared]
    exact hinv

/-- What a step of the machine does not undo. -/
structure Onward (s s' : Lifetime) : Prop where
  opened : s.client.opened ≤ s'.client.opened
  known : ∀ dead, Known s dead → Known s' dead
  gone : ∀ dead ≠ 0, Gone s dead → Gone s' dead
  ending : s.ending → s'.ending

theorem Onward.of_step (h : clientLifetime.Reach ok r) (hs : LifetimeStep r r' a) :
    Onward r.shared r'.shared := by
  cases hs with
  | @exec t answer op rest next hops hmove hops' =>
    have hsession := hmove.sessionMove
    have hattach : ∀ reports session, op = .attach reports session →
        r.shared.opening = some session := by
      rintro reports session rfl
      exact AttachInv.of_reach h t reports session (hops ▸ List.mem_cons_self)
    refine ⟨?_, fun _ hknown => hknown.move hsession,
      fun _ hdead hgone => hgone.move hdead hsession hattach, hmove.ending⟩
    cases hsession with
    | opens hopened hopening hsession => exact hopened ▸ Nat.le_succ _
    | attaches hopened | other hopened => exact hopened ▸ le_rfl
  | start hidle hprogram hcreated hshared | tick hshared =>
    rw [hshared]
    exact ⟨le_rfl, fun _ h => ⟨h.opened, h.published⟩,
      fun _ _ h => ⟨⟨h.opened, h.published⟩, h.session⟩, id⟩

/-! ## The death callback -/

/-- The threads of the callers. -/
def ClientThread.isExternal : ClientThread → Bool
  | .external _ => true
  | _ => false

/-- The session whose death the callback is about to compare with the current one. -/
def LifetimeOp.reportedDeath : LifetimeOp → Option ℕ
  | .client (.caller (.engineDied dead)) => some dead
  | _ => none

/-- The session whose death `HandleEngineDeath` is about to handle. -/
def LifetimeOp.handledDeath : LifetimeOp → Option ℕ
  | .client (.recovery (.handleDeath _ dead _)) => some dead
  | _ => none

/-- The callback does not come between the return of the channel and the publication of its
session, and the callback for the current session finds the API open. -/
def ReportSeen (s : Lifetime) (t : ClientThread) (op : LifetimeOp) : Prop :=
  (∀ dead ∈ op.reportedDeath, s.opening ≠ some dead) ∧
    (t.isExternal = true → ∀ dead ∈ op.handledDeath,
      s.client.control = .uninitialized → s.client.session = dead → dead = 0)

instance (s : Lifetime) (t : ClientThread) (op : LifetimeOp) : Decidable (ReportSeen s t op) :=
  inferInstanceAs (Decidable (_ ∧ _))

/-- What the thread of a callback for session `dead` has still to do. -/
inductive Promise (s : Lifetime) (dead : ℕ) : List LifetimeOp → Prop
  | called (hopened : dead ≤ s.client.opened) :
      Promise s dead [.client (.caller (.engineDied dead)), .deathReturned dead]
  | waiting {cause : Option ℕ} (hknown : Known s dead) :
      Promise s dead [.client .lock, .client (.recovery (.handleDeath dead dead cause)),
        .client .unlock, .deathReturned dead]
  | entered {cause : Option ℕ} (hknown : Known s dead) :
      Promise s dead [.client (.recovery (.handleDeath dead dead cause)), .client .unlock,
        .deathReturned dead]
  | closing {cause : Option ℕ} {rest : List LifetimeOp} (hknown : Known s dead) :
      Promise s dead (.client (.recovery (.closeIfMatches .death dead cause)) :: rest)
  | kept {ops : List LifetimeOp} (h : Gone s dead ∨ s.ending) : Promise s dead ops

theorem Onward.kept (h : Onward s s') (hdead : dead ≠ 0) (hkept : Gone s dead ∨ s.ending) :
    Gone s' dead ∨ s'.ending :=
  hkept.imp (h.gone dead hdead) h.ending

/-- Another thread takes a step. -/
theorem Promise.mono (h : Promise s dead ops) (hdead : dead ≠ 0) (honward : Onward s s') :
    Promise s' dead ops := by
  cases h with
  | called hopened => exact .called (hopened.trans honward.opened)
  | waiting hknown => exact .waiting (honward.known dead hknown)
  | entered hknown => exact .entered (honward.known dead hknown)
  | closing hknown => exact .closing (honward.known dead hknown)
  | kept hkept => exact .kept (honward.kept hdead hkept)

/-- The callback loads the id of the current session. -/
theorem Promise.report (hopened : dead ≤ s.client.opened) (hseen : s.opening ≠ some dead)
    (hm : LifetimeMove t answer s (.client (.caller (.engineDied dead))) s' next) :
    Promise s' dead (next ++ [.deathReturned dead]) := by
  cases hm with
  | other ho h =>
    cases h
    by_cases hsession : s.client.session = dead
    · rw [hsession]
      exact .waiting ⟨hopened, hseen⟩
    · exact .kept (.inl ⟨⟨hopened, hseen⟩, hsession⟩)

/-- `HandleEngineDeath` looks at the API state and at the current session. -/
theorem Promise.handle {cause : Option ℕ} (hknown : Known s dead) (hdead : dead ≠ 0)
    (hseen : s.client.control = .uninitialized → s.client.session = dead → dead = 0)
    (hm : LifetimeMove t answer s (.client (.recovery (.handleDeath dead dead cause))) s' next) :
    Promise s' dead (next ++ rest) := by
  cases hm with
  | other ho h => exact absurd rfl (ho _)
  | recovery ho h hovertaken =>
    rw [s.deliveries_of_transition rfl]
    simp only [RecoveryOp.exec] at h
    split at h <;> cases h
    · exact .closing ⟨hknown.opened, hknown.published⟩
    · rename_i hignored
      refine .kept ?_
      by_cases hsession : s.client.session = dead
      · right
        cases hcontrol : s.client.control with
        | uninitialized => exact absurd (hseen hcontrol hsession) hdead
        | opened => simp [hcontrol, hsession, hdead] at hignored
        | closing => exact .inl hcontrol
        | closed => exact .inr hcontrol
      · exact .inl ⟨⟨hknown.opened, hknown.published⟩, hsession⟩

/-- `CloseLiveSessionIfMatches` closes the dead session, or finds another one. -/
theorem Gone.of_close {cause : Option ℕ} (hknown : Known s dead) (hdead : dead ≠ 0)
    (hm : LifetimeMove t answer s (.client (.recovery (.closeIfMatches .death dead cause)))
      s' next) : Gone s' dead := by
  cases hm with
  | other ho h => exact absurd rfl (ho _)
  | recovery ho h hovertaken =>
    refine ⟨⟨?_, hknown.published⟩, ?_⟩
    · cases RecoveryMove.of_exec h with
      | skip hskip => cases hskip
      | close | stale => exact hknown.opened
    · cases RecoveryMove.of_exec h with
      | skip hskip => cases hskip
      | close hfree hobs hlive => exact Ne.symm hdead
      | stale hobs => exact fun hsession => hdead (hobs hsession)

/-- The thread of the callback takes a step. -/
theorem Promise.exec (h : Promise s dead (op :: rest)) (hdead : dead ≠ 0)
    (hexternal : t.isExternal = true) (hseen : ReportSeen s t op) (honward : Onward s s')
    (hm : LifetimeMove t answer s op s' next) : Promise s' dead (next ++ rest) := by
  cases h with
  | called hopened => exact .report hopened (hseen.1 dead rfl) hm
  | waiting hknown =>
    obtain ⟨-, -, rfl⟩ := hm.lock
    exact .entered (honward.known dead hknown)
  | entered hknown => exact .handle hknown hdead (hseen.2 hexternal dead rfl) hm
  | closing hknown => exact .kept (.inl (.of_close hknown hdead hm))
  | kept hkept => exact .kept (honward.kept hdead hkept)

theorem LifetimeMove.returnedDeaths (hm : LifetimeMove t answer s op s' next)
    (h : dead ∈ s'.returnedDeaths) : dead ∈ s.returnedDeaths ∨ op = .deathReturned dead := by
  cases hm with
  | deathReturned =>
    rcases List.mem_cons.mp h with rfl | hbefore
    · exact .inr rfl
    · exact .inl hbefore
  | _ => exact .inl h

/-- No death is lost. -/
structure DeathInv (r : LifetimeRuntime) : Prop where
  returned : ∀ dead ∈ r.shared.returnedDeaths, dead ≠ 0 → Gone r.shared dead ∨ r.shared.ending
  promised : ∀ t dead, .deathReturned dead ∈ r.ops t → dead ≠ 0 →
    t.isExternal = true ∧ Promise r.shared dead (r.ops t)

theorem DeathInv.exec (h : DeathInv r) (honward : Onward r.shared r'.shared)
    (hops : r.ops t = op :: rest) (hm : LifetimeMove t answer r.shared op r'.shared next)
    (hops' : r'.ops = Function.update r.ops t (next ++ rest)) (hseen : ReportSeen r.shared t op) :
    DeathInv r' := by
  constructor
  · intro dead hreturned hdead
    rcases hm.returnedDeaths hreturned with hbefore | rfl
    · exact honward.kept hdead (h.returned dead hbefore hdead)
    · obtain ⟨-, hpromise⟩ := h.promised t dead (hops ▸ List.mem_cons_self) hdead
      rw [hops] at hpromise
      cases hpromise with
      | kept hkept => exact honward.kept hdead hkept
  · intro u dead ho hdead
    rw [hops'] at ho ⊢
    by_cases hut : u = t
    · subst hut
      rw [Function.update_self] at ho ⊢
      have hrest : .deathReturned dead ∈ rest :=
        (List.mem_append.mp ho).resolve_left (List.forall_iff_forall_mem.mp hm.leftTo _)
      obtain ⟨hexternal, hpromise⟩ :=
        h.promised u dead (hops ▸ List.mem_cons_of_mem _ hrest) hdead
      rw [hops] at hpromise
      exact ⟨hexternal, hpromise.exec hdead hexternal hseen honward hm⟩
    · rw [Function.update_of_ne hut] at ho ⊢
      obtain ⟨hexternal, hpromise⟩ := h.promised u dead ho hdead
      exact ⟨hexternal, hpromise.mono hdead honward⟩

/-- A program with the return of a callback is the callback. -/
theorem Starts.promise {program : List LifetimeOp} (h : Starts s t program)
    (ho : .deathReturned dead ∈ program) : t.isExternal = true ∧ Promise s dead program := by
  cases h with
  | @call n entry henabled =>
    cases entry with
    | engineDied dead' =>
      obtain rfl : dead = dead' := by simpa [LifetimeEntry.program] using ho
      exact ⟨rfl, .called (of_decide_eq_true henabled)⟩
    | _ => simp [LifetimeEntry.program] at ho
  | retry | run => simp at ho

theorem DeathInv.of_reach (h : clientLifetime.Reach (NextLifetimeOp ReportSeen) r) :
    DeathInv r := by
  refine Machine.Reach.invariant_of_reach ⟨nofun, nofun⟩ ?_ h
  intro r a r' hreach hinv hok hs
  have hstep := LifetimeStep.of_step hs
  have honward := Onward.of_step hreach hstep
  cases hstep with
  | exec hops hmove hops' => exact hinv.exec honward hops hmove hops' (hok.of_ops hops)
  | @start a t program created hidle hprogram hcreated hshared hops' =>
    constructor
    · intro dead hreturned hdead
      rw [hshared] at hreturned
      exact honward.kept hdead (hinv.returned dead hreturned hdead)
    · intro u dead ho hdead
      rw [hops'] at ho ⊢
      by_cases hut : u = t
      · subst hut
        rw [Function.update_self] at ho ⊢
        obtain ⟨hexternal, hpromise⟩ := hprogram.promise ho
        exact ⟨hexternal, hpromise.mono hdead honward⟩
      · rw [Function.update_of_ne hut] at ho ⊢
        obtain ⟨hexternal, hpromise⟩ := hinv.promised u dead ho hdead
        exact ⟨hexternal, hpromise.mono hdead honward⟩
  | tick hshared hops' =>
    constructor
    · intro dead hreturned hdead
      rw [hshared] at hreturned
      exact honward.kept hdead (hinv.returned dead hreturned hdead)
    · intro u dead ho hdead
      rw [hops'] at ho ⊢
      obtain ⟨hexternal, hpromise⟩ := hinv.promised u dead ho hdead
      exact ⟨hexternal, hpromise.mono hdead honward⟩

/-- `Init` opens session 1 and the API. -/
def initEager : List LifetimeAction := .call 0 (.init .eagerSession) :: executes 0 17

/-- The channel reports the death of session 1, and the callback closes it. -/
def deathAfterInit : List LifetimeAction := initEager ++ .call 1 (.engineDied 1) :: executes 1 10

/-- The thread that an action lets move. -/
def LifetimeAction.thread : LifetimeAction → Option ClientThread
  | .exec t _ | .run t => some t
  | .call n _ => some (.external n)
  | .retry k => some (.retrier k)
  | .tick _ => none

/-- Only the given threads move. -/
def OnlyThreads (threads : List ClientThread) (_ : LifetimeRuntime) (a : LifetimeAction) : Prop :=
  ∀ t ∈ a.thread, t ∈ threads

instance (threads : List ClientThread) (r : LifetimeRuntime) (a : LifetimeAction) :
    Decidable (OnlyThreads threads r a) :=
  inferInstanceAs (Decidable (∀ t ∈ a.thread, t ∈ threads))

theorem ne_of_thread (hu : u ∉ a.thread) (ht : a.thread = some t) : u ≠ t := by
  rintro rfl
  exact hu ht

theorem ops_of_step (hs : clientLifetime.step r a = some r') (hu : u ∉ a.thread) :
    r'.ops u = r.ops u := by
  cases a with
  | exec t answer =>
    obtain ⟨op, rest, next, -, -, hops'⟩ := Pool.exec_eq_some hs
    rw [hops']
    exact Function.update_of_ne (ne_of_thread hu rfl) _ _
  | call n entry =>
    simp only [clientLifetime, Option.ite_none_right_eq_some] at hs
    obtain ⟨-, rfl⟩ := Pool.start_eq_some hs.2
    exact Function.update_of_ne (ne_of_thread hu rfl) _ _
  | retry k =>
    simp only [clientLifetime, Option.ite_none_left_eq_some] at hs
    obtain ⟨-, rfl⟩ := Pool.start_eq_some hs.2
    exact Function.update_of_ne (ne_of_thread hu rfl) _ _
  | run w =>
    simp only [clientLifetime, Option.ite_none_right_eq_some] at hs
    obtain ⟨-, rfl⟩ := Pool.start_eq_some hs.2
    exact Function.update_of_ne (ne_of_thread hu rfl) _ _
  | tick ms =>
    obtain rfl := Option.some.inj hs
    rfl

theorem idle_of_reach {threads : List ClientThread}
    (h : clientLifetime.Reach (OnlyThreads threads) r) (hu : u ∉ threads) : r.ops u = [] := by
  refine Machine.Reach.invariant (I := fun r => r.ops u = []) rfl ?_ h
  intro r a r' hidle hok hs
  rw [ops_of_step hs fun hmem => hu (hok u hmem), hidle]

/-- The callback loads the current session while session 1 is not yet published. -/
def deathBeforePublication : List LifetimeAction :=
  .call 0 (.init .eagerSession) :: executes 0 11 ++ .call 1 (.engineDied 1) :: executes 1 1 ++
    executes 0 6 ++ executes 1 4

/-- The callback finds session 1 published and the API not yet open. -/
def deathBeforeFinishInit : List LifetimeAction :=
  .call 0 (.init .eagerSession) :: executes 0 15 ++ .call 1 (.engineDied 1) :: executes 1 5 ++
    executes 0 2

/-- The callback for session `dead` has returned, `Shutdown` has not begun, and session `dead` is
the current one, while no thread has anything left to do. -/
structure Lost (dead : ℕ) (r : LifetimeRuntime) : Prop where
  returned : dead ∈ r.shared.returnedDeaths
  ending : ¬ r.shared.ending
  session : r.shared.client.session = dead
  idle : ∀ t, r.ops t = []

theorem Lost.of_runOk {threads : List ClientThread} {schedule : List LifetimeAction}
    (hrun : (clientLifetime.runOk (OnlyThreads threads) clientLifetime.init schedule).any
      (fun r => dead ∈ r.shared.returnedDeaths ∧ ¬ r.shared.ending ∧
        r.shared.client.session = dead ∧ ∀ t ∈ threads, r.ops t = []) = true) :
    ∃ r, clientLifetime.run clientLifetime.init schedule = some r ∧ Lost dead r := by
  obtain ⟨r, hr, hreturned, hending, hsession, hidle⟩ := Machine.exists_of_any hrun
  refine ⟨r, Machine.run_of_runOk hr, hreturned, hending, hsession, fun t => ?_⟩
  by_cases ht : t ∈ threads
  · exact hidle t ht
  · exact idle_of_reach (Machine.reach_of_runOk _ hr) ht

end MemRpc
