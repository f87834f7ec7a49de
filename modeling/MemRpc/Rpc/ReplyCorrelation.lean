import MemRpc.Lib.Machine
import MemRpc.Core.RingContents

/-!
# Replies and the clients they answer

One session that `RpcClient` objects attach to one after another. A reply is matched to
its request by `requestId` alone, and every client numbers its requests from 1.
`TryAcquireClientAttachment` takes the session over as it is: entries of the rings,
requests in the executors and replies of the completion queue outlive the client that
they belong to, and their ids are the ids of the next one.

A client leaves at any moment, in the middle of a call if its process dies. The server
stays: dispatcher, executors and response writer. The state word is not modelled. A
call that it refuses is a call that is not made, and the re-check of `PushRequest` is
answered by the action; so are the outcome of a handler and of `EnqueueCompletion`.

## Main definitions

* `SharedAttachment`: the session with its server and its present client.
* `sharedAttachment`: the machine.
* `Correlated`: futures are resolved by executions of their own requests.
-/

namespace MemRpc

open Concurrency

/-- A call of a client: the client by the order of attachment, the call by the order of
`EnqueueSubmitLocked`. -/
structure CallRef where
  client : ℕ
  call : ℕ
  deriving DecidableEq, Repr

/-- `nextRequestId_` starts at 1. -/
def CallRef.requestId (ref : CallRef) : UInt64 := UInt64.ofNat (ref.call + 1)

/-- A request entry with the call that it is built from. -/
structure ClientRequest where
  ref : CallRef
  priority : Priority
  entry : RequestRingEntry
  deriving DecidableEq

/-- `EnqueueSubmitLocked` and `BuildRequestEntry`. -/
def clientRequest (ref : CallRef) (priority : Priority) (entry : RequestRingEntry) :
    ClientRequest where
  ref := ref
  priority := priority
  entry := { entry with requestId := ref.requestId }

/-- The status and the transported payload of an `RpcReply`. The file a payload may refer
to is read by `ResolveEntryPayload` from these bytes. -/
structure ReplyData where
  statusCode : UInt32 := 0
  resultSize : UInt32 := 0
  payloadKind : UInt8 := payloadKindInline
  payload : Vector UInt8 responseInlinePayloadBytes := Vector.replicate _ 0
  deriving DecidableEq

/-- `BuildReplyEntry`. -/
def buildReplyEntry (request : RequestRingEntry) (reply : ReplyData) : ResponseRingEntry where
  requestId := request.requestId
  messageKind := messageKindReply
  statusCode := reply.statusCode
  resultSize := reply.resultSize
  payloadKind := reply.payloadKind
  payload := reply.payload

/-- What `ResolveCompletedRequest` takes from an entry. -/
def ResponseRingEntry.replyData (e : ResponseRingEntry) : ReplyData where
  statusCode := e.statusCode
  resultSize := e.resultSize
  payloadKind := e.payloadKind
  payload := e.payload

/-- The session, its server, and its present or last client. -/
structure SharedAttachment where
  ring : Priority → Ring ClientRequest
  response : Ring ResponseRingEntry
  /-- The pop of the dispatcher. -/
  dispatcher : Option (Priority × PopPc ClientRequest) := none
  /-- The request that `DrainQueue` has popped and not yet submitted. -/
  captured : Option ClientRequest := none
  /-- Requests queued or running in the executors. -/
  tasks : List ClientRequest := []
  completionQueue : List ResponseRingEntry := []
  /-- The push of the response writer. -/
  writer : Option (PushPc ResponseRingEntry) := none
  /-- How many clients have attached. -/
  clients : ℕ := 0
  attached : Bool := false
  /-- The calls of the present client. -/
  calls : ℕ := 0
  submitQueue : List ClientRequest := []
  /-- The push of the submit thread. -/
  submit : Option (PushPc ClientRequest) := none
  requestStore : List (UInt64 × CallRef) := []
  /-- The pop of the response worker. -/
  worker : Option (PopPc ResponseRingEntry) := none
  /-- The entry that the response worker has popped. -/
  delivering : Option ResponseRingEntry := none
  /-- What was replied to which call. -/
  executed : List (CallRef × ReplyData) := []
  /-- Which future was resolved with what. -/
  resolved : List (CallRef × ReplyData) := []

/-- Who moves. -/
inductive AttachmentAction
  | attach
  | detach
  | invoke (priority : Priority) (entry : RequestRingEntry)
  | beginSubmit
  | submit (accepted : Bool)
  | expire (id : UInt64)
  | beginPop
  | worker
  | deliver
  | drain (q : Priority)
  | dispatch
  | trySubmit (submitted : Bool)
  | execute (i : ℕ) (reply : ReplyData) (enqueued : Bool)
  | publishEvent (entry : ResponseRingEntry)
  | beginRespond
  | respond
  | dropCompletions

/-- `Take` of `ClientRequestStore`. -/
def takeRequest (store : List (UInt64 × CallRef)) (id : UInt64) : List (UInt64 × CallRef) :=
  store.filter (·.1 ≠ id)

namespace SharedAttachment

def setRing (s : SharedAttachment) (q : Priority) (r : Ring ClientRequest) : SharedAttachment :=
  { s with ring := Function.update s.ring q r }

/-- `TryAcquireClientAttachment` for a new client. Rings and server are left alone. -/
def attach (s : SharedAttachment) : SharedAttachment :=
  { s with
    clients := s.clients + 1
    attached := true
    calls := 0
    submitQueue := []
    submit := none
    requestStore := []
    worker := none
    delivering := none }

/-- The client resets its session or dies. -/
def detach (s : SharedAttachment) : SharedAttachment :=
  { s with
    attached := false
    submitQueue := []
    submit := none
    requestStore := []
    worker := none
    delivering := none }

/-- The next access of `PushRequestToSession`. A request that was not published leaves the
store; after `QueueFull` it is tried again. -/
def submitStep (s : SharedAttachment) (accepted : Bool) (pc : PushPc ClientRequest) :
    SharedAttachment :=
  let r := pc.entry
  match pushStep (s.ring r.priority) pc with
  | (ring, .running pc') => { s.setRing r.priority ring with submit := some pc' }
  | (ring, .returned .ok) =>
    { s.setRing r.priority ring with
      submit := none
      requestStore :=
        if accepted then s.requestStore else takeRequest s.requestStore r.ref.requestId }
  | (ring, .returned _) =>
    { s.setRing r.priority ring with
      submit := none
      submitQueue := r :: s.submitQueue
      requestStore := takeRequest s.requestStore r.ref.requestId }

/-- The next access of `PopResponse`. -/
def workerStep (s : SharedAttachment) (pc : PopPc ResponseRingEntry) : SharedAttachment :=
  match popStep s.response pc with
  | (r, .running pc') => { s with response := r, worker := some pc' }
  | (r, .returned e) => { s with response := r, worker := none, delivering := e }

/-- `DeliverEvent` or `ResolveCompletedRequest`. -/
def deliver (s : SharedAttachment) (e : ResponseRingEntry) : SharedAttachment :=
  if e.messageKind = messageKindEvent then { s with delivering := none }
  else
    match s.requestStore.find? (·.1 = e.requestId) with
    | none => { s with delivering := none }
    | some (_, ref) =>
      { s with
        delivering := none
        requestStore := takeRequest s.requestStore e.requestId
        resolved := (ref, e.replyData) :: s.resolved }

/-- The next access of `PopRequest`. A popped request is in the dispatcher's hands. -/
def dispatchStep (s : SharedAttachment) (q : Priority) (pc : PopPc ClientRequest) :
    SharedAttachment :=
  match popStep (s.ring q) pc with
  | (ring, .running pc') => { s.setRing q ring with dispatcher := some (q, pc') }
  | (ring, .returned r) => { s.setRing q ring with dispatcher := none, captured := r }

/-- `TrySubmit` of the executor. -/
def trySubmit (s : SharedAttachment) (submitted : Bool) (r : ClientRequest) : SharedAttachment :=
  { s with
    captured := none
    tasks := if submitted then s.tasks ++ [r] else s.tasks }

/-- `ProcessEntry`: the reply is the handler's or that of a failed check. -/
def execute (s : SharedAttachment) (i : ℕ) (reply : ReplyData) (enqueued : Bool) :
    Option SharedAttachment :=
  s.tasks[i]?.map fun r =>
    { s with
      tasks := s.tasks.eraseIdx i
      executed := (r.ref, reply) :: s.executed
      completionQueue :=
        if enqueued then s.completionQueue ++ [buildReplyEntry r.entry reply]
        else s.completionQueue }

/-- The next access of `PushResponse`; after `QueueFull` the writer tries again. -/
def respondStep (s : SharedAttachment) (pc : PushPc ResponseRingEntry) : SharedAttachment :=
  match pushStep s.response pc with
  | (r, .running pc') => { s with response := r, writer := some pc' }
  | (r, .returned .ok) => { s with response := r, writer := none }
  | (r, .returned _) => { s with response := r, writer := some (.loadHead pc.entry) }

end SharedAttachment

/-- All interleavings of the server and the clients that attach one after another. -/
def sharedAttachment (caps : Priority → RingCapacity) (capacity : RingCapacity)
    (m : ℕ → ClientRequest) (m' : ℕ → ResponseRingEntry) :
    Machine SharedAttachment AttachmentAction where
  init :=
    { ring := fun q => Ring.create (caps q).size m
      response := Ring.create capacity.size m' }
  step s
    | .attach => if s.attached then none else some s.attach
    | .detach => if s.attached then some s.detach else none
    | .invoke priority entry =>
      if s.attached then
        some { s with
          calls := s.calls + 1
          submitQueue := s.submitQueue ++ [clientRequest ⟨s.clients, s.calls⟩ priority entry] }
      else none
    | .beginSubmit =>
      match s.submit, s.submitQueue with
      | none, r :: rest =>
        some { s with
          submitQueue := rest
          submit := some (.loadHead r)
          requestStore :=
            (r.ref.requestId, r.ref) :: takeRequest s.requestStore r.ref.requestId }
      | _, _ => none
    | .submit accepted => s.submit.map (s.submitStep accepted)
    | .expire id => some { s with requestStore := takeRequest s.requestStore id }
    | .beginPop =>
      if s.attached = true ∧ s.worker = none ∧ s.delivering = none then
        some { s with worker := some .loadTail }
      else none
    | .worker => s.worker.map s.workerStep
    | .deliver => s.delivering.map s.deliver
    | .drain q =>
      if s.dispatcher = none ∧ s.captured = none then
        some { s with dispatcher := some (q, .loadTail) }
      else none
    | .dispatch => s.dispatcher.map fun d => s.dispatchStep d.1 d.2
    | .trySubmit submitted => s.captured.map (s.trySubmit submitted)
    | .execute i reply enqueued => s.execute i reply enqueued
    | .publishEvent entry =>
      some { s with
        completionQueue :=
          s.completionQueue ++ [{ entry with messageKind := messageKindEvent }] }
    | .beginRespond =>
      match s.writer, s.completionQueue with
      | none, e :: rest =>
        some { s with completionQueue := rest, writer := some (.loadHead e) }
      | _, _ => none
    | .respond => s.writer.map s.respondStep
    | .dropCompletions => some { s with completionQueue := [], writer := none }

/-! ## The property and its condition -/

/-- A future is resolved only with what was replied to its own request. -/
def SharedAttachment.Correlated (s : SharedAttachment) : Prop :=
  ∀ p ∈ s.resolved, p ∈ s.executed

/-- Nothing of an earlier client is on its way through the session. -/
structure SharedAttachment.Quiet (s : SharedAttachment) : Prop where
  requests : ∀ q, (s.ring q).cursor.tail = (s.ring q).cursor.head
  captured : s.captured = none
  tasks : s.tasks = []
  completions : s.completionQueue = []
  writer : s.writer = none
  responses : s.response.cursor.tail = s.response.cursor.head

/-- Clients attach to a quiet session and do not exhaust the request ids. -/
def AttachesQuiet (s : SharedAttachment) : AttachmentAction → Prop
  | .attach => s.Quiet
  | .invoke _ _ => s.calls + 1 < 2 ^ 64
  | _ => True

instance (s : SharedAttachment) : Decidable s.Quiet :=
  decidable_of_iff
    ((s.ring .normal).cursor.tail = (s.ring .normal).cursor.head ∧
      (s.ring .high).cursor.tail = (s.ring .high).cursor.head ∧ s.captured = none ∧
      s.tasks = [] ∧ s.completionQueue = [] ∧ s.writer = none ∧
      s.response.cursor.tail = s.response.cursor.head)
    ⟨fun ⟨hn, hh, hd, ht, hc, hw, hr⟩ =>
        ⟨fun q => by cases q <;> assumption, hd, ht, hc, hw, hr⟩,
      fun h => ⟨h.requests _, h.requests _, h.captured, h.tasks, h.completions, h.writer,
        h.responses⟩⟩

instance (s : SharedAttachment) : (a : AttachmentAction) → Decidable (AttachesQuiet s a)
  | .attach => inferInstanceAs (Decidable s.Quiet)
  | .invoke _ _ => inferInstanceAs (Decidable (s.calls + 1 < 2 ^ 64))
  | .detach | .beginSubmit | .submit _ | .expire _ | .beginPop | .worker | .deliver | .drain _
  | .dispatch | .trySubmit _ | .execute _ _ _ | .publishEvent _ | .beginRespond | .respond
  | .dropCompletions => .isTrue trivial

/-! ## Whose entries are on their way -/

/-- A call of client `g`, which has made `n` calls. -/
def CallRef.Of (g n : ℕ) (ref : CallRef) : Prop := ref.client = g ∧ ref.call < n

/-- Below `2 ^ 64` calls, the id determines the call. -/
theorem CallRef.Of.eq_of_requestId {g n : ℕ} {ref ref' : CallRef} (h : ref.Of g n)
    (h' : ref'.Of g n) (hn : n < 2 ^ 64) (hid : ref.requestId = ref'.requestId) : ref = ref' := by
  obtain ⟨hclient, hcall⟩ := h
  obtain ⟨hclient', hcall'⟩ := h'
  have hnat := congrArg UInt64.toNat hid
  simp only [CallRef.requestId, UInt64.toNat_ofNat'] at hnat
  rw [Nat.mod_eq_of_lt (by omega), Nat.mod_eq_of_lt (by omega)] at hnat
  cases ref
  cases ref'
  simp only [CallRef.mk.injEq]
  constructor
  · exact hclient.trans hclient'.symm
  · simpa using hnat

/-- A request of the present client, under the id of its call. -/
def OwnRequest (g n : ℕ) (r : ClientRequest) : Prop :=
  r.ref.Of g n ∧ r.entry.requestId = r.ref.requestId

/-- An event, or a reply to a call of the present client. -/
def OwnReply (g n : ℕ) (executed : List (CallRef × ReplyData)) (e : ResponseRingEntry) : Prop :=
  e.messageKind = messageKindEvent ∨
    ∃ ref : CallRef, ref.Of g n ∧ e.requestId = ref.requestId ∧ (ref, e.replyData) ∈ executed

variable {r : ClientRequest}

theorem OwnRequest.mono {g n n' : ℕ} (hn : n ≤ n') (h : OwnRequest g n r) :
    OwnRequest g n' r :=
  ⟨⟨h.1.1, h.1.2.trans_le hn⟩, h.2⟩

variable {e : ResponseRingEntry}

theorem OwnReply.mono {g n n' : ℕ} {ex ex' : List (CallRef × ReplyData)} (hn : n ≤ n')
    (hex : ex ⊆ ex') (h : OwnReply g n ex e) : OwnReply g n' ex' e := by
  rcases h with hevent | ⟨ref, hof, hid, hmem⟩
  · exact .inl hevent
  · exact .inr ⟨ref, ⟨hof.1, hof.2.trans_le hn⟩, hid, hex hmem⟩

namespace SharedAttachment
variable {s s' : SharedAttachment}

/-- The push under way on a request ring. -/
def pushOn (s : SharedAttachment) (q : Priority) : Option (PushPc ClientRequest) :=
  s.submit.filter (·.entry.priority = q)

/-- The pop under way on a request ring. -/
def popOn (s : SharedAttachment) (q : Priority) : Option (PopPc ClientRequest) :=
  (s.dispatcher.filter (·.1 = q)).map Prod.snd

theorem pushOn_of_none (h : s.submit = none) (q : Priority) : s.pushOn q = none := by
  simp [pushOn, h]

theorem pushOn_of_some {pc : PushPc ClientRequest} (h : s.submit = some pc) (q : Priority) :
    s.pushOn q = if pc.entry.priority = q then some pc else none := by
  simp [pushOn, h, Option.filter]

theorem popOn_of_none (h : s.dispatcher = none) (q : Priority) : s.popOn q = none := by
  simp [popOn, h]

theorem popOn_of_some {q' : Priority} {pc : PopPc ClientRequest}
    (h : s.dispatcher = some (q', pc)) (q : Priority) :
    s.popOn q = if q' = q then some pc else none := by
  by_cases hq : q' = q <;> simp [popOn, h, Option.filter, hq]

/-- All that is on its way belongs to the present client, and the rings, the queues and
the store agree on whose id is whose. -/
structure OwnInv (s : SharedAttachment) : Prop where
  requests : ∀ q, ∃ n k, RingAll (OwnRequest s.clients s.calls) (s.ring q) n k (s.pushOn q)
    (s.popOn q)
  responses : ∃ n k, RingAll (OwnReply s.clients s.calls s.executed) s.response n k s.writer
    s.worker
  captured : ∀ r ∈ s.captured, OwnRequest s.clients s.calls r
  tasks : ∀ r ∈ s.tasks, OwnRequest s.clients s.calls r
  queued : ∀ r ∈ s.submitQueue, OwnRequest s.clients s.calls r
  completions : ∀ e ∈ s.completionQueue, OwnReply s.clients s.calls s.executed e
  delivered : ∀ e ∈ s.delivering, OwnReply s.clients s.calls s.executed e
  store : ∀ x ∈ s.requestStore, x.2.Of s.clients s.calls ∧ x.1 = x.2.requestId
  ids : s.calls < 2 ^ 64
  detached : s.attached = false → s.submit = none ∧ s.worker = none ∧ s.submitQueue = []
  correlated : s.Correlated

theorem mem_of_takeRequest {store : List (UInt64 × CallRef)} {id : UInt64} {x : UInt64 × CallRef}
    (h : x ∈ takeRequest store id) : x ∈ store :=
  (List.mem_filter.mp h).1

namespace OwnInv

theorem init (caps : Priority → RingCapacity) (capacity : RingCapacity) (m : ℕ → ClientRequest)
    (m' : ℕ → ResponseRingEntry) : (sharedAttachment caps capacity m m').init.OwnInv where
  requests _ := ⟨0, 0, RingAll.create _ _ _⟩
  responses := ⟨0, 0, RingAll.create _ _ _⟩
  captured := by simp [sharedAttachment]
  tasks := by simp [sharedAttachment]
  queued := by simp [sharedAttachment]
  completions := by simp [sharedAttachment]
  delivered := by simp [sharedAttachment]
  store := by simp [sharedAttachment]
  ids := by simp [sharedAttachment]
  detached _ := ⟨rfl, rfl, rfl⟩
  correlated := by simp [Correlated, sharedAttachment]

/-- A client that attaches to a quiet session finds nothing under its ids. -/
theorem attach (H : s.OwnInv) (hfree : s.attached = false) (hquiet : s.Quiet) :
    s.attach.OwnInv := by
  obtain ⟨hsubmit, hworker, -⟩ := H.detached hfree
  refine ⟨?_, ?_, ?_, ?_, ?_, ?_, ?_, ?_, ?_, ?_, H.correlated⟩
  · intro q
    obtain ⟨n, k, hring⟩ := H.requests q
    rw [pushOn_of_none hsubmit] at hring
    exact ⟨n, k, hring.of_empty (hquiet.requests q)⟩
  · obtain ⟨n, k, hring⟩ := H.responses
    rw [hquiet.writer, hworker] at hring
    have hempty := hring.of_empty (Q := OwnReply (s.clients + 1) 0 s.executed) hquiet.responses
    rw [← hquiet.writer] at hempty
    exact ⟨n, k, hempty⟩
  · simp [SharedAttachment.attach, hquiet.captured]
  · simp [SharedAttachment.attach, hquiet.tasks]
  · simp [SharedAttachment.attach]
  · simp [SharedAttachment.attach, hquiet.completions]
  · simp [SharedAttachment.attach]
  · simp [SharedAttachment.attach]
  · simp [SharedAttachment.attach]
  · intro h
    simp [SharedAttachment.attach] at h

/-- A client may leave in the middle of its calls. -/
theorem detach (H : s.OwnInv) : s.detach.OwnInv := by
  refine ⟨?_, ?_, H.captured, H.tasks, ?_, H.completions, ?_, ?_, H.ids,
    fun _ => ⟨rfl, rfl, rfl⟩, H.correlated⟩
  · intro q
    obtain ⟨n, k, hring⟩ := H.requests q
    exact ⟨n, k, hring.endPush⟩
  · obtain ⟨n, k, hring⟩ := H.responses
    exact ⟨n, k, hring.endPop⟩
  · simp [SharedAttachment.detach]
  · simp [SharedAttachment.detach]
  · simp [SharedAttachment.detach]

theorem invoke (H : s.OwnInv) (hattached : s.attached = true) (hids : s.calls + 1 < 2 ^ 64)
    (priority : Priority)
    (entry : RequestRingEntry) :
    OwnInv { s with
      calls := s.calls + 1
      submitQueue := s.submitQueue ++ [clientRequest ⟨s.clients, s.calls⟩ priority entry] } := by
  have hrequest : ∀ r, OwnRequest s.clients s.calls r → OwnRequest s.clients (s.calls + 1) r :=
    fun _ h => h.mono (Nat.le_succ _)
  have hreply : ∀ e, OwnReply s.clients s.calls s.executed e →
      OwnReply s.clients (s.calls + 1) s.executed e :=
    fun _ h => h.mono (Nat.le_succ _) (List.Subset.refl _)
  refine ⟨?_, ?_, fun r hr => hrequest r (H.captured r hr),
    fun r hr => hrequest r (H.tasks r hr), ?_, fun e he => hreply e (H.completions e he),
    fun e he => hreply e (H.delivered e he), ?_, hids, ?_, H.correlated⟩
  · intro q
    obtain ⟨n, k, hring⟩ := H.requests q
    exact ⟨n, k, hring.mono hrequest⟩
  · obtain ⟨n, k, hring⟩ := H.responses
    exact ⟨n, k, hring.mono hreply⟩
  · intro r hr
    rcases List.mem_append.mp hr with hold | hnew
    · exact hrequest r (H.queued r hold)
    · obtain rfl := List.mem_singleton.mp hnew
      exact ⟨⟨rfl, Nat.lt_succ_self _⟩, rfl⟩
  · intro x hx
    obtain ⟨hof, hid⟩ := H.store x hx
    exact ⟨⟨hof.1, hof.2.trans (Nat.lt_succ_self _)⟩, hid⟩
  · intro hfree
    exact absurd (hattached.symm.trans hfree) (by simp)

/-- Requests leave the store when they are not published, expire or are resolved. -/
theorem take (H : s.OwnInv) (id : UInt64) :
    OwnInv { s with requestStore := takeRequest s.requestStore id } :=
  { H with store := fun x hx => H.store x (mem_of_takeRequest hx) }

theorem beginSubmit (H : s.OwnInv) {rest : List ClientRequest}
    (hsubmit : s.submit = none) (hqueue : s.submitQueue = r :: rest) :
    OwnInv { s with
      submitQueue := rest
      submit := some (.loadHead r)
      requestStore := (r.ref.requestId, r.ref) :: takeRequest s.requestStore r.ref.requestId } := by
  have hown : OwnRequest s.clients s.calls r := H.queued r (by simp [hqueue])
  refine ⟨?_, H.responses, H.captured, H.tasks, ?_, H.completions, H.delivered, ?_, H.ids, ?_,
    H.correlated⟩
  · intro q
    obtain ⟨n, k, hring⟩ := H.requests q
    rw [pushOn_of_none hsubmit] at hring
    refine ⟨n, k, ?_⟩
    rw [pushOn_of_some rfl]
    split
    · exact hring.beginPush hown
    · exact hring
  · intro r' hr'
    exact H.queued r' (by simp [hqueue, hr'])
  · intro x hx
    rcases List.mem_cons.mp hx with rfl | hold
    · exact ⟨hown.1, rfl⟩
    · exact H.store x (mem_of_takeRequest hold)
  · intro hfree
    simp [(H.detached hfree).2.2] at hqueue

/-- A step that moves one request ring keeps the other. -/
theorem setRing {P : ClientRequest → Prop} {q : Priority} {ring : Ring ClientRequest}
    {push : Priority → Option (PushPc ClientRequest)}
    {pop : Priority → Option (PopPc ClientRequest)}
    (push' : Priority → Option (PushPc ClientRequest))
    (pop' : Priority → Option (PopPc ClientRequest))
    (H : ∀ q', ∃ n k, RingAll P (s.ring q') n k (push q') (pop q'))
    (hq : ∃ n k, RingAll P ring n k (push' q) (pop' q))
    (hother : ∀ q', q' ≠ q → push' q' = push q' ∧ pop' q' = pop q') (q' : Priority) :
    ∃ n k, RingAll P ((s.setRing q ring).ring q') n k (push' q') (pop' q') := by
  by_cases hqq : q' = q
  · subst hqq
    simpa [SharedAttachment.setRing] using hq
  · obtain ⟨hpush, hpop⟩ := hother q' hqq
    rw [hpush, hpop]
    simpa [SharedAttachment.setRing, hqq] using H q'

theorem submitStep (H : s.OwnInv) {pc : PushPc ClientRequest} (hpc : s.submit = some pc)
    (accepted : Bool) : (s.submitStep accepted pc).OwnInv := by
  obtain ⟨n, k, hring⟩ := H.requests pc.entry.priority
  rw [pushOn_of_some hpc, if_pos rfl] at hring
  have hown : OwnRequest s.clients s.calls pc.entry := hring.carried pc rfl
  have hbusy : s.attached ≠ false := by
    intro hfree
    simp [(H.detached hfree).1] at hpc
  have hidle : ∀ q', q' ≠ pc.entry.priority → s.pushOn q' = none := by
    intro q' hne
    rw [pushOn_of_some hpc, if_neg (Ne.symm hne)]
  rw [SharedAttachment.submitStep]
  rcases hs : pushStep (s.ring pc.entry.priority) pc with ⟨ring, pc' | status⟩
  · have hentry := (pushStep_running hs).2
    refine { H with requests := ?_, detached := fun hfree => absurd hfree hbusy }
    apply setRing (fun q => pushOn { s with submit := some pc' } q) s.popOn H.requests
    · refine ⟨n, k, ?_⟩
      rw [pushOn_of_some rfl, if_pos (by rw [hentry])]
      exact hring.push_running hs
    · intro q' hne
      rw [hidle q' hne, pushOn_of_some rfl, if_neg (by rw [hentry]; exact Ne.symm hne)]
      exact ⟨rfl, rfl⟩
  · rcases pushStep_returned hs with ⟨rfl, rfl, -⟩ | ⟨rfl, -⟩
    · have hrings := setRing (fun _ => none) s.popOn H.requests
        ⟨n, k, hring.endPush⟩ (fun q' hne => ⟨(hidle q' hne).symm, rfl⟩)
      refine { H with
        requests := hrings
        queued := ?_
        store := fun x hx => H.store x (mem_of_takeRequest hx)
        detached := fun hfree => absurd hfree hbusy }
      intro r hr
      rcases List.mem_cons.mp hr with rfl | hold
      · exact hown
      · exact H.queued r hold
    · have hrings := setRing (fun _ => none) s.popOn H.requests
        ⟨n + 1, k, hring.push_ok hs⟩ (fun q' hne => ⟨(hidle q' hne).symm, rfl⟩)
      refine { H with
        requests := hrings
        store := ?_
        detached := fun hfree => absurd hfree hbusy }
      intro x hx
      cases accepted with
      | true => exact H.store x hx
      | false => exact H.store x (mem_of_takeRequest hx)

theorem workerStep (H : s.OwnInv) {pc : PopPc ResponseRingEntry} (hpc : s.worker = some pc) :
    (s.workerStep pc).OwnInv := by
  obtain ⟨n, k, hring⟩ := H.responses
  rw [hpc] at hring
  have hbusy : s.attached ≠ false := by
    intro hfree
    simp [(H.detached hfree).2.1] at hpc
  rw [SharedAttachment.workerStep]
  rcases hs : popStep s.response pc with ⟨r, pc' | _ | e⟩
  · exact { H with
      responses := ⟨n, k, hring.pop_running hs⟩
      detached := fun hfree => absurd hfree hbusy }
  · rcases popStep_returned hs with ⟨-, rfl, -⟩ | ⟨e, head, he, -⟩
    · exact { H with
        responses := ⟨n, k, hring.endPop⟩
        delivered := by simp
        detached := fun hfree => absurd hfree hbusy }
    · simp at he
  · obtain ⟨hpopped, he⟩ := hring.pop_some hs
    exact { H with
      responses := ⟨n, k + 1, hpopped⟩
      delivered := by simpa using he
      detached := fun hfree => absurd hfree hbusy }

/-- The id of a reply leads to the call it was built for. -/
theorem deliver (H : s.OwnInv) (he : s.delivering = some e) : (s.deliver e).OwnInv := by
  have hown := H.delivered e he
  rw [SharedAttachment.deliver]
  split
  · exact { H with delivered := by simp }
  · rename_i hreply
    split
    · exact { H with delivered := by simp }
    · rename_i id ref hfind
      have hmem := List.mem_of_find?_eq_some hfind
      have hid : id = e.requestId := by simpa using List.find?_some hfind
      obtain ⟨hof, hstored⟩ := H.store _ hmem
      obtain ⟨ref', hof', hid', hexecuted⟩ := hown.resolve_left hreply
      have hsame : ref = ref' :=
        hof.eq_of_requestId hof' H.ids (hstored.symm.trans (hid.trans hid'))
      refine { H with
        delivered := by simp
        store := fun x hx => H.store x (mem_of_takeRequest hx)
        correlated := ?_ }
      intro x hx
      rcases List.mem_cons.mp hx with rfl | hold
      · rw [hsame]
        exact hexecuted
      · exact H.correlated x hold

theorem drain (H : s.OwnInv) (hdispatcher : s.dispatcher = none) (q : Priority) :
    OwnInv { s with dispatcher := some (q, .loadTail) } := by
  refine { H with requests := ?_ }
  intro q'
  obtain ⟨n, k, hring⟩ := H.requests q'
  rw [popOn_of_none hdispatcher] at hring
  refine ⟨n, k, ?_⟩
  rw [popOn_of_some rfl]
  split
  · exact hring.beginPop
  · exact hring

theorem dispatchStep (H : s.OwnInv) {q : Priority} {pc : PopPc ClientRequest}
    (hpc : s.dispatcher = some (q, pc)) : (s.dispatchStep q pc).OwnInv := by
  obtain ⟨n, k, hring⟩ := H.requests q
  rw [popOn_of_some hpc, if_pos rfl] at hring
  have hidle : ∀ q', q' ≠ q → s.popOn q' = none := by
    intro q' hne
    rw [popOn_of_some hpc, if_neg (Ne.symm hne)]
  rw [SharedAttachment.dispatchStep]
  rcases hs : popStep (s.ring q) pc with ⟨ring, pc' | _ | r⟩
  · refine { H with requests := ?_ }
    apply setRing s.pushOn (fun q' => popOn { s with dispatcher := some (q, pc') } q') H.requests
    · refine ⟨n, k, ?_⟩
      rw [popOn_of_some rfl, if_pos rfl]
      exact hring.pop_running hs
    · intro q' hne
      rw [hidle q' hne, popOn_of_some rfl, if_neg (Ne.symm hne)]
      exact ⟨rfl, rfl⟩
  · rcases popStep_returned hs with ⟨-, rfl, -⟩ | ⟨e, head, he, -⟩
    · exact { H with
        requests := setRing s.pushOn (fun _ => none) H.requests ⟨n, k, hring.endPop⟩
          (fun q' hne => ⟨rfl, (hidle q' hne).symm⟩)
        captured := by simp }
    · simp at he
  · obtain ⟨hpopped, hown⟩ := hring.pop_some hs
    exact { H with
      requests := setRing s.pushOn (fun _ => none) H.requests ⟨n, k + 1, hpopped⟩
        (fun q' hne => ⟨rfl, (hidle q' hne).symm⟩)
      captured := fun _ hr' => Option.mem_some_iff.mp hr' ▸ hown }

/-- The request that the dispatcher holds becomes a task, or is dropped. -/
theorem trySubmit (H : s.OwnInv) (hr : s.captured = some r)
    (submitted : Bool) : (s.trySubmit submitted r).OwnInv := by
  refine { H with captured := by simp [SharedAttachment.trySubmit], tasks := ?_ }
  intro r' hr'
  cases submitted with
  | false => exact H.tasks r' hr'
  | true =>
    rcases List.mem_append.mp hr' with hold | hnew
    · exact H.tasks r' hold
    · obtain rfl := List.mem_singleton.mp hnew
      exact H.captured r' hr

/-- The reply that `ProcessEntry` builds answers the request it was given. -/
theorem execute (H : s.OwnInv) {i : ℕ} {reply : ReplyData} {enqueued : Bool}
    (hs : s.execute i reply enqueued = some s') : s'.OwnInv := by
  simp only [SharedAttachment.execute, Option.map_eq_some_iff] at hs
  obtain ⟨r, hr, rfl⟩ := hs
  have hown := H.tasks r (List.mem_of_getElem? hr)
  have hreply : ∀ e, OwnReply s.clients s.calls s.executed e →
      OwnReply s.clients s.calls ((r.ref, reply) :: s.executed) e :=
    fun _ h => h.mono le_rfl (List.subset_cons_self _ _)
  refine { H with
    responses := ?_
    tasks := fun r' hr' => H.tasks r' (List.mem_of_mem_eraseIdx hr')
    completions := ?_
    delivered := fun e he => hreply e (H.delivered e he)
    correlated := fun x hx => List.mem_cons_of_mem _ (H.correlated x hx) }
  · obtain ⟨n, k, hring⟩ := H.responses
    exact ⟨n, k, hring.mono hreply⟩
  · intro e he
    cases enqueued with
    | false => exact hreply e (H.completions e he)
    | true =>
      rcases List.mem_append.mp he with hold | hnew
      · exact hreply e (H.completions e hold)
      · obtain rfl := List.mem_singleton.mp hnew
        exact .inr ⟨r.ref, hown.1, hown.2, List.mem_cons_self⟩

theorem beginRespond (H : s.OwnInv) {rest : List ResponseRingEntry}
    (hwriter : s.writer = none) (hqueue : s.completionQueue = e :: rest) :
    OwnInv { s with completionQueue := rest, writer := some (.loadHead e) } := by
  obtain ⟨n, k, hring⟩ := H.responses
  rw [hwriter] at hring
  refine { H with
    responses := ⟨n, k, hring.beginPush (H.completions e (by simp [hqueue]))⟩
    completions := ?_ }
  intro e' he'
  exact H.completions e' (by simp [hqueue, he'])

theorem respondStep (H : s.OwnInv) {pc : PushPc ResponseRingEntry} (hpc : s.writer = some pc) :
    (s.respondStep pc).OwnInv := by
  obtain ⟨n, k, hring⟩ := H.responses
  rw [hpc] at hring
  have hown := hring.carried pc rfl
  rw [SharedAttachment.respondStep]
  rcases hs : pushStep s.response pc with ⟨r, pc' | status⟩
  · exact { H with responses := ⟨n, k, hring.push_running hs⟩ }
  · rcases pushStep_returned hs with ⟨rfl, rfl, -⟩ | ⟨rfl, -⟩
    · exact { H with responses := ⟨n, k, hring.endPush.beginPush hown⟩ }
    · exact { H with responses := ⟨n + 1, k, hring.push_ok hs⟩ }

theorem step {caps : Priority → RingCapacity} {capacity : RingCapacity} {m : ℕ → ClientRequest}
    {m' : ℕ → ResponseRingEntry} (H : s.OwnInv) {a : AttachmentAction} (hok : AttachesQuiet s a)
    (hs : (sharedAttachment caps capacity m m').step s a = some s') : s'.OwnInv := by
  cases a with
  | attach =>
    simp only [sharedAttachment, Option.ite_none_left_eq_some, Option.some.injEq] at hs
    exact hs.2 ▸ H.attach (by simpa using hs.1) hok
  | detach =>
    simp only [sharedAttachment, Option.ite_none_right_eq_some, Option.some.injEq] at hs
    exact hs.2 ▸ H.detach
  | invoke priority entry =>
    simp only [sharedAttachment, Option.ite_none_right_eq_some, Option.some.injEq] at hs
    exact hs.2 ▸ H.invoke hs.1 hok priority entry
  | beginSubmit =>
    simp only [sharedAttachment] at hs
    split at hs
    · rename_i r rest hsubmit hqueue
      cases hs
      exact H.beginSubmit hsubmit hqueue
    · cases hs
  | submit accepted =>
    simp only [sharedAttachment, Option.map_eq_some_iff] at hs
    obtain ⟨pc, hpc, rfl⟩ := hs
    exact H.submitStep hpc accepted
  | expire id =>
    simp only [sharedAttachment, Option.some.injEq] at hs
    exact hs ▸ H.take id
  | beginPop =>
    simp only [sharedAttachment, Option.ite_none_right_eq_some, Option.some.injEq] at hs
    obtain ⟨⟨hattached, hworker, -⟩, rfl⟩ := hs
    obtain ⟨n, k, hring⟩ := H.responses
    rw [hworker] at hring
    refine { H with responses := ⟨n, k, hring.beginPop⟩, detached := ?_ }
    intro hfree
    exact absurd (hattached.symm.trans hfree) (by simp)
  | worker =>
    simp only [sharedAttachment, Option.map_eq_some_iff] at hs
    obtain ⟨pc, hpc, rfl⟩ := hs
    exact H.workerStep hpc
  | deliver =>
    simp only [sharedAttachment, Option.map_eq_some_iff] at hs
    obtain ⟨e, he, rfl⟩ := hs
    exact H.deliver he
  | drain q =>
    simp only [sharedAttachment, Option.ite_none_right_eq_some, Option.some.injEq] at hs
    exact hs.2 ▸ H.drain hs.1.1 q
  | dispatch =>
    simp only [sharedAttachment, Option.map_eq_some_iff] at hs
    obtain ⟨⟨q, pc⟩, hpc, rfl⟩ := hs
    exact H.dispatchStep hpc
  | trySubmit submitted =>
    simp only [sharedAttachment, Option.map_eq_some_iff] at hs
    obtain ⟨r, hr, rfl⟩ := hs
    exact H.trySubmit hr submitted
  | execute i reply enqueued => exact H.execute hs
  | publishEvent entry =>
    simp only [sharedAttachment, Option.some.injEq] at hs
    subst hs
    refine { H with completions := ?_ }
    intro e he
    rcases List.mem_append.mp he with hold | hnew
    · exact H.completions e hold
    · obtain rfl := List.mem_singleton.mp hnew
      exact .inl rfl
  | beginRespond =>
    simp only [sharedAttachment] at hs
    split at hs
    · rename_i e rest hwriter hqueue
      cases hs
      exact H.beginRespond hwriter hqueue
    · cases hs
  | respond =>
    simp only [sharedAttachment, Option.map_eq_some_iff] at hs
    obtain ⟨pc, hpc, rfl⟩ := hs
    exact H.respondStep hpc
  | dropCompletions =>
    simp only [sharedAttachment, Option.some.injEq] at hs
    subst hs
    obtain ⟨n, k, hring⟩ := H.responses
    exact { H with responses := ⟨n, k, hring.endPush⟩, completions := by simp }

end OwnInv
end SharedAttachment

/-- In every run in which clients attach to a quiet session and issue fewer than `2 ^ 64`
requests, every future resolved from a reply gets the reply to its own request. -/
theorem correlated_of_attachesQuiet (caps : Priority → RingCapacity) (capacity : RingCapacity)
    (m : ℕ → ClientRequest) (m' : ℕ → ResponseRingEntry) {s : SharedAttachment}
    (h : (sharedAttachment caps capacity m m').Reach AttachesQuiet s) : s.Correlated := by
  have H : s.OwnInv := by
    refine Machine.Reach.invariant (SharedAttachment.OwnInv.init caps capacity m m') ?_ h
    intro s a s' H hok hs
    exact H.step hok hs
  exact H.correlated

/-! ## The reply to somebody else -/

/-- Rings of the default size over zeroed memory. -/
def defaultAttachment : Machine SharedAttachment AttachmentAction :=
  sharedAttachment (fun _ => ⟨8, validRingSize_eight⟩) ⟨8, validRingSize_eight⟩
    (fun _ => ⟨⟨0, 0⟩, .normal, {}⟩) (fun _ => {})

/-- A client attaches, issues one request and publishes it. -/
def attachAndPublish : List AttachmentAction :=
  [.attach, .invoke .normal {}, .beginSubmit] ++ List.replicate 4 (.submit true)

/-- The dispatcher pops one request and hands it to the executor. -/
def dispatchOne : List AttachmentAction :=
  .drain .normal :: List.replicate 4 .dispatch ++ [.trySubmit true]

/-- The handler returns, and the writer pushes the reply. -/
def replyOne : List AttachmentAction :=
  [.execute 0 { statusCode := 7 } true, .beginRespond] ++ List.replicate 4 .respond

/-- The response worker pops one entry and delivers it. -/
def receiveOne : List AttachmentAction :=
  .beginPop :: List.replicate 4 .worker ++ [.deliver]

theorem not_correlated_leftover :
    ∃ s, defaultAttachment.run defaultAttachment.init
        (attachAndPublish ++ dispatchOne ++ [.detach] ++ attachAndPublish ++ replyOne ++
          receiveOne) = some s ∧
      s.resolved.map Prod.fst = [⟨2, 0⟩] ∧ s.executed.map Prod.fst = [⟨1, 0⟩] ∧
      ¬ s.Correlated := by
  have hrun : (defaultAttachment.run defaultAttachment.init
      (attachAndPublish ++ dispatchOne ++ [.detach] ++ attachAndPublish ++ replyOne ++
        receiveOne)).any
      (fun s => s.resolved.map Prod.fst = [⟨2, 0⟩] ∧ s.executed.map Prod.fst = [⟨1, 0⟩]) =
        true := by decide +kernel
  obtain ⟨s, hs, hcrossed⟩ := Machine.exists_of_any hrun
  obtain ⟨hresolved, hexecuted⟩ := hcrossed
  refine ⟨s, hs, hresolved, hexecuted, ?_⟩
  intro h
  -- the future of the second client was resolved, and only the first one's request was run
  have hfuture : (⟨2, 0⟩ : CallRef) ∈ s.resolved.map Prod.fst := by
    rw [hresolved]
    exact List.mem_singleton_self _
  obtain ⟨x, hx, href⟩ := List.mem_map.mp hfuture
  have hrun' : x.1 ∈ s.executed.map Prod.fst := List.mem_map_of_mem (h x hx)
  rw [hexecuted, href, List.mem_singleton] at hrun'
  exact absurd (congrArg CallRef.client hrun') (by decide)

theorem correlated_successive :
    ∃ s, defaultAttachment.runOk AttachesQuiet defaultAttachment.init
        (attachAndPublish ++ dispatchOne ++ replyOne ++ receiveOne ++ [.detach] ++
          attachAndPublish ++ dispatchOne ++ replyOne ++ receiveOne) = some s ∧
      s.clients = 2 ∧ s.resolved.length = 2 ∧ s.Correlated := by
  have hrun : (defaultAttachment.runOk AttachesQuiet defaultAttachment.init
      (attachAndPublish ++ dispatchOne ++ replyOne ++ receiveOne ++ [.detach] ++
        attachAndPublish ++ dispatchOne ++ replyOne ++ receiveOne)).any
      (fun s => s.clients = 2 ∧ s.resolved.length = 2) = true := by decide +kernel
  obtain ⟨s, hs, hserved⟩ := Machine.exists_of_any hrun
  exact ⟨s, hs, hserved.1, hserved.2,
    correlated_of_attachesQuiet _ _ _ _ (Machine.reach_of_runOk _ hs)⟩

end MemRpc
