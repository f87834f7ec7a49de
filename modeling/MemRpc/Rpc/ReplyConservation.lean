import MemRpc.Rpc.CompletionQueue

/-!
# Conservation of replies

A popped request passes the dispatcher, an executor, a task, the completion queue and the
response writer. Each of them has an exit without a reply: the executor is stopped, the
session is reset, `EnqueueCompletion` refuses, the push fails. Either the exit runs
`MarkSessionBroken` itself, or it is open only after `Stop` has. A reply is pushed at most
once, since its item is in one place only.

## Main definitions

* `Answers`: the entry of an item belongs to its caller.
* `RepliesConserved`: the property.
-/

namespace MemRpc

open Concurrency

variable {cfg : ServerConfig} {s s' : ServerRuntime}

/-- The entry that a caller is about to enqueue. -/
def CallerPc.heldEntry : CallerPc → Option ResponseRingEntry
  | .locking e | .admitting e | .pushing e => some e
  | _ => none

variable {pc : CallerPc}

theorem CallerPc.of_request {e : RequestRingEntry} (he : pc.request? = some e) :
    pc.event? = none ∧ pc.heldEntry = none := by
  cases pc with
  | submitting | queued | processing | invoking | preparing => exact ⟨rfl, rfl⟩
  | _ => cases he

theorem CallerPc.of_event {e : RpcEvent} (he : pc.event? = some e) :
    pc.request? = none ∧ pc.heldEntry = none := by
  cases pc with
  | checking | validating | preparingEvent => exact ⟨rfl, rfl⟩
  | _ => cases he

/-- The item of a push that has been tried for the last time. -/
def ResponseWriterPc.tried? : ResponseWriterPc → Option CompletionItem
  | .rechecking item | .failed item _ | .completing item _ => some item
  | _ => none

/-- The entry is a reply to the request of the task, or an event. -/
def Answers (requests : List RequestRingEntry) (e : ResponseRingEntry) : Caller → Prop
  | .task n => ∃ request, requests[n]? = some request ∧ e.messageKind = messageKindReply ∧
      e.requestId = request.requestId
  | .event _ => e.messageKind = messageKindEvent

variable {c : Caller}

/-- Entries stay answers when more requests are popped. -/
theorem Answers.append {requests : List RequestRingEntry} {e : ResponseRingEntry}
    (h : Answers requests e c) (more : List RequestRingEntry) : Answers (requests ++ more) e c := by
  cases c with
  | task n =>
    obtain ⟨request, hget, hkind, hid⟩ := h
    obtain ⟨hlt, -⟩ := List.getElem?_eq_some_iff.mp hget
    exact ⟨request, by rw [List.getElem?_append_left hlt, hget], hkind, hid⟩
  | event n => exact h

namespace ServerRuntime

/-- The callers whose entry is in the response ring. -/
def replied (s : ServerRuntime) : List Caller := s.pushed.map CompletionItem.caller

/-- A request is answered at most once, with its own id, and a request whose processing
has finished is answered unless the session was marked broken. -/
structure RepliesConserved (s : ServerRuntime) : Prop where
  once : s.replied.Nodup
  own : ∀ item ∈ s.pushed, Answers s.requests item.entry item.caller
  answered : ∀ n, s.caller (.task n) = .finished ∨ s.caller (.task n) = .released →
    .task n ∈ s.replied ∨ s.marked = true

/-! ## The entries -/

/-- The items on their way to the ring, and those there. -/
def items (s : ServerRuntime) : List CompletionItem :=
  s.completionQueue ++ s.writer.item?.toList ++ s.pushed

/-- Requests, events and entries are with the callers they belong to, and the items of
tasks break the session when they fail. -/
structure EntryInv (s : ServerRuntime) : Prop where
  request : ∀ c e, (s.caller c).request? = some e → ∃ n, c = .task n ∧ s.requests[n]? = some e
  event : ∀ c e, (s.caller c).event? = some e → ∃ n, c = .event n
  entry : ∀ c e, (s.caller c).heldEntry = some e → Answers s.requests e c
  item : ∀ i ∈ s.items, Answers s.requests i.entry i.caller
  breaks : ∀ i ∈ s.items, ∀ n, i.caller = .task n → i.breakSessionOnFailure = true

namespace EntryInv

/-- A step that makes no item and moves no caller. -/
theorem frame (H : s.EntryInv) (hcaller : s'.caller = s.caller) (hrequests : s'.requests = s.requests)
    (hitems : ∀ i ∈ s'.items, i ∈ s.items) : s'.EntryInv where
  request := by
    rw [hcaller, hrequests]
    exact H.request
  event := by
    rw [hcaller]
    exact H.event
  entry := by
    rw [hcaller, hrequests]
    exact H.entry
  item i hi := hrequests ▸ H.item i (hitems i hi)
  breaks i hi := H.breaks i (hitems i hi)

/-- One caller moves. What it carries at its new point has to be its own. -/
theorem setCaller (H : s.EntryInv)
    (hcaller : s'.caller = (s.setCaller c pc).caller) (hrequests : s'.requests = s.requests)
    (hitems : s'.items = s.items)
    (hrequest : ∀ e, pc.request? = some e → ∃ n, c = .task n ∧ s.requests[n]? = some e)
    (hevent : ∀ e, pc.event? = some e → ∃ n, c = .event n)
    (hentry : ∀ e, pc.heldEntry = some e → Answers s.requests e c) : s'.EntryInv := by
  have hcases : ∀ (P : Caller → CallerPc → Prop), P c pc → (∀ d, P d (s.caller d)) →
      ∀ d, P d (s'.caller d) := by
    intro P hnew hold d
    rw [hcaller]
    by_cases hd : d = c
    · subst hd
      simpa using hnew
    · rw [setCaller_of_ne s pc hd]
      exact hold d
  refine ⟨?_, ?_, ?_, ?_, ?_⟩
  · rw [hrequests]
    exact hcases (fun d pc => ∀ e, pc.request? = some e → ∃ n, d = .task n ∧ s.requests[n]? = some e)
      hrequest H.request
  · exact hcases (fun d pc => ∀ e, pc.event? = some e → ∃ n, d = .event n) hevent H.event
  · rw [hrequests]
    exact hcases (fun d pc => ∀ e, pc.heldEntry = some e → Answers s.requests e d) hentry H.entry
  · rw [hitems, hrequests]
    exact H.item
  · rw [hitems]
    exact H.breaks

/-- A caller moves to a point at which it carries nothing. -/
theorem emptyHanded (H : s.EntryInv)
    (hcaller : s'.caller = (s.setCaller c pc).caller) (hrequests : s'.requests = s.requests)
    (hitems : s'.items = s.items) (hrequest : pc.request? = none) (hevent : pc.event? = none)
    (hentry : pc.heldEntry = none) : s'.EntryInv :=
  H.setCaller hcaller hrequests hitems (by simp [hrequest]) (by simp [hevent]) (by simp [hentry])

theorem callerMove (H : s.EntryInv) (h : CallerMove s c pc)
    (hcaller : s'.caller = (s.setCaller c pc).caller) (hrequests : s'.requests = s.requests)
    (hitems : s'.items = s.items) : s'.EntryInv := by
  cases h with
  | @request e _ hold hnew =>
    obtain ⟨hevent, hentry⟩ := CallerPc.of_request hnew
    refine H.setCaller hcaller hrequests hitems ?_ (by simp [hevent]) (by simp [hentry])
    intro e' he'
    obtain rfl : e = e' := by simpa [hnew] using he'
    exact H.request c e hold
  | @reply e reply d hold =>
    refine H.setCaller hcaller hrequests hitems (by simp [CallerPc.request?])
      (by simp [CallerPc.event?]) ?_
    rintro _ ⟨⟩
    obtain ⟨n, rfl, hget⟩ := H.request c e (by simp [hold, CallerPc.request?])
    exact ⟨e, hget, rfl, rfl⟩
  | abandon hold hgone => exact H.emptyHanded hcaller hrequests hitems rfl rfl rfl
  | @call n ev hc hold =>
    exact H.setCaller hcaller hrequests hitems (by simp [CallerPc.request?]) (fun _ _ => ⟨n, hc⟩)
      (by simp [CallerPc.heldEntry])
  | @event ev _ hold hnew =>
    obtain ⟨hrequest, hentry⟩ := CallerPc.of_event hnew
    exact H.setCaller hcaller hrequests hitems (by simp [hrequest])
      (fun _ _ => H.event c ev hold) (by simp [hentry])
  | @eventEntry ev p hold =>
    refine H.setCaller hcaller hrequests hitems (by simp [CallerPc.request?])
      (by simp [CallerPc.event?]) ?_
    rintro _ ⟨⟩
    obtain ⟨n, rfl⟩ := H.event c ev (by simp [hold, CallerPc.event?])
    rfl
  | eventReturn | answered | release => exact H.emptyHanded hcaller hrequests hitems rfl rfl rfl

/-- The task of a popped request. -/
theorem pop (H : s.EntryInv) (e : RequestRingEntry)
    (hcaller : s'.caller = (s.setCaller (.task s.requests.length) (.submitting e)).caller)
    (hrequests : s'.requests = s.requests ++ [e]) (hitems : s'.items = s.items) :
    s'.EntryInv := by
  -- the other callers and the items keep their requests
  let t : ServerRuntime := { s with requests := s.requests ++ [e] }
  have hmore : t.EntryInv := by
    refine ⟨?_, H.event, ?_, ?_, H.breaks⟩
    · intro c e' he'
      obtain ⟨n, hc, hget⟩ := H.request c e' he'
      obtain ⟨hlt, -⟩ := List.getElem?_eq_some_iff.mp hget
      exact ⟨n, hc, by simp only [t]; rw [List.getElem?_append_left hlt, hget]⟩
    · exact fun c e' he' => (H.entry c e' he').append [e]
    · exact fun i hi => (H.item i hi).append [e]
  refine hmore.setCaller hcaller hrequests hitems ?_ (by simp [CallerPc.event?])
    (by simp [CallerPc.heldEntry])
  rintro _ ⟨⟩
  exact ⟨_, rfl, by simp [t]⟩

/-- The entry of a caller becomes an item. -/
theorem enqueue (H : s.EntryInv) {e : ResponseRingEntry} (hpc : s.caller c = .pushing e) :
    ({ s.setCaller c .counting with
        completionQueue := s.completionQueue ++ [completionItem c e]
        accepted := s.accepted ++ [c] } : ServerRuntime).EntryInv := by
  have hcaller : (s.setCaller c .counting).EntryInv :=
    H.emptyHanded rfl rfl rfl rfl rfl rfl
  have hitem : ∀ i ∈ ({ s.setCaller c .counting with
      completionQueue := s.completionQueue ++ [completionItem c e]
      accepted := s.accepted ++ [c] } : ServerRuntime).items,
      i ∈ s.items ∨ i = completionItem c e := by
    intro i hi
    simp only [items, ServerRuntime.setCaller, List.mem_append, List.mem_singleton] at hi ⊢
    tauto
  refine ⟨hcaller.request, hcaller.event, hcaller.entry, ?_, ?_⟩
  · intro i hi
    rcases hitem i hi with hi | rfl
    · exact H.item i hi
    · rw [caller_completionItem, entry_completionItem]
      exact H.entry c e (by simp [hpc, CallerPc.heldEntry])
  · intro i hi n hn
    rcases hitem i hi with hi | rfl
    · exact H.breaks i hi n hn
    · obtain rfl : c = .task n := by simpa using hn
      rfl

theorem threadMove (H : s.EntryInv) (hmove : ThreadMove cfg s s') : s'.EntryInv := by
  -- a writer that keeps its item
  have hwriter : ∀ {s' : ServerRuntime}, s'.caller = s.caller → s'.requests = s.requests →
      s'.completionQueue = s.completionQueue → s'.pushed = s.pushed →
      s'.writer.item? = s.writer.item? → s'.EntryInv := by
    intro s' hcaller hrequests hqueue hpushed hitem
    refine H.frame hcaller hrequests ?_
    simp only [items, hqueue, hpushed, hitem]
    exact fun _ => id
  cases hmove with
  | attach | dispatcher => exact hwriter rfl rfl rfl rfl rfl
  | pop e => exact H.pop e rfl rfl rfl
  | caller h dispatcher pending => exact H.callerMove h rfl rfl rfl
  | @lock c e hpc hfree =>
    refine H.setCaller rfl rfl rfl (by simp [CallerPc.request?]) (by simp [CallerPc.event?]) ?_
    rintro _ ⟨⟩
    exact H.entry c e (by simp [hpc, CallerPc.heldEntry])
  | @refuse c e hpc =>
    exact H.emptyHanded rfl rfl rfl (by cases c <;> rfl) (by cases c <;> rfl) (by cases c <;> rfl)
  | @accept c e hpc hrunning hroom =>
    refine H.setCaller rfl rfl rfl (by simp [CallerPc.request?]) (by simp [CallerPc.event?]) ?_
    rintro _ ⟨⟩
    exact H.entry c e (by simp [hpc, CallerPc.heldEntry])
  | enqueue hpc => exact H.enqueue hpc
  | count hpc =>
    refine H.emptyHanded rfl rfl ?_ rfl rfl rfl
    simp only [items, notifyWriter, ResponseWriterPc.item_notified]
    rfl
  | breakSession hpc => exact H.emptyHanded rfl rfl rfl rfl rfl rfl
  | writerLock hpc hfree =>
    refine hwriter rfl rfl rfl rfl ?_
    rcases hpc with hpc | hpc <;> rw [hpc] <;> rfl
  | writerReady hpc | writerSleepy hpc | writerBlock hpc | writerWake hpc =>
    exact hwriter rfl rfl rfl rfl (by rw [hpc]; rfl)
  | writerPop hpc hqueue =>
    refine H.frame rfl rfl ?_
    intro i hi
    simp only [items, hqueue, ResponseWriterPc.item?, Option.toList_some, List.mem_append,
      List.mem_cons] at hi ⊢
    tauto
  | writerExit hpc hempty hrunning => exact hwriter rfl rfl rfl rfl (by rw [hpc]; rfl)
  | writerItem h => exact hwriter rfl rfl rfl rfl h.item_eq
  | writerPush hpc =>
    refine H.frame rfl rfl ?_
    intro i hi
    simp only [items, hpc, ResponseWriterPc.item?, Option.toList_some, List.mem_append,
      List.mem_singleton] at hi ⊢
    tauto
  | writerBreak hpc | writerFailed hpc => exact hwriter rfl rfl rfl rfl (by rw [hpc]; rfl)
  | writerComplete hpc =>
    refine H.frame rfl rfl ?_
    intro i hi
    simp only [items, ResponseWriterPc.item?, Option.toList_none, List.append_nil,
      List.mem_append] at hi ⊢
    tauto
  | writerFinish hpc | writerCount hpc => exact hwriter rfl rfl rfl rfl (by rw [hpc]; rfl)

theorem stopMove (H : s.EntryInv) (hmove : StopMove s s') : s'.EntryInv := by
  cases hmove with
  | swap hpc =>
    refine H.frame rfl rfl ?_
    intro i hi
    simp only [items, List.nil_append, List.mem_append] at hi ⊢
    tauto
  | notify hpc =>
    refine H.frame rfl rfl ?_
    simp only [items, notifyWriter, ResponseWriterPc.item_notified]
    exact fun _ => id
  | _ => exact H.frame rfl rfl fun _ => id

theorem of_reach {ok : ServerRuntime → ServerAction → Prop} (h : (serverRuntime cfg).Reach ok s) :
    s.EntryInv := by
  refine h.invariant ?_ ?_
  · refine ⟨?_, ?_, ?_, ?_, ?_⟩ <;> simp [serverRuntime, items, CallerPc.request?, CallerPc.event?,
      CallerPc.heldEntry, ResponseWriterPc.item?]
  · intro s a s' H _ hs
    cases ServerMove.of_step hs with
    | thread h => exact H.threadMove h
    | stop h => exact H.stopMove h

end EntryInv

/-! ## The replies -/

/-- The caller has its entry in the ring, or the session is marked. -/
def Settled (s : ServerRuntime) (c : Caller) : Prop := c ∈ s.replied ∨ s.marked = true

/-- What is pushed was pushed once, and no task ends without a reply or a break. -/
structure ReplyInv (s : ServerRuntime) : Prop where
  once : s.replied.Nodup
  place : ∀ c ∈ s.replied,
    c ∈ s.completed.map Prod.fst ∨ ∃ item, s.writer.tried? = some item ∧ item.caller = c
  rechecked : ∀ item, s.writer = .rechecking item → item.caller ∈ s.replied
  completing : ∀ item status, s.writer = .completing item status →
    ∀ n, item.caller = .task n → s.Settled (.task n)
  completed : ∀ n, .task n ∈ s.completed.map Prod.fst → s.Settled (.task n)
  finished : ∀ n, s.caller (.task n) = .finished ∨ s.caller (.task n) = .released →
    s.Settled (.task n)
  gone : s.executorStopped = true ∨ s.valid = false ∨ s.stop.marked = true → s.marked = true

theorem Settled.mono (h : s.Settled c) (hreplied : ∀ c ∈ s.replied, c ∈ s'.replied)
    (hmarked : s.marked = true → s'.marked = true) : s'.Settled c :=
  h.imp (hreplied c) hmarked

/-- A step that pushes and completes nothing. -/
structure Quiet (s s' : ServerRuntime) : Prop where
  pushed : s'.pushed = s.pushed := by rfl
  completed : s'.completed = s.completed := by rfl
  marked : s.marked = true → s'.marked = true := by exact id

/-- Such a step of another thread than that of `Stop`. -/
structure QuietThread (s s' : ServerRuntime) : Prop extends Quiet s s' where
  stopped : s'.executorStopped = s.executorStopped := by rfl
  valid : s'.valid = s.valid := by rfl
  stop : s'.stop = s.stop := by rfl

theorem Quiet.replied_eq (h : Quiet s s') : s'.replied = s.replied := by
  rw [replied, replied, h.pushed]

theorem Quiet.settled (h : Quiet s s') (hc : s.Settled c) : s'.Settled c :=
  hc.mono (by simp [h.replied_eq]) h.marked

namespace ReplyInv

theorem frame (H : s.ReplyInv) (hquiet : Quiet s s')
    (htried : ∀ item, s.writer.tried? = some item → s'.writer.tried? = some item)
    (hrechecked : ∀ item, s'.writer = .rechecking item → s.writer = .rechecking item)
    (hcompleting : ∀ item status, s'.writer = .completing item status →
      ∀ n, item.caller = .task n → s'.Settled (.task n))
    (hfinished : ∀ n, s'.caller (.task n) = .finished ∨ s'.caller (.task n) = .released →
      s'.Settled (.task n))
    (hgone : s'.executorStopped = true ∨ s'.valid = false ∨ s'.stop.marked = true →
      s'.marked = true) : s'.ReplyInv where
  once := by rw [hquiet.replied_eq]; exact H.once
  place c hc := by
    rw [hquiet.replied_eq] at hc
    rw [hquiet.completed]
    refine (H.place c hc).imp_right ?_
    rintro ⟨item, hitem, hcaller⟩
    exact ⟨item, htried item hitem, hcaller⟩
  rechecked item hpc := by rw [hquiet.replied_eq]; exact H.rechecked item (hrechecked item hpc)
  completing := hcompleting
  completed n hn := hquiet.settled (H.completed n (hquiet.completed ▸ hn))
  finished := hfinished
  gone := hgone

theorem gone_of_quietThread (H : s.ReplyInv) (hquiet : QuietThread s s') :
    s'.executorStopped = true ∨ s'.valid = false ∨ s'.stop.marked = true → s'.marked = true := by
  rw [hquiet.stopped, hquiet.valid, hquiet.stop]
  exact fun h => hquiet.marked (H.gone h)

/-- A step that leaves the writer where it is. -/
theorem keepWriter (H : s.ReplyInv) (hquiet : Quiet s s') (hwriter : s'.writer = s.writer)
    (hfinished : ∀ n, s'.caller (.task n) = .finished ∨ s'.caller (.task n) = .released →
      s'.Settled (.task n))
    (hgone : s'.executorStopped = true ∨ s'.valid = false ∨ s'.stop.marked = true →
      s'.marked = true) : s'.ReplyInv := by
  refine H.frame hquiet ?_ ?_ ?_ hfinished hgone <;> rw [hwriter]
  · exact fun _ => id
  · exact fun _ => id
  · exact fun item status hpc n hn => hquiet.settled (H.completing item status hpc n hn)

/-- A caller moves; the point at which a task ends has to be earned. -/
theorem setCaller (H : s.ReplyInv)
    (hcaller : s'.caller = (s.setCaller c pc).caller) (hwriter : s'.writer = s.writer)
    (hquiet : QuietThread s s')
    (hend : ∀ n, c = .task n → pc = .finished ∨ pc = .released → s'.Settled (.task n)) :
    s'.ReplyInv := by
  refine H.keepWriter hquiet.toQuiet hwriter ?_ (H.gone_of_quietThread hquiet)
  rw [hcaller]
  intro n hn
  by_cases hc : Caller.task n = c
  · subst hc
    exact hend n rfl (by simpa using hn)
  · rw [setCaller_of_ne s pc hc] at hn
    exact hquiet.settled (H.finished n hn)

/-- The writer moves without a push or a completion. -/
theorem setWriter (H : s.ReplyInv) (hcaller : s'.caller = s.caller) (hquiet : QuietThread s s')
    (htried : ∀ item, s.writer.tried? = some item → s'.writer.tried? = some item)
    (hrechecked : ∀ item, s'.writer ≠ .rechecking item)
    (hcompleting : ∀ item status, s'.writer = .completing item status →
      ∀ n, item.caller = .task n → s'.Settled (.task n)) : s'.ReplyInv := by
  refine H.frame hquiet.toQuiet htried (fun item hpc => absurd hpc (hrechecked item)) hcompleting
    ?_ (H.gone_of_quietThread hquiet)
  rw [hcaller]
  exact fun n hn => hquiet.settled (H.finished n hn)

/-- The writer moves without an item. -/
theorem setWriterIdle (H : s.ReplyInv) (hcaller : s'.caller = s.caller)
    (hquiet : QuietThread s s') (hold : s.writer.tried? = none)
    (hnew : s'.writer.tried? = none) : s'.ReplyInv := by
  refine H.setWriter hcaller hquiet ?_ ?_ ?_
  · simp [hold]
  · intro item hpc
    simp [hpc, ResponseWriterPc.tried?] at hnew
  · intro item status hpc
    simp [hpc, ResponseWriterPc.tried?] at hnew

theorem writerItem (H : s.ReplyInv) {pc : ResponseWriterPc} (h : WriterItemMove s.writer pc) :
    ({ s with writer := pc } : ServerRuntime).ReplyInv := by
  have hunstored : ∀ {pc : ResponseWriterPc} {item : CompletionItem}, pc.unstored? = some item →
      pc.tried? = none := by
    intro pc item hitem
    cases pc <;> simp_all [ResponseWriterPc.unstored?, ResponseWriterPc.tried?]
  generalize hwriter : s.writer = old at h
  cases h with
  | retry hold hnew =>
    exact H.setWriterIdle rfl {} (hwriter ▸ hunstored hold) (hunstored hnew)
  | giveUp status hold =>
    refine H.setWriter rfl {} ?_ (by simp) (by simp)
    simp [hwriter, hunstored hold]
  | stored item =>
    refine H.setWriter rfl {} ?_ (by simp) ?_
    · rw [hwriter]
      exact fun _ => id
    · rintro _ _ ⟨⟩ n hn
      exact .inl (hn ▸ H.rechecked item hwriter)
  | storedBroken item =>
    refine H.setWriter rfl {} ?_ (by simp) (by simp)
    rw [hwriter]
    exact fun _ => id

/-- A push: the item is in the hands of the writer and in no other place, so it was not
pushed before. -/
theorem writerPush (H : s.ReplyInv) (hitems : s.ItemInv) {item : CompletionItem}
    (hpc : s.writer = .pushing item) :
    ({ s with writer := .rechecking item, pushed := s.pushed ++ [item] } :
      ServerRuntime).ReplyInv := by
  have hnew : item.caller ∉ s.replied := by
    intro hmem
    rcases H.place _ hmem with hdone | ⟨item', htried, -⟩
    · have hflight : item.caller ∈ s.inFlight := by
        simp [inFlight, hpc, ResponseWriterPc.item?]
      have hnodup := hitems.places.nodup_iff.mpr hitems.nodup
      exact (List.disjoint_of_nodup_append hnodup) hflight hdone
    · simp [hpc, ResponseWriterPc.tried?] at htried
  have hsub : ∀ c ∈ s.replied, c ∈ s.replied ++ [item.caller] :=
    fun c hc => List.mem_append_left _ hc
  have hreplied : ({ s with writer := .rechecking item, pushed := s.pushed ++ [item] } :
      ServerRuntime).replied = s.replied ++ [item.caller] := by simp [replied]
  have hsettled : ∀ {c}, s.Settled c → ({ s with
      writer := .rechecking item, pushed := s.pushed ++ [item] } : ServerRuntime).Settled c :=
    fun h => h.mono (hreplied ▸ hsub) id
  refine ⟨?_, ?_, ?_, by simp, fun n hn => hsettled (H.completed n hn),
    fun n hn => hsettled (H.finished n hn), H.gone⟩
  · rw [hreplied, List.nodup_append]
    refine ⟨H.once, List.nodup_singleton _, ?_⟩
    rintro c hc _ hmem rfl
    exact hnew (List.mem_singleton.mp hmem ▸ hc)
  · rw [hreplied]
    intro c hc
    rcases List.mem_append.mp hc with hc | hc
    · left
      rcases H.place c hc with hdone | ⟨item', htried, -⟩
      · exact hdone
      · simp [hpc, ResponseWriterPc.tried?] at htried
    · exact .inr ⟨item, rfl, (List.mem_singleton.mp hc).symm⟩
  · rintro _ ⟨⟩
    rw [hreplied]
    exact List.mem_append_right _ (List.mem_singleton.mpr rfl)

/-- `CompleteItem` of the writer. -/
theorem writerComplete (H : s.ReplyInv) {item : CompletionItem} {status : StatusCode}
    (hpc : s.writer = .completing item status) :
    ({ s with writer := .finishing, completed := s.completed ++ [(item.caller, status)] } :
      ServerRuntime).ReplyInv := by
  refine ⟨H.once, ?_, by simp, by simp, ?_, H.finished, H.gone⟩
  · intro c hc
    left
    rcases H.place c hc with hdone | ⟨item', htried, rfl⟩
    · simp only [List.map_append, List.mem_append]
      exact .inl hdone
    · obtain rfl : item = item' := by simpa [hpc, ResponseWriterPc.tried?] using htried
      simp
  · intro n hn
    simp only [List.map_append, List.map_cons, List.map_nil, List.mem_append,
      List.mem_singleton] at hn
    rcases hn with hn | hn
    · exact H.completed n hn
    · exact H.completing item status hpc n hn.symm

theorem callerMove (H : s.ReplyInv) (hentry : s.EntryInv)
    (h : CallerMove s c pc) (n : ℕ) (hc : c = .task n) (hend : pc = .finished ∨ pc = .released) :
    s.Settled (.task n) := by
  subst hc
  have hpcs : ∀ {e : RequestRingEntry}, pc.request? ≠ some e := by
    intro e
    rcases hend with rfl | rfl <;> simp [CallerPc.request?]
  cases h with
  | request hold hnew => exact absurd hnew hpcs
  | reply d hold => simp at hend
  | abandon hold hgone => exact .inr (H.gone (hgone.imp_right .inl))
  | call ev hc hold => simp at hend
  | event hold hnew => rcases hend with rfl | rfl <;> simp [CallerPc.event?] at hnew
  | eventEntry p hold => simp at hend
  | eventReturn hold =>
    obtain ⟨m, hm⟩ := hentry.event _ _ hold
    cases hm
  | answered hold hready => exact H.completed n (by simpa [ready] using hready)
  | release hold => exact H.finished n (.inl hold)

theorem notifyWriter (H : s.ReplyInv) : s.notifyWriter.ReplyInv := by
  by_cases hblocked : s.writer = .blocked
  · refine H.setWriterIdle rfl {} ?_ ?_ <;>
      simp [ServerRuntime.notifyWriter, hblocked, ResponseWriterPc.notified, ResponseWriterPc.tried?]
  · have hsame : s.writer.notified = s.writer := by
      cases hpc : s.writer <;> simp_all [ResponseWriterPc.notified]
    rw [ServerRuntime.notifyWriter, hsame]
    exact H

theorem threadMove (H : s.ReplyInv) (hitems : s.ItemInv) (hentry : s.EntryInv)
    (hmove : ThreadMove cfg s s') : s'.ReplyInv := by
  cases hmove with
  | attach | dispatcher =>
    exact { H with }
  | pop e => exact H.setCaller rfl rfl {} (by simp)
  | caller h dispatcher pending =>
    exact H.setCaller rfl rfl {} (H.callerMove hentry h)
  | lock hpc hfree => exact H.setCaller rfl rfl {} (by simp)
  | @refuse c e hpc =>
    refine H.setCaller rfl rfl {} ?_
    rintro n rfl hend
    simp [refusedPc] at hend
  | accept | enqueue => exact H.setCaller rfl rfl {} (by simp)
  | count hpc => exact H.notifyWriter.setCaller rfl rfl {} (by simp)
  | breakSession hpc =>
    exact H.setCaller rfl rfl { marked := fun _ => rfl } fun _ _ _ => .inr rfl
  | writerLock hpc hfree =>
    refine H.setWriterIdle rfl {} ?_ rfl
    rcases hpc with hpc | hpc <;> rw [hpc] <;> rfl
  | writerReady hpc | writerSleepy hpc | writerBlock hpc | writerWake hpc | writerPop hpc
  | writerExit hpc =>
    exact H.setWriterIdle rfl {} (by rw [hpc]; rfl) rfl
  | writerItem h => exact H.writerItem h
  | writerPush hpc => exact H.writerPush hitems hpc
  | writerBreak hpc hbreak =>
    refine H.setWriter rfl { marked := fun _ => rfl } ?_ (by simp) fun _ _ _ _ _ => .inr rfl
    rw [hpc]
    exact fun _ => id
  | @writerFailed item status hpc hkeep =>
    refine H.setWriter rfl {} ?_ (by simp) ?_
    · rw [hpc]
      exact fun _ => id
    · -- only events are completed without a break
      rintro _ _ ⟨⟩ n hn
      have hmem : item ∈ s.items := by simp [items, hpc, ResponseWriterPc.item?]
      simp [hentry.breaks item hmem n hn] at hkeep
  | writerComplete hpc => exact H.writerComplete hpc
  | writerFinish hpc | writerCount hpc =>
    exact H.setWriterIdle rfl {} (by rw [hpc]; rfl) rfl

/-- `Stop` moves without completing an item. -/
theorem setStop (H : s.ReplyInv) (hcaller : s'.caller = s.caller) (hwriter : s'.writer = s.writer)
    (hquiet : Quiet s s')
    (hgone : s'.executorStopped = true ∨ s'.valid = false ∨ s'.stop.marked = true →
      s'.marked = true) : s'.ReplyInv := by
  refine H.keepWriter hquiet hwriter ?_ hgone
  rw [hcaller]
  exact fun n hn => hquiet.settled (H.finished n hn)

/-- From its `MarkSessionBroken` on, `Stop` moves freely. -/
theorem setStopMarked (H : s.ReplyInv) (hcaller : s'.caller = s.caller)
    (hwriter : s'.writer = s.writer) (hquiet : Quiet s s') (hstop : s.stop.marked = true) :
    s'.ReplyInv :=
  H.setStop hcaller hwriter hquiet fun _ => hquiet.marked (H.gone (.inr (.inr hstop)))

theorem stopMove (H : s.ReplyInv) (hmove : StopMove s s') : s'.ReplyInv := by
  cases hmove with
  | begin hpc =>
    refine H.setStop rfl rfl {} ?_
    rintro (h | h | h)
    · exact H.gone (.inl h)
    · exact H.gone (.inr (.inl h))
    · cases h
  | mark hpc => exact H.setStop rfl rfl { marked := fun _ => rfl } fun _ => rfl
  | clear hpc =>
    refine H.setStopMarked rfl rfl {} ?_
    rcases hpc with ⟨hpc, -⟩ | ⟨hpc, -⟩ <;> rw [hpc] <;> rfl
  | signal hpc => exact H.setStopMarked rfl rfl {} (by rw [hpc]; rfl)
  | notify hpc =>
    refine H.notifyWriter.setStopMarked rfl rfl {} ?_
    show s.stop.marked = true
    rw [hpc]
    rfl
  | joined hpc | lock hpc | swap hpc | zero hpc =>
    exact H.setStopMarked rfl rfl {} (by rw [hpc]; rfl)
  | @fail item rest hpc =>
    -- what is completed without a push is completed on a broken session
    have hmarked : s.marked = true := H.gone (.inr (.inr (by rw [hpc]; rfl)))
    refine ⟨H.once, ?_, H.rechecked, H.completing, fun _ _ => .inr hmarked, H.finished,
      fun _ => hmarked⟩
    intro c hc
    refine (H.place c hc).imp_left ?_
    intro hdone
    simp only [List.map_append, List.mem_append]
    exact .inl hdone
  | failed hpc | joinedDispatcher hpc => exact H.setStopMarked rfl rfl {} (by rw [hpc]; rfl)
  | executor hpc =>
    refine H.setStopMarked rfl rfl {} ?_
    rcases hpc with ⟨hpc, -⟩ | ⟨hpc, -⟩ <;> rw [hpc] <;> rfl
  | waited hpc | reset hpc => exact H.setStopMarked rfl rfl {} (by rw [hpc]; rfl)

theorem of_reach {ok : ServerRuntime → ServerAction → Prop} (h : (serverRuntime cfg).Reach ok s) :
    s.ReplyInv := by
  refine h.invariant_of_reach ?_ ?_
  · refine ⟨?_, ?_, ?_, ?_, ?_, ?_, ?_⟩ <;> simp [serverRuntime, replied, ServerStopPc.marked,
      ServerStopPc.rank]
  · intro s a s' hreach H _ hs
    cases ServerMove.of_step hs with
    | thread h => exact H.threadMove (.of_reach hreach) (.of_reach hreach) h
    | stop h => exact H.stopMove h

end ReplyInv

end ServerRuntime

/-- In every run, a popped request has at most one reply pushed to the response ring, with
its own id, and has one when its processing has finished unless `MarkSessionBroken` has
been executed. -/
theorem repliesConserved_of_reach (cfg : ServerConfig) {s : ServerRuntime}
    (h : (serverRuntime cfg).Reach Machine.Always s) : s.RepliesConserved := by
  have hreply := ServerRuntime.ReplyInv.of_reach h
  have hentry := ServerRuntime.EntryInv.of_reach h
  refine ⟨hreply.once, ?_, hreply.finished⟩
  intro item hitem
  exact hentry.item item (List.mem_append_right _ hitem)

/-- A request is popped, executed and answered; the next one is refused by the full
completion queue. -/
def answerAndRefuse : List ServerAction :=
  let serve (n : ℕ) : List ServerAction :=
    [.drain true, .drain true, .drain true, .popRequest { requestId := UInt64.ofNat (n + 7) },
      .trySubmit, .execute n true, .caller (.task n), .handle n true {},
      .prepare (.task n) (some ⟨[], 0⟩)]
  serve 0 ++ List.replicate 4 (.caller (.task 0)) ++ List.replicate 4 .writer ++
    [.pushResponse false] ++ List.replicate 2 .writer ++ [.caller (.task 0), .drain false] ++
    serve 1 ++ List.replicate 3 (.caller (.task 1))

theorem repliesConserved_answered :
    ∃ s, smallServer.run smallServer.init answerAndRefuse = some s ∧
      s.caller (.task 0) = .finished ∧ s.caller (.task 1) = .finished ∧
      s.replied = [.task 0] ∧ s.marked = true ∧ s.RepliesConserved := by
  have hrun : (smallServer.run smallServer.init answerAndRefuse).any
      (fun s => s.caller (.task 0) = .finished ∧ s.caller (.task 1) = .finished ∧
        s.replied = [.task 0] ∧ s.marked = true) = true := by decide +kernel
  obtain ⟨s, hs, hfirst, hsecond, hreplied, hmarked⟩ := Machine.exists_of_any hrun
  exact ⟨s, hs, hfirst, hsecond, hreplied, hmarked,
    repliesConserved_of_reach _ (Machine.reach_of_run answerAndRefuse hs)⟩

/-! ## The order of the replies -/

open ResponseWriterPc ServerStopPc

/-- Items are handed on in the order in which they were accepted. -/
structure ServerRuntime.OrderInv (s : ServerRuntime) : Prop where
  accepted : s.completed.map Prod.fst ++ (s.writer.item?.toList ++
    (s.stop.queued ++ s.completionQueue)).map CompletionItem.caller = s.accepted
  replied : (s.pushed.map CompletionItem.caller).Sublist
    (s.completed.map Prod.fst ++ s.writer.tried?.toList.map CompletionItem.caller)

theorem tried_notified (pc : ResponseWriterPc) : pc.notified.tried? = pc.tried? := by
  cases pc <;> rfl

theorem ThreadMove.orderInv (hmove : ThreadMove cfg s s') (H : s.OrderInv) (hstop : s.StopInv) :
    s'.OrderInv := by
  obtain ⟨haccepted, hreplied⟩ := H
  cases hmove with
  | enqueue => exact ⟨by simp [← haccepted, ServerRuntime.setCaller], hreplied⟩
  | count =>
    rw [← item_notified] at haccepted
    rw [← tried_notified] at hreplied
    exact ⟨haccepted, hreplied⟩
  | writerItem h =>
    refine ⟨h.item_eq ▸ haccepted, ?_⟩
    generalize s.writer = pc at h hreplied
    cases h with
    | stored | storedBroken => exact hreplied
    | retry hold | giveUp _ hold =>
      have hnone : pc.tried? = none := by cases pc <;> simp_all [tried?, unstored?]
      exact hreplied.trans (by simp [hnone])
  | writerPop hpc hqueue =>
    -- `Stop` takes the queue when the writer has exited
    have hqueued : s.stop.queued = [] := by
      have hexited := hstop.exited
      cases hstop : s.stop <;> simp_all [queued, joined, rank]
    constructor <;> simp_all [item?, tried?]
  | writerPush hpc | writerComplete hpc => constructor <;> simp_all [item?, tried?]
  | writerLock hpc =>
    rcases hpc with hpc | hpc <;> constructor <;> simp_all [item?, tried?]
  | writerReady hpc | writerSleepy hpc | writerBlock hpc | writerWake hpc | writerExit hpc
  | writerBreak hpc | writerFailed hpc | writerFinish hpc | writerCount hpc =>
    rw [hpc] at haccepted hreplied
    exact ⟨haccepted, hreplied⟩
  | _ => exact ⟨haccepted, hreplied⟩

theorem StopMove.orderInv (hmove : StopMove s s') (H : s.OrderInv) (hstop : s.StopInv) :
    s'.OrderInv := by
  obtain ⟨haccepted, hreplied⟩ := H
  cases hmove with
  | swap hpc => exact ⟨by simpa [hpc, queued] using haccepted, hreplied⟩
  | fail hpc =>
    have hexited := hstop.exited (by rw [hpc]; rfl)
    rw [hexited] at hreplied
    refine ⟨by simp_all [queued, item?], hreplied.trans ?_⟩
    simp [hexited, tried?]
  | clear hpc | executor hpc =>
    rcases hpc with ⟨hpc, rfl⟩ | ⟨hpc, rfl⟩ <;> rw [hpc] at haccepted <;>
      exact ⟨haccepted, hreplied⟩
  | notify hpc =>
    rw [hpc, ← item_notified] at haccepted
    rw [← tried_notified] at hreplied
    exact ⟨haccepted, hreplied⟩
  | begin hpc | mark hpc | signal hpc | joined hpc | lock hpc | zero hpc | failed hpc
  | joinedDispatcher hpc | waited hpc | reset hpc =>
    rw [hpc] at haccepted
    exact ⟨haccepted, hreplied⟩

/-- In every run, items are completed in the order in which `EnqueueCompletion` accepted them, and
replies and events come into the response ring in that order. -/
theorem replies_in_accepted_order (cfg : ServerConfig) {s : ServerRuntime}
    (h : (serverRuntime cfg).Reach Machine.Always s) :
    s.completed.map Prod.fst <+: s.accepted ∧ s.replied.Sublist s.accepted := by
  have H : s.OrderInv := by
    refine h.invariant_of_reach (I := ServerRuntime.OrderInv) ⟨rfl, .refl _⟩ ?_
    intro s a s' hreach H _ hs
    cases ServerMove.of_step hs with
    | thread h => exact h.orderInv H (.of_reach hreach)
    | stop h => exact h.orderInv H (.of_reach hreach)
  rw [← H.accepted]
  refine ⟨List.prefix_append .., H.replied.trans (.append_left ?_ _)⟩
  cases s.writer <;> simp [item?, tried?]

theorem replies_in_accepted_order_answered :
    ∃ s : ServerRuntime, s.replied = [.task 0] ∧
      s.completed.map Prod.fst <+: s.accepted ∧ s.replied.Sublist s.accepted := by
  obtain ⟨s, hs, hreplied⟩ := Machine.exists_of_any (show (smallServer.run smallServer.init
    answerAndRefuse).any (fun s => s.replied = [.task 0]) = true by decide +kernel)
  exact ⟨s, hreplied, replies_in_accepted_order _ (Machine.reach_of_run answerAndRefuse hs)⟩

end MemRpc
