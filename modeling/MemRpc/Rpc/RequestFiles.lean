import MemRpc.Rpc.CallFidelity
import MemRpc.Rpc.PayloadFiles

/-!
# The payload file of a request after its processing

`ProcessEntry` with the files it touches. The file of a request is removed where its payload is
resolved, and that happens in `InvokeHandler`, after the handler has been looked up. A request
with a handler leaves no file, whatever fails in between. A request whose opcode has no handler
leaves its file behind, and so does one that finds an invalid session.

The client and the server have attached to the same header, so they have the same payload limits.
The handlers do not touch payload files.

## Main definitions

* `EntryServer`: what `ProcessEntry` reads of the server.
* `FileWorld.processEntry`.
-/

namespace MemRpc

/-- What `ProcessEntry` finds at the server: the session, its payload limits, and the handlers. -/
structure EntryServer where
  /-- `session.Valid()` when the entry is taken up. -/
  valid : Bool
  maxRequestBytes : UInt32
  maxResponseBytes : UInt32
  handlers : UInt16 → Option (RpcServerCall → RpcReply)

/-- What happens to the response on its way. -/
structure ResponseFate where
  /-- `session.Valid()` when the response is prepared. -/
  valid : Bool
  /-- The name for a payload file. -/
  stamp : FileStamp
  /-- The references in the rings, for `MarkSessionBroken`. -/
  pending : List FilePayloadRef
  /-- The completion of the response, if `EnqueueCompletion` takes it. -/
  completion : Option StatusCode

namespace FileWorld

/-- `RemoveResponseFilePayloadIfPresent`. -/
def removeResponseFilePayloadIfPresent (w : FileWorld) (beyond : ℕ → UInt8)
    (e : ResponseRingEntry) : FileWorld :=
  (w.removeFilePayloadFromTransport (payloadMemory e.payload beyond) e.resultSize.toNat
    e.payloadKind).2

/-- `MarkSessionBroken`: the payload files of the entries in the rings. -/
def markSessionBroken (w : FileWorld) (pending : List FilePayloadRef) : FileWorld :=
  pending.foldl (fun w ref => (w.removeFilePayload ref).2) w

/-- `InvokeHandler`. -/
def invokeHandler (server : EntryServer) (beyond : ℕ → UInt8) (w : FileWorld)
    (e : RequestRingEntry) : RpcReply × FileWorld :=
  match server.handlers e.opcode with
  | none => ({ status := .invalidArgument }, w)
  | some handler =>
    let resolved := w.resolveFilePayloadFromTransport (payloadMemory e.payload beyond)
      e.payloadSize.toNat e.payloadKind
    match resolved.1 with
    | none => ({ status := .protocolMismatch }, resolved.2)
    | some payload => (handler (buildServerCall e payload), resolved.2)

/-- `WriteResponse`. The response writer removes the file of a response it fails to push. -/
def writeResponse (server : EntryServer) (fate : ResponseFate) (beyond : ℕ → UInt8) (w : FileWorld)
    (e : RequestRingEntry) (reply : RpcReply) : StatusCode × FileWorld :=
  if fate.valid = false then (.peerDisconnected, w)
  else
    let prepared := w.prepareFilePayloadForTransport fate.stamp reply.payload
      (min server.maxResponseBytes.toNat responseInlinePayloadBytes)
    let entry := buildReplyEntry e (transportReply reply prepared.1)
    match fate.completion with
    | none =>
      (.peerDisconnected, (prepared.2.removeResponseFilePayloadIfPresent beyond
        entry).markSessionBroken fate.pending)
    | some .ok => (.ok, prepared.2)
    | some status => (status, (prepared.2.removeResponseFilePayloadIfPresent beyond
        entry).markSessionBroken fate.pending)

/-- `ProcessEntry`. -/
def processEntry (server : EntryServer) (fate : ResponseFate) (beyond : ℕ → UInt8) (w : FileWorld)
    (e : RequestRingEntry) : FileWorld :=
  if server.valid = false then w
  else
    match invalidTransport server.maxRequestBytes e with
    | some status => (w.writeResponse server fate beyond e { status }).2
    | none =>
      let replied := w.invokeHandler server beyond e
      (replied.2.writeResponse server fate beyond e replied.1).2

/-! ## What keeps a file away -/

variable {path : List UInt8} {w : FileWorld}

theorem gone_removeFilePayload (h : w.files path = none) (ref : FilePayloadRef) :
    (w.removeFilePayload ref).2.files path = none := by
  unfold removeFilePayload
  split
  · exact h
  · rw [files_unlink]
    by_cases hpath : path = cString ref.path
    · rw [hpath, Function.update_self]
    · rw [Function.update_of_ne hpath, h]

theorem gone_removeResponseFilePayload (h : w.files path = none) (beyond : ℕ → UInt8)
    (e : ResponseRingEntry) :
    (w.removeResponseFilePayloadIfPresent beyond e).files path = none := by
  unfold removeResponseFilePayloadIfPresent removeFilePayloadFromTransport
  split
  · exact h
  split
  · exact h
  split
  · exact h
  · exact gone_removeFilePayload h _

theorem gone_markSessionBroken (h : w.files path = none) (pending : List FilePayloadRef) :
    (w.markSessionBroken pending).files path = none := by
  induction pending generalizing w with
  | nil => exact h
  | cons ref pending ih => exact ih (gone_removeFilePayload h ref)

/-- Preparing a payload creates no file but the one of its own name. -/
theorem gone_prepare {stamp : FileStamp} (h : w.files path = none)
    (hname : makeFilePayloadPath stamp ≠ path) (payload : List UInt8) (maxTransportBytes : ℕ) :
    (w.prepareFilePayloadForTransport stamp payload maxTransportBytes).2.files path = none := by
  rcases prepare_cases w stamp payload maxTransportBytes with
    ⟨-, hfiles⟩ | ⟨p, file, -, -, -, hfile, hback⟩
  · rw [hfiles, h]
  · rw [hback] at h
    cases file with
    | none => exact h
    | some path' =>
      have hne : path ≠ path' := fun heq => hname ((hfile path' rfl).symm.trans heq.symm)
      rwa [Option.elim_some, Function.update_of_ne hne] at h

variable {server : EntryServer} {fate : ResponseFate}

/-- The response creates no file but the one of its own name. -/
theorem gone_writeResponse (h : w.files path = none)
    (hname : makeFilePayloadPath fate.stamp ≠ path) (beyond : ℕ → UInt8) (e : RequestRingEntry)
    (reply : RpcReply) : (w.writeResponse server fate beyond e reply).2.files path = none := by
  unfold writeResponse
  split
  · exact h
  have hprepared := gone_prepare h hname reply.payload
    (min server.maxResponseBytes.toNat responseInlinePayloadBytes)
  dsimp only
  split
  · exact gone_markSessionBroken (gone_removeResponseFilePayload hprepared beyond _) _
  · exact hprepared
  · exact gone_markSessionBroken (gone_removeResponseFilePayload hprepared beyond _) _

/-- Resolving the envelope of a payload file removes the file, even if it cannot be read. -/
theorem gone_resolve {stamp : FileStamp} {size : ℕ} (hsize : size ≤ maxFilePayloadBytes)
    {bytes : ℕ → UInt8} (hbytes : StartsWith bytes (encodeFilePayloadEnvelope
      ⟨makeFilePayloadPath stamp, UInt32.ofNat size⟩)) :
    (w.resolveFilePayloadFromTransport bytes (encodeFilePayloadEnvelope
      ⟨makeFilePayloadPath stamp, UInt32.ofNat size⟩).length payloadKindFileRef).2.files
        (makeFilePayloadPath stamp) = none := by
  have hkinds : payloadKindFileRef ≠ payloadKindInline := by decide
  simp only [resolveFilePayloadFromTransport, if_neg hkinds, ne_eq, not_true_eq_false, if_false,
    decode_envelope stamp _ hbytes, readAndRemoveFilePayload, if_neg (not_refused hsize)]
  split <;> rw [files_removeFilePayload hsize, Function.update_self]

/-- A handler is called after the payload has been resolved, and only then. -/
theorem invokeHandler_of_handler {beyond : ℕ → UInt8} {e : RequestRingEntry}
    (h : (server.handlers e.opcode).isSome) :
    (w.invokeHandler server beyond e).2 = (w.resolveFilePayloadFromTransport
      (payloadMemory e.payload beyond) e.payloadSize.toNat e.payloadKind).2 := by
  obtain ⟨handler, hhandler⟩ := Option.isSome_iff_exists.mp h
  simp only [invokeHandler, hhandler]
  split <;> rfl

/-! ## What leaves a file alone -/

theorem kept_markSessionBroken {pending : List FilePayloadRef}
    (h : ∀ ref ∈ pending, cString ref.path ≠ path) :
    (w.markSessionBroken pending).files path = w.files path := by
  induction pending generalizing w with
  | nil => rfl
  | cons ref pending ih =>
    have hother : (w.removeFilePayload ref).2.files path = w.files path := by
      unfold removeFilePayload
      split
      · rfl
      · exact Function.update_of_ne (h ref List.mem_cons_self).symm _ _
    exact (ih fun ref' href' => h ref' (List.mem_cons_of_mem _ href')).trans hother

/-- A response without a payload has no file, and its failure leads only to the sweep. -/
theorem kept_writeResponse (h : ∀ ref ∈ fate.pending, cString ref.path ≠ path)
    (server : EntryServer) (beyond : ℕ → UInt8) (e : RequestRingEntry) (status : StatusCode) :
    (w.writeResponse server fate beyond e { status }).2.files path = w.files path := by
  have hinline : w.prepareFilePayloadForTransport fate.stamp []
      (min server.maxResponseBytes.toNat responseInlinePayloadBytes) =
        (some ⟨[], payloadKindInline⟩, w) := if_pos (Nat.zero_le _)
  have hremove : w.removeResponseFilePayloadIfPresent beyond (buildReplyEntry e
      (transportReply { status } (some ⟨[], payloadKindInline⟩))) = w := rfl
  unfold writeResponse
  rw [hinline]
  split
  · rfl
  dsimp only
  split
  · rw [hremove, kept_markSessionBroken h]
  · rfl
  · rw [hremove, kept_markSessionBroken h]

/-- An invalid session and a missing handler are answered without a look at the payload. -/
theorem kept_processEntry {e : RequestRingEntry} (h : ∀ ref ∈ fate.pending, cString ref.path ≠ path)
    (hentry : invalidTransport server.maxRequestBytes e = none)
    (hskipped : ¬ (server.valid = true ∧ (server.handlers e.opcode).isSome)) (beyond : ℕ → UInt8) :
    (w.processEntry server fate beyond e).files path = w.files path := by
  unfold processEntry
  split
  · rfl
  rename_i hvalid
  have hhandler : server.handlers e.opcode = none := by simpa [hvalid] using hskipped
  rw [hentry]
  simp only [invokeHandler, hhandler]
  exact kept_writeResponse h server beyond e _

end FileWorld

section

variable {server : EntryServer} {client : FileWorld} {stamp : FileStamp} {call : RpcCall}
  {p : TransportPayload}

/-- A request that was prepared as a file reference leaves no file when `ProcessEntry` returns if
its opcode has a handler and the session is valid; and only then, if the file was there and the
sweep of a broken session does not come across it. The response's file, if it has one, has a name
of its own. -/
theorem requestFile_removed (w : FileWorld) (fate : ResponseFate) (beyond : ℕ → UInt8)
    (requestId : UInt64)
    (hprepared : (client.prepareFilePayloadForTransport stamp call.payload
      (min server.maxRequestBytes.toNat requestInlinePayloadBytes)).1 = some p)
    (hkind : p.payloadKind = payloadKindFileRef)
    (hname : makeFilePayloadPath fate.stamp ≠ makeFilePayloadPath stamp) :
    (server.valid = true ∧ (server.handlers call.opcode).isSome →
      (w.processEntry server fate beyond (buildRequestEntry requestId call p)).files
        (makeFilePayloadPath stamp) = none) ∧
    (w.files (makeFilePayloadPath stamp) ≠ none →
      (∀ ref ∈ fate.pending, cString ref.path ≠ makeFilePayloadPath stamp) →
      ((w.processEntry server fate beyond (buildRequestEntry requestId call p)).files
          (makeFilePayloadPath stamp) = none ↔
        server.valid = true ∧ (server.handlers call.opcode).isSome)) := by
  rcases FileWorld.prepare_cases client stamp call.payload
      (min server.maxRequestBytes.toNat requestInlinePayloadBytes) with
    ⟨hnone, -⟩ | ⟨p', file, hsome, hlength, htransported, hfile, -⟩
  · cases hnone.symm.trans hprepared
  cases hsome.symm.trans hprepared
  obtain ⟨hmax, hle⟩ := le_min_iff.mp hlength
  have hentry := htransported.invalidTransport hmax hle requestId call
  have hgone : server.valid = true ∧ (server.handlers call.opcode).isSome →
      (w.processEntry server fate beyond (buildRequestEntry requestId call p)).files
        (makeFilePayloadPath stamp) = none := by
    rintro ⟨hvalid, hhandler⟩
    rw [FileWorld.processEntry, if_neg (by simp [hvalid]), hentry]
    -- the envelope is that of the request's own file
    cases htransported with
    | inline => cases hkind
    | file stamp' hsize hcontent =>
      have hpath : makeFilePayloadPath stamp' = makeFilePayloadPath stamp := hfile _ rfl
      have hresolved := FileWorld.gone_resolve (w := w) hsize (startsWith_payloadArray beyond hle)
      rw [← hpath] at hname ⊢
      apply FileWorld.gone_writeResponse _ hname
      rw [FileWorld.invokeHandler_of_handler hhandler]
      simp only [buildRequestEntry, toNat_size hle]
      exact hresolved
  refine ⟨hgone, fun hpresent hswept => ⟨fun hremoved => ?_, hgone⟩⟩
  by_contra hskipped
  exact hpresent ((FileWorld.kept_processEntry hswept hentry hskipped beyond).symm.trans hremoved)

/-- A call with one byte more than fits the entry. -/
def oversizeCall : RpcCall where
  opcode := 7
  payload := List.replicate 8173 1

/-- A server that answers every call with its payload. -/
def echoServer : EntryServer where
  valid := true
  maxRequestBytes := defaultMaxRequestBytes
  maxResponseBytes := defaultMaxResponseBytes
  handlers _ := some fun call => { payload := call.payload }

theorem requestFile_removed_echo :
    let prepared := FileWorld.prepareFilePayloadForTransport { files := fun _ => none } ⟨1, 1, 0⟩
      oversizeCall.payload (min echoServer.maxRequestBytes.toNat requestInlinePayloadBytes)
    let fate : ResponseFate :=
      { valid := true, stamp := ⟨2, 2, 0⟩, pending := [], completion := some .ok }
    ∃ p, prepared.1 = some p ∧ p.payloadKind = payloadKindFileRef ∧
      (prepared.2.processEntry echoServer fate (fun _ => 0)
        (buildRequestEntry 1 oversizeCall p)).files (makeFilePayloadPath ⟨1, 1, 0⟩) = none := by
  have hkind : (FileWorld.prepareFilePayloadForTransport { files := fun _ => none } ⟨1, 1, 0⟩
      oversizeCall.payload
      (min echoServer.maxRequestBytes.toNat requestInlinePayloadBytes)).1.map (·.payloadKind) =
        some payloadKindFileRef := by decide +kernel
  obtain ⟨p, hp, hkind⟩ := Option.map_eq_some_iff.mp hkind
  exact ⟨p, hp, hkind, (requestFile_removed _ _ _ 1 hp hkind (by decide +kernel)).1 ⟨rfl, rfl⟩⟩

/-- A server without handlers. -/
def bareServer : EntryServer where
  valid := true
  maxRequestBytes := defaultMaxRequestBytes
  maxResponseBytes := defaultMaxResponseBytes
  handlers _ := none

/-- The file of a call that the server has no handler for stays when `ProcessEntry` has
answered. -/
theorem requestFile_left :
    let prepared := FileWorld.prepareFilePayloadForTransport { files := fun _ => none } ⟨1, 1, 0⟩
      oversizeCall.payload (min bareServer.maxRequestBytes.toNat requestInlinePayloadBytes)
    let fate : ResponseFate :=
      { valid := true, stamp := ⟨2, 2, 0⟩, pending := [], completion := some .ok }
    ∃ p, prepared.1 = some p ∧ p.payloadKind = payloadKindFileRef ∧
      (prepared.2.processEntry bareServer fate (fun _ => 0)
        (buildRequestEntry 1 oversizeCall p)).files (makeFilePayloadPath ⟨1, 1, 0⟩) =
          some oversizeCall.payload := by
  have hkind : (FileWorld.prepareFilePayloadForTransport { files := fun _ => none } ⟨1, 1, 0⟩
      oversizeCall.payload
      (min bareServer.maxRequestBytes.toNat requestInlinePayloadBytes)).1.map (·.payloadKind) =
        some payloadKindFileRef := by decide +kernel
  rcases FileWorld.prepare_cases { files := fun _ => none } ⟨1, 1, 0⟩ oversizeCall.payload
      (min bareServer.maxRequestBytes.toNat requestInlinePayloadBytes) with
    ⟨hnone, -⟩ | ⟨p, file, hsome, hlength, htransported, hfile, -⟩
  · rw [hnone] at hkind
    cases hkind
  · rw [hsome] at hkind
    obtain ⟨hmax, hle⟩ := le_min_iff.mp hlength
    have hentry := htransported.invalidTransport hmax hle 1 oversizeCall
    refine ⟨p, hsome, Option.some.inj hkind, ?_⟩
    rw [FileWorld.kept_processEntry (List.forall_mem_nil _) hentry (fun h => nomatch h.2)]
    cases htransported with
    | inline => cases hkind
    | file stamp' _ hcontent =>
      have hpath : makeFilePayloadPath stamp' = makeFilePayloadPath ⟨1, 1, 0⟩ := hfile _ rfl
      rw [← hpath, hcontent]

end

end MemRpc
