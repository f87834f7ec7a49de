import Mathlib.Data.List.TakeWhile
import MemRpc.Lib.Path
import MemRpc.Lib.Transfer
import MemRpc.Rpc.PayloadTransport

/-!
# Payload files under failing system calls

The functions of `file_payload.cpp` with the calls of the file system they make. `open`, `write`,
`close` and `read` may fail, move fewer bytes than asked, or be interrupted, at any call; what
they do is part of the state. `unlink` succeeds, `fstat` tells the size of the file, and nobody
else touches the files. A path is handed to the system as a C string, up to its first zero byte.

Whatever fails, a payload arrives as it was sent or not at all, and its file is gone afterwards
(`filePayload_roundTrip`). Whatever an envelope holds, the paths it makes the receiver open and
unlink lie in the payload directory (`transport_paths_confined`).

## Main definitions

* `FileWorld`: the files and what the system answers.
* `FileWorld.prepareFilePayloadForTransport`, `FileWorld.resolveFilePayloadFromTransport`,
  `FileWorld.removeFilePayloadFromTransport`.
* `FileWorld.NeverFails`: where they do what the functions on files alone do.

## Main results

* `filePayload_roundTrip`.
* `transport_paths_confined`.
-/

namespace MemRpc

open Transfer

/-- The C string at the start of a text. -/
def cString (path : List UInt8) : List UInt8 := path.takeWhile (· ≠ 0)

/-- A call of `open` or `unlink` with its path. -/
inductive FileCall
  | opened (path : List UInt8)
  | unlinked (path : List UInt8)
  deriving DecidableEq, Repr

def FileCall.path : FileCall → List UInt8
  | .opened path | .unlinked path => path

/-- The payload files, and what the next calls of the system do. Calls beyond a list succeed. -/
structure FileWorld where
  files : PayloadFiles
  /-- What `EnsureFilePayloadDir` returns. -/
  dirReady : Bool := true
  opens : List Bool := []
  writes : List Answer := []
  closes : List Bool := []
  reads : List Answer := []
  /-- The calls with a path, newest first. -/
  calls : List FileCall := []

namespace FileWorld

/-! ## System calls -/

/-- `open` with `O_CREAT | O_EXCL`: the file is new and empty. -/
def openExclusive (w : FileWorld) (path : List UInt8) : Bool × FileWorld :=
  let w' := { w with opens := w.opens.tail, calls := .opened (cString path) :: w.calls }
  if w.opens.headD true ∧ w.files (cString path) = none then
    (true, { w' with files := Function.update w.files (cString path) (some []) })
  else (false, w')

/-- `open` with `O_RDONLY`: what can be read. -/
def openRead (w : FileWorld) (path : List UInt8) : Option (List UInt8) × FileWorld :=
  (if w.opens.headD true then w.files (cString path) else none,
    { w with opens := w.opens.tail, calls := .opened (cString path) :: w.calls })

/-- `unlink`. -/
def unlink (w : FileWorld) (path : List UInt8) : FileWorld :=
  { w with
    files := Function.update w.files (cString path) none
    calls := .unlinked (cString path) :: w.calls }

/-- `close`. -/
def close (w : FileWorld) : Bool × FileWorld :=
  (w.closes.headD true, { w with closes := w.closes.tail })

/-- `WriteAll` to a new file. -/
def writeAll (w : FileWorld) (path data : List UInt8) : Bool × FileWorld :=
  let r := moveAll true w.writes data
  (r.done,
    { w with files := Function.update w.files (cString path) (some r.moved), writes := r.rest })

/-- `ReadAll` of a file with the given content. -/
def readAll (w : FileWorld) (content : List UInt8) : Option (List UInt8) × FileWorld :=
  if maxFilePayloadBytes < content.length then (none, w)
  else
    let r := moveAll true w.reads content
    (if r.done then some r.moved else none, { w with reads := r.rest })

/-! ## The functions -/

/-- `RemoveFilePayload`. -/
def removeFilePayload (w : FileWorld) (ref : FilePayloadRef) : Bool × FileWorld :=
  if ref.Refused then (false, w) else (true, w.unlink ref.path)

/-- `WriteFilePayload`. -/
def writeFilePayload (w : FileWorld) (stamp : FileStamp) (payload : List UInt8) :
    Option FilePayloadRef × FileWorld :=
  if 2 ^ 32 - 1 < payload.length ∨ maxFilePayloadBytes < payload.length then (none, w)
  else if w.dirReady = false then (none, w)
  else
    let path := makeFilePayloadPath stamp
    let opened := w.openExclusive path
    if opened.1 = false then (none, opened.2)
    else
      let written := opened.2.writeAll path payload
      let closed := written.2.close
      if written.1 ∧ closed.1 then (some ⟨path, UInt32.ofNat payload.length⟩, closed.2)
      else (none, closed.2.unlink path)

/-- `ReadAndRemoveFilePayload`. -/
def readAndRemoveFilePayload (w : FileWorld) (ref : FilePayloadRef) :
    Option (List UInt8) × FileWorld :=
  if ref.Refused then (none, w)
  else
    let opened := w.openRead ref.path
    match opened.1 with
    | none => (none, (opened.2.removeFilePayload ref).2)
    | some content =>
      let read := opened.2.readAll content
      (read.1.filter (·.length = ref.size.toNat), (read.2.close.2.removeFilePayload ref).2)

/-- `PrepareFilePayloadForTransport`. Where no file was written, the reference to remove is the
empty one. -/
def prepareFilePayloadForTransport (w : FileWorld) (stamp : FileStamp) (payload : List UInt8)
    (maxTransportBytes : ℕ) : Option TransportPayload × FileWorld :=
  if payload.length ≤ maxTransportBytes then (some ⟨payload, payloadKindInline⟩, w)
  else
    let written := w.writeFilePayload stamp payload
    match written.1 with
    | none => (none, (written.2.removeFilePayload ⟨[], 0⟩).2)
    | some ref =>
      let envelope := encodeFilePayloadEnvelope ref
      if maxTransportBytes < envelope.length then (none, (written.2.removeFilePayload ref).2)
      else (some ⟨envelope, payloadKindFileRef⟩, written.2)

/-- `ResolveFilePayloadFromTransport`. -/
def resolveFilePayloadFromTransport (w : FileWorld) (bytes : ℕ → UInt8) (size : ℕ)
    (payloadKind : UInt8) : Option (List UInt8) × FileWorld :=
  if payloadKind = payloadKindInline then (some ((List.range size).map bytes), w)
  else if payloadKind ≠ payloadKindFileRef then (none, w)
  else
    match (decodeFilePayloadEnvelope bytes size).1 with
    | none => (none, w)
    | some ref => w.readAndRemoveFilePayload ref

/-- `RemoveFilePayloadFromTransport`. -/
def removeFilePayloadFromTransport (w : FileWorld) (bytes : ℕ → UInt8) (size : ℕ)
    (payloadKind : UInt8) : Bool × FileWorld :=
  if payloadKind = payloadKindInline then (true, w)
  else if payloadKind ≠ payloadKindFileRef then (false, w)
  else
    match (decodeFilePayloadEnvelope bytes size).1 with
    | none => (false, w)
    | some ref => w.removeFilePayload ref

/-- The payload is in a file, and the next `open` fails, or reading the content ends early. -/
def ReadFails (w : FileWorld) (payloadKind : UInt8) (content : List UInt8) : Prop :=
  payloadKind = payloadKindFileRef ∧
    (w.opens.headD true = false ∨ (moveAll true w.reads content).done = false)

end FileWorld

/-! ## Names of payload files as C strings -/

theorem IsNameChar.ne_zero {c : Char} (hc : IsNameChar c) : UInt8.ofNat c.toNat ≠ 0 := by
  rcases hc with rfl | rfl | hdigit
  · decide
  · decide
  · have hle : 48 ≤ c.toNat ∧ c.toNat ≤ 57 := by
      simpa [Char.isDigit, UInt32.le_iff_toNat_le] using hdigit
    intro h
    have := congrArg UInt8.toNat h
    simp at this
    omega

theorem ne_zero_of_all {bytes : List UInt8} (h : bytes.all (· ≠ 0) = true) :
    ∀ b ∈ bytes, b ≠ 0 := by
  intro b hb
  exact of_decide_eq_true (List.all_eq_true.mp h b hb)

theorem cString_makeFilePayloadPath (stamp : FileStamp) :
    cString (makeFilePayloadPath stamp) = makeFilePayloadPath stamp := by
  have hname : ∀ x, ∀ b ∈ textBytes (toDecimal x), b ≠ 0 := by
    intro x b hb
    obtain ⟨c, hc, rfl⟩ := List.mem_map.mp hb
    exact (isNameChar_of_mem_toDecimal hc).ne_zero
  have hdir : ∀ b ∈ textBytes filePayloadDir, b ≠ 0 := ne_zero_of_all rfl
  have hslash : ∀ b ∈ textBytes ['/'], b ≠ 0 := ne_zero_of_all rfl
  have hline : ∀ b ∈ textBytes ['_'], b ≠ 0 := ne_zero_of_all rfl
  rw [cString, List.takeWhile_eq_self_iff]
  intro b hb
  rw [decide_eq_true_eq]
  simp only [makeFilePayloadPath, textBytes_append, List.mem_append] at hb
  rcases hb with (((((h | h) | h) | h) | h) | h) | h
  · exact hdir b h
  · exact hslash b h
  · exact hname _ b h
  · exact hline b h
  · exact hname _ b h
  · exact hline b h
  · exact hname _ b h

/-! ## What each function does to the files -/

variable {path : List UInt8}

namespace FileWorld

@[simp] theorem files_unlink (w : FileWorld) (path : List UInt8) :
    (w.unlink path).files = Function.update w.files (cString path) none := rfl

@[simp] theorem files_close (w : FileWorld) : w.close.2.files = w.files := rfl

@[simp] theorem files_writeAll (w : FileWorld) (path data : List UInt8) :
    (w.writeAll path data).2.files =
      Function.update w.files (cString path) (some (moveAll true w.writes data).moved) := rfl

variable {w : FileWorld}

theorem files_openExclusive (h : (w.openExclusive path).1 = true) :
    w.files (cString path) = none ∧
      (w.openExclusive path).2.files = Function.update w.files (cString path) (some []) := by
  unfold openExclusive at h ⊢
  split at h
  · rename_i hopen
    rw [if_pos hopen]
    exact ⟨hopen.2, rfl⟩
  · cases h

theorem files_of_not_openExclusive (h : (w.openExclusive path).1 = false) :
    (w.openExclusive path).2.files = w.files := by
  unfold openExclusive at h ⊢
  split at h
  · cases h
  · rename_i hopen
    rw [if_neg hopen]

/-- `WriteFilePayload` leaves the files as they were, or a new one with the whole payload. -/
theorem writeFilePayload_cases (w : FileWorld) (stamp : FileStamp) (payload : List UInt8) :
    ((w.writeFilePayload stamp payload).1 = none ∧
        (w.writeFilePayload stamp payload).2.files = w.files) ∨
      payload.length ≤ maxFilePayloadBytes ∧ w.files (makeFilePayloadPath stamp) = none ∧
        (w.writeFilePayload stamp payload).1 =
          some ⟨makeFilePayloadPath stamp, UInt32.ofNat payload.length⟩ ∧
        (w.writeFilePayload stamp payload).2.files =
          Function.update w.files (makeFilePayloadPath stamp) (some payload) := by
  unfold writeFilePayload
  split
  · exact .inl ⟨rfl, rfl⟩
  rename_i hsize
  split
  · exact .inl ⟨rfl, rfl⟩
  dsimp only
  split
  · rename_i hopen
    exact .inl ⟨rfl, files_of_not_openExclusive hopen⟩
  rename_i hopen
  obtain ⟨hnew, hfiles⟩ := files_openExclusive (Bool.eq_true_of_not_eq_false hopen)
  simp only [cString_makeFilePayloadPath] at hnew hfiles
  -- the file exists from here on, with what has been written to it
  have hwritten : ∀ data, Function.update (Function.update w.files (makeFilePayloadPath stamp)
      (some [])) (makeFilePayloadPath stamp) data =
        Function.update w.files (makeFilePayloadPath stamp) data :=
    fun data => Function.update_idem _ _ _
  split
  · rename_i hok
    refine .inr ⟨by omega, hnew, rfl, ?_⟩
    rw [files_close, files_writeAll, cString_makeFilePayloadPath, hfiles, hwritten,
      moved_of_done hok.1]
  · refine .inl ⟨rfl, ?_⟩
    rw [files_unlink, files_close, files_writeAll, cString_makeFilePayloadPath,
      Function.update_idem, hfiles, hwritten, ← hnew, Function.update_eq_self]

/-- Removing the file of a payload leaves the other files. -/
theorem files_removeFilePayload {stamp : FileStamp} {size : ℕ}
    (hsize : size ≤ maxFilePayloadBytes) :
    (w.removeFilePayload ⟨makeFilePayloadPath stamp, UInt32.ofNat size⟩).2.files =
      Function.update w.files (makeFilePayloadPath stamp) none := by
  rw [removeFilePayload, if_neg (not_refused hsize), files_unlink, cString_makeFilePayloadPath]

/-- `PrepareFilePayloadForTransport` leaves the files as they were, unless the payload goes into a
new file. -/
theorem prepare_cases (w : FileWorld) (stamp : FileStamp) (payload : List UInt8)
    (maxTransportBytes : ℕ) :
    let r := w.prepareFilePayloadForTransport stamp payload maxTransportBytes
    (r.1 = none ∧ r.2.files = w.files) ∨
      ∃ p file, r.1 = some p ∧ p.bytes.length ≤ maxTransportBytes ∧
        Transported r.2.files payload file p ∧ (∀ path ∈ file, path = makeFilePayloadPath stamp) ∧
        w.files = file.elim r.2.files (Function.update r.2.files · none) := by
  unfold prepareFilePayloadForTransport
  dsimp only
  split
  · rename_i hinline
    exact .inr ⟨_, none, rfl, hinline, .inline, nofun, rfl⟩
  rcases writeFilePayload_cases w stamp payload with
    ⟨hnone, hfiles⟩ | ⟨hsize, hnew, hsome, hfiles⟩
  · rw [hnone]
    exact .inl ⟨rfl, hfiles⟩
  rw [hsome]
  have hback : Function.update (w.writeFilePayload stamp payload).2.files
      (makeFilePayloadPath stamp) none = w.files := by
    rw [hfiles, Function.update_idem, ← hnew, Function.update_eq_self]
  dsimp only
  split
  · exact .inl ⟨rfl, (files_removeFilePayload hsize).trans hback⟩
  · rename_i hfits
    have hfile : (w.writeFilePayload stamp payload).2.files (makeFilePayloadPath stamp) =
        some payload := by
      rw [hfiles, Function.update_self]
    refine .inr ⟨_, some (makeFilePayloadPath stamp), rfl, Nat.not_lt.mp hfits,
      .file stamp hsize hfile, fun path hpath => ?_, hback.symm⟩
    exact (Option.mem_some.mp hpath).symm

/-- Reading a payload file gives the payload unless the system fails, and removes the file. -/
theorem readAndRemove_file {stamp : FileStamp} {payload : List UInt8}
    (hsize : payload.length ≤ maxFilePayloadBytes)
    (hfile : w.files (makeFilePayloadPath stamp) = some payload) :
    let r := w.readAndRemoveFilePayload ⟨makeFilePayloadPath stamp, UInt32.ofNat payload.length⟩
    (r.1 = some payload ∨ r.1 = none ∧ w.ReadFails payloadKindFileRef payload) ∧
      r.2.files = Function.update w.files (makeFilePayloadPath stamp) none := by
  have hword : UInt32.size = 4294967296 := rfl
  have hmax : maxFilePayloadBytes = 134217728 := rfl
  have hlength : (UInt32.ofNat payload.length).toNat = payload.length :=
    UInt32.toNat_ofNat_of_lt' (by omega)
  dsimp only
  rw [readAndRemoveFilePayload, if_neg (not_refused hsize)]
  dsimp only [openRead]
  rw [cString_makeFilePayloadPath, hfile]
  cases hopen : w.opens.headD true with
  | false => exact ⟨.inr ⟨rfl, rfl, .inl hopen⟩, files_removeFilePayload hsize⟩
  | true =>
    simp only [if_true, readAll, if_neg (Nat.not_lt.mpr hsize)]
    refine ⟨?_, files_removeFilePayload hsize⟩
    cases hdone : (moveAll true w.reads payload).done with
    | false => exact .inr ⟨rfl, rfl, .inr hdone⟩
    | true =>
      rw [moved_of_done hdone]
      exact .inl (by simp [hlength])

/-- Resolving what carries a payload gives the payload unless the system fails, and removes the
file it was in. -/
theorem resolve_of_transported {payload : List UInt8}
    {file : Option (List UInt8)} {p : TransportPayload} (h : Transported w.files payload file p)
    {bytes : ℕ → UInt8} (hbytes : StartsWith bytes p.bytes) :
    let r := w.resolveFilePayloadFromTransport bytes p.bytes.length p.payloadKind
    (r.1 = some payload ∨ r.1 = none ∧ w.ReadFails p.payloadKind payload) ∧
      r.2.files = file.elim w.files (Function.update w.files · none) := by
  cases h with
  | inline =>
    simp only [resolveFilePayloadFromTransport, if_true]
    exact ⟨.inl (congrArg some hbytes.map_range), rfl⟩
  | file stamp hsize hfile =>
    have hkinds : payloadKindFileRef ≠ payloadKindInline := by decide
    simp only [resolveFilePayloadFromTransport, if_neg hkinds, ne_eq, not_true_eq_false, if_false,
      decode_envelope stamp _ hbytes]
    exact readAndRemove_file hsize hfile

/-! ## Files alone -/

/-- No call of the system fails; `read` and `write` may be short or interrupted. -/
structure NeverFails (w : FileWorld) : Prop where
  dirReady : w.dirReady = true
  opens : ∀ ok ∈ w.opens, ok = true
  writes : ∀ a ∈ w.writes, ¬ a.Ends true
  closes : ∀ ok ∈ w.closes, ok = true
  reads : ∀ a ∈ w.reads, ¬ a.Ends true

namespace NeverFails

variable {w : FileWorld}

theorem next_ok {answers : List Bool} (h : ∀ ok ∈ answers, ok = true) :
    answers.headD true = true := by
  cases answers with
  | nil => rfl
  | cons ok rest => exact h ok List.mem_cons_self

theorem writeFilePayload (h : w.NeverFails) (stamp : FileStamp) (payload : List UInt8) :
    ((w.writeFilePayload stamp payload).1, (w.writeFilePayload stamp payload).2.files) =
      MemRpc.writeFilePayload w.files stamp payload := by
  have hopen := next_ok h.opens
  have hclose := next_ok h.closes
  have hdone := done_of_forall h.writes payload
  unfold FileWorld.writeFilePayload MemRpc.writeFilePayload
  split
  · rfl
  rw [if_neg (by simp [h.dirReady])]
  cases hfile : w.files (makeFilePayloadPath stamp) with
  | some content => simp [openExclusive, cString_makeFilePayloadPath, hfile]
  | none =>
    simp only [openExclusive, cString_makeFilePayloadPath, hfile, hopen, and_self, if_true, writeAll,
      close, hdone, hclose, moved_of_done hdone, Bool.true_eq_false, if_false,
      Function.update_idem]

/-- `PrepareFilePayloadForTransport` does what it does on the files alone. -/
theorem prepareFilePayloadForTransport (h : w.NeverFails) (stamp : FileStamp)
    (payload : List UInt8) (maxTransportBytes : ℕ) :
    ((w.prepareFilePayloadForTransport stamp payload maxTransportBytes).1,
        (w.prepareFilePayloadForTransport stamp payload maxTransportBytes).2.files) =
      MemRpc.prepareFilePayloadForTransport w.files stamp payload maxTransportBytes := by
  unfold FileWorld.prepareFilePayloadForTransport MemRpc.prepareFilePayloadForTransport
  split
  · rfl
  rw [← h.writeFilePayload stamp payload]
  rcases w.writeFilePayload_cases stamp payload with ⟨hnone, -⟩ | ⟨hsize, -, hsome, -⟩
  · simp only [hnone]
    rfl
  · simp only [hsome]
    split
    · simp [files_removeFilePayload hsize, MemRpc.removeFilePayload, not_refused hsize]
    · rfl

theorem readAndRemoveFilePayload (h : w.NeverFails) {ref : FilePayloadRef}
    (hpath : cString ref.path = ref.path) :
    ((w.readAndRemoveFilePayload ref).1, (w.readAndRemoveFilePayload ref).2.files) =
      MemRpc.readAndRemoveFilePayload w.files ref := by
  have hdone : ∀ content : List UInt8, (moveAll true w.reads content).done = true :=
    fun content => done_of_forall h.reads content
  unfold FileWorld.readAndRemoveFilePayload MemRpc.readAndRemoveFilePayload
  split
  · rfl
  rename_i hvalid
  simp only [openRead, hpath, next_ok h.opens, if_true, FileWorld.removeFilePayload,
    MemRpc.removeFilePayload, if_neg hvalid]
  rcases w.files ref.path with - | content
  · simp [hpath]
  · by_cases hlarge : maxFilePayloadBytes < content.length
    · simp [readAll, close, hlarge, hpath]
    · simp only [readAll, hdone, if_true, moved_of_done (hdone _), close, files_unlink,
        hpath, hlarge, false_or]
      by_cases hlength : content.length = ref.size.toNat <;> simp [hlength]

/-- `ResolveFilePayloadFromTransport` does what it does on the files alone, if the path in the
envelope is a C string. -/
theorem resolveFilePayloadFromTransport (h : w.NeverFails) {bytes : ℕ → UInt8} {size : ℕ}
    (hpath : ∀ ref ∈ (decodeFilePayloadEnvelope bytes size).1, cString ref.path = ref.path)
    (payloadKind : UInt8) :
    ((w.resolveFilePayloadFromTransport bytes size payloadKind).1,
        (w.resolveFilePayloadFromTransport bytes size payloadKind).2.files) =
      resolveTransport w.files bytes size payloadKind := by
  have hkinds : payloadKindInline ≠ payloadKindFileRef := by decide
  unfold FileWorld.resolveFilePayloadFromTransport resolveTransport
    MemRpc.resolveFilePayloadFromTransport
  split
  · rename_i hinline
    by_cases hsize : size = 0 <;> simp [hinline, hkinds, hsize]
  split
  · simp
  rename_i hfile
  rw [if_pos (not_not.mp hfile)]
  dsimp only
  generalize (decodeFilePayloadEnvelope bytes size).1 = decoded at hpath ⊢
  cases decoded with
  | none => rfl
  | some ref => exact h.readAndRemoveFilePayload (hpath ref rfl)

end NeverFails

end FileWorld

/-- Whatever the system does, preparing a payload either fails and leaves the files as they
were, or gives at most `maxTransportBytes` bytes, from which the receiver, `receiver`, later
reads the payload, or nothing if the payload is in a file and its `open` or a `read` fails. The
files are then as they were before the payload was prepared. -/
theorem filePayload_roundTrip (w : FileWorld) (stamp : FileStamp) (payload : List UInt8)
    (maxTransportBytes : ℕ) :
    let prepared := w.prepareFilePayloadForTransport stamp payload maxTransportBytes
    (prepared.1 = none → prepared.2.files = w.files) ∧
      ∀ p, prepared.1 = some p → p.bytes.length ≤ maxTransportBytes ∧
        ∀ (receiver : FileWorld) (bytes : ℕ → UInt8), receiver.files = prepared.2.files →
          StartsWith bytes p.bytes →
          let resolved :=
            receiver.resolveFilePayloadFromTransport bytes p.bytes.length p.payloadKind
          (resolved.1 = some payload ∨
              resolved.1 = none ∧ receiver.ReadFails p.payloadKind payload) ∧
            resolved.2.files = w.files := by
  intro prepared
  rcases FileWorld.prepare_cases w stamp payload maxTransportBytes with
    ⟨hnone, hfiles⟩ | ⟨p, file, hsome, hlength, htransported, -, hback⟩
  · refine ⟨fun _ => hfiles, fun p hp => ?_⟩
    cases hnone.symm.trans hp
  · refine ⟨fun hnone => (by cases hnone.symm.trans hsome), fun p' hp' => ?_⟩
    cases hsome.symm.trans hp'
    refine ⟨hlength, fun receiver bytes hfiles hbytes => ?_⟩
    rw [hback]
    rw [← hfiles] at htransported ⊢
    exact FileWorld.resolve_of_transported htransported hbytes

/-- A sender whose writes are interrupted and short. -/
def haltingSender : FileWorld where
  files _ := none
  writes := [.interrupted, .moved 1, .interrupted, .moved 60]

theorem filePayload_roundTrip_halting :
    let payload := List.replicate 90 7
    let prepared := haltingSender.prepareFilePayloadForTransport ⟨1, 2, 3⟩ payload 84
    ∃ p, prepared.1 = some p ∧ p.payloadKind = payloadKindFileRef ∧ p.bytes.length ≤ 84 ∧
      let receiver : FileWorld :=
        { files := prepared.2.files, reads := [.moved 40, .interrupted, .moved 1] }
      let resolved := receiver.resolveFilePayloadFromTransport (fun i => p.bytes.getD i 0)
        p.bytes.length p.payloadKind
      resolved.1 = some payload ∧ resolved.2.files = haltingSender.files := by
  intro payload prepared
  have hsome : prepared.1.map (·.payloadKind) = some payloadKindFileRef := by decide +kernel
  obtain ⟨p, hp, hkind⟩ := Option.map_eq_some_iff.mp hsome
  obtain ⟨hlength, hreceive⟩ := (filePayload_roundTrip haltingSender ⟨1, 2, 3⟩ payload 84).2 p hp
  obtain ⟨hresolved, hfiles⟩ := hreceive
    { files := prepared.2.files, reads := [.moved 40, .interrupted, .moved 1] }
    (fun i => p.bytes.getD i 0) rfl (fun i hi => by simp [hi])
  refine ⟨p, hp, hkind, hlength, ?_, hfiles⟩
  rcases hresolved with hpayload | ⟨-, -, hopen | hread⟩
  · exact hpayload
  · cases hopen
  · cases hread

/-! ## The paths of an envelope -/

/-- A C string that names something in the payload directory: it starts with the directory and a
slash, no component is the parent, and normalising it keeps the directory. -/
structure StaysInside (path : List UInt8) : Prop where
  inside : textBytes (filePayloadDir ++ ['/']) <+: path
  noParent : textBytes ['.', '.'] ∉ path.splitOn 47
  normalised : Path.normalise 47 46 (textBytes filePayloadDir) <+: Path.normalise 47 46 path

/-- A path is checked as a whole and used up to its first zero byte. -/
theorem staysInside_cString (h : IsPathInsideFilePayloadRoot path) :
    StaysInside (cString path) := by
  obtain ⟨hdir, hdots⟩ := h
  have hinside : textBytes (filePayloadDir ++ ['/']) <+: cString path := by
    have hbytes : ∀ b ∈ textBytes (filePayloadDir ++ ['/']), b ≠ 0 := ne_zero_of_all rfl
    obtain ⟨rest, rfl⟩ := hdir
    rw [cString, List.takeWhile_append_of_pos fun b hb => decide_eq_true (hbytes b hb)]
    exact List.prefix_append ..
  have hparent : textBytes ['.', '.'] ∉ (cString path).splitOn 47 := by
    intro hmem
    exact hdots ((Path.infix_of_mem_splitOn hmem).trans (List.takeWhile_prefix _).isInfix)
  exact ⟨hinside, hparent, Path.normalise_of_inside hinside hparent⟩

namespace FileWorld

/-- From one state to the other, only files in the payload directory were opened or unlinked. -/
def CallsInside (w w' : FileWorld) : Prop :=
  ∃ made, w'.calls = made ++ w.calls ∧ ∀ call ∈ made, StaysInside call.path

theorem CallsInside.refl (w : FileWorld) : w.CallsInside w := ⟨[], rfl, nofun⟩

theorem CallsInside.trans {w w' w'' : FileWorld} (h : w.CallsInside w') (h' : w'.CallsInside w'') :
    w.CallsInside w'' := by
  obtain ⟨made, hcalls, hmade⟩ := h
  obtain ⟨made', hcalls', hmade'⟩ := h'
  refine ⟨made' ++ made, by rw [hcalls', hcalls, List.append_assoc], ?_⟩
  intro call hmem
  rcases List.mem_append.mp hmem with hmem | hmem
  · exact hmade' call hmem
  · exact hmade call hmem

/-- One more call. -/
theorem CallsInside.single {w w' : FileWorld} {call : FileCall}
    (hcalls : w'.calls = call :: w.calls) (hpath : StaysInside call.path) : w.CallsInside w' := by
  refine ⟨[call], hcalls, fun c hc => ?_⟩
  rw [List.mem_singleton.mp hc]
  exact hpath

/-- A reference that is not refused names a file in the directory. -/
theorem staysInside_of_not_refused {ref : FilePayloadRef} (h : ¬ ref.Refused) :
    StaysInside (cString ref.path) :=
  staysInside_cString (by_contra fun houtside => h (.inr (.inr houtside)))

theorem callsInside_removeFilePayload (w : FileWorld) (ref : FilePayloadRef) :
    w.CallsInside (w.removeFilePayload ref).2 := by
  unfold removeFilePayload
  split
  · exact .refl w
  · rename_i hvalid
    exact .single rfl (staysInside_of_not_refused hvalid)

theorem callsInside_readAndRemoveFilePayload (w : FileWorld) (ref : FilePayloadRef) :
    w.CallsInside (w.readAndRemoveFilePayload ref).2 := by
  unfold readAndRemoveFilePayload
  split
  · exact .refl w
  rename_i hvalid
  have hopened : w.CallsInside (w.openRead ref.path).2 :=
    .single rfl (staysInside_of_not_refused hvalid)
  dsimp only
  split
  · exact hopened.trans (callsInside_removeFilePayload _ ref)
  · rename_i content _
    -- reading and closing name no path
    have hread : ((w.openRead ref.path).2.readAll content).2.calls =
        (w.openRead ref.path).2.calls := by
      unfold readAll
      split <;> rfl
    have hclosed : (w.openRead ref.path).2.CallsInside
        ((w.openRead ref.path).2.readAll content).2.close.2 := ⟨[], hread, nofun⟩
    exact (hopened.trans hclosed).trans (callsInside_removeFilePayload _ ref)

end FileWorld

/-- Whatever the bytes of an entry are, resolving or removing its payload opens and unlinks only
paths that stay in the payload directory. -/
theorem transport_paths_confined (w : FileWorld) (bytes : ℕ → UInt8) (size : ℕ)
    (payloadKind : UInt8) :
    w.CallsInside (w.resolveFilePayloadFromTransport bytes size payloadKind).2 ∧
      w.CallsInside (w.removeFilePayloadFromTransport bytes size payloadKind).2 := by
  unfold FileWorld.resolveFilePayloadFromTransport FileWorld.removeFilePayloadFromTransport
  split
  · exact ⟨.refl w, .refl w⟩
  split
  · exact ⟨.refl w, .refl w⟩
  split
  · exact ⟨.refl w, .refl w⟩
  · exact ⟨w.callsInside_readAndRemoveFilePayload _, w.callsInside_removeFilePayload _⟩

/-- The envelope of a path with a zero byte opens and unlinks what stands before it. -/
example :
    let path := textBytes (filePayloadDir ++ ['/', 'a'])
    let envelope := encodeFilePayloadEnvelope ⟨path ++ 0 :: textBytes ['b'], 1⟩
    let w : FileWorld := { files := fun _ => none }
    (w.resolveFilePayloadFromTransport (fun i => envelope.getD i 0) envelope.length
      payloadKindFileRef).2.calls = [.unlinked path, .opened path] := by
  decide +kernel

end MemRpc
