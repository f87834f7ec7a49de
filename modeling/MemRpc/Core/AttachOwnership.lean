import MemRpc.Core.HeaderTamper

/-!
# What `Attach` does with the descriptors it is given

`Session::Attach` takes the descriptors out of the caller's handles. It then maps the header,
checks it, maps the whole region, and, as a client, acquires the attachment; each of these can
fail, and the exits clean up in different places: some close the descriptors that `Attach` still
has in its hands, and some reset the session, which has them by then.

The system's part is given in advance: what `fstat`, `mmap` and the lock answer, and what the
shared memory holds at each moment it is read. What is recorded is the descriptors that were
closed and the mappings that exist.

On every exit each descriptor is either held by the session or closed once, provided that the
session does not hold it already. Otherwise the first thing that `Attach` does is to close it.

## Main definitions

* `Session`: the members of the class, and `Session.attach`.
* `AttachAnswers`: what the system answers.
* `AttachLog`: the calls of `close`, and the mappings.

## Main results

* `attach_owns`.
* `attach_server_eq`: where no call fails, `Attach` returns what the checks of the header return.
-/

namespace MemRpc

/-- `struct BootstrapHandles`. -/
structure BootstrapHandles where
  shmFd : ℤ := -1
  highReqEventFd : ℤ := -1
  normalReqEventFd : ℤ := -1
  respEventFd : ℤ := -1
  reqCreditEventFd : ℤ := -1
  respCreditEventFd : ℤ := -1
  protocolVersion : UInt32 := 0
  sessionId : UInt64 := 0
  deriving DecidableEq, Repr

/-- The descriptors, in the order of `CloseHandles`. -/
def BootstrapHandles.fds (handles : BootstrapHandles) : List ℤ :=
  [handles.shmFd, handles.highReqEventFd, handles.normalReqEventFd, handles.respEventFd,
    handles.reqCreditEventFd, handles.respCreditEventFd]

/-- The descriptors that are valid. -/
def BootstrapHandles.valid (handles : BootstrapHandles) : List ℤ := handles.fds.filter (0 ≤ ·)

/-- `MakeDefaultBootstrapHandles`. -/
def makeDefaultBootstrapHandles : BootstrapHandles := {}

/-- The platform, on which a header has a size. -/
structure HeaderAbi extends Abi where
  headerBytes_pos : 0 < headerBytes

/-- `Session::AttachRole`. -/
inductive AttachRole
  | client
  | server
  deriving DecidableEq, Repr

/-- The members of `Session`. A mapping is a number, and so is a pointer to its start. -/
structure Session where
  mappedSize : ℕ := 0
  initialMappedSize : ℕ := 0
  mappedRegion : Option ℕ := none
  handles : BootstrapHandles := {}
  header : Option ℕ := none
  /-- `layout_` with the limits and the size of the response ring. -/
  layout : Option AttachedSession := none
  attachRole : AttachRole := .server
  ownsClientAttachment : Bool := false

/-- `Session::Valid`. -/
def Session.valid (session : Session) : Bool := session.header.isSome

/-- `Session::CurrentMappedSize`. -/
def Session.currentMappedSize (session : Session) : ℕ :=
  if session.mappedSize ≠ 0 then session.mappedSize else session.initialMappedSize

/-- What a call of `Attach` has done so far: the descriptors it has closed, the latest first, and
the mappings it has made, all of them and those that exist. -/
structure AttachLog where
  closed : List ℤ := []
  maps : ℕ := 0
  mapped : List ℕ := []

/-- What `Attach` returns and leaves: the session, what it has done, and the caller's handles. -/
structure AttachResult where
  status : StatusCode
  session : Session
  log : AttachLog
  handles : BootstrapHandles

/-- What the system answers, and what the shared memory holds when it is read. -/
structure AttachAnswers where
  /-- The size that `fstat` gives in `MapAndValidateHeader`, if it succeeds. -/
  headerStat : Option ℤ
  headerMapped : Bool
  /-- The header when its magic and version are checked. -/
  mappedHeader : SharedMemoryHeader
  /-- The size that `fstat` gives in `RemapWithActualLayout`. -/
  layoutStat : Option ℤ
  /-- The header when its layout and cursors are checked. -/
  layoutHeader : SharedMemoryHeader
  layoutMapped : Bool
  /-- What `LockSharedMutex` returns. -/
  lockStatus : StatusCode
  clientAttached : UInt32
  /-- `ProcessIsAlive(header_->activeClientPid)`. -/
  processIsAlive : Bool

namespace AttachLog

/-- `CloseFd`. -/
def closeFd (log : AttachLog) (fd : ℤ) : AttachLog :=
  if 0 ≤ fd then { log with closed := fd :: log.closed } else log

/-- `CloseHandles`. -/
def closeHandles (log : AttachLog) (handles : BootstrapHandles) : AttachLog :=
  handles.fds.foldl closeFd log

/-- `mmap` that succeeds: the mapping and the log. -/
def mmap (log : AttachLog) : ℕ × AttachLog :=
  (log.maps, { log with maps := log.maps + 1, mapped := log.maps :: log.mapped })

/-- `munmap`. -/
def munmap (log : AttachLog) (region : ℕ) : AttachLog :=
  { log with mapped := log.mapped.erase region }

end AttachLog

namespace Session

variable (abi : HeaderAbi) (answers : AttachAnswers)

/-- `Reset`. What `ReleaseClientAttachment` writes to the shared memory is not recorded. -/
def reset (session : Session) (log : AttachLog) : Session × AttachLog :=
  let log :=
    match session.mappedRegion with
    | some region => if session.currentMappedSize ≠ 0 then log.munmap region else log
    | none => log
  ({}, log.closeHandles session.handles)

/-- `MapAndValidateHeader`. -/
def mapAndValidateHeader (session : Session) (log : AttachLog) :
    StatusCode × Session × AttachLog :=
  match answers.headerStat with
  | none => (.engineInternalError, session, log)
  | some size =>
    if size < abi.headerBytes then (.protocolMismatch, session, log)
    else
      let session := { session with initialMappedSize := abi.headerBytes, mappedSize := 0 }
      if answers.headerMapped = false then
        (.engineInternalError, { session with mappedRegion := none }, log)
      else
        let (region, log) := log.mmap
        let session := { session with mappedRegion := some region, header := some region }
        if answers.mappedHeader.magic ≠ sharedMemoryMagic ∨
            answers.mappedHeader.version ≠ protocolVersion then
          (.protocolMismatch, session.reset log)
        else (.ok, session, log)

/-- `RemapWithActualLayout`. -/
def remapWithActualLayout (session : Session) (log : AttachLog) :
    StatusCode × Session × AttachLog :=
  match answers.layoutStat with
  | none => (.engineInternalError, session.reset log)
  | some size =>
    let config := answers.layoutHeader.config
    let ring := answers.layoutHeader.ring
    if !(validateLayoutConfig abi.toAbi config (size % 2 ^ 64).toNat &&
        validateRingCursor (ring .highRequest) config.highRingSize &&
        validateRingCursor (ring .normalRequest) config.normalRingSize &&
        validateRingCursor (ring .response) config.responseRingSize) then
      (.protocolMismatch, session.reset log)
    else
      let actualLayout := computeLayout abi.toAbi config
      let log := session.mappedRegion.elim log log.munmap
      let session :=
        { session with mappedRegion := none, header := none, initialMappedSize := 0 }
      if answers.layoutMapped = false then
        (.engineInternalError, { session with mappedSize := 0 }, log)
      else
        let (region, log) := log.mmap
        (.ok,
          { session with
            mappedRegion := some region
            layout := some ⟨config, actualLayout⟩
            mappedSize := actualLayout.totalSize
            header := some region },
          log)

/-- `TryAcquireClientAttachment`. -/
def tryAcquireClientAttachment (session : Session) (log : AttachLog) :
    StatusCode × Session × AttachLog :=
  if answers.lockStatus ≠ .ok then (answers.lockStatus, session.reset log)
  else if answers.clientAttached ≠ 0 ∧ answers.processIsAlive then
    (.invalidArgument, session.reset log)
  else (.ok, { session with ownsClientAttachment := true }, log)

/-- `Attach`. -/
def attach (session : Session) (handles : BootstrapHandles) (role : AttachRole) : AttachResult :=
  let (session, log) := session.reset {}
  let adoptedHandles := handles
  let handles := makeDefaultBootstrapHandles
  if adoptedHandles.shmFd < 0 then
    ⟨.invalidArgument, session, log.closeHandles adoptedHandles, handles⟩
  else
    let (status, session, log) := session.mapAndValidateHeader abi answers log
    if status ≠ .ok then ⟨status, session, log.closeHandles adoptedHandles, handles⟩
    else
      let (status, session, log) := session.remapWithActualLayout abi answers log
      if status ≠ .ok then ⟨status, session, log.closeHandles adoptedHandles, handles⟩
      else
        let session :=
          { session with
            handles := adoptedHandles
            attachRole := role
            ownsClientAttachment := false }
        if role = .client then
          let (status, session, log) := session.tryAcquireClientAttachment answers log
          ⟨status, session, log, handles⟩
        else ⟨.ok, session, log, handles⟩

end Session

/-! ## What each function leaves -/

theorem AttachLog.foldl_closeFd (fds : List ℤ) (log : AttachLog) :
    fds.foldl AttachLog.closeFd log =
      { log with closed := (fds.filter (0 ≤ ·)).reverse ++ log.closed } := by
  induction fds generalizing log with
  | nil => rfl
  | cons fd fds ih =>
    rw [List.foldl_cons, ih, AttachLog.closeFd]
    by_cases hfd : 0 ≤ fd
    · simp [hfd]
    · simp [hfd]

theorem AttachLog.closed_closeHandles (log : AttachLog) (handles : BootstrapHandles) :
    (log.closeHandles handles).closed = handles.valid.reverse ++ log.closed := by
  rw [AttachLog.closeHandles, AttachLog.foldl_closeFd, BootstrapHandles.valid]

theorem AttachLog.mapped_closeHandles (log : AttachLog) (handles : BootstrapHandles) :
    (log.closeHandles handles).mapped = log.mapped := by
  rw [AttachLog.closeHandles, AttachLog.foldl_closeFd]

namespace Session

variable {abi : HeaderAbi} {answers : AttachAnswers} {session : Session} {log : AttachLog}

/-- The session has the only mapping there is. -/
structure Mapped (session : Session) (log : AttachLog) (region : ℕ) : Prop where
  mappedRegion : session.mappedRegion = some region
  header : session.header = some region
  size : session.currentMappedSize ≠ 0
  mapped : log.mapped = [region]

/-- Nothing is mapped. -/
structure Unmapped (session : Session) (log : AttachLog) : Prop where
  header : session.header = none
  mapped : log.mapped = []

variable {region : ℕ}

/-- `Reset` unmaps the region and closes what the session holds. -/
theorem reset_of_mapped (h : session.Mapped log region) :
    (session.reset log).1 = {} ∧ (session.reset log).2.mapped = [] ∧
      (session.reset log).2.closed = session.handles.valid.reverse ++ log.closed := by
  have hreset : session.reset log = ({}, (log.munmap region).closeHandles session.handles) := by
    simp only [reset, h.mappedRegion, if_pos h.size]
  rw [hreset]
  refine ⟨rfl, ?_, AttachLog.closed_closeHandles _ _⟩
  rw [AttachLog.mapped_closeHandles, AttachLog.munmap, h.mapped, List.erase_cons_head]

theorem unmapped_reset (h : session.Mapped log region) :
    Unmapped (session.reset log).1 (session.reset log).2 := by
  obtain ⟨hsession, hmapped, -⟩ := reset_of_mapped h
  exact ⟨by rw [hsession], hmapped⟩

/-- What a step of `Attach` leaves while the session holds no descriptors. -/
structure Prepared (log : AttachLog) (r : StatusCode × Session × AttachLog) : Prop where
  closed : r.2.2.closed = log.closed
  failed : r.1 ≠ .ok → Unmapped r.2.1 r.2.2
  done : r.1 = .ok → r.2.1.handles = {} ∧ ∃ region, r.2.1.Mapped r.2.2 region

variable {status : StatusCode}

theorem Prepared.of_unmapped {session : Session} {log : AttachLog}
    (hstatus : status ≠ .ok) (h : session.Unmapped log) : Prepared log (status, session, log) :=
  ⟨rfl, fun _ => h, fun hok => absurd hok hstatus⟩

/-- A failed check resets the session, which has no descriptors to close. -/
theorem Prepared.of_reset (hstatus : status ≠ .ok)
    (hhandles : session.handles = {}) (h : session.Mapped log region) :
    Prepared log (status, session.reset log) := by
  refine ⟨?_, fun _ => unmapped_reset h, fun hok => absurd hok hstatus⟩
  rw [(reset_of_mapped h).2.2, hhandles]
  rfl

theorem prepared_mapAndValidateHeader (hlog : log.mapped = []) :
    Prepared log (({} : Session).mapAndValidateHeader abi answers log) := by
  unfold mapAndValidateHeader
  split
  · exact .of_unmapped (by decide) ⟨rfl, hlog⟩
  split
  · exact .of_unmapped (by decide) ⟨rfl, hlog⟩
  dsimp only
  split
  · exact .of_unmapped (by decide) ⟨rfl, hlog⟩
  have hmapped : Session.Mapped
      { initialMappedSize := abi.headerBytes
        mappedRegion := some log.maps
        header := some log.maps } log.mmap.2 log.maps := by
    refine ⟨rfl, rfl, abi.headerBytes_pos.ne', ?_⟩
    rw [AttachLog.mmap, hlog]
  split
  · have hreset : Prepared log.mmap.2 (.protocolMismatch, _) := .of_reset (by decide) rfl hmapped
    exact ⟨hreset.closed, hreset.failed, hreset.done⟩
  · exact ⟨rfl, fun hfailed => absurd rfl hfailed, fun _ => ⟨rfl, _, hmapped⟩⟩

/-- A layout that is accepted has a size. -/
theorem totalSize_pos {config : LayoutConfig} {fileSize : ℕ}
    (h : validateLayoutConfig abi.toAbi config fileSize = true) :
    0 < (computeLayout abi.toAbi config).totalSize := by
  simp only [validateLayoutConfig, Bool.and_eq_true, decide_eq_true_eq] at h
  exact abi.headerBytes_pos.trans_le h.1.2

theorem prepared_remapWithActualLayout (h : session.Mapped log region)
    (hhandles : session.handles = {}) :
    Prepared log (session.remapWithActualLayout abi answers log) := by
  unfold remapWithActualLayout
  split
  · exact .of_reset (by decide) hhandles h
  dsimp only
  split
  · exact .of_reset (by decide) hhandles h
  rename_i hvalid
  simp only [Bool.not_eq_true', Bool.not_eq_false, Bool.and_eq_true] at hvalid
  have hunmapped : (log.munmap region).mapped = [] := by
    rw [AttachLog.munmap, h.mapped, List.erase_cons_head]
  rw [h.mappedRegion, Option.elim_some]
  split
  · exact ⟨rfl, fun _ => ⟨rfl, hunmapped⟩, fun hok => (by cases hok)⟩
  · have hsize := totalSize_pos hvalid.1.1.1
    refine ⟨rfl, fun hfailed => absurd rfl hfailed, fun _ => ⟨hhandles, log.maps, ?_⟩⟩
    refine ⟨rfl, rfl, ?_, ?_⟩
    · simp [currentMappedSize, hsize.ne']
    · rw [AttachLog.mmap, hunmapped]
      rfl

/-- What `TryAcquireClientAttachment` leaves: on failure the session has closed its descriptors. -/
theorem tryAcquireClientAttachment_cases (answers : AttachAnswers) (h : session.Mapped log region) :
    let r := session.tryAcquireClientAttachment answers log
    (r.1 = .ok ∧ r.2.1.handles = session.handles ∧ r.2.1.Mapped r.2.2 region ∧
        r.2.2.closed = log.closed) ∨
      r.1 ≠ .ok ∧ Unmapped r.2.1 r.2.2 ∧
        r.2.2.closed = session.handles.valid.reverse ++ log.closed := by
  have hreset := (reset_of_mapped h).2.2
  unfold tryAcquireClientAttachment
  split
  · rename_i hlock
    exact .inr ⟨hlock, unmapped_reset h, hreset⟩
  split
  · exact .inr ⟨fun hok => (by cases hok), unmapped_reset h, hreset⟩
  · exact .inl ⟨rfl, rfl, ⟨h.mappedRegion, h.header, h.size, h.mapped⟩, rfl⟩

/-- The `Reset` at the start closes what the session holds. The mapping that it removes is not one
that this call has made. -/
theorem reset_start (session : Session) :
    (session.reset {}).1 = {} ∧ (session.reset {}).2.mapped = [] ∧
      (session.reset {}).2.closed = session.handles.valid.reverse := by
  have hclose : ∀ log : AttachLog, log.closed = [] → log.mapped = [] →
      (log.closeHandles session.handles).mapped = [] ∧
        (log.closeHandles session.handles).closed = session.handles.valid.reverse := by
    intro log hclosed hmapped
    rw [AttachLog.mapped_closeHandles, AttachLog.closed_closeHandles, hclosed, List.append_nil]
    exact ⟨hmapped, rfl⟩
  refine ⟨rfl, ?_⟩
  unfold reset
  split
  · split
    · exact hclose _ rfl rfl
    · exact hclose _ rfl rfl
  · exact hclose _ rfl rfl

/-- What `Attach` leaves when it is over: the session holds the descriptors and only what it held
before has been closed, or they have been closed as well and nothing is mapped. -/
def Settled (session : Session) (handles : BootstrapHandles) (r : AttachResult) : Prop :=
  r.handles = makeDefaultBootstrapHandles ∧
    ((r.status = .ok ∧ r.session.handles = handles ∧ r.session.header.isSome = true ∧
        r.log.closed = session.handles.valid.reverse) ∨
      r.status ≠ .ok ∧ Unmapped r.session r.log ∧
        r.log.closed = handles.valid.reverse ++ session.handles.valid.reverse)

/-- An exit that closes the descriptors which `Attach` has in its hands. -/
theorem settled_closeHandles {handles : BootstrapHandles} {left : Session}
    (hstatus : status ≠ .ok) (h : left.Unmapped log)
    (hclosed : log.closed = session.handles.valid.reverse) :
    Settled session handles
      ⟨status, left, log.closeHandles handles, makeDefaultBootstrapHandles⟩ := by
  refine ⟨rfl, .inr ⟨hstatus, ⟨h.header, ?_⟩, ?_⟩⟩
  · rw [AttachLog.mapped_closeHandles, h.mapped]
  · rw [AttachLog.closed_closeHandles, hclosed]

theorem settled_attach (abi : HeaderAbi) (answers : AttachAnswers) (session : Session)
    (handles : BootstrapHandles) (role : AttachRole) :
    Settled session handles (session.attach abi answers handles role) := by
  obtain ⟨hsession, hmapped, hclosed⟩ := reset_start session
  unfold attach
  generalize session.reset {} = start at hsession hmapped hclosed
  obtain ⟨left, log⟩ := start
  subst hsession
  dsimp only
  split
  · exact settled_closeHandles (fun hok => (by cases hok)) ⟨rfl, hmapped⟩ hclosed
  have hheader : Prepared log (({} : Session).mapAndValidateHeader abi answers log) :=
    prepared_mapAndValidateHeader hmapped
  generalize ({} : Session).mapAndValidateHeader abi answers log = header at hheader
  split
  · rename_i hfailed
    exact settled_closeHandles hfailed (hheader.failed hfailed) (hheader.closed.trans hclosed)
  rename_i hok
  obtain ⟨hhandles, region, hregion⟩ := hheader.done (not_not.mp hok)
  have hlayout : Prepared header.2.2 (header.2.1.remapWithActualLayout abi answers header.2.2) :=
    prepared_remapWithActualLayout hregion hhandles
  generalize header.2.1.remapWithActualLayout abi answers header.2.2 = remapped at hlayout
  have hremapped := hlayout.closed.trans (hheader.closed.trans hclosed)
  split
  · rename_i hfailed
    exact settled_closeHandles hfailed (hlayout.failed hfailed) hremapped
  rename_i hok
  obtain ⟨-, region, hregion⟩ := hlayout.done (not_not.mp hok)
  split
  · -- From here on the session has the descriptors, and its `Reset` closes them.
    have hmine : Mapped
        { remapped.2.1 with
          handles := handles
          attachRole := role
          ownsClientAttachment := false } remapped.2.2 region :=
      ⟨hregion.mappedRegion, hregion.header, hregion.size, hregion.mapped⟩
    obtain ⟨hok, hheld, hacquired, hsame⟩ | ⟨hfailed, hunmapped, hboth⟩ :=
      tryAcquireClientAttachment_cases answers hmine
    · refine ⟨rfl, .inl ⟨hok, hheld, ?_, hsame.trans hremapped⟩⟩
      exact hacquired.header ▸ rfl
    · exact ⟨rfl, .inr ⟨hfailed, hunmapped, hboth.trans (by rw [hremapped])⟩⟩
  · exact ⟨rfl, .inl ⟨rfl, rfl, hregion.header ▸ rfl, hremapped⟩⟩

/-! ## Ownership -/

/-- On every exit of `Attach` the caller's handles are empty. The session holds the descriptors and
none of them has been closed, or it is not valid, no mapping is left, and each of them has been
closed once. -/
theorem attach_owns (abi : HeaderAbi) (answers : AttachAnswers) (session : Session)
    (handles : BootstrapHandles) (role : AttachRole) (hdistinct : handles.valid.Nodup)
    (hnew : ∀ fd ∈ handles.valid, fd ∉ session.handles.valid) :
    let r := session.attach abi answers handles role
    r.handles = makeDefaultBootstrapHandles ∧
      (r.status = .ok → r.session.handles = handles ∧ r.session.valid = true ∧
        ∀ fd ∈ handles.valid, fd ∉ r.log.closed) ∧
      (r.status ≠ .ok → r.session.valid = false ∧ r.log.mapped = [] ∧
        ∀ fd ∈ handles.valid, r.log.closed.count fd = 1) := by
  intro r
  obtain ⟨hdefault, hcases⟩ := settled_attach abi answers session handles role
  refine ⟨hdefault, ?_, ?_⟩
  · intro hok
    obtain ⟨-, hheld, hheader, hclosed⟩ | ⟨hfailed, -⟩ := hcases
    · refine ⟨hheld, hheader, fun fd hfd => ?_⟩
      rw [hclosed, List.mem_reverse]
      exact hnew fd hfd
    · exact absurd hok hfailed
  · intro hfailed
    obtain ⟨hok, -⟩ | ⟨-, hunmapped, hclosed⟩ := hcases
    · exact absurd hok hfailed
    · refine ⟨Option.isSome_eq_false_iff.mpr (hunmapped.header ▸ rfl), hunmapped.mapped,
        fun fd hfd => ?_⟩
      have hmine : handles.valid.count fd = 1 := List.count_eq_one_of_mem hdistinct hfd
      have hheld : session.handles.valid.count fd = 0 := List.count_eq_zero.mpr (hnew fd hfd)
      rw [hclosed, List.count_append, List.count_reverse, List.count_reverse, hmine, hheld]

/-- The platform of x86-64. -/
def headerAbi64 : HeaderAbi where
  toAbi := abi64
  headerBytes_pos := Nat.succ_pos 135

/-- The answers on the region of the default configuration, with the lock and the attachment as
given. -/
def defaultAnswers (lockStatus : StatusCode) (clientAttached : UInt32) : AttachAnswers where
  headerStat := some (computeLayout abi64 {}).totalSize
  headerMapped := true
  mappedHeader := defaultHeader
  layoutStat := some (computeLayout abi64 {}).totalSize
  layoutHeader := defaultHeader
  layoutMapped := true
  lockStatus := lockStatus
  clientAttached := clientAttached
  processIsAlive := true

/-- Six descriptors. -/
def sixHandles : BootstrapHandles where
  shmFd := 3
  highReqEventFd := 4
  normalReqEventFd := 5
  respEventFd := 6
  reqCreditEventFd := 7
  respCreditEventFd := 8

/-- A client attaches to the default region, and finds it taken. -/
theorem attach_owns_taken :
    (∃ fd ∈ sixHandles.valid, fd ∉ (({} : Session).attach headerAbi64 (defaultAnswers .ok 0)
        sixHandles .client).log.closed) ∧
      ∃ fd ∈ sixHandles.valid, (({} : Session).attach headerAbi64 (defaultAnswers .ok 1)
        sixHandles .client).log.closed.count fd = 1 := by
  have hnew : ∀ fd ∈ sixHandles.valid, fd ∉ ({} : Session).handles.valid := by decide
  refine ⟨⟨3, by decide, ?_⟩, ⟨3, by decide, ?_⟩⟩
  · have howns := attach_owns headerAbi64 (defaultAnswers .ok 0) {} sixHandles .client
      (by decide) hnew
    exact (howns.2.1 (by decide +kernel)).2.2 3 (by decide)
  · have howns := attach_owns headerAbi64 (defaultAnswers .ok 1) {} sixHandles .client
      (by decide) hnew
    exact (howns.2.2 (by decide +kernel)).2.2 3 (by decide)

/-- A session that has attached is given its own six descriptors again. `fstat` fails on the one
that `Reset` has closed, and each of them is closed a second time. -/
theorem attach_closes_held :
    sixHandles.fds.Nodup ∧ ∃ session answers,
      session = (Session.attach headerAbi64 (defaultAnswers .ok 0) {} sixHandles .client).session ∧
      session.handles = sixHandles ∧ answers = { defaultAnswers .ok 0 with headerStat := none } ∧
      (session.attach headerAbi64 answers sixHandles .client).status = .engineInternalError ∧
      ∀ fd ∈ sixHandles.fds,
        (session.attach headerAbi64 answers sixHandles .client).log.closed.count fd = 2 := by
  refine ⟨by decide, _, _, rfl, ?_, rfl, ?_, ?_⟩
  · decide +kernel
  · decide +kernel
  · decide +kernel

/-! ## The header checks -/

/-- No system call fails, and the shared memory does not change while it is checked. -/
structure Steady (answers : AttachAnswers) (header : SharedMemoryHeader) (fileSize : ℕ) : Prop where
  headerStat : answers.headerStat = some (fileSize : ℤ)
  headerMapped : answers.headerMapped = true
  mappedHeader : answers.mappedHeader = header
  layoutStat : answers.layoutStat = some (fileSize : ℤ)
  layoutHeader : answers.layoutHeader = header
  layoutMapped : answers.layoutMapped = true
  fileSize_lt : fileSize < 2 ^ 64

/-- A server's `Attach` returns what the checks of the header return, and keeps their layout. -/
theorem attach_server_eq {header : SharedMemoryHeader} {fileSize : ℕ}
    (hsteady : Steady answers header fileSize) (session : Session) {handles : BootstrapHandles}
    (hfd : 0 ≤ handles.shmFd) :
    let r := session.attach abi answers handles .server
    match MemRpc.attach abi.toAbi header fileSize with
    | .ok attached => r.status = .ok ∧ r.session.layout = some attached
    | .error status => r.status = status := by
  have hsize : ((fileSize : ℤ) % 2 ^ 64).toNat = fileSize := by
    have := hsteady.fileSize_lt
    omega
  obtain ⟨hsession, -⟩ := reset_start session
  unfold attach MemRpc.attach
  generalize session.reset {} = start at hsession
  obtain ⟨left, log⟩ := start
  subst hsession
  simp only [mapAndValidateHeader, remapWithActualLayout, hsteady.headerStat, hsteady.headerMapped,
    hsteady.mappedHeader, hsteady.layoutStat, hsteady.layoutHeader, hsteady.layoutMapped, hsize,
    not_lt.mpr hfd, if_false, Nat.cast_lt]
  by_cases hsmall : fileSize < abi.headerBytes
  · simp [hsmall]
  by_cases hmagic : header.magic ≠ sharedMemoryMagic ∨ header.version ≠ protocolVersion
  · simp [hsmall, hmagic]
  by_cases hvalid : (validateLayoutConfig abi.toAbi header.config fileSize &&
      validateRingCursor (header.ring .highRequest) header.config.highRingSize &&
      validateRingCursor (header.ring .normalRequest) header.config.normalRingSize &&
      validateRingCursor (header.ring .response) header.config.responseRingSize) = true
  · simp [hsmall, hmagic, hvalid]
  · simp [hsmall, hmagic, hvalid]

end Session

end MemRpc
