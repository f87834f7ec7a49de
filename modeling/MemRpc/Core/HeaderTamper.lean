import MemRpc.Lib.Machine
import MemRpc.Core.Ring

/-!
# Ring accesses over a header that the peer rewrites

`Attach` validates the header once and keeps the layout that it computes from it. The
ring calls use the kept offsets, but they read `capacity` from shared memory again: once
for the full check and once more for each slot index. The peer can write between any two
of these reads.

Every read and write of a header word is a step of its own, the peer may write any word
at any time, and any number of threads are inside `PushRingEntry`, `PopRingEntry` or
`RemovePendingFilePayloadsFromRing`. What a run records is the slots that were touched
and whether a modulus was zero. The contents of the slots play no part.

## Main definitions

* `attach`: the validation of `Session::Attach` and the layout it keeps.
* `accessStep`: the next header access of a ring call.
* `tamperedHeader`: the machine.
* `TamperedHeader.Safe`: no division by zero, and every slot is inside its ring.
-/

namespace MemRpc

open Concurrency

/-! ## Attach -/

/-- `SHARED_MEMORY_MAGIC`. -/
def sharedMemoryMagic : UInt32 := 0x4d454d52

/-- `PROTOCOL_VERSION`. -/
def protocolVersion : UInt32 := 9

/-- The words of `SharedMemoryHeader` that `Attach` validates and the ring calls use. -/
structure SharedMemoryHeader where
  magic : UInt32 := sharedMemoryMagic
  version : UInt32 := protocolVersion
  config : LayoutConfig := {}
  ring : QueueKind → RingCursor

/-- `ValidateRingCursor`. -/
def validateRingCursor (c : RingCursor) (expectedCapacity : UInt32) : Bool :=
  validRingSize expectedCapacity && c.capacity == expectedCapacity &&
    !decide (ringCount c > expectedCapacity)

/-- The configuration and the layout that an attached `Session` keeps. -/
structure AttachedSession where
  config : LayoutConfig
  layout : Layout
  deriving DecidableEq, Repr

/-- `MapAndValidateHeader` and `RemapWithActualLayout`. -/
def attach (abi : Abi) (h : SharedMemoryHeader) (fileSize : ℕ) :
    Except StatusCode AttachedSession :=
  if fileSize < abi.headerBytes then .error .protocolMismatch
  else if h.magic ≠ sharedMemoryMagic ∨ h.version ≠ protocolVersion then .error .protocolMismatch
  else if validateLayoutConfig abi h.config fileSize &&
      validateRingCursor (h.ring .highRequest) h.config.highRingSize &&
      validateRingCursor (h.ring .normalRequest) h.config.normalRingSize &&
      validateRingCursor (h.ring .response) h.config.responseRingSize then
    .ok { config := h.config, layout := computeLayout abi h.config }
  else .error .protocolMismatch

/-- What an accepted header satisfies. -/
theorem attach_ok {abi : Abi} {h : SharedMemoryHeader} {fileSize : ℕ} {session : AttachedSession}
    (hattach : attach abi h fileSize = .ok session) (q : QueueKind) :
    session.config = h.config ∧ (h.ring q).capacity = session.config.ringSize q ∧
      validRingSize (session.config.ringSize q) = true := by
  rw [attach] at hattach
  split at hattach
  · cases hattach
  split at hattach
  · cases hattach
  split at hattach
  · rename_i hvalid
    cases hattach
    simp only [Bool.and_eq_true, validateRingCursor, beq_iff_eq] at hvalid
    refine ⟨rfl, ?_, ?_⟩
    · cases q with
      | highRequest => exact hvalid.1.1.2.1.2
      | normalRequest => exact hvalid.1.2.1.2
      | response => exact hvalid.2.1.2
    · exact validateLayoutConfig_ringSize hvalid.1.1.1 q
  · cases hattach

/-! ## The accesses of the ring calls -/

/-- The points of the three ring calls, with the values they hold in registers. -/
inductive AccessPc
  | pushHead
  | pushTail (head : UInt32)
  | pushCheck (head tail : UInt32)
  | pushSlot (tail : UInt32)
  | pushStore (tail : UInt32)
  | popTail
  | popHead (tail : UInt32)
  | popSlot (head : UInt32)
  | popStore (head : UInt32)
  | sweepCheck
  | sweepHead
  | sweepTail (head : UInt32)
  | sweepCount (head tail : UInt32)
  | sweepSlot (head i count : UInt32)
  deriving DecidableEq, Repr

/-- What one access does. -/
inductive AccessEffect
  | next (pc : AccessPc)
  | touch (index : ℕ) (pc : AccessPc)
  | storeTail (tail : UInt32)
  | storeHead (head : UInt32)
  | done
  | divideByZero
  deriving DecidableEq, Repr

/-- `entries[cursor % access.cursor->capacity]`: read the capacity again. -/
def selectSlot (c : RingCursor) (cursor : UInt32) (pc : AccessPc) : AccessEffect :=
  if c.capacity = 0 then .divideByZero else .touch (cursor % c.capacity).toNat pc

/-- The next header access of a ring call. -/
def accessStep (c : RingCursor) : AccessPc → AccessEffect
  -- PushRingEntry
  | .pushHead => .next (.pushTail c.head)
  | .pushTail head => .next (.pushCheck head c.tail)
  | .pushCheck head tail => if tail - head ≥ c.capacity then .done else .next (.pushSlot tail)
  | .pushSlot tail => selectSlot c tail (.pushStore tail)
  | .pushStore tail => .storeTail (tail + 1)
  -- PopRingEntry
  | .popTail => .next (.popHead c.tail)
  | .popHead tail => if tail = c.head then .done else .next (.popSlot c.head)
  | .popSlot head => selectSlot c head (.popStore head)
  | .popStore head => .storeHead (head + 1)
  -- RemovePendingFilePayloadsFromRing
  | .sweepCheck => if c.capacity = 0 then .done else .next .sweepHead
  | .sweepHead => .next (.sweepTail c.head)
  | .sweepTail head => .next (.sweepCount head c.tail)
  | .sweepCount head tail => .next (.sweepSlot head 0 (min (tail - head) c.capacity))
  | .sweepSlot head i count =>
    if i < count then selectSlot c (head + i) (.sweepSlot head (i + 1) count) else .done

/-- A slot is touched, or a division by zero made, only where a slot is selected. -/
theorem accessStep_select {c : RingCursor} {pc : AccessPc} {effect : AccessEffect}
    (hs : accessStep c pc = effect)
    (hslot : (∃ index pc', effect = .touch index pc') ∨ effect = .divideByZero) :
    ∃ cursor pc', selectSlot c cursor pc' = effect := by
  subst hs
  cases pc with
  | pushSlot tail => exact ⟨tail, _, rfl⟩
  | popSlot head => exact ⟨head, _, rfl⟩
  | sweepSlot head i count =>
    simp only [accessStep] at hslot ⊢
    split
    · exact ⟨head + i, _, rfl⟩
    · rename_i hdone
      simp [hdone] at hslot
  | pushCheck | popHead | sweepCheck =>
    simp only [accessStep] at hslot; split at hslot <;> simp at hslot
  | _ => simp [accessStep] at hslot

/-- An index is formed with the capacity that the access reads, and is below it. -/
theorem accessStep_touch {c : RingCursor} {pc pc' : AccessPc} {index : ℕ}
    (hs : accessStep c pc = .touch index pc') : index < c.capacity.toNat := by
  obtain ⟨cursor, pc'', hselect⟩ := accessStep_select hs (.inl ⟨index, pc', rfl⟩)
  rw [selectSlot] at hselect
  split at hselect
  · cases hselect
  · rename_i hne
    have hpos : 0 < c.capacity.toNat := by
      apply Nat.pos_of_ne_zero
      intro hzero
      exact hne (UInt32.toNat_inj.mp hzero)
    cases hselect
    rw [UInt32.toNat_mod]
    exact Nat.mod_lt _ hpos

/-- Only a capacity of zero divides by zero. -/
theorem accessStep_divideByZero {c : RingCursor} {pc : AccessPc}
    (hs : accessStep c pc = .divideByZero) : c.capacity = 0 := by
  obtain ⟨cursor, pc', hselect⟩ := accessStep_select hs (.inr rfl)
  rw [selectSlot] at hselect
  split at hselect
  · assumption
  · cases hselect

/-! ## The machine -/

/-- A write of the peer to one header word. -/
inductive HeaderWrite
  | head (q : QueueKind) (value : UInt32)
  | tail (q : QueueKind) (value : UInt32)
  | capacity (q : QueueKind) (value : UInt32)
  | config (value : LayoutConfig)
  | identity (magic version : UInt32)

namespace SharedMemoryHeader

def setRing (h : SharedMemoryHeader) (q : QueueKind) (c : RingCursor) : SharedMemoryHeader :=
  { h with ring := Function.update h.ring q c }

def write (h : SharedMemoryHeader) : HeaderWrite → SharedMemoryHeader
  | .head q value => h.setRing q { h.ring q with head := value }
  | .tail q value => h.setRing q { h.ring q with tail := value }
  | .capacity q value => h.setRing q { h.ring q with capacity := value }
  | .config value => { h with config := value }
  | .identity magic version => { h with magic := magic, version := version }

end SharedMemoryHeader

/-- The shared header, the calls under way, and what they have touched. -/
structure TamperedHeader (T : Type) where
  header : SharedMemoryHeader
  thread : T → Option (QueueKind × AccessPc) := fun _ => none
  touched : List (QueueKind × ℕ) := []
  divided : Bool := false

/-- The three ring calls. -/
inductive RingCall
  | push
  | pop
  | sweep
  deriving DecidableEq, Repr

def RingCall.start : RingCall → AccessPc
  | .push => .pushHead
  | .pop => .popTail
  | .sweep => .sweepCheck

/-- Who moves. -/
inductive TamperAction (T : Type)
  | peer (w : HeaderWrite)
  | call (t : T) (q : QueueKind) (op : RingCall)
  | access (t : T)

namespace TamperedHeader
variable {T : Type} [DecidableEq T]

def setThread (s : TamperedHeader T) (t : T) (pc : Option (QueueKind × AccessPc)) :
    TamperedHeader T :=
  { s with thread := Function.update s.thread t pc }

/-- Carry an access out. -/
def perform (s : TamperedHeader T) (t : T) (q : QueueKind) : AccessEffect → TamperedHeader T
  | .next pc => s.setThread t (some (q, pc))
  | .touch index pc => { s with touched := (q, index) :: s.touched }.setThread t (some (q, pc))
  | .storeTail tail =>
    { s with header := s.header.setRing q { s.header.ring q with tail := tail } }.setThread t none
  | .storeHead head =>
    { s with header := s.header.setRing q { s.header.ring q with head := head } }.setThread t none
  | .done => s.setThread t none
  | .divideByZero => { s with divided := true }.setThread t none

end TamperedHeader

/-- All interleavings of ring calls with writes of the peer, from an accepted header. -/
def tamperedHeader (T : Type) [DecidableEq T] (h : SharedMemoryHeader) :
    Machine (TamperedHeader T) (TamperAction T) where
  init := { header := h }
  step s
    | .peer w => some { s with header := s.header.write w }
    | .call t q op =>
      match s.thread t with
      | none => some (s.setThread t (some (q, op.start)))
      | some _ => none
    | .access t =>
      (s.thread t).map fun pc => s.perform t pc.1 (accessStep (s.header.ring pc.1) pc.2)

/-! ## Safety and its condition -/

/-- The slot lies inside the ring region that `Attach` computed. -/
def AttachedSession.InRegion (session : AttachedSession) (slot : QueueKind × ℕ) : Prop :=
  session.layout.ringOffset slot.1 + ringEntryBytes * (slot.2 + 1) ≤
    session.layout.ringOffset slot.1 + ringEntryBytes * (session.config.ringSize slot.1).toNat

theorem AttachedSession.inRegion_iff (session : AttachedSession) (q : QueueKind) (i : ℕ) :
    session.InRegion (q, i) ↔ i < (session.config.ringSize q).toNat := by
  rw [InRegion, Nat.add_le_add_iff_left, Nat.mul_le_mul_left_iff (by decide)]
  exact Nat.succ_le_iff

/-- No call has divided by zero or touched a slot outside its ring. -/
structure TamperedHeader.Safe {T : Type} (session : AttachedSession) (s : TamperedHeader T) :
    Prop where
  modulus : s.divided = false
  slots : ∀ x ∈ s.touched, session.InRegion x

/-- The peer writes only the given values to the capacity words; all else is free. -/
def PeerWrites {T : Type} (W : QueueKind → Set UInt32) (_ : TamperedHeader T) :
    TamperAction T → Prop
  | .peer (.capacity q c) => c ∈ W q
  | _ => True

/-- Not zero, and not beyond the ring that was validated. -/
def AttachedSession.Fits (session : AttachedSession) (q : QueueKind) (c : UInt32) : Prop :=
  0 < c.toNat ∧ c.toNat ≤ (session.config.ringSize q).toNat

instance (session : AttachedSession) (q : QueueKind) (c : UInt32) :
    Decidable (session.Fits q c) :=
  inferInstanceAs (Decidable (_ ∧ _))

namespace TamperedHeader
variable {T : Type} {session : AttachedSession} {s : TamperedHeader T}

/-- Every capacity word fits its ring. -/
structure Bounded (session : AttachedSession) (s : TamperedHeader T) : Prop where
  capacities : ∀ q, session.Fits q (s.header.ring q).capacity
  safe : s.Safe session

theorem Bounded.write (H : s.Bounded session) {w : HeaderWrite}
    (hw : ∀ q c, w = .capacity q c → session.Fits q c) :
    Bounded session { s with header := s.header.write w } := by
  refine ⟨?_, H.safe.modulus, H.safe.slots⟩
  intro q
  have hq := H.capacities q
  cases w with
  | head q' value | tail q' value =>
    by_cases hqq : q = q'
    · subst hqq
      simpa [SharedMemoryHeader.write, SharedMemoryHeader.setRing] using hq
    · simpa [SharedMemoryHeader.write, SharedMemoryHeader.setRing, hqq] using hq
  | capacity q' value =>
    by_cases hqq : q = q'
    · subst hqq
      simpa [SharedMemoryHeader.write, SharedMemoryHeader.setRing] using hw q value rfl
    · simpa [SharedMemoryHeader.write, SharedMemoryHeader.setRing, hqq] using hq
  | config | identity => exact hq

theorem Bounded.perform [DecidableEq T] (H : s.Bounded session) (t : T) (q : QueueKind)
    (pc : AccessPc) : (s.perform t q (accessStep (s.header.ring q) pc)).Bounded session := by
  have hfits := H.capacities q
  cases heffect : accessStep (s.header.ring q) pc with
  | next | done => exact ⟨H.capacities, H.safe.modulus, H.safe.slots⟩
  | touch index pc' =>
    have hindex := accessStep_touch heffect
    refine ⟨H.capacities, H.safe.modulus, ?_⟩
    intro x hx
    rcases List.mem_cons.mp hx with rfl | hold
    · rw [AttachedSession.inRegion_iff]
      exact hindex.trans_le hfits.2
    · exact H.safe.slots x hold
  | storeTail tail =>
    have hstored := H.write (w := .tail q tail) (by simp)
    exact ⟨hstored.capacities, H.safe.modulus, H.safe.slots⟩
  | storeHead head =>
    have hstored := H.write (w := .head q head) (by simp)
    exact ⟨hstored.capacities, H.safe.modulus, H.safe.slots⟩
  | divideByZero =>
    have hzero := accessStep_divideByZero heffect
    have hpos := hfits.1
    simp [hzero] at hpos

variable {W : QueueKind → Set UInt32}

theorem bounded_of_reach [DecidableEq T] {h : SharedMemoryHeader}
    (hinit : ∀ q, session.Fits q (h.ring q).capacity) (hW : ∀ q, ∀ c ∈ W q, session.Fits q c)
    (hreach : (tamperedHeader T h).Reach (PeerWrites W) s) : s.Bounded session := by
  refine Machine.Reach.invariant ?_ ?_ hreach
  · exact ⟨hinit, rfl, by simp [tamperedHeader]⟩
  · intro s a s' H hok hs
    cases a with
    | peer w =>
      simp only [tamperedHeader, Option.some.injEq] at hs
      subst hs
      apply H.write
      rintro q c rfl
      exact hW q c hok
    | call t q op =>
      simp only [tamperedHeader] at hs
      split at hs
      · cases hs
        exact ⟨H.capacities, H.safe.modulus, H.safe.slots⟩
      · cases hs
    | access t =>
      simp only [tamperedHeader, Option.map_eq_some_iff] at hs
      obtain ⟨⟨q, pc⟩, -, rfl⟩ := hs
      exact H.perform t q pc

/-! ## What one bad capacity does

The peer makes the ring look non-empty with its head at any `v`, lets a pop pass its
empty check, and only then writes the capacity. -/

variable [DecidableEq T]

/-- The calls of a thread at a known point. -/
theorem access_eq (h : SharedMemoryHeader) {t : T} {q : QueueKind} {pc : AccessPc}
    (hpc : s.thread t = some (q, pc)) :
    (tamperedHeader T h).step s (.access t) =
      some (s.perform t q (accessStep (s.header.ring q) pc)) := by
  simp [tamperedHeader, hpc]

/-- A pop can be at its slot read with any head and any capacity the peer may write. -/
theorem reach_popSlot (h : SharedMemoryHeader) (t : T)
    (q : QueueKind) (v : UInt32) {c : UInt32} (hc : c ∈ W q) :
    ∃ s, (tamperedHeader T h).Reach (PeerWrites W) s ∧ s.thread t = some (q, .popSlot v) ∧
      (s.header.ring q).capacity = c := by
  let s₀ : TamperedHeader T := { header := (h.write (.head q v)).write (.tail q (v + 1)) }
  have h₀ : (tamperedHeader T h).Reach (PeerWrites W) s₀ :=
    .step (.peer (.tail q (v + 1))) (.step (.peer (.head q v)) .init trivial rfl) trivial rfl
  have htail : (s₀.header.ring q).tail = v + 1 := by
    simp [s₀, SharedMemoryHeader.write, SharedMemoryHeader.setRing]
  have hhead : (s₀.header.ring q).head = v := by
    simp [s₀, SharedMemoryHeader.write, SharedMemoryHeader.setRing]
  have h₁ : (tamperedHeader T h).Reach (PeerWrites W) (s₀.setThread t (some (q, .popTail))) :=
    .step (.call t q .pop) h₀ trivial rfl
  have h₂ : (tamperedHeader T h).Reach (PeerWrites W)
      ((s₀.setThread t (some (q, .popTail))).setThread t (some (q, .popHead (v + 1)))) := by
    have hpc : (s₀.setThread t (some (q, .popTail))).thread t = some (q, .popTail) := by
      simp [setThread]
    refine .step (TamperAction.access t) h₁ trivial ?_
    rw [access_eq h hpc]
    simp [setThread, TamperedHeader.perform, accessStep, htail]
  have h₃ : (tamperedHeader T h).Reach (PeerWrites W)
      (((s₀.setThread t (some (q, .popTail))).setThread t (some (q, .popHead (v + 1)))).setThread t
        (some (q, .popSlot v))) := by
    have hpc : ((s₀.setThread t (some (q, .popTail))).setThread t
        (some (q, .popHead (v + 1)))).thread t = some (q, .popHead (v + 1)) := by
      simp [setThread]
    refine .step (TamperAction.access t) h₂ trivial ?_
    rw [access_eq h hpc]
    simp [setThread, TamperedHeader.perform, accessStep, hhead]
  refine ⟨_, .step (.peer (.capacity q c)) h₃ hc rfl, ?_, ?_⟩
  · simp [setThread]
  · simp [SharedMemoryHeader.write, SharedMemoryHeader.setRing]

/-- A capacity of zero divides by zero, one beyond the ring reaches beyond the ring. -/
theorem fits_of_safe (h : SharedMemoryHeader) (t : T)
    (hsafe : ∀ s, (tamperedHeader T h).Reach (PeerWrites W) s → s.Safe session)
    {q : QueueKind} {c : UInt32} (hc : c ∈ W q) : session.Fits q c := by
  by_contra hfits
  obtain ⟨s, hreach, hpc, hcap⟩ :=
    reach_popSlot h t q (session.config.ringSize q) hc
  have hnext := Machine.Reach.step (TamperAction.access t) hreach trivial (access_eq h hpc)
  have hs := hsafe _ hnext
  by_cases hzero : c = 0
  · have hmodulus := hs.modulus
    simp [accessStep, selectSlot, hcap, hzero, TamperedHeader.perform, setThread] at hmodulus
  · have hpos : 0 < c.toNat := by
      apply Nat.pos_of_ne_zero
      intro h0
      exact hzero (UInt32.toNat_inj.mp h0)
    have hlt : (session.config.ringSize q).toNat < c.toNat := by
      by_contra hle
      exact hfits ⟨hpos, not_lt.mp hle⟩
    have hslot := hs.slots (q, (session.config.ringSize q % c).toNat)
      (by simp [accessStep, selectSlot, hcap, hzero, TamperedHeader.perform, setThread])
    rw [AttachedSession.inRegion_iff, UInt32.toNat_mod, Nat.mod_eq_of_lt hlt] at hslot
    exact lt_irrefl _ hslot

end TamperedHeader

/-- Ring calls on an attached session are memory safe against all writes of the peer
exactly when every value it writes to a capacity word fits the ring that was validated. -/
theorem headerSafe_iff_fits {T : Type} [DecidableEq T] (t : T) (abi : Abi)
    (h : SharedMemoryHeader) (fileSize : ℕ) (session : AttachedSession)
    (hattach : attach abi h fileSize = .ok session) (W : QueueKind → Set UInt32) :
    (∀ s, (tamperedHeader T h).Reach (PeerWrites W) s → s.Safe session) ↔
      ∀ q, ∀ c ∈ W q, session.Fits q c := by
  constructor
  · intro hsafe q c hc
    exact TamperedHeader.fits_of_safe h t hsafe hc
  · intro hW s hreach
    refine (TamperedHeader.bounded_of_reach ?_ hW hreach).safe
    intro q
    obtain ⟨-, hcap, hvalid⟩ := attach_ok hattach q
    rw [hcap]
    exact ⟨((validRingSize_iff _).mp hvalid).1, le_rfl⟩

/-! ## A capacity of nine on a ring of eight -/

/-- `sizeof` and `alignof` on x86-64. -/
def abi64 : Abi := ⟨136, 16, by decide, by decide⟩

/-- The header that the session host writes for the default configuration. -/
def defaultHeader : SharedMemoryHeader where
  ring _ := { capacity := 8 }

/-- The session of the default header in a file of exactly the layout's size. -/
def defaultSession : AttachedSession where
  config := {}
  layout := computeLayout abi64 {}

/-- The peer fakes one queued entry at `v`, lets a pop pass its check, and writes `c`. -/
def tamperedPop (v c : UInt32) : List (TamperAction Unit) :=
  [.peer (.head .response v), .peer (.tail .response (v + 1)), .call () .response .pop,
    .access (), .access (), .peer (.capacity .response c), .access ()]

theorem not_headerSafe_nine :
    attach abi64 defaultHeader (computeLayout abi64 {}).totalSize = .ok defaultSession ∧
      (∃ s, (tamperedHeader Unit defaultHeader).run { header := defaultHeader }
          (tamperedPop 8 9) = some s ∧ ¬ s.Safe defaultSession) ∧
      ∃ s, (tamperedHeader Unit defaultHeader).run { header := defaultHeader }
          (tamperedPop 8 0) = some s ∧ ¬ s.Safe defaultSession := by
  refine ⟨rfl, ?_, ?_⟩
  · have hrun : ((tamperedHeader Unit defaultHeader).run { header := defaultHeader }
        (tamperedPop 8 9)).any (fun s => (.response, 8) ∈ s.touched) = true := by decide +kernel
    obtain ⟨s, hs, htouched⟩ := Machine.exists_of_any hrun
    refine ⟨s, hs, ?_⟩
    intro hsafe
    have hslot := hsafe.slots _ htouched
    rw [AttachedSession.inRegion_iff] at hslot
    exact absurd hslot (by decide)
  · have hrun : ((tamperedHeader Unit defaultHeader).run { header := defaultHeader }
        (tamperedPop 8 0)).any (fun s => s.divided = true) = true := by decide +kernel
    obtain ⟨s, hs, hdivided⟩ := Machine.exists_of_any hrun
    refine ⟨s, hs, ?_⟩
    intro hsafe
    simp [hsafe.modulus] at hdivided

/-- A peer that shrinks the capacity of the default rings does no harm. -/
theorem headerSafe_shrunk :
    attach abi64 defaultHeader (computeLayout abi64 {}).totalSize = .ok defaultSession ∧
      ∀ s, (tamperedHeader Unit defaultHeader).Reach (PeerWrites fun _ => {1, 8}) s →
        s.Safe defaultSession := by
  refine ⟨rfl, ?_⟩
  apply (headerSafe_iff_fits () abi64 defaultHeader (computeLayout abi64 {}).totalSize
    defaultSession rfl fun _ => {1, 8}).mpr
  intro q c hc
  rcases hc with rfl | rfl <;> cases q <;> decide

end MemRpc
