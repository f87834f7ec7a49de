import MemRpc.Core.HeaderTamper
import Mathlib.Order.CompletePartialOrder

/-!
# Layouts that are accepted

`Attach` computes the layout from sizes that the peer has written, in `size_t`. The sums and
products are checked here for the range of 64 bits, and no size that fits the header leads out of it
(`checkedLayout_eq`). With sizes that are accepted, the three rings lie one behind the other between
the header and the end of the mapping, and so does every slot that a cursor can select.

## Main definitions

* `checkedLayout`: `ComputeLayout` with all results of additions and multiplications checked.
* `AttachedSession.ringRegion`, `AttachedSession.slotRegion`: the bytes of a ring and of an entry.

## Main results

* `acceptedLayout_wellFormed`.
-/

namespace MemRpc

/-! ## No overflow -/

/-- A result of type `size_t`, if it has not wrapped. -/
def sizeT (value : ℕ) : Option ℕ := if value < 2 ^ 64 then some value else none

theorem sizeT_eq {value : ℕ} (h : value < 2 ^ 64) : sizeT value = some value := if_pos h

/-- `AlignOffset`. -/
def checkedAlignOffset (offset alignment : ℕ) : Option ℕ :=
  if alignment = 0 then some offset
  else do
    let sum ← sizeT (offset + alignment)
    sizeT ((sum - 1) / alignment * alignment)

/-- The end of a ring that begins at `offset`. -/
def checkedRingEnd (offset : ℕ) (ringSize : UInt32) : Option ℕ := do
  let bytes ← sizeT (ringEntryBytes * ringSize.toNat)
  sizeT (offset + bytes)

/-- `ComputeLayout`. -/
def checkedLayout (abi : Abi) (config : LayoutConfig) : Option Layout := do
  let highRingOffset ← checkedAlignOffset abi.headerBytes entryAlign
  let highRingEnd ← checkedRingEnd highRingOffset config.highRingSize
  let normalRingOffset ← checkedAlignOffset highRingEnd entryAlign
  let normalRingEnd ← checkedRingEnd normalRingOffset config.normalRingSize
  let responseRingOffset ← checkedAlignOffset normalRingEnd entryAlign
  let responseRingEnd ← checkedRingEnd responseRingOffset config.responseRingSize
  let totalSize ← checkedAlignOffset responseRingEnd abi.maxAlign
  return { highRingOffset, normalRingOffset, responseRingOffset, totalSize }

theorem checkedAlignOffset_eq {offset alignment : ℕ} (h : offset + alignment < 2 ^ 64) :
    checkedAlignOffset offset alignment = some (alignOffset offset alignment) := by
  unfold checkedAlignOffset alignOffset
  split
  · rfl
  · have hrounded := Nat.div_mul_le_self (offset + alignment - 1) alignment
    rw [sizeT_eq h, Option.bind_eq_bind, Option.bind_some, sizeT_eq (by omega)]

/-- A ring of any size that fits the header has less than `2 ^ 45` bytes. -/
theorem ringBytes_lt (ringSize : UInt32) : ringEntryBytes * ringSize.toNat < 2 ^ 45 := by
  have hsize : ringSize.toNat < 2 ^ 32 := ringSize.toNat_lt
  rw [ringEntryBytes]
  omega

theorem checkedRingEnd_eq {offset : ℕ} {ringSize : UInt32} (h : offset < 2 ^ 63) :
    checkedRingEnd offset ringSize = some (offset + ringEntryBytes * ringSize.toNat) := by
  have hbytes := ringBytes_lt ringSize
  rw [checkedRingEnd, sizeT_eq (by omega), Option.bind_eq_bind, Option.bind_some,
    sizeT_eq (by omega)]

/-- Whatever the sizes in the header are, no sum and no product wraps. -/
theorem checkedLayout_eq (abi : Abi) (config : LayoutConfig) :
    checkedLayout abi config = some (computeLayout abi config) := by
  have hheader := abi.headerBytes_lt
  have halign := abi.maxAlign_lt
  have hentryAlign : entryAlign = 8 := rfl
  have hhigh := ringBytes_lt config.highRingSize
  have hnormal := ringBytes_lt config.normalRingSize
  have hresponse := ringBytes_lt config.responseRingSize
  have h₁ := alignOffset_le abi.headerBytes entryAlign
  unfold checkedLayout computeLayout
  rw [checkedAlignOffset_eq (by omega)]
  generalize alignOffset abi.headerBytes entryAlign = high at h₁ ⊢
  have h₂ := alignOffset_le (high + ringEntryBytes * config.highRingSize.toNat) entryAlign
  simp only [Option.bind_eq_bind, Option.bind_some]
  rw [checkedRingEnd_eq (by omega), Option.bind_some, checkedAlignOffset_eq (by omega),
    Option.bind_some]
  generalize alignOffset (high + ringEntryBytes * config.highRingSize.toNat) entryAlign =
    normal at h₂ ⊢
  have h₃ := alignOffset_le (normal + ringEntryBytes * config.normalRingSize.toNat) entryAlign
  rw [checkedRingEnd_eq (by omega), Option.bind_some, checkedAlignOffset_eq (by omega),
    Option.bind_some]
  generalize alignOffset (normal + ringEntryBytes * config.normalRingSize.toNat) entryAlign =
    response at h₃ ⊢
  rw [checkedRingEnd_eq (by omega), Option.bind_some, checkedAlignOffset_eq (by omega),
    Option.bind_some]
  rfl

/-! ## Regions -/

namespace AttachedSession

variable (session : AttachedSession)

/-- The bytes of a ring, from the beginning of the mapping. -/
def ringRegion (q : QueueKind) : Set ℕ :=
  Set.Ico (session.layout.ringOffset q)
    (session.layout.ringOffset q + ringEntryBytes * (session.config.ringSize q).toNat)

/-- The bytes of the entry that `ResolveRing` and the index `cursor % capacity` lead to. -/
def slotRegion (q : QueueKind) (cursor capacity : UInt32) : Set ℕ :=
  Set.Ico (session.layout.ringOffset q + ringEntryBytes * (cursor % capacity).toNat)
    (session.layout.ringOffset q + ringEntryBytes * (cursor % capacity).toNat + ringEntryBytes)

end AttachedSession

theorem dvd_alignOffset {offset alignment : ℕ} (h : alignment ≠ 0) :
    alignment ∣ alignOffset offset alignment := by
  rw [alignOffset, if_neg h]
  exact Nat.dvd_mul_left ..

/-- Every ring begins at a multiple of the alignment of its entries. -/
theorem entryAlign_dvd_ringOffset (abi : Abi) (config : LayoutConfig) (q : QueueKind) :
    entryAlign ∣ (computeLayout abi config).ringOffset q := by
  cases q <;> exact dvd_alignOffset (by decide)

/-- A ring ends before the next one begins. -/
theorem computeLayout_ordered (abi : Abi) (config : LayoutConfig) :
    (computeLayout abi config).highRingOffset + ringEntryBytes * config.highRingSize.toNat ≤
        (computeLayout abi config).normalRingOffset ∧
      (computeLayout abi config).normalRingOffset + ringEntryBytes * config.normalRingSize.toNat ≤
        (computeLayout abi config).responseRingOffset := by
  simp only [computeLayout]
  exact ⟨le_alignOffset .., le_alignOffset ..⟩

/-- What an accepted header leads to. -/
theorem attach_layout {abi : Abi} {h : SharedMemoryHeader} {fileSize : ℕ}
    {session : AttachedSession} (hattach : attach abi h fileSize = .ok session) :
    session.layout = computeLayout abi session.config ∧ session.layout.totalSize ≤ fileSize := by
  rw [attach] at hattach
  split at hattach
  · cases hattach
  split at hattach
  · cases hattach
  split at hattach
  · next hvalid =>
      cases hattach
      simp only [Bool.and_eq_true, validateLayoutConfig, decide_eq_true_eq] at hvalid
      exact ⟨rfl, hvalid.1.1.1.2⟩
  · cases hattach

/-- In every session that `Attach` accepts, the layout has been computed without overflow, the
rings are aligned, lie behind the header and before the end of the mapping, which the file has, and
do not overlap. Every cursor selects a slot of its ring. -/
theorem acceptedLayout_wellFormed {abi : Abi} {h : SharedMemoryHeader} {fileSize : ℕ}
    {session : AttachedSession} (hattach : attach abi h fileSize = .ok session) :
    checkedLayout abi h.config = some session.layout ∧
    session.layout.totalSize ≤ fileSize ∧
    (∀ q, entryAlign ∣ session.layout.ringOffset q ∧
      session.ringRegion q ⊆ Set.Ico abi.headerBytes session.layout.totalSize) ∧
    (∀ q q', q ≠ q' → Disjoint (session.ringRegion q) (session.ringRegion q')) ∧
    ∀ q (cursor : UInt32),
      session.slotRegion q cursor (h.ring q).capacity ⊆ session.ringRegion q := by
  obtain ⟨hlayout, hfile⟩ := attach_layout hattach
  have hconfig : session.config = h.config := (attach_ok hattach .response).1
  refine ⟨?_, hfile, fun q => ⟨?_, ?_⟩, ?_, ?_⟩
  · rw [checkedLayout_eq, hlayout, hconfig]
  · rw [hlayout]
    exact entryAlign_dvd_ringOffset abi session.config q
  · rw [AttachedSession.ringRegion, hlayout]
    obtain ⟨hbegin, hend⟩ := computeLayout_ring_le abi session.config q
    exact Set.Ico_subset_Ico hbegin hend
  · -- it suffices to compare the rings in their order
    have hordered := computeLayout_ordered abi session.config
    rw [← hlayout] at hordered
    intro q q' hne
    rw [Set.disjoint_left]
    intro byte hq hq'
    rw [AttachedSession.ringRegion, Set.mem_Ico] at hq hq'
    cases q <;> cases q' <;>
      first
        | exact hne rfl
        | (simp only [Layout.ringOffset, LayoutConfig.ringSize] at hq hq'; omega)
  · intro q cursor
    obtain ⟨-, hcapacity, hvalid⟩ := attach_ok hattach q
    have hpos := ((validRingSize_iff _).mp hvalid).1
    have hindex : (cursor % (h.ring q).capacity).toNat < (session.config.ringSize q).toNat := by
      rw [hcapacity, UInt32.toNat_mod]
      exact Nat.mod_lt _ hpos
    have hslot : ringEntryBytes * (cursor % (h.ring q).capacity).toNat + ringEntryBytes ≤
        ringEntryBytes * (session.config.ringSize q).toNat := by
      rw [← Nat.mul_succ]
      exact Nat.mul_le_mul_left _ hindex
    apply Set.Ico_subset_Ico
    · exact Nat.le_add_right _ _
    · omega

/-- The default sizes, in a file that has exactly the size of the layout. -/
theorem acceptedLayout_wellFormed_default :
    attach abi64 defaultHeader (computeLayout abi64 {}).totalSize = .ok defaultSession ∧
      Disjoint (defaultSession.ringRegion .highRequest) (defaultSession.ringRegion .response) ∧
      defaultSession.slotRegion .response 4294967295 8 ⊆ defaultSession.ringRegion .response := by
  have hattach :
      attach abi64 defaultHeader (computeLayout abi64 {}).totalSize = .ok defaultSession := rfl
  obtain ⟨-, -, -, hdisjoint, hslot⟩ := acceptedLayout_wellFormed hattach
  exact ⟨hattach, hdisjoint _ _ (by decide), hslot .response 4294967295⟩

end MemRpc
