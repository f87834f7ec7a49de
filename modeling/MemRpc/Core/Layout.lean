import MemRpc.Core.Protocol

/-!
# Ring sizes and the shared-memory layout

`ValidateLayoutConfig` bounds each of the three ring sizes by the same test, and
`ComputeLayout` places the rings one after another behind the header. Offsets are
`size_t` values; they are natural numbers here and `computeLayout_lt` shows that
no configuration comes near `2 ^ 64`.
-/

namespace MemRpc

/-- `MAX_RING_ENTRIES`. -/
def maxRingEntries : UInt32 := (1 : UInt32) <<< (20 : UInt32)

/-- The size test that `ValidateLayoutConfig` makes for each ring. -/
def validRingSize (size : UInt32) : Bool := !(size == 0 || size > maxRingEntries)

/-- A ring capacity that `ValidateLayoutConfig` accepts. -/
structure RingCapacity where
  size : UInt32
  valid : validRingSize size = true

theorem validRingSize_iff (size : UInt32) :
    validRingSize size = true ↔ 0 < size.toNat ∧ size.toNat ≤ 2 ^ 20 := by
  have hmax : maxRingEntries.toNat = 2 ^ 20 := by decide
  have hzero : size = 0 ↔ size.toNat = 0 := by
    rw [← UInt32.toNat_inj]
    rfl
  simp only [validRingSize, Bool.not_eq_true', Bool.or_eq_false_iff, beq_eq_false_iff_ne,
    decide_eq_false_iff_not, ne_eq, hzero, gt_iff_lt, UInt32.lt_iff_toNat_lt, hmax]
  omega

theorem validRingSize_one : validRingSize 1 = true := by decide

theorem validRingSize_eight : validRingSize 8 = true := by decide

theorem RingCapacity.pos (c : RingCapacity) : 0 < c.size.toNat :=
  ((validRingSize_iff c.size).mp c.valid).1

theorem RingCapacity.le (c : RingCapacity) : c.size.toNat ≤ 2 ^ 20 :=
  ((validRingSize_iff c.size).mp c.valid).2

/-! ## ComputeLayout -/

/-- What the platform decides: `sizeof(SharedMemoryHeader)`, which contains a
`pthread_mutex_t`, and `alignof(std::max_align_t)`. -/
structure Abi where
  headerBytes : ℕ
  maxAlign : ℕ
  headerBytes_lt : headerBytes < 2 ^ 16
  maxAlign_lt : maxAlign < 2 ^ 16

/-- `alignof(RequestRingEntry)` and `alignof(ResponseRingEntry)`: that of their `uint64_t`. -/
def entryAlign : ℕ := 8

/-- `AlignOffset`. -/
def alignOffset (offset alignment : ℕ) : ℕ :=
  if alignment = 0 then offset else (offset + alignment - 1) / alignment * alignment

/-- `struct LayoutConfig`. -/
structure LayoutConfig where
  highRingSize : UInt32 := 8
  normalRingSize : UInt32 := 8
  responseRingSize : UInt32 := 8
  maxRequestBytes : UInt32 := UInt32.ofNat requestInlinePayloadBytes
  maxResponseBytes : UInt32 := UInt32.ofNat responseInlinePayloadBytes
  deriving DecidableEq, Repr

def LayoutConfig.ringSize (config : LayoutConfig) : QueueKind → UInt32
  | .highRequest => config.highRingSize
  | .normalRequest => config.normalRingSize
  | .response => config.responseRingSize

/-- `struct Layout`. -/
structure Layout where
  highRingOffset : ℕ
  normalRingOffset : ℕ
  responseRingOffset : ℕ
  totalSize : ℕ
  deriving DecidableEq, Repr

def Layout.ringOffset (layout : Layout) : QueueKind → ℕ
  | .highRequest => layout.highRingOffset
  | .normalRequest => layout.normalRingOffset
  | .response => layout.responseRingOffset

/-- `ComputeLayout`. -/
def computeLayout (abi : Abi) (config : LayoutConfig) : Layout :=
  let high := alignOffset abi.headerBytes entryAlign
  let normal := alignOffset (high + ringEntryBytes * config.highRingSize.toNat) entryAlign
  let response := alignOffset (normal + ringEntryBytes * config.normalRingSize.toNat) entryAlign
  { highRingOffset := high
    normalRingOffset := normal
    responseRingOffset := response
    totalSize :=
      alignOffset (response + ringEntryBytes * config.responseRingSize.toNat) abi.maxAlign }

/-- `HasAlignedPayloadSizes`. -/
def hasAlignedPayloadSizes (maxRequestBytes maxResponseBytes : UInt32) : Bool :=
  decide (0 < maxRequestBytes) && decide (0 < maxResponseBytes) &&
    decide (maxRequestBytes.toNat ≤ requestInlinePayloadBytes) &&
    decide (maxResponseBytes.toNat ≤ responseInlinePayloadBytes)

/-- `ValidateLayoutConfig`. -/
def validateLayoutConfig (abi : Abi) (config : LayoutConfig) (fileSize : ℕ) : Bool :=
  validRingSize config.highRingSize && validRingSize config.normalRingSize &&
    validRingSize config.responseRingSize &&
    hasAlignedPayloadSizes config.maxRequestBytes config.maxResponseBytes &&
    decide (abi.headerBytes ≤ (computeLayout abi config).totalSize) &&
    decide ((computeLayout abi config).totalSize ≤ fileSize)

theorem le_alignOffset (offset alignment : ℕ) : offset ≤ alignOffset offset alignment := by
  rw [alignOffset]
  split
  · exact le_rfl
  · rename_i hpos
    have hdiv := Nat.div_add_mod (offset + alignment - 1) alignment
    have hmod := Nat.mod_lt (offset + alignment - 1) (Nat.pos_of_ne_zero hpos)
    rw [mul_comm] at hdiv
    omega

theorem alignOffset_le (offset alignment : ℕ) :
    alignOffset offset alignment ≤ offset + alignment := by
  rw [alignOffset]
  split
  · omega
  · have hdiv := Nat.div_mul_le_self (offset + alignment - 1) alignment
    omega

theorem validateLayoutConfig_ringSize {abi : Abi} {config : LayoutConfig} {fileSize : ℕ}
    (h : validateLayoutConfig abi config fileSize = true) (q : QueueKind) :
    validRingSize (config.ringSize q) = true := by
  simp only [validateLayoutConfig, Bool.and_eq_true] at h
  cases q with
  | highRequest => exact h.1.1.1.1.1
  | normalRequest => exact h.1.1.1.1.2
  | response => exact h.1.1.1.2

/-- Every ring lies behind the header and inside the mapping. -/
theorem computeLayout_ring_le (abi : Abi) (config : LayoutConfig) (q : QueueKind) :
    abi.headerBytes ≤ (computeLayout abi config).ringOffset q ∧
      (computeLayout abi config).ringOffset q + ringEntryBytes * (config.ringSize q).toNat ≤
        (computeLayout abi config).totalSize := by
  have hhigh := le_alignOffset abi.headerBytes entryAlign
  generalize hh : alignOffset abi.headerBytes entryAlign = high at hhigh
  have hnormal := le_alignOffset (high + ringEntryBytes * config.highRingSize.toNat) entryAlign
  generalize hn : alignOffset (high + ringEntryBytes * config.highRingSize.toNat) entryAlign =
    normal at hnormal
  have hresponse := le_alignOffset (normal + ringEntryBytes * config.normalRingSize.toNat)
    entryAlign
  generalize hr : alignOffset (normal + ringEntryBytes * config.normalRingSize.toNat)
    entryAlign = response at hresponse
  have htotal := le_alignOffset (response + ringEntryBytes * config.responseRingSize.toNat)
    abi.maxAlign
  cases q <;> simp only [computeLayout, Layout.ringOffset, LayoutConfig.ringSize, hh, hn, hr] <;>
    omega

/-- The layout of any configuration is far from the end of `size_t`, so offsets do not wrap. -/
theorem computeLayout_lt (abi : Abi) (config : LayoutConfig) :
    (computeLayout abi config).totalSize < 2 ^ 64 := by
  have hhigh : config.highRingSize.toNat < 2 ^ 32 := config.highRingSize.toNat_lt
  have hnormal : config.normalRingSize.toNat < 2 ^ 32 := config.normalRingSize.toNat_lt
  have hresponse : config.responseRingSize.toNat < 2 ^ 32 := config.responseRingSize.toNat_lt
  have hheader := abi.headerBytes_lt
  have halign := abi.maxAlign_lt
  have h₁ := alignOffset_le abi.headerBytes entryAlign
  simp only [computeLayout]
  generalize alignOffset abi.headerBytes entryAlign = high at h₁ ⊢
  have h₂ := alignOffset_le (high + ringEntryBytes * config.highRingSize.toNat) entryAlign
  generalize alignOffset (high + ringEntryBytes * config.highRingSize.toNat) entryAlign =
    normal at h₂ ⊢
  have h₃ := alignOffset_le (normal + ringEntryBytes * config.normalRingSize.toNat) entryAlign
  generalize alignOffset (normal + ringEntryBytes * config.normalRingSize.toNat) entryAlign =
    response at h₃ ⊢
  have h₄ := alignOffset_le (response + ringEntryBytes * config.responseRingSize.toNat)
    abi.maxAlign
  simp only [entryAlign, ringEntryBytes] at h₁ h₂ h₃ h₄ ⊢
  omega

end MemRpc
