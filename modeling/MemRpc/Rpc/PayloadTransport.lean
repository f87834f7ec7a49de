import MemRpc.Rpc.PayloadReads
import MemRpc.Rpc.ServerRuntime

/-!
# Payloads on their way through a session

`file_payload.cpp` with the files it writes. A payload that fits the transport limit goes
inline. A larger one is written to a file of its own, and the entry carries an envelope
with the path and the size. The receiver decodes the envelope, checks the path, reads the
file and removes it.

The files are those below `DEFAULT_FILE_PAYLOAD_DIR`, the only directory the callers pass.
Calls of the file system do not fail by themselves: `open` fails when the file to create
exists, or the file to read does not.

`Transported` relates a payload to what the entry holds. `transported_prepare` establishes it, it
survives every change of other files (`Transported.frame`), and `Transported.resolve` reads the
payload back.

## Main definitions

* `prepareFilePayloadForTransport`, `resolveTransport`: the two ends.
* `Transported`: the entry bytes, with the files, hold the payload.
-/

namespace MemRpc

/-- `MAX_FILE_PAYLOAD_BYTES`. -/
def maxFilePayloadBytes : ℕ := 128 * 1024 * 1024

/-! ## Words -/

/-- `WriteUint32`: the bytes of a word, lowest first. -/
def wordBytes (w : UInt32) : List UInt8 :=
  [w.toUInt8, (w >>> 8).toUInt8, (w >>> 16).toUInt8, (w >>> 24).toUInt8]

@[simp] theorem length_wordBytes (w : UInt32) : (wordBytes w).length = 4 := rfl

/-- Four bytes put together again, bit by bit. -/
theorem word_of_bytes (w : UInt32) :
    w.toUInt8.toUInt32 ||| (w >>> 8).toUInt8.toUInt32 <<< 8 |||
      (w >>> 16).toUInt8.toUInt32 <<< 16 ||| (w >>> 24).toUInt8.toUInt32 <<< 24 = w := by
  apply UInt32.toBitVec_inj.1
  ext i hi
  simp only [UInt32.toBitVec_or, UInt8.toBitVec_toUInt32, UInt32.toBitVec_toUInt8,
    UInt32.toBitVec_shiftLeft, UInt32.toBitVec_shiftRight, UInt32.toBitVec_ofNat,
    BitVec.ofNat_eq_ofNat, BitVec.reduceMod, BitVec.ushiftRight_eq', BitVec.toNat_ofNat,
    Nat.reducePow, Nat.reduceMod, BitVec.shiftLeft_eq', BitVec.getElem_or,
    BitVec.getElem_setWidth, BitVec.getLsbD_setWidth, BitVec.getElem_shiftLeft,
    BitVec.getLsbD_ushiftRight]
  -- the byte that bit `i` lies in
  grind

variable {bytes : ℕ → UInt8}

/-- A word is read back from its bytes. -/
theorem wordAt_of_wordBytes {offset : ℕ} {w : UInt32}
    (h : ∀ i < 4, (wordBytes w)[i]? = some (bytes (offset + i))) : wordAt bytes offset = w := by
  have h0 : w.toUInt8 = bytes offset := Option.some.inj (h 0 (by omega))
  have h1 : (w >>> 8).toUInt8 = bytes (offset + 1) := Option.some.inj (h 1 (by omega))
  have h2 : (w >>> 16).toUInt8 = bytes (offset + 2) := Option.some.inj (h 2 (by omega))
  have h3 : (w >>> 24).toUInt8 = bytes (offset + 3) := Option.some.inj (h 3 (by omega))
  rw [wordAt, ← h0, ← h1, ← h2, ← h3]
  exact word_of_bytes w

/-! ## File names -/

/-- The bytes of a text. -/
def textBytes (text : List Char) : List UInt8 := text.map fun c => UInt8.ofNat c.toNat

theorem textBytes_append (text text' : List Char) :
    textBytes (text ++ text') = textBytes text ++ textBytes text' := List.map_append

/-- `std::to_string`. -/
def toDecimal (x : ℤ) : List Char :=
  if x < 0 then '-' :: Nat.toDigits 10 x.natAbs else Nat.toDigits 10 x.natAbs

/-- What `MakeFilePayloadPath` makes a name of: the process, the clock and the counter. -/
structure FileStamp where
  pid : Int32
  ts : Int64
  seq : Int32
  deriving DecidableEq

/-- `DEFAULT_FILE_PAYLOAD_DIR`. -/
def filePayloadDir : List Char := "/tmp/cache/file_payload".toList

/-- `MakeFilePayloadPath`. -/
def makeFilePayloadPath (stamp : FileStamp) : List UInt8 :=
  textBytes (filePayloadDir ++ ['/'] ++ toDecimal stamp.pid.toInt ++ ['_'] ++
    toDecimal stamp.ts.toInt ++ ['_'] ++ toDecimal stamp.seq.toInt)

/-- `IsPathInsideFilePayloadRoot`. -/
def IsPathInsideFilePayloadRoot (path : List UInt8) : Prop :=
  textBytes (filePayloadDir ++ ['/']) <+: path ∧ ¬ textBytes ['.', '.'] <:+: path

instance (path : List UInt8) : Decidable (IsPathInsideFilePayloadRoot path) :=
  inferInstanceAs (Decidable (_ ∧ _))

/-- The characters of a file name. -/
def IsNameChar (c : Char) : Prop := c = '-' ∨ c = '_' ∨ c.isDigit = true

theorem isNameChar_of_mem_toDecimal {x : ℤ} {c : Char} (hc : c ∈ toDecimal x) : IsNameChar c := by
  have hdigit : ∀ n, c ∈ Nat.toDigits 10 n → IsNameChar c := fun n h =>
    .inr (.inr (Nat.isDigit_of_mem_toDigits (by omega) (by omega) h))
  rw [toDecimal] at hc
  split at hc
  · rcases List.mem_cons.mp hc with rfl | hc
    · exact .inl rfl
    · exact hdigit _ hc
  · exact hdigit _ hc

theorem length_toDecimal_le {x : ℤ} {k : ℕ} (hk : 0 < k) (hx : x.natAbs < 10 ^ k) :
    (toDecimal x).length ≤ k + 1 := by
  have hdigits := (Nat.length_toDigits_le_iff (b := 10) (by omega) hk).mpr hx
  rw [toDecimal]
  split
  · simpa using hdigits
  · omega

/-- No byte of a file name is a dot. -/
theorem IsNameChar.ne_dot {c : Char} (hc : IsNameChar c) : UInt8.ofNat c.toNat ≠ 46 := by
  rcases hc with rfl | rfl | hdigit
  · decide
  · decide
  · have hle : 48 ≤ c.toNat ∧ c.toNat ≤ 57 := by
      simpa [Char.isDigit, UInt32.le_iff_toNat_le] using hdigit
    intro h
    have := congrArg UInt8.toNat h
    simp at this
    omega

theorem length_makeFilePayloadPath (stamp : FileStamp) :
    0 < (makeFilePayloadPath stamp).length ∧ (makeFilePayloadPath stamp).length ≤ 68 := by
  have hdir : filePayloadDir.length = 23 := by decide
  have hpid : (toDecimal stamp.pid.toInt).length ≤ 11 := by
    have := stamp.pid.toInt_lt
    have := stamp.pid.le_toInt
    exact length_toDecimal_le (k := 10) (by omega) (by omega)
  have hts : (toDecimal stamp.ts.toInt).length ≤ 20 := by
    have := stamp.ts.toInt_lt
    have := stamp.ts.le_toInt
    exact length_toDecimal_le (k := 19) (by omega) (by omega)
  have hseq : (toDecimal stamp.seq.toInt).length ≤ 11 := by
    have := stamp.seq.toInt_lt
    have := stamp.seq.le_toInt
    exact length_toDecimal_le (k := 10) (by omega) (by omega)
  simp only [makeFilePayloadPath, textBytes, List.length_map, List.length_append, hdir,
    List.length_singleton]
  omega

/-- The path of a payload file passes the check of the reader. -/
theorem isPathInside_makeFilePayloadPath (stamp : FileStamp) :
    IsPathInsideFilePayloadRoot (makeFilePayloadPath stamp) := by
  constructor
  · simp only [makeFilePayloadPath, textBytes_append, List.append_assoc]
    exact ⟨_, rfl⟩
  · -- a dot anywhere in the path would be one of a name character or of the directory
    intro hinfix
    have hdot : (46 : UInt8) ∈ makeFilePayloadPath stamp :=
      hinfix.subset (by decide)
    simp only [makeFilePayloadPath, textBytes_append, List.mem_append] at hdot
    have hdir : 46 ∉ textBytes filePayloadDir := by decide
    have hname : ∀ x, 46 ∉ textBytes (toDecimal x) := by
      intro x hx
      obtain ⟨c, hc, h⟩ := List.mem_map.mp hx
      exact (isNameChar_of_mem_toDecimal hc).ne_dot h
    have hslash : 46 ∉ textBytes ['/'] := by decide
    have hline : 46 ∉ textBytes ['_'] := by decide
    rcases hdot with (((((h | h) | h) | h) | h) | h) | h
    · exact hdir h
    · exact hslash h
    · exact hname _ h
    · exact hline h
    · exact hname _ h
    · exact hline h
    · exact hname _ h

/-! ## The files -/

/-- The files of the payload directory, by path. -/
abbrev PayloadFiles := List UInt8 → Option (List UInt8)

/-- The checks that `RemoveFilePayload` and `ReadAndRemoveFilePayload` start with. -/
def FilePayloadRef.Refused (ref : FilePayloadRef) : Prop :=
  ref.path = [] ∨ maxFilePayloadBytes < ref.size.toNat ∨ ¬ IsPathInsideFilePayloadRoot ref.path

instance (ref : FilePayloadRef) : Decidable ref.Refused :=
  inferInstanceAs (Decidable (_ ∨ _ ∨ _))

/-- `RemoveFilePayload`. -/
def removeFilePayload (files : PayloadFiles) (ref : FilePayloadRef) : Bool × PayloadFiles :=
  if ref.Refused then (false, files) else (true, Function.update files ref.path none)

/-- `WriteFilePayload`; `O_EXCL` refuses a path that exists. -/
def writeFilePayload (files : PayloadFiles) (stamp : FileStamp) (payload : List UInt8) :
    Option FilePayloadRef × PayloadFiles :=
  if 2 ^ 32 - 1 < payload.length ∨ maxFilePayloadBytes < payload.length then (none, files)
  else
    let path := makeFilePayloadPath stamp
    match files path with
    | some _ => (none, files)
    | none =>
      (some ⟨path, UInt32.ofNat payload.length⟩, Function.update files path (some payload))

/-- `ReadAndRemoveFilePayload`, with the size check of `ReadAll`. -/
def readAndRemoveFilePayload (files : PayloadFiles) (ref : FilePayloadRef) :
    Option (List UInt8) × PayloadFiles :=
  if ref.Refused then (none, files)
  else
    let files' := (removeFilePayload files ref).2
    match files ref.path with
    | none => (none, files')
    | some payload =>
      if maxFilePayloadBytes < payload.length ∨ payload.length ≠ ref.size.toNat then
        (none, files')
      else (some payload, files')

/-! ## The envelope -/

/-- `EncodeFilePayloadEnvelope`. -/
def encodeFilePayloadEnvelope (ref : FilePayloadRef) : List UInt8 :=
  wordBytes filePayloadEnvelopeMagic ++ wordBytes filePayloadEnvelopeVersion ++
    wordBytes ref.size ++ wordBytes (UInt32.ofNat ref.path.length) ++ ref.path

theorem length_encodeFilePayloadEnvelope (ref : FilePayloadRef) :
    (encodeFilePayloadEnvelope ref).length = 16 + ref.path.length := by
  simp only [encodeFilePayloadEnvelope, List.length_append, length_wordBytes]

/-- The memory at a payload array starts with the given bytes. -/
def StartsWith (bytes : ℕ → UInt8) (content : List UInt8) : Prop :=
  ∀ i < content.length, content[i]? = some (bytes i)

theorem StartsWith.map_range {content : List UInt8}
    (h : StartsWith bytes content) : (List.range content.length).map bytes = content := by
  apply List.ext_getElem?
  intro i
  by_cases hi : i < content.length
  · rw [h i hi]
    simp [hi]
  · simp [hi]

theorem startsWith_append {front back : List UInt8} :
    StartsWith bytes (front ++ back) ↔
      StartsWith bytes front ∧ StartsWith (fun i => bytes (front.length + i)) back := by
  constructor
  · intro h
    constructor
    · intro i hi
      rw [← h i (by simp; omega), List.getElem?_append_left hi]
    · intro i hi
      have hat := h (front.length + i) (by simpa using hi)
      rw [List.getElem?_append_right (by omega)] at hat
      simpa using hat
  · rintro ⟨hfront, hback⟩ i hi
    by_cases hlt : i < front.length
    · rw [List.getElem?_append_left hlt, hfront i hlt]
    · have hsub : i - front.length < back.length := by
        rw [List.length_append] at hi
        omega
      have hindex : front.length + (i - front.length) = i := by omega
      have hat := hback _ hsub
      simp only [hindex] at hat
      rw [List.getElem?_append_right (by omega), hat]

/-- Decoding gives back what was encoded. -/
theorem decode_encodeFilePayloadEnvelope {ref : FilePayloadRef}
    (hpath : ref.path ≠ []) (hlength : ref.path.length < 2 ^ 32)
    (h : StartsWith bytes (encodeFilePayloadEnvelope ref)) :
    (decodeFilePayloadEnvelope bytes (encodeFilePayloadEnvelope ref).length).1 = some ref := by
  rw [length_encodeFilePayloadEnvelope]
  simp only [encodeFilePayloadEnvelope, startsWith_append, List.length_append, length_wordBytes,
    Nat.reduceAdd] at h
  obtain ⟨⟨⟨⟨hmagic, hversion⟩, hsize⟩, hlen⟩, hbytes⟩ := h
  have hmagic : wordAt bytes 0 = filePayloadEnvelopeMagic :=
    wordAt_of_wordBytes (by simpa [StartsWith] using hmagic)
  have hversion : wordAt bytes 4 = filePayloadEnvelopeVersion := wordAt_of_wordBytes hversion
  have hsize : wordAt bytes 8 = ref.size := wordAt_of_wordBytes hsize
  have hlen : (wordAt bytes 12).toNat = ref.path.length := by
    rw [wordAt_of_wordBytes hlen]
    exact UInt32.toNat_ofNat_of_lt' hlength
  -- the reads of the decoder, in its order
  rw [decodeFilePayloadEnvelope, ByteReader.readUint32_of_le (by simp; omega)]
  simp only [hmagic, ne_eq, not_true_eq_false, if_false, zero_add]
  rw [ByteReader.readUint32_of_le (by simp; omega)]
  simp only [hversion, not_true_eq_false, if_false]
  rw [ByteReader.readUint32_of_le (by simp; omega)]
  simp only [ByteReader.readString]
  rw [ByteReader.readUint32_of_le (by simp)]
  simp only [ByteReader.readBytes, Nat.reduceAdd, hlen, gt_iff_lt, lt_irrefl, if_false, hsize]
  rw [hbytes.map_range]
  simp [hpath]

/-! ## The two ends of a transport -/

/-- `PrepareFilePayloadForTransport`. A reference that was not filled in has no file to
remove. -/
def prepareFilePayloadForTransport (files : PayloadFiles) (stamp : FileStamp)
    (payload : List UInt8) (maxTransportBytes : ℕ) : Option TransportPayload × PayloadFiles :=
  if payload.length ≤ maxTransportBytes then (some ⟨payload, payloadKindInline⟩, files)
  else
    match writeFilePayload files stamp payload with
    | (none, files') => (none, files')
    | (some ref, files') =>
      let envelope := encodeFilePayloadEnvelope ref
      if maxTransportBytes < envelope.length then (none, (removeFilePayload files' ref).2)
      else (some ⟨envelope, payloadKindFileRef⟩, files')

/-- `ResolveFilePayloadFromTransport` with the files it leaves. -/
def resolveTransport (files : PayloadFiles) (bytes : ℕ → UInt8) (size : ℕ) (payloadKind : UInt8) :
    Option (List UInt8) × PayloadFiles :=
  ((resolveFilePayloadFromTransport (fun ref => (readAndRemoveFilePayload files ref).1) bytes size
      payloadKind).1,
    if payloadKind = payloadKindFileRef then
      match (decodeFilePayloadEnvelope bytes size).1 with
      | none => files
      | some ref => (readAndRemoveFilePayload files ref).2
    else files)

/-- What an entry carries holds the payload: the bytes themselves, or the envelope of a
file, `file`, with these bytes. -/
inductive Transported (files : PayloadFiles) (payload : List UInt8) :
    Option (List UInt8) → TransportPayload → Prop
  | inline : Transported files payload none ⟨payload, payloadKindInline⟩
  | file (stamp : FileStamp) (hsize : payload.length ≤ maxFilePayloadBytes)
      (hfile : files (makeFilePayloadPath stamp) = some payload) :
      Transported files payload (some (makeFilePayloadPath stamp))
        ⟨encodeFilePayloadEnvelope ⟨makeFilePayloadPath stamp, UInt32.ofNat payload.length⟩,
          payloadKindFileRef⟩

variable {payload : List UInt8}

/-- Changes of other files do not matter. -/
theorem Transported.frame {files files' : PayloadFiles}
    {file : Option (List UInt8)} {p : TransportPayload} (h : Transported files payload file p)
    (hfiles : ∀ path ∈ file, files' path = files path) : Transported files' payload file p := by
  cases h with
  | inline => exact .inline
  | file stamp hsize hfile => exact .file stamp hsize ((hfiles _ rfl).trans hfile)

/-- A payload that is not too large, with a name that is not in use, is carried within the
limit. The only file that is created is the one it is carried in. -/
theorem transported_prepare {files : PayloadFiles} {stamp : FileStamp}
    (maxTransportBytes : ℕ) (hmax : 84 ≤ maxTransportBytes)
    (hsize : payload.length ≤ maxFilePayloadBytes)
    (hunused : files (makeFilePayloadPath stamp) = none) :
    ∃ p file files', prepareFilePayloadForTransport files stamp payload maxTransportBytes =
        (some p, files') ∧ Transported files' payload file p ∧ p.bytes.length ≤ maxTransportBytes ∧
      (∀ path ∈ file, path = makeFilePayloadPath stamp) ∧
      ∀ path, file ≠ some path → files' path = files path := by
  rw [prepareFilePayloadForTransport]
  split
  · rename_i hinline
    exact ⟨_, none, files, rfl, .inline, hinline, nofun, fun _ _ => rfl⟩
  · have hsmall : ¬ (2 ^ 32 - 1 < payload.length ∨ maxFilePayloadBytes < payload.length) := by
      have : maxFilePayloadBytes = 134217728 := rfl
      omega
    have hpath := length_makeFilePayloadPath stamp
    have hlength : (encodeFilePayloadEnvelope ⟨makeFilePayloadPath stamp,
        UInt32.ofNat payload.length⟩).length ≤ maxTransportBytes := by
      rw [length_encodeFilePayloadEnvelope]
      dsimp only
      omega
    simp only [writeFilePayload, if_neg hsmall, hunused, if_neg (Nat.not_lt.mpr hlength)]
    refine ⟨_, some (makeFilePayloadPath stamp), _, rfl, .file stamp hsize (by simp), hlength,
      ?_, ?_⟩
    · intro path hmem
      cases hmem
      rfl
    · intro path hne
      exact Function.update_of_ne (fun h => hne (congrArg some h.symm)) _ _

/-- A larger payload is refused, and no file is created. -/
theorem prepare_of_lt (files : PayloadFiles) (stamp : FileStamp)
    (maxTransportBytes : ℕ) (hmax : maxTransportBytes ≤ maxFilePayloadBytes)
    (hsize : maxFilePayloadBytes < payload.length) :
    prepareFilePayloadForTransport files stamp payload maxTransportBytes = (none, files) := by
  have hlarge : ¬ payload.length ≤ maxTransportBytes := by omega
  simp [prepareFilePayloadForTransport, writeFilePayload, hlarge, hsize]

/-- The envelope of a payload file is accepted by the reader. -/
theorem not_refused {stamp : FileStamp} {size : ℕ} (hsize : size ≤ maxFilePayloadBytes) :
    ¬ FilePayloadRef.Refused ⟨makeFilePayloadPath stamp, UInt32.ofNat size⟩ := by
  rintro (hempty | hlarge | houtside)
  · have hpos := (length_makeFilePayloadPath stamp).1
    dsimp only at hempty
    simp [hempty] at hpos
  · have hmod : (UInt32.ofNat size).toNat ≤ size := by
      rw [UInt32.toNat_ofNat']
      exact Nat.mod_le ..
    dsimp only at hlarge
    omega
  · exact houtside (isPathInside_makeFilePayloadPath stamp)

/-- The envelope of a payload file is decoded. -/
theorem decode_envelope (stamp : FileStamp) (size : UInt32)
    (h : StartsWith bytes (encodeFilePayloadEnvelope ⟨makeFilePayloadPath stamp, size⟩)) :
    (decodeFilePayloadEnvelope bytes
      (encodeFilePayloadEnvelope ⟨makeFilePayloadPath stamp, size⟩).length).1 =
        some ⟨makeFilePayloadPath stamp, size⟩ := by
  obtain ⟨hpos, hpath⟩ := length_makeFilePayloadPath stamp
  exact decode_encodeFilePayloadEnvelope (List.ne_nil_of_length_pos hpos) (by dsimp only; omega) h

/-- The receiver gets the payload back. It removes the file of the entry and no other. -/
theorem Transported.resolve {files : PayloadFiles}
    {file : Option (List UInt8)} {p : TransportPayload} (h : Transported files payload file p)
    (hbytes : StartsWith bytes p.bytes) :
    (resolveTransport files bytes p.bytes.length p.payloadKind).1 = some payload ∧
      ∀ path, file ≠ some path →
        (resolveTransport files bytes p.bytes.length p.payloadKind).2 path = files path := by
  cases h with
  | inline =>
    have hkinds : payloadKindInline ≠ payloadKindFileRef := by decide
    constructor
    · simp only [resolveTransport, resolveFilePayloadFromTransport, if_true]
      by_cases hempty : payload.length = 0
      · simp [List.length_eq_zero_iff.mp hempty]
      · simp only [if_neg hempty]
        rw [StartsWith.map_range hbytes]
    · intro path _
      simp [resolveTransport, hkinds]
  | file stamp hsize hfile =>
    have hkinds : payloadKindFileRef ≠ payloadKindInline := by decide
    have hword : UInt32.size = 4294967296 := rfl
    have hmax : maxFilePayloadBytes = 134217728 := rfl
    have hdecode := decode_envelope stamp _ hbytes
    have hlength : (UInt32.ofNat payload.length).toNat = payload.length :=
      UInt32.toNat_ofNat_of_lt' (by omega)
    have hfits : ¬ (maxFilePayloadBytes < payload.length ∨
        payload.length ≠ (UInt32.ofNat payload.length).toNat) := by
      rw [hlength]
      omega
    have hread : readAndRemoveFilePayload files
        ⟨makeFilePayloadPath stamp, UInt32.ofNat payload.length⟩ =
          (some payload, Function.update files (makeFilePayloadPath stamp) none) := by
      simp only [readAndRemoveFilePayload, removeFilePayload, if_neg (not_refused hsize), hfile,
        if_neg hfits]
    constructor
    · simp only [resolveTransport, resolveFilePayloadFromTransport, if_neg hkinds, ne_eq,
        not_true_eq_false, if_false, hdecode, Option.bind_some, hread]
    · intro path hne
      simp only [resolveTransport, if_true, hdecode, hread]
      exact Function.update_of_ne (fun h => hne (congrArg some h.symm)) _ _

end MemRpc
