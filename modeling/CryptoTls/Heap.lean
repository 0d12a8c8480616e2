import CryptoTls.VersionInfo

namespace CryptoTls

/-- A memory error: a `CXPLAT_FREE` of a buffer that is not live (freed
twice), or a read outside a live buffer. -/
inductive MemoryFault
  | invalidFree
  | invalidRead
  deriving DecidableEq, Repr

/-- The `QUIC_POOL_VERSION_INFO` allocations: the size of each live buffer,
and the first address never handed out. A record of the ownership model holds
the address of its buffer; decode, copy and cleanup allocate, free and read
these buffers, and any allocation may fail. -/
structure Heap where
  size : Nat → Option Nat
  next : Nat

/-- `CXPLAT_ALLOC_NONPAGED` when it succeeds: a fresh buffer of `length`
bytes. -/
def Heap.alloc (heap : Heap) (length : Nat) : Heap × Nat :=
  ({ size := Function.update heap.size heap.next (some length), next := heap.next + 1 }, heap.next)

/-- `CXPLAT_FREE`. -/
def Heap.free (heap : Heap) (address : Nat) : Except MemoryFault Heap :=
  if (heap.size address).isSome then .ok { heap with size := Function.update heap.size address none }
  else .error .invalidFree

/-- `if (VersionInfo) CXPLAT_FREE(VersionInfo)`. -/
def Heap.release (heap : Heap) : Option Nat → Except MemoryFault Heap
  | some address => heap.free address
  | none => .ok heap

/-- Whether `CxPlatCopyMemory` may read `length` bytes from `buffer`. -/
def Heap.readable (heap : Heap) (buffer : Option Nat) (length : Nat) : Bool :=
  match buffer with
  | some address => (heap.size address).any (length ≤ ·)
  | none => length == 0

/-- A record of the ownership layer: `VersionInfo` is an address. -/
abbrev OwnedParameters := QuicTransportParameters Nat

/-- `tp` with its `VersionInfo` replaced by `versionInfo`. -/
def QuicTransportParameters.withVersionInfo {Buffer Buffer' : Type} (tp : QuicTransportParameters Buffer)
    (versionInfo : Option Buffer') : QuicTransportParameters Buffer' :=
  { flags := tp.flags
    idleTimeout := tp.idleTimeout
    initialMaxStreamDataBidiLocal := tp.initialMaxStreamDataBidiLocal
    initialMaxStreamDataBidiRemote := tp.initialMaxStreamDataBidiRemote
    initialMaxStreamDataUni := tp.initialMaxStreamDataUni
    initialMaxData := tp.initialMaxData
    initialMaxBidiStreams := tp.initialMaxBidiStreams
    initialMaxUniStreams := tp.initialMaxUniStreams
    maxUdpPayloadSize := tp.maxUdpPayloadSize
    ackDelayExponent := tp.ackDelayExponent
    maxAckDelay := tp.maxAckDelay
    minAckDelay := tp.minAckDelay
    activeConnectionIdLimit := tp.activeConnectionIdLimit
    maxDatagramFrameSize := tp.maxDatagramFrameSize
    cibirLength := tp.cibirLength
    cibirOffset := tp.cibirOffset
    statelessResetToken := tp.statelessResetToken
    originalDestinationConnectionId := tp.originalDestinationConnectionId
    initialSourceConnectionId := tp.initialSourceConnectionId
    retrySourceConnectionId := tp.retrySourceConnectionId
    versionInfoLength := tp.versionInfoLength
    versionInfo }

/-- `QuicCryptoTlsDecodeTransportParameters` with the heap: the record's
`VersionInfo` is freed, the record decoded, and the version info the decoder
copied (the one allocation, which the duplicate mask lets happen once) given
a fresh buffer. A decode that reads outside `TPBuf` is an invalid read. -/
def quicCryptoTlsDecodeTransportParametersWithHeap (isServerTP allocOk : Bool) (tpBuf : List UInt8)
    (heap : Heap) (tp : OwnedParameters) : Except MemoryFault (Bool × Heap × OwnedParameters) := do
  let heap ← heap.release tp.versionInfo
  let some (result, decoded) := quicCryptoTlsDecodeTransportParameters isServerTP allocOk tpBuf
    | throw .invalidRead
  match decoded.versionInfo with
  | some bytes =>
    let allocation := heap.alloc bytes.length
    pure (result, allocation.1, decoded.withVersionInfo (some allocation.2))
  | none => pure (result, heap, decoded.withVersionInfo none)

/-- `QuicCryptoTlsCopyTransportParameters`: `*Destination = *Source`, so the
destination's old record is overwritten whatever it held; then, under
`VERSION_NEGOTIATION`, a new buffer of `VersionInfoLength` bytes filled from
`Source->VersionInfo`, or `QUIC_STATUS_OUT_OF_MEMORY` with the rest already
copied. -/
def quicCryptoTlsCopyTransportParameters (allocOk : Bool) (heap : Heap) (source : OwnedParameters) :
    Except MemoryFault (QuicStatus × Heap × OwnedParameters) :=
  let destination := source
  if source.flags.versionNegotiation then
    if !allocOk then pure (.outOfMemory, heap, { destination with versionInfo := none })
    else
      let allocation := heap.alloc source.versionInfoLength
      if allocation.1.readable source.versionInfo source.versionInfoLength then
        pure (.success, allocation.1, { destination with
          versionInfo := some allocation.2
          flags := { destination.flags with versionNegotiation := true }
          versionInfoLength := source.versionInfoLength })
      else throw .invalidRead
  else pure (.success, heap, destination)

/-- `QuicCryptoTlsCleanupTransportParameters`. -/
def quicCryptoTlsCleanupTransportParameters (heap : Heap) (tp : OwnedParameters) :
    Except MemoryFault (Heap × OwnedParameters) :=
  if tp.flags.versionNegotiation then do
    let heap ← heap.release tp.versionInfo
    pure (heap, { tp with
      versionInfo := none
      versionInfoLength := 0
      flags := { tp.flags with versionNegotiation := false } })
  else pure (heap, tp)

@[simp] theorem withVersionInfo_flags {Buffer Buffer' : Type} (tp : QuicTransportParameters Buffer)
    (versionInfo : Option Buffer') : (tp.withVersionInfo versionInfo).flags = tp.flags := rfl

@[simp] theorem withVersionInfo_versionInfo {Buffer Buffer' : Type} (tp : QuicTransportParameters Buffer)
    (versionInfo : Option Buffer') : (tp.withVersionInfo versionInfo).versionInfo = versionInfo := rfl

@[simp] theorem withVersionInfo_versionInfoLength {Buffer Buffer' : Type} (tp : QuicTransportParameters Buffer)
    (versionInfo : Option Buffer') : (tp.withVersionInfo versionInfo).versionInfoLength = tp.versionInfoLength :=
  rfl

@[simp] theorem Heap.alloc_next (heap : Heap) (length : Nat) : (heap.alloc length).1.next = heap.next + 1 := rfl

theorem Heap.alloc_size (heap : Heap) (length address : Nat) :
    (heap.alloc length).1.size address = if address = heap.next then some length else heap.size address := by
  simp [Heap.alloc, Function.update_apply]

theorem Heap.release_ok {heap heap' : Heap} {buffer : Option Nat} (released : heap.release buffer = .ok heap') :
    heap'.next = heap.next ∧ ∀ address, heap'.size address =
      if buffer = some address then none else heap.size address := by
  cases buffer with
  | none =>
    cases released
    exact ⟨rfl, fun _ => by simp⟩
  | some freed =>
    simp only [Heap.release, Heap.free] at released
    split at released <;> cases released
    refine ⟨rfl, fun address => ?_⟩
    by_cases same : freed = address
    · subst same
      simp
    · simp [Function.update_noteq (Ne.symm same), same]

/-- Releasing a live buffer, or none, never fails. -/
theorem Heap.release_of_live {heap : Heap} {buffer : Option Nat}
    (live : ∀ address, buffer = some address → (heap.size address).isSome) :
    ∃ heap', heap.release buffer = .ok heap' := by
  cases buffer with
  | none => exact ⟨heap, rfl⟩
  | some address =>
    exact ⟨{ heap with size := Function.update heap.size address none },
      by simp [Heap.release, Heap.free, live address rfl]⟩

/-- What a decode does to the heap and the record: the old buffer released,
the decoder's record kept, and its version info in a fresh buffer. -/
theorem decodeWithHeap_ok {isServerTP allocOk result : Bool} {tpBuf : List UInt8} {heap heap' : Heap}
    {tp tp' : OwnedParameters}
    (decoded : quicCryptoTlsDecodeTransportParametersWithHeap isServerTP allocOk tpBuf heap tp =
      .ok (result, heap', tp')) :
    ∃ released codec, heap.release tp.versionInfo = .ok released ∧
      quicCryptoTlsDecodeTransportParameters isServerTP allocOk tpBuf = some (result, codec) ∧
      (codec.versionInfo = none ∧ heap' = released ∧ tp' = codec.withVersionInfo none ∨
        ∃ bytes, codec.versionInfo = some bytes ∧ heap' = (released.alloc bytes.length).1 ∧
          tp' = codec.withVersionInfo (some released.next)) := by
  unfold quicCryptoTlsDecodeTransportParametersWithHeap at decoded
  cases released : heap.release tp.versionInfo with
  | error fault => rw [released] at decoded; cases decoded
  | ok released' =>
    rw [released] at decoded
    match codec : quicCryptoTlsDecodeTransportParameters isServerTP allocOk tpBuf with
    | none => simp [codec, bind, Except.bind, throw, throwThe, MonadExceptOf.throw] at decoded
    | some (result', record) =>
      simp only [codec, bind, Except.bind] at decoded
      refine ⟨released', record, rfl, ?_, ?_⟩
      · split at decoded <;> cases decoded <;> rfl
      · split at decoded <;> cases decoded
        · exact .inr ⟨_, ‹_›, rfl, rfl⟩
        · exact .inl ⟨‹_›, rfl, rfl⟩

/-- What a copy does: `*Destination = *Source` and no more without
`VERSION_NEGOTIATION`; with it, a NULL `VersionInfo` on a failed allocation,
and otherwise a fresh buffer after a read of the source's. -/
theorem copy_ok {allocOk : Bool} {status : QuicStatus} {heap heap' : Heap} {source tp' : OwnedParameters}
    (copied : quicCryptoTlsCopyTransportParameters allocOk heap source = .ok (status, heap', tp')) :
    source.flags.versionNegotiation = false ∧ status = .success ∧ heap' = heap ∧ tp' = source ∨
      source.flags.versionNegotiation = true ∧ allocOk = false ∧ status = .outOfMemory ∧ heap' = heap ∧
        tp' = { source with versionInfo := none } ∨
      source.flags.versionNegotiation = true ∧ allocOk = true ∧ status = .success ∧
        (heap.alloc source.versionInfoLength).1.readable source.versionInfo source.versionInfoLength = true ∧
        heap' = (heap.alloc source.versionInfoLength).1 ∧
        tp' = { source with
          versionInfo := some heap.next
          flags := { source.flags with versionNegotiation := true }
          versionInfoLength := source.versionInfoLength } := by
  unfold quicCryptoTlsCopyTransportParameters at copied
  dsimp only at copied
  split at copied
  · rename_i flagged
    split at copied
    · rename_i failed
      cases copied
      exact .inr (.inl ⟨flagged, by simpa using failed, rfl, rfl, rfl⟩)
    · rename_i succeeded
      split at copied
      · rename_i readable
        cases copied
        exact .inr (.inr ⟨flagged, by simpa using succeeded, rfl, readable, rfl, rfl⟩)
      · simp [throw, throwThe, MonadExceptOf.throw] at copied
  · rename_i clear
    cases copied
    exact .inl ⟨by simpa using clear, rfl, rfl, rfl⟩

/-- What a cleanup does: nothing without `VERSION_NEGOTIATION`; with it, the
buffer released and the version info cleared. -/
theorem cleanup_ok {heap heap' : Heap} {tp tp' : OwnedParameters}
    (cleaned : quicCryptoTlsCleanupTransportParameters heap tp = .ok (heap', tp')) :
    tp.flags.versionNegotiation = false ∧ heap' = heap ∧ tp' = tp ∨
      tp.flags.versionNegotiation = true ∧ heap.release tp.versionInfo = .ok heap' ∧
        tp' = { tp with
          versionInfo := none
          versionInfoLength := 0
          flags := { tp.flags with versionNegotiation := false } } := by
  unfold quicCryptoTlsCleanupTransportParameters at cleaned
  split at cleaned
  · rename_i flagged
    cases released : heap.release tp.versionInfo with
    | error fault => simp [released, bind, Except.bind] at cleaned
    | ok released' =>
      simp only [released, bind, Except.bind, pure, Except.pure, Except.ok.injEq, Prod.mk.injEq] at cleaned
      obtain ⟨rfl, rfl⟩ := cleaned
      exact .inr ⟨flagged, rfl, rfl⟩
  · rename_i clear
    cases cleaned
    exact .inl ⟨by simpa using clear, rfl, rfl⟩

/-- A decode frees only the record's buffer, so when that one is live it
frees nothing twice. -/
theorem decodeWithHeap_ne_invalidFree {isServerTP allocOk : Bool} {tpBuf : List UInt8} {heap : Heap}
    {tp : OwnedParameters} (live : ∀ address, tp.versionInfo = some address → (heap.size address).isSome) :
    quicCryptoTlsDecodeTransportParametersWithHeap isServerTP allocOk tpBuf heap tp ≠ .error .invalidFree := by
  obtain ⟨released, release⟩ := Heap.release_of_live live
  unfold quicCryptoTlsDecodeTransportParametersWithHeap
  rw [release]
  simp only [bind, Except.bind]
  repeat' split
  all_goals simp [throw, throwThe, MonadExceptOf.throw, pure, Except.pure]

/-- A copy frees nothing. -/
theorem copy_ne_invalidFree {allocOk : Bool} {heap : Heap} {source : OwnedParameters} :
    quicCryptoTlsCopyTransportParameters allocOk heap source ≠ .error .invalidFree := by
  unfold quicCryptoTlsCopyTransportParameters
  dsimp only
  repeat' split
  all_goals simp [throw, throwThe, MonadExceptOf.throw, pure, Except.pure]

/-- A cleanup frees only the record's buffer. -/
theorem cleanup_ne_invalidFree {heap : Heap} {tp : OwnedParameters}
    (live : ∀ address, tp.versionInfo = some address → (heap.size address).isSome) :
    quicCryptoTlsCleanupTransportParameters heap tp ≠ .error .invalidFree := by
  obtain ⟨released, release⟩ := Heap.release_of_live live
  unfold quicCryptoTlsCleanupTransportParameters
  split
  · simp [release, bind, Except.bind, pure, Except.pure]
  · simp [pure, Except.pure]

end CryptoTls
