import CryptoTls.Framing
import CryptoTls.Passes

namespace CryptoTls

/-- The order in which pass 2 writes the parameters: the decoder's case labels
without `preferred_address`, which the encoder asserts away. -/
def encoderOrder : List QuicTpId :=
  [.originalDestinationConnectionId, .idleTimeout, .statelessResetToken, .maxUdpPayloadSize,
    .initialMaxData, .initialMaxStreamDataBidiLocal, .initialMaxStreamDataBidiRemote,
    .initialMaxStreamDataUni, .initialMaxStreamsBidi, .initialMaxStreamsUni, .ackDelayExponent,
    .maxAckDelay, .disableActiveMigration, .activeConnectionIdLimit, .initialSourceConnectionId,
    .retrySourceConnectionId, .maxDatagramFrameSize, .disable1rttEncryption, .versionNegotiationExt,
    .minAckDelay, .cibirEncoding, .greaseQuicBit, .reliableResetEnabled, .enableTimestamp]

/-- `payload` when `flag` is set. -/
def whenFlagged (flag : Bool) (payload : List UInt8) : Option (List UInt8) :=
  if flag then some payload else none

/-- The payload pass 2 writes under case label `k`, `none` when it writes no
parameter there. -/
def QuicTransportParameters.encodedPayload (tp : TransportParameters) : QuicTpId → Option (List UInt8)
  | .originalDestinationConnectionId =>
    whenFlagged tp.flags.originalDestinationConnectionId tp.originalDestinationConnectionId
  | .idleTimeout => whenFlagged tp.flags.idleTimeout (quicVarIntEncode tp.idleTimeout)
  | .statelessResetToken => whenFlagged tp.flags.statelessResetToken tp.statelessResetToken.toList
  | .maxUdpPayloadSize => whenFlagged tp.flags.maxUdpPayloadSize (quicVarIntEncode tp.maxUdpPayloadSize)
  | .initialMaxData => whenFlagged tp.flags.initialMaxData (quicVarIntEncode tp.initialMaxData)
  | .initialMaxStreamDataBidiLocal =>
    whenFlagged tp.flags.initialMaxStrmDataBidiLocal (quicVarIntEncode tp.initialMaxStreamDataBidiLocal)
  | .initialMaxStreamDataBidiRemote =>
    whenFlagged tp.flags.initialMaxStrmDataBidiRemote (quicVarIntEncode tp.initialMaxStreamDataBidiRemote)
  | .initialMaxStreamDataUni =>
    whenFlagged tp.flags.initialMaxStrmDataUni (quicVarIntEncode tp.initialMaxStreamDataUni)
  | .initialMaxStreamsBidi => whenFlagged tp.flags.initialMaxStrmsBidi (quicVarIntEncode tp.initialMaxBidiStreams)
  | .initialMaxStreamsUni => whenFlagged tp.flags.initialMaxStrmsUni (quicVarIntEncode tp.initialMaxUniStreams)
  | .ackDelayExponent => whenFlagged tp.flags.ackDelayExponent (quicVarIntEncode tp.ackDelayExponent)
  | .maxAckDelay => whenFlagged tp.flags.maxAckDelay (quicVarIntEncode tp.maxAckDelay)
  | .disableActiveMigration => whenFlagged tp.flags.disableActiveMigration []
  | .preferredAddress => none
  | .activeConnectionIdLimit =>
    whenFlagged tp.flags.activeConnectionIdLimit (quicVarIntEncode tp.activeConnectionIdLimit)
  | .initialSourceConnectionId => whenFlagged tp.flags.initialSourceConnectionId tp.initialSourceConnectionId
  | .retrySourceConnectionId => whenFlagged tp.flags.retrySourceConnectionId tp.retrySourceConnectionId
  | .maxDatagramFrameSize =>
    whenFlagged tp.flags.maxDatagramFrameSize (quicVarIntEncode tp.maxDatagramFrameSize)
  | .disable1rttEncryption => whenFlagged tp.flags.disable1rttEncryption []
  | .versionNegotiationExt =>
    whenFlagged tp.flags.versionNegotiation ((tp.versionInfo.getD []).take tp.versionInfoLength)
  | .minAckDelay => whenFlagged tp.flags.minAckDelay (quicVarIntEncode tp.minAckDelay)
  | .cibirEncoding =>
    whenFlagged tp.flags.cibirEncoding (quicVarIntEncode tp.cibirLength ++ quicVarIntEncode tp.cibirOffset)
  | .greaseQuicBit => whenFlagged tp.flags.greaseQuicBit []
  | .reliableResetEnabled => whenFlagged tp.flags.reliableResetEnabled []
  | .enableTimestamp =>
    whenFlagged (tp.flags.timestampSendEnabled || tp.flags.timestampRecvEnabled)
      (quicVarIntEncode tp.flags.timestampValue)

/-- A parameter as `TlsWriteTransportParam` lays it out: the smallest forms of
its identifier and of its payload's length, then the payload. -/
def WireParameter.ofPayload (id : Nat) (payload : List UInt8) : WireParameter :=
  ⟨quicVarIntEncode id, id, quicVarIntEncode payload.length, payload⟩

/-- The bytes pass 2 writes under case label `k`. -/
def QuicTransportParameters.wireBytes (tp : TransportParameters) (k : QuicTpId) : List UInt8 :=
  ((tp.encodedPayload k).map (WireParameter.ofPayload k.toNat)).elim [] WireParameter.bytes

/-- The parameters the encoder writes for `tp`, in its order. -/
def QuicTransportParameters.encodedParameters (tp : TransportParameters) : List WireParameter :=
  encoderOrder.filterMap fun k => (tp.encodedPayload k).map (WireParameter.ofPayload k.toNat)

@[simp] theorem whenFlagged_false (payload : List UInt8) : whenFlagged false payload = none := rfl

@[simp] theorem whenFlagged_true (payload : List UInt8) : whenFlagged true payload = some payload := rfl

@[simp] theorem isSome_whenFlagged (flag : Bool) (payload : List UInt8) :
    (whenFlagged flag payload).isSome = flag := by
  cases flag <;> rfl

@[simp] theorem any_whenFlagged (flag : Bool) (payload : List UInt8) (p : List UInt8 → Bool) :
    (whenFlagged flag payload).any p = (flag && p payload) := by
  cases flag <;> rfl

@[simp] theorem getD_whenFlagged (flag : Bool) (payload : List UInt8) :
    (whenFlagged flag payload).getD [] = if flag then payload else [] := by
  cases flag <;> rfl

@[simp] theorem getD_map_whenFlagged {α : Type} (flag : Bool) (payload : List UInt8) (read : List UInt8 → α)
    (d : α) : ((whenFlagged flag payload).map read).getD d = if flag then read payload else d := by
  cases flag <;> rfl

theorem whenFlagged_eq_some {flag : Bool} {payload found : List UInt8} :
    whenFlagged flag payload = some found ↔ flag = true ∧ payload = found := by
  cases flag <;> simp

theorem QuicTpId.toNat_lt (k : QuicTpId) : k.toNat < 2 ^ 62 := by
  cases k <;> decide

theorem tlsWriteTransportParamVarInt_eq (id value : Nat) :
    tlsWriteTransportParamVarInt id value = (WireParameter.ofPayload id (quicVarIntEncode value)).bytes := by
  simp [tlsWriteTransportParamVarInt, WireParameter.ofPayload, WireParameter.bytes]

theorem tlsWriteTransportParam_take {id length : Nat} {bytes : List UInt8} (fits : length ≤ bytes.length) :
    tlsWriteTransportParam id length (some bytes) =
      some (WireParameter.ofPayload id (bytes.take length)).bytes := by
  simp [tlsWriteTransportParam, readBytes_of_le (show 0 + length ≤ bytes.length by omega),
    WireParameter.ofPayload, WireParameter.bytes, fits]

theorem flaggedWrite_whenFlagged {flag : Bool} {written : Option (List UInt8)} {id : Nat}
    {payload : List UInt8} (writes : flag = true → written = some (WireParameter.ofPayload id payload).bytes) :
    flaggedWrite flag written =
      some (((whenFlagged flag payload).map (WireParameter.ofPayload id)).elim [] WireParameter.bytes) := by
  cases flag
  · rfl
  · exact writes rfl

theorem mapM_map_some : ∀ pieces : List (List UInt8), (pieces.map some).mapM id = some pieces
  | [] => rfl
  | piece :: pieces => by rw [List.map_cons, List.mapM_cons, mapM_map_some pieces]; rfl

/-- Pass 2 without a test parameter writes, label by label in its order, the
wire parameters of the flagged payloads. -/
theorem encodePass2_eq {tp : TransportParameters} (asserts : EncoderAssertions tp none)
    (short : tp.flags.versionNegotiation = true → tp.versionInfoLength < 2 ^ 16) :
    encodePass2 tp none = (encoderOrder.map fun k => some (tp.wireBytes k)) ++ [some []] := by
  have varInt (id value : Nat) := congrArg some (tlsWriteTransportParamVarInt_eq id value)
  have connectionId (id : Nat) (cid : List UInt8) :
      tlsWriteTransportParam id cid.length (some cid) = some (WireParameter.ofPayload id cid).bytes := by
    rw [tlsWriteTransportParam_take le_rfl, List.take_length]
  simp only [encodePass2, encoderOrder, List.map_cons, List.map_nil, List.cons_append, List.nil_append,
    List.cons.injEq, QuicTransportParameters.wireBytes, QuicTransportParameters.encodedPayload]
  refine ⟨flaggedWrite_whenFlagged fun _ => connectionId _ _, flaggedWrite_whenFlagged fun _ => varInt _ _,
    flaggedWrite_whenFlagged fun _ => ?token, flaggedWrite_whenFlagged fun _ => varInt _ _,
    flaggedWrite_whenFlagged fun _ => varInt _ _, flaggedWrite_whenFlagged fun _ => varInt _ _,
    flaggedWrite_whenFlagged fun _ => varInt _ _, flaggedWrite_whenFlagged fun _ => varInt _ _,
    flaggedWrite_whenFlagged fun _ => varInt _ _, flaggedWrite_whenFlagged fun _ => varInt _ _,
    flaggedWrite_whenFlagged fun _ => varInt _ _, flaggedWrite_whenFlagged fun _ => varInt _ _,
    flaggedWrite_whenFlagged fun _ => rfl, flaggedWrite_whenFlagged fun _ => varInt _ _,
    flaggedWrite_whenFlagged fun _ => connectionId _ _, flaggedWrite_whenFlagged fun _ => connectionId _ _,
    flaggedWrite_whenFlagged fun _ => varInt _ _, flaggedWrite_whenFlagged fun _ => rfl,
    flaggedWrite_whenFlagged fun flagged => ?versionInfo, flaggedWrite_whenFlagged fun _ => varInt _ _,
    flaggedWrite_whenFlagged fun _ => ?cibir, flaggedWrite_whenFlagged fun _ => rfl,
    flaggedWrite_whenFlagged fun _ => rfl, flaggedWrite_whenFlagged fun _ => varInt _ _, trivial⟩
  case token =>
    rw [show quicStatelessResetTokenLength = tp.statelessResetToken.toList.length by
      simp [quicStatelessResetTokenLength]]
    exact connectionId _ _
  case versionInfo =>
    rw [Nat.mod_eq_of_lt (short flagged)]
    cases info : tp.versionInfo with
    | none =>
      have zero : tp.versionInfoLength = 0 := by
        by_contra nonzero
        obtain ⟨_, present, _⟩ := asserts.versionInfo flagged (Nat.pos_of_ne_zero nonzero)
        rw [info] at present
        cases present
      rw [zero]
      rfl
    | some bytes =>
      refine tlsWriteTransportParam_take ?_
      rcases Nat.eq_zero_or_pos tp.versionInfoLength with zero | positive
      · omega
      · obtain ⟨_, present, fits⟩ := asserts.versionInfo flagged positive
        rw [info, Option.some.injEq] at present
        exact present ▸ fits
  case cibir =>
    have sizes : quicVarIntSize tp.cibirLength + quicVarIntSize tp.cibirOffset < 256 := by
      have := quicVarIntSize_le tp.cibirLength
      have := quicVarIntSize_le tp.cibirOffset
      omega
    simp [WireParameter.ofPayload, WireParameter.bytes, Nat.mod_eq_of_lt sizes]

/-- Flattened label by label, the written bytes are the encoded parameters. -/
theorem flatten_wireBytes (tp : TransportParameters) :
    ∀ order : List QuicTpId, (order.map tp.wireBytes).flatten =
      (order.filterMap fun k => (tp.encodedPayload k).map (WireParameter.ofPayload k.toNat)).flatMap
        WireParameter.bytes
  | [] => rfl
  | k :: order => by
    cases found : tp.encodedPayload k <;>
      simp [QuicTransportParameters.wireBytes, found, flatten_wireBytes tp order]

theorem versionInfoLength_lt_of_fits {tp : TransportParameters} (fits : requiredTPLen tp none ≤ 0xFFFF)
    (flagged : tp.flags.versionNegotiation = true) : tp.versionInfoLength < 2 ^ 16 := by
  have counted : flaggedLength tp.flags.versionNegotiation
      (tlsTransportParamLength QuicTpId.versionNegotiationExt.toNat tp.versionInfoLength) ∈
      encodePass1 tp none := by
    simp [encodePass1]
  have bound := (List.le_sum_of_mem counted).trans fits
  simp only [flaggedLength, flagged, if_true, tlsTransportParamLength] at bound
  omega

/-- With a `RequiredTPLen` within 16 bits, the encoder, under its own
assertions and with no test parameter, returns the bytes of the encoded
parameters. -/
theorem quicCryptoTlsEncodeTransportParameters_encodedParameters {tp : TransportParameters}
    (asserts : EncoderAssertions tp none) (fits : requiredTPLen tp none ≤ 0xFFFF) (headerSize : Nat) :
    quicCryptoTlsEncodeTransportParameters headerSize true tp none =
        some (.buffer (headerSize + requiredTPLen tp none) (tp.encodedParameters.flatMap WireParameter.bytes)) ∧
      (tp.encodedParameters.flatMap WireParameter.bytes).length = requiredTPLen tp none := by
  have written : (encodePass2 tp none).mapM id = some (encoderOrder.map tp.wireBytes ++ [[]]) := by
    rw [encodePass2_eq asserts (versionInfoLength_lt_of_fits fits), ← mapM_map_some, List.map_append,
      List.map_map]
    rfl
  have bytes : (encoderOrder.map tp.wireBytes ++ [[]]).flatten = tp.encodedParameters.flatMap WireParameter.bytes := by
    rw [List.flatten_append, flatten_wireBytes, List.flatten_singleton, List.append_nil]
    rfl
  rw [← bytes]
  exact quicCryptoTlsEncodeTransportParameters_of_written asserts fits written headerSize

theorem length_bytes_le_flatMap {ps : List WireParameter} {p : WireParameter} (member : p ∈ ps) :
    p.bytes.length ≤ (ps.flatMap WireParameter.bytes).length := by
  rw [List.length_flatMap]
  exact List.le_sum_of_mem (List.mem_map_of_mem _ member)

theorem nodup_encodedParameters (tp : TransportParameters) :
    (tp.encodedParameters.map WireParameter.id).Nodup := by
  rw [QuicTransportParameters.encodedParameters, List.map_filterMap]
  refine List.Nodup.filterMap (fun a a' b found found' => ?_) (by decide)
  simp only [Option.map_map, Option.mem_def, Option.map_eq_some', Function.comp_apply,
    WireParameter.ofPayload] at found found'
  obtain ⟨_, _, rfl⟩ := found
  obtain ⟨_, _, same⟩ := found'
  exact QuicTpId.toNat_injective same.symm

/-- The encoded bytes split into the encoded parameters. -/
theorem framed_encodedParameters (tp : TransportParameters)
    (short : (tp.encodedParameters.flatMap WireParameter.bytes).length < 2 ^ 62) :
    Framed (tp.encodedParameters.flatMap WireParameter.bytes) tp.encodedParameters := by
  refine ⟨fun p member => ?_, rfl⟩
  have bound := length_bytes_le_flatMap member
  obtain ⟨k, -, written⟩ := List.mem_filterMap.1 member
  obtain ⟨payload, -, rfl⟩ := Option.map_eq_some'.1 written
  simp only [WireParameter.bytes, WireParameter.ofPayload, List.length_append] at bound
  exact ⟨quicVarIntEncode_encoding k.toNat_lt, quicVarIntEncode_encoding (by omega)⟩

end CryptoTls
