import CryptoTls.EncodedParameters
import CryptoTls.Reorder

namespace CryptoTls

/-- The record the decoder rebuilds from the encoding of `tp`: the flags and
every flagged value of `tp`, and the decoder's initial value in each field
whose flag is clear. -/
def QuicTransportParameters.decodedForm (tp : TransportParameters) : TransportParameters :=
  { flags := tp.flags
    idleTimeout := if tp.flags.idleTimeout then tp.idleTimeout else 0
    initialMaxStreamDataBidiLocal :=
      if tp.flags.initialMaxStrmDataBidiLocal then tp.initialMaxStreamDataBidiLocal else 0
    initialMaxStreamDataBidiRemote :=
      if tp.flags.initialMaxStrmDataBidiRemote then tp.initialMaxStreamDataBidiRemote else 0
    initialMaxStreamDataUni := if tp.flags.initialMaxStrmDataUni then tp.initialMaxStreamDataUni else 0
    initialMaxData := if tp.flags.initialMaxData then tp.initialMaxData else 0
    initialMaxBidiStreams := if tp.flags.initialMaxStrmsBidi then tp.initialMaxBidiStreams else 0
    initialMaxUniStreams := if tp.flags.initialMaxStrmsUni then tp.initialMaxUniStreams else 0
    maxUdpPayloadSize := if tp.flags.maxUdpPayloadSize then tp.maxUdpPayloadSize else quicTpMaxPacketSizeDefault
    ackDelayExponent :=
      if tp.flags.ackDelayExponent then tp.ackDelayExponent else quicTpAckDelayExponentDefault
    maxAckDelay := if tp.flags.maxAckDelay then tp.maxAckDelay else quicTpMaxAckDelayDefault
    minAckDelay := if tp.flags.minAckDelay then tp.minAckDelay else 0
    activeConnectionIdLimit :=
      if tp.flags.activeConnectionIdLimit then tp.activeConnectionIdLimit else quicTpActiveConnectionIdLimitDefault
    maxDatagramFrameSize := if tp.flags.maxDatagramFrameSize then tp.maxDatagramFrameSize else 0
    cibirLength := if tp.flags.cibirEncoding then tp.cibirLength else 0
    cibirOffset := if tp.flags.cibirEncoding then tp.cibirOffset else 0
    statelessResetToken :=
      if tp.flags.statelessResetToken then tp.statelessResetToken else Mathlib.Vector.replicate 16 0
    originalDestinationConnectionId :=
      if tp.flags.originalDestinationConnectionId then tp.originalDestinationConnectionId else []
    initialSourceConnectionId := if tp.flags.initialSourceConnectionId then tp.initialSourceConnectionId else []
    retrySourceConnectionId := if tp.flags.retrySourceConnectionId then tp.retrySourceConnectionId else []
    versionInfoLength := if tp.flags.versionNegotiation then tp.versionInfoLength else 0
    versionInfo := if tp.flags.versionNegotiation ∧ 0 < tp.versionInfoLength then tp.versionInfo else none }

/-- A record within the documented limits for side `isServerTP`: no
`PREFERRED_ADDRESS`, server-only parameters only on the server's side, and
every flagged value in its range, a varint value below `2 ^ 62`, the version
info holding `VersionInfoLength` bytes. -/
structure QuicTransportParameters.Encodable (isServerTP : Bool) (tp : TransportParameters) : Prop where
  preferredAddress : tp.flags.preferredAddress = false
  serverOnly : isServerTP = false →
    tp.flags.originalDestinationConnectionId = false ∧ tp.flags.statelessResetToken = false ∧
      tp.flags.retrySourceConnectionId = false
  originalDestinationConnectionId : tp.flags.originalDestinationConnectionId = true →
    tp.originalDestinationConnectionId.length ≤ quicMaxConnectionIdLengthV1
  initialSourceConnectionId : tp.flags.initialSourceConnectionId = true →
    tp.initialSourceConnectionId.length ≤ quicMaxConnectionIdLengthV1
  retrySourceConnectionId : tp.flags.retrySourceConnectionId = true →
    tp.retrySourceConnectionId.length ≤ quicMaxConnectionIdLengthV1
  idleTimeout : tp.flags.idleTimeout = true → tp.idleTimeout < 2 ^ 62
  initialMaxData : tp.flags.initialMaxData = true → tp.initialMaxData < 2 ^ 62
  initialMaxStreamDataBidiLocal : tp.flags.initialMaxStrmDataBidiLocal = true →
    tp.initialMaxStreamDataBidiLocal < 2 ^ 62
  initialMaxStreamDataBidiRemote : tp.flags.initialMaxStrmDataBidiRemote = true →
    tp.initialMaxStreamDataBidiRemote < 2 ^ 62
  initialMaxStreamDataUni : tp.flags.initialMaxStrmDataUni = true → tp.initialMaxStreamDataUni < 2 ^ 62
  maxDatagramFrameSize : tp.flags.maxDatagramFrameSize = true → tp.maxDatagramFrameSize < 2 ^ 62
  maxUdpPayloadSize : tp.flags.maxUdpPayloadSize = true →
    quicTpMaxUdpPayloadSizeMin ≤ tp.maxUdpPayloadSize ∧ tp.maxUdpPayloadSize ≤ quicTpMaxUdpPayloadSizeMax
  initialMaxBidiStreams : tp.flags.initialMaxStrmsBidi = true → tp.initialMaxBidiStreams ≤ quicTpMaxStreamsMax
  initialMaxUniStreams : tp.flags.initialMaxStrmsUni = true → tp.initialMaxUniStreams ≤ quicTpMaxStreamsMax
  ackDelayExponent : tp.flags.ackDelayExponent = true → tp.ackDelayExponent ≤ quicTpAckDelayExponentMax
  maxAckDelay : tp.flags.maxAckDelay = true → tp.maxAckDelay ≤ quicTpMaxAckDelayMax
  activeConnectionIdLimit : tp.flags.activeConnectionIdLimit = true →
    quicTpActiveConnectionIdLimitMin ≤ tp.activeConnectionIdLimit ∧ tp.activeConnectionIdLimit < 2 ^ 62
  minAckDelay : tp.flags.minAckDelay = true → tp.minAckDelay ≤ quicTpMinAckDelayMax ∧
    tp.minAckDelay ≤ msToUs (if tp.flags.maxAckDelay then tp.maxAckDelay else quicTpMaxAckDelayDefault)
  cibir : tp.flags.cibirEncoding = true →
    1 ≤ tp.cibirLength ∧ tp.cibirLength + tp.cibirOffset ≤ quicMaxConnectionIdLengthInvariant
  versionInfo : tp.flags.versionNegotiation = true → 0 < tp.versionInfoLength →
    ∃ bytes, tp.versionInfo = some bytes ∧ bytes.length = tp.versionInfoLength

theorem QuicTransportParameters.Encodable.encoderAssertions {isServerTP : Bool} {tp : TransportParameters}
    (valid : tp.Encodable isServerTP) : EncoderAssertions tp none :=
  { preferredAddress := valid.preferredAddress
    originalDestinationConnectionId := valid.originalDestinationConnectionId
    initialSourceConnectionId := valid.initialSourceConnectionId
    retrySourceConnectionId := valid.retrySourceConnectionId
    versionInfo := fun flagged positive =>
      let ⟨bytes, present, exact⟩ := valid.versionInfo flagged positive
      ⟨bytes, present, exact.ge⟩
    testParam := fun _ absent => Option.noConfusion absent }

theorem payloadVarInt?_quicVarIntEncode {value : Nat} (small : value < 2 ^ 62) :
    payloadVarInt? (quicVarIntEncode value) = some value := by
  have read : tryReadVarInt (quicVarIntEncode value) 0 =
      some (some (value, 0 + (quicVarIntEncode value).length)) :=
    quicVarIntDecode_of_encoding (quicVarIntEncode_encoding small) (List.prefix_refl _) (by simp)
  simp [payloadVarInt?, read]

theorem payloadVarInt_quicVarIntEncode {value : Nat} (small : value < 2 ^ 62) :
    payloadVarInt (quicVarIntEncode value) = value := by
  simp [payloadVarInt, payloadVarInt?_quicVarIntEncode small]

theorem cibirValues?_quicVarIntEncode {l o : Nat} (smallL : l < 2 ^ 62) (smallO : o < 2 ^ 62) :
    cibirValues? (quicVarIntEncode l ++ quicVarIntEncode o) = some (l, o) := by
  have first : tryReadVarInt (quicVarIntEncode l ++ quicVarIntEncode o) 0 =
      some (some (l, 0 + (quicVarIntEncode l).length)) :=
    quicVarIntDecode_of_encoding (quicVarIntEncode_encoding smallL) (by simp) (by simp)
  have second : tryReadVarInt (quicVarIntEncode l ++ quicVarIntEncode o) (0 + (quicVarIntEncode l).length) =
      some (some (o, 0 + (quicVarIntEncode l).length + (quicVarIntEncode o).length)) :=
    quicVarIntDecode_of_encoding (quicVarIntEncode_encoding smallO) (by simp) (by simp)
  simp only [cibirValues?, first, second]

/-- Every case accepts the payload the encoder writes under its label. -/
theorem QuicTransportParameters.Encodable.accepts {isServerTP : Bool} {tp : TransportParameters}
    (valid : tp.Encodable isServerTP) {k : QuicTpId} {payload : List UInt8}
    (found : tp.encodedPayload k = some payload) : k.accepts isServerTP payload = true := by
  have server {flag : Bool} (serverOnly : isServerTP = false → flag = false) (flagged : flag = true) :
      isServerTP = true := by
    cases isServerTP
    · exact absurd (flagged.symm.trans (serverOnly rfl)) Bool.noConfusion
    · rfl
  have varInt {value : Nat} (small : value < 2 ^ 62) (inRange : Nat → Bool) (within : inRange value = true) :
      (payloadVarInt? (quicVarIntEncode value)).any inRange = true := by
    rw [payloadVarInt?_quicVarIntEncode small, Option.any_some, within]
  cases k
  case preferredAddress => cases found
  all_goals obtain ⟨flagged, rfl⟩ := whenFlagged_eq_some.1 found
  case originalDestinationConnectionId =>
    simp [QuicTpId.accepts, valid.originalDestinationConnectionId flagged,
      server (fun client => (valid.serverOnly client).1) flagged]
  case retrySourceConnectionId =>
    simp [QuicTpId.accepts, valid.retrySourceConnectionId flagged,
      server (fun client => (valid.serverOnly client).2.2) flagged]
  case statelessResetToken =>
    simp [QuicTpId.accepts, quicStatelessResetTokenLength, server (fun client => (valid.serverOnly client).2.1) flagged]
  case initialSourceConnectionId => simp [QuicTpId.accepts, valid.initialSourceConnectionId flagged]
  case idleTimeout => exact varInt (valid.idleTimeout flagged) _ rfl
  case initialMaxData => exact varInt (valid.initialMaxData flagged) _ rfl
  case initialMaxStreamDataBidiLocal => exact varInt (valid.initialMaxStreamDataBidiLocal flagged) _ rfl
  case initialMaxStreamDataBidiRemote => exact varInt (valid.initialMaxStreamDataBidiRemote flagged) _ rfl
  case initialMaxStreamDataUni => exact varInt (valid.initialMaxStreamDataUni flagged) _ rfl
  case maxDatagramFrameSize => exact varInt (valid.maxDatagramFrameSize flagged) _ rfl
  case maxUdpPayloadSize =>
    have range := valid.maxUdpPayloadSize flagged
    simp only [quicTpMaxUdpPayloadSizeMin, quicTpMaxUdpPayloadSizeMax] at range
    exact varInt (by omega) _ (by simp [quicTpMaxUdpPayloadSizeMin, quicTpMaxUdpPayloadSizeMax]; omega)
  case initialMaxStreamsBidi =>
    have range := valid.initialMaxBidiStreams flagged
    simp only [quicTpMaxStreamsMax] at range
    exact varInt (by omega) _ (by simp [quicTpMaxStreamsMax]; omega)
  case initialMaxStreamsUni =>
    have range := valid.initialMaxUniStreams flagged
    simp only [quicTpMaxStreamsMax] at range
    exact varInt (by omega) _ (by simp [quicTpMaxStreamsMax]; omega)
  case ackDelayExponent =>
    have range := valid.ackDelayExponent flagged
    simp only [quicTpAckDelayExponentMax] at range
    exact varInt (by omega) _ (by simp [quicTpAckDelayExponentMax]; omega)
  case maxAckDelay =>
    have range := valid.maxAckDelay flagged
    simp only [quicTpMaxAckDelayMax] at range
    exact varInt (by omega) _ (by simp [quicTpMaxAckDelayMax]; omega)
  case activeConnectionIdLimit =>
    have range := valid.activeConnectionIdLimit flagged
    simp only [quicTpActiveConnectionIdLimitMin] at range
    exact varInt range.2 _ (by simp [quicTpActiveConnectionIdLimitMin]; omega)
  case minAckDelay =>
    have range := (valid.minAckDelay flagged).1
    simp only [quicTpMinAckDelayMax] at range
    exact varInt (by omega) _ (by simp [quicTpMinAckDelayMax]; omega)
  case enableTimestamp =>
    have range := tp.flags.timestampValue_le
    exact varInt (by omega) _ (by simp [range])
  case cibirEncoding =>
    have range := valid.cibir flagged
    simp only [quicMaxConnectionIdLengthInvariant] at range
    simp only [QuicTpId.accepts, cibirValues?_quicVarIntEncode (show tp.cibirLength < 2 ^ 62 by omega)
      (show tp.cibirOffset < 2 ^ 62 by omega), Option.any_some]
    simp [quicMaxConnectionIdLengthInvariant]
    omega
  all_goals rfl

@[simp] theorem WireParameter.kind_ofPayload (k : QuicTpId) (payload : List UInt8) :
    (WireParameter.ofPayload k.toNat payload).kind = some k :=
  QuicTpId.ofNat?_toNat k

/-- Storing parameters written label by label leaves, for each label of the
order, the payload written under it. -/
theorem storePayloads_filterMap (payload : QuicTpId → Option (List UInt8)) :
    ∀ (order : List QuicTpId) (payloadOf : QuicTpId → Option (List UInt8)) (k : QuicTpId),
      storePayloads payloadOf (order.filterMap fun k => (payload k).map (WireParameter.ofPayload k.toNat)) k =
        if k ∈ order then (payload k).or (payloadOf k) else payloadOf k
  | [], _, _ => rfl
  | k' :: order, payloadOf, k => by
    cases found : payload k' with
    | none =>
      by_cases same : k = k'
      · subst same
        simp [found, storePayloads_filterMap payload order]
      · simp [found, same, storePayloads_filterMap payload order]
    | some p =>
      simp only [List.filterMap_cons, found, Option.map_some', storePayloads, WireParameter.kind_ofPayload,
        storePayloads_filterMap payload order, List.mem_cons]
      by_cases same : k = k'
      · subst same
        simp [found, WireParameter.ofPayload]
      · simp [same, Function.update_noteq same]

theorem storePayloads_encodedParameters (tp : TransportParameters) :
    storePayloads (fun _ => none) tp.encodedParameters = tp.encodedPayload := by
  funext k
  rw [QuicTransportParameters.encodedParameters, storePayloads_filterMap]
  by_cases member : k ∈ encoderOrder
  · simp [member]
  · obtain rfl : k = .preferredAddress := by
      revert member
      cases k <;> decide
    simp [member, QuicTransportParameters.encodedPayload]

theorem varInt_field {flag : Bool} {value : Nat} (small : flag = true → value < 2 ^ 62) (d : Nat) :
    (if flag = true then payloadVarInt (quicVarIntEncode value) else d) = if flag = true then value else d := by
  cases flag
  · rfl
  · simp [payloadVarInt_quicVarIntEncode (small rfl)]

theorem recordOfPayloads_encodedPayload_flags {tp : TransportParameters}
    (noPreferred : tp.flags.preferredAddress = false) :
    (recordOfPayloads true tp.encodedPayload).flags = tp.flags := by
  have stamp := payloadVarInt_quicVarIntEncode (lt_of_le_of_lt tp.flags.timestampValue_le (by decide))
  ext
  all_goals simp only [recordOfPayloads, QuicTransportParameters.encodedPayload, isSome_whenFlagged,
    any_whenFlagged, stamp, noPreferred, Bool.not_true, Bool.and_false, Bool.not_false, Bool.and_true]
  all_goals
    unfold QuicTpFlags.timestampValue
    cases tp.flags.timestampSendEnabled <;> cases tp.flags.timestampRecvEnabled <;> rfl

theorem versionInfo_payload {isServerTP : Bool} {tp : TransportParameters} (valid : tp.Encodable isServerTP)
    (flagged : tp.flags.versionNegotiation = true) :
    ((tp.versionInfo.getD []).take tp.versionInfoLength).length = tp.versionInfoLength ∧
      (0 < tp.versionInfoLength → tp.versionInfo = some ((tp.versionInfo.getD []).take tp.versionInfoLength)) := by
  rcases Nat.eq_zero_or_pos tp.versionInfoLength with zero | positive
  · simp [zero]
  · obtain ⟨bytes, present, exact⟩ := valid.versionInfo flagged positive
    simp [present, ← exact]

/-- The record of the encoded payloads is the decoded form of the record. -/
theorem recordOfPayloads_encodedPayload {isServerTP : Bool} {tp : TransportParameters}
    (valid : tp.Encodable isServerTP) : recordOfPayloads true tp.encodedPayload = tp.decodedForm := by
  have bounded {flag : Bool} {value bound : Nat} (within : flag = true → value ≤ bound) (fits : bound < 2 ^ 62) :
      flag = true → value < 2 ^ 62 := fun flagged => (within flagged).trans_lt fits
  apply QuicTransportParameters.ext
  case flags => exact recordOfPayloads_encodedPayload_flags valid.preferredAddress
  all_goals simp only [recordOfPayloads, QuicTransportParameters.decodedForm, QuicTransportParameters.encodedPayload,
    getD_map_whenFlagged, getD_whenFlagged, varInt_field valid.idleTimeout,
    varInt_field valid.initialMaxData, varInt_field valid.initialMaxStreamDataBidiLocal,
    varInt_field valid.initialMaxStreamDataBidiRemote, varInt_field valid.initialMaxStreamDataUni,
    varInt_field valid.maxDatagramFrameSize,
    varInt_field (bounded (fun flagged => (valid.maxUdpPayloadSize flagged).2) (by decide)),
    varInt_field (bounded valid.initialMaxBidiStreams (by decide)),
    varInt_field (bounded valid.initialMaxUniStreams (by decide)),
    varInt_field (bounded valid.ackDelayExponent (by decide)),
    varInt_field (bounded valid.maxAckDelay (by decide)),
    varInt_field (bounded (fun flagged => (valid.minAckDelay flagged).1) (by decide)),
    varInt_field fun flagged => (valid.activeConnectionIdLimit flagged).2]
  case cibirLength | cibirOffset =>
    cases flagged : tp.flags.cibirEncoding
    · rfl
    · have within := valid.cibir flagged
      simp only [quicMaxConnectionIdLengthInvariant] at within
      simp [cibirValues?_quicVarIntEncode (show tp.cibirLength < 2 ^ 62 by omega)
        (show tp.cibirOffset < 2 ^ 62 by omega)]
  case statelessResetToken =>
    cases flagged : tp.flags.statelessResetToken
    · rfl
    · simp [quicStatelessResetTokenLength]
  case versionInfoLength =>
    cases flagged : tp.flags.versionNegotiation
    · rfl
    · simp [(versionInfo_payload valid flagged).1]
  case versionInfo =>
    cases flagged : tp.flags.versionNegotiation
    · rfl
    · obtain ⟨length, present⟩ := versionInfo_payload valid flagged
      by_cases positive : 0 < tp.versionInfoLength
      · simp only [whenFlagged_true, Option.some_bind, length, positive, and_true, if_true]
        exact (present positive).symm
      · simp [positive, length]

theorem minAckDelayAccepted_decodedForm {isServerTP : Bool} {tp : TransportParameters}
    (valid : tp.Encodable isServerTP) : minAckDelayAccepted tp.decodedForm = true := by
  cases flagged : tp.flags.minAckDelay
  · simp [minAckDelayAccepted, QuicTransportParameters.decodedForm, flagged]
  · have within := (valid.minAckDelay flagged).2
    simp only [minAckDelayAccepted, QuicTransportParameters.decodedForm, flagged, if_true, Bool.true_and,
      Bool.not_eq_true', decide_eq_false_iff_not, gt_iff_lt, Nat.not_lt]
    split at within <;> simp_all [quicTpMaxAckDelayDefault]

theorem quicCryptoTlsDecodeTransportParameters_encodedParameters {isServerTP : Bool} {tp : TransportParameters}
    (valid : tp.Encodable isServerTP) (fits : requiredTPLen tp none ≤ 0xFFFF) :
    quicCryptoTlsDecodeTransportParameters isServerTP true (tp.encodedParameters.flatMap WireParameter.bytes) =
      some (true, tp.decodedForm) := by
  have total := (quicCryptoTlsEncodeTransportParameters_encodedParameters valid.encoderAssertions fits 0).2
  have accepted : tp.encodedParameters.all (·.accepted isServerTP) = true := by
    refine List.all_eq_true.2 fun p member => ?_
    obtain ⟨k, -, written⟩ := List.mem_filterMap.1 member
    obtain ⟨payload, found, rfl⟩ := Option.map_eq_some'.1 written
    simpa [WireParameter.accepted] using valid.accepts found
  rw [quicCryptoTlsDecodeTransportParameters_of_framed (framed_encodedParameters tp (by omega)) (by omega),
    ← recordOfPayloads_none true,
    (@runParameters_distinct isServerTP true _ 0 (fun _ => none) (nodup_encodedParameters tp) (by simp)
      (by simp)).2 accepted,
    storePayloads_encodedParameters, recordOfPayloads_encodedPayload valid, minAckDelayAccepted_decodedForm valid]

/-- Decoding what the encoder writes for a record within the documented limits
gives back its flags and every flagged value: the encoder returns a buffer, and
the decoder returns `TRUE` on it with the record's decoded form. -/
theorem quicCryptoTlsDecodeTransportParameters_encode {isServerTP : Bool} {tp : TransportParameters}
    (valid : tp.Encodable isServerTP) (fits : requiredTPLen tp none ≤ 0xFFFF) (headerSize : Nat) :
    ∃ tpBuf, quicCryptoTlsEncodeTransportParameters headerSize true tp none =
        some (.buffer (headerSize + tpBuf.length) tpBuf) ∧
      quicCryptoTlsDecodeTransportParameters isServerTP true tpBuf = some (true, tp.decodedForm) := by
  obtain ⟨encoded, total⟩ :=
    quicCryptoTlsEncodeTransportParameters_encodedParameters valid.encoderAssertions fits headerSize
  exact ⟨_, by rw [total]; exact encoded, quicCryptoTlsDecodeTransportParameters_encodedParameters valid fits⟩

theorem versionInfo_round_trip :
    ∃ tpBuf, quicCryptoTlsEncodeTransportParameters 0 true
        { (QuicTransportParameters.initial : TransportParameters) with
          idleTimeout := 30000
          initialSourceConnectionId := [0xca, 0xfe, 0xba, 0xbe]
          activeConnectionIdLimit := 4
          versionInfoLength := 4
          versionInfo := some [0x00, 0x00, 0x00, 0x01]
          flags := { idleTimeout := true, initialSourceConnectionId := true, activeConnectionIdLimit := true,
                     versionNegotiation := true } } none =
        some (.buffer (0 + tpBuf.length) tpBuf) ∧
      quicCryptoTlsDecodeTransportParameters false true tpBuf =
        some (true, QuicTransportParameters.decodedForm
          ({ (QuicTransportParameters.initial : TransportParameters) with
              idleTimeout := 30000
              initialSourceConnectionId := [0xca, 0xfe, 0xba, 0xbe]
              activeConnectionIdLimit := 4
              versionInfoLength := 4
              versionInfo := some [0x00, 0x00, 0x00, 0x01]
              flags := { idleTimeout := true, initialSourceConnectionId := true, activeConnectionIdLimit := true,
                         versionNegotiation := true } } : TransportParameters)) :=
  quicCryptoTlsDecodeTransportParameters_encode
    (by constructor <;> simp [quicMaxConnectionIdLengthV1, quicTpActiveConnectionIdLimitMin]) (by decide) 0

/-- The zeroed record is within every limit and fits, yet it does not come
back: the encoder writes no parameter for it, and the decoder fills the empty
buffer with its defaults. -/
theorem zeroed_record_round_trip :
    ({} : TransportParameters).Encodable false ∧ requiredTPLen {} none ≤ 0xFFFF ∧
      quicCryptoTlsEncodeTransportParameters 0 true {} none = some (.buffer 0 []) ∧
      quicCryptoTlsDecodeTransportParameters false true [] = some (true, .initial) ∧
      (QuicTransportParameters.initial : TransportParameters) ≠ {} :=
  ⟨by constructor <;> simp, by decide, rfl, rfl, by decide⟩

/-- The encoder only returns a buffer when `RequiredTPLen` fits the 16-bit
extension length: the `RequiredTPLen > 0xFFFF` check comes first. -/
theorem requiredTPLen_le_of_buffer {headerSize : Nat} {allocOk : Bool} {tp : TransportParameters}
    {testParam : Option QuicPrivateTransportParameter} {total : Nat} {bytes : List UInt8}
    (encoded : quicCryptoTlsEncodeTransportParameters headerSize allocOk tp testParam = some (.buffer total bytes)) :
    requiredTPLen tp testParam ≤ 0xFFFF := by
  unfold quicCryptoTlsEncodeTransportParameters at encoded
  by_cases aborts : encodeAborts tp
  · rw [if_pos aborts] at encoded
    cases encoded
  rw [if_neg aborts] at encoded
  refine Nat.le_of_not_lt fun over => ?_
  dsimp only at encoded
  rw [if_pos (show (encodePass1 tp testParam).sum > 65535 from over)] at encoded
  cases encoded

/-- A bound on a flagged value holds of what the decoded form keeps of it. -/
theorem flagged_bound {α : Type} (P : α → Prop) {flag : Bool} {a b : α} (bound : flag = true → P a) :
    flag = true → P (if flag = true then a else b) := fun flagged => by rw [if_pos flagged]; exact bound flagged

/-- The decoded form of a record within the documented limits is within them:
it changes only unflagged fields. -/
theorem QuicTransportParameters.Encodable.decodedForm {isServerTP : Bool} {tp : TransportParameters}
    (valid : tp.Encodable isServerTP) : tp.decodedForm.Encodable isServerTP where
  preferredAddress := valid.preferredAddress
  serverOnly := valid.serverOnly
  originalDestinationConnectionId := flagged_bound (fun cid : List UInt8 => cid.length ≤ quicMaxConnectionIdLengthV1)
    valid.originalDestinationConnectionId
  initialSourceConnectionId := flagged_bound (fun cid : List UInt8 => cid.length ≤ quicMaxConnectionIdLengthV1)
    valid.initialSourceConnectionId
  retrySourceConnectionId := flagged_bound (fun cid : List UInt8 => cid.length ≤ quicMaxConnectionIdLengthV1)
    valid.retrySourceConnectionId
  idleTimeout := flagged_bound (· < 2 ^ 62) valid.idleTimeout
  initialMaxData := flagged_bound (· < 2 ^ 62) valid.initialMaxData
  initialMaxStreamDataBidiLocal := flagged_bound (· < 2 ^ 62) valid.initialMaxStreamDataBidiLocal
  initialMaxStreamDataBidiRemote := flagged_bound (· < 2 ^ 62) valid.initialMaxStreamDataBidiRemote
  initialMaxStreamDataUni := flagged_bound (· < 2 ^ 62) valid.initialMaxStreamDataUni
  maxDatagramFrameSize := flagged_bound (· < 2 ^ 62) valid.maxDatagramFrameSize
  maxUdpPayloadSize :=
    flagged_bound (fun v => quicTpMaxUdpPayloadSizeMin ≤ v ∧ v ≤ quicTpMaxUdpPayloadSizeMax) valid.maxUdpPayloadSize
  initialMaxBidiStreams := flagged_bound (· ≤ quicTpMaxStreamsMax) valid.initialMaxBidiStreams
  initialMaxUniStreams := flagged_bound (· ≤ quicTpMaxStreamsMax) valid.initialMaxUniStreams
  ackDelayExponent := flagged_bound (· ≤ quicTpAckDelayExponentMax) valid.ackDelayExponent
  maxAckDelay := flagged_bound (· ≤ quicTpMaxAckDelayMax) valid.maxAckDelay
  activeConnectionIdLimit :=
    flagged_bound (fun v => quicTpActiveConnectionIdLimitMin ≤ v ∧ v < 2 ^ 62) valid.activeConnectionIdLimit
  minAckDelay flagged := by
    dsimp only [QuicTransportParameters.decodedForm] at flagged ⊢
    rw [if_pos flagged]
    by_cases maxAck : tp.flags.maxAckDelay = true <;> simpa [maxAck] using valid.minAckDelay flagged
  cibir flagged := by
    dsimp only [QuicTransportParameters.decodedForm] at flagged ⊢
    rw [if_pos flagged, if_pos flagged]
    exact valid.cibir flagged
  versionInfo flagged positive := by
    dsimp only [QuicTransportParameters.decodedForm] at flagged positive ⊢
    rw [if_pos flagged] at positive ⊢
    rw [if_pos ⟨flagged, positive⟩]
    exact valid.versionInfo flagged positive

/-- The record of a client that sends `initial_max_data = 1000` and leaves
every other parameter out. -/
def sampleClientParameters : TransportParameters :=
  { QuicTransportParameters.initial with flags := { initialMaxData := true }, initialMaxData := 1000 }

end CryptoTls
