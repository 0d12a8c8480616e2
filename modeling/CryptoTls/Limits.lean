import CryptoTls.Reject

namespace CryptoTls

/-- The documented limits of a record decoded for side `isServerTP`: the range
of each value, the flags a side may not carry, and the defaults an absent
parameter leaves. -/
structure QuicTransportParameters.WithinLimits (isServerTP : Bool) (tp : TransportParameters) : Prop where
  originalDestinationConnectionId : tp.originalDestinationConnectionId.length ≤ quicMaxConnectionIdLengthV1
  initialSourceConnectionId : tp.initialSourceConnectionId.length ≤ quicMaxConnectionIdLengthV1
  retrySourceConnectionId : tp.retrySourceConnectionId.length ≤ quicMaxConnectionIdLengthV1
  maxUdpPayloadSize :
    quicTpMaxUdpPayloadSizeMin ≤ tp.maxUdpPayloadSize ∧ tp.maxUdpPayloadSize ≤ quicTpMaxUdpPayloadSizeMax
  initialMaxBidiStreams : tp.initialMaxBidiStreams ≤ quicTpMaxStreamsMax
  initialMaxUniStreams : tp.initialMaxUniStreams ≤ quicTpMaxStreamsMax
  ackDelayExponent : tp.ackDelayExponent ≤ quicTpAckDelayExponentMax
  maxAckDelay : tp.maxAckDelay ≤ quicTpMaxAckDelayMax
  activeConnectionIdLimit : quicTpActiveConnectionIdLimitMin ≤ tp.activeConnectionIdLimit
  minAckDelay : tp.minAckDelay ≤ quicTpMinAckDelayMax
  cibir : tp.flags.cibirEncoding = true →
    1 ≤ tp.cibirLength ∧ tp.cibirLength ≤ quicMaxConnectionIdLengthInvariant ∧
      tp.cibirOffset ≤ quicMaxConnectionIdLengthInvariant ∧
      tp.cibirLength + tp.cibirOffset ≤ quicMaxConnectionIdLengthInvariant
  preferredAddress : tp.flags.preferredAddress = false
  serverOnly : isServerTP = false →
    tp.flags.originalDestinationConnectionId = false ∧ tp.flags.statelessResetToken = false ∧
      tp.flags.retrySourceConnectionId = false
  maxUdpPayloadSizeDefault : tp.flags.maxUdpPayloadSize = false → tp.maxUdpPayloadSize = quicTpMaxPacketSizeDefault
  ackDelayExponentDefault : tp.flags.ackDelayExponent = false → tp.ackDelayExponent = quicTpAckDelayExponentDefault
  maxAckDelayDefault : tp.flags.maxAckDelay = false → tp.maxAckDelay = quicTpMaxAckDelayDefault
  activeConnectionIdLimitDefault :
    tp.flags.activeConnectionIdLimit = false → tp.activeConnectionIdLimit = quicTpActiveConnectionIdLimitDefault
  minAckDelayDefault : tp.flags.minAckDelay = false → tp.minAckDelay = 0

theorem QuicTransportParameters.initial_withinLimits (isServerTP : Bool) :
    QuicTransportParameters.initial.WithinLimits isServerTP := by
  cases isServerTP <;> constructor <;> decide

theorem payloadVarInt_of_any {payload : List UInt8} {inRange : Nat → Bool}
    (accepted : (payloadVarInt? payload).any inRange = true) : inRange (payloadVarInt payload) = true := by
  unfold payloadVarInt
  cases found : payloadVarInt? payload <;> simp_all

theorem cibirValues_of_any {payload : List UInt8} {inRange : Nat × Nat → Bool}
    (accepted : (cibirValues? payload).any inRange = true) :
    inRange (((cibirValues? payload).map Prod.fst).getD 0, ((cibirValues? payload).map Prod.snd).getD 0) = true := by
  cases found : cibirValues? payload <;> simp_all

/-- Each accepted case keeps the limits: it writes only values its checks
passed, and sets the flag of each value it writes. -/
theorem QuicTransportParameters.WithinLimits.apply {isServerTP allocOk : Bool} {payload : List UInt8}
    {tp : TransportParameters} {k : QuicTpId} (within : tp.WithinLimits isServerTP)
    (accepted : k.accepts isServerTP payload = true) : (k.apply allocOk payload tp).WithinLimits isServerTP := by
  cases k
  case originalDestinationConnectionId =>
    simp only [QuicTpId.accepts, Bool.and_eq_true, decide_eq_true_eq] at accepted
    exact { within with
      originalDestinationConnectionId := accepted.1
      serverOnly := fun client => absurd (accepted.2.symm.trans client) Bool.noConfusion }
  case retrySourceConnectionId =>
    simp only [QuicTpId.accepts, Bool.and_eq_true, decide_eq_true_eq] at accepted
    exact { within with
      retrySourceConnectionId := accepted.1
      serverOnly := fun client => absurd (accepted.2.symm.trans client) Bool.noConfusion }
  case statelessResetToken =>
    simp only [QuicTpId.accepts, Bool.and_eq_true, decide_eq_true_eq] at accepted
    exact { within with serverOnly := fun client => absurd (accepted.2.symm.trans client) Bool.noConfusion }
  case initialSourceConnectionId =>
    exact { within with initialSourceConnectionId := of_decide_eq_true accepted }
  case maxUdpPayloadSize =>
    have range := payloadVarInt_of_any accepted
    simp only [Bool.and_eq_true, Bool.not_eq_true', decide_eq_false_iff_not, not_lt] at range
    exact { within with maxUdpPayloadSize := range, maxUdpPayloadSizeDefault := Bool.noConfusion }
  case initialMaxStreamsBidi =>
    have range := payloadVarInt_of_any accepted
    simp only [Bool.not_eq_true', decide_eq_false_iff_not, not_lt] at range
    exact { within with initialMaxBidiStreams := range }
  case initialMaxStreamsUni =>
    have range := payloadVarInt_of_any accepted
    simp only [Bool.not_eq_true', decide_eq_false_iff_not, not_lt] at range
    exact { within with initialMaxUniStreams := range }
  case ackDelayExponent =>
    have range := payloadVarInt_of_any accepted
    simp only [Bool.not_eq_true', decide_eq_false_iff_not, not_lt] at range
    exact { within with ackDelayExponent := range, ackDelayExponentDefault := Bool.noConfusion }
  case maxAckDelay =>
    have range := payloadVarInt_of_any accepted
    simp only [Bool.not_eq_true', decide_eq_false_iff_not, not_lt] at range
    exact { within with maxAckDelay := range, maxAckDelayDefault := Bool.noConfusion }
  case activeConnectionIdLimit =>
    have range := payloadVarInt_of_any accepted
    simp only [Bool.not_eq_true', decide_eq_false_iff_not, not_lt] at range
    exact { within with activeConnectionIdLimit := range, activeConnectionIdLimitDefault := Bool.noConfusion }
  case minAckDelay =>
    have range := payloadVarInt_of_any accepted
    simp only [Bool.not_eq_true', decide_eq_false_iff_not, not_lt] at range
    exact { within with minAckDelay := range, minAckDelayDefault := Bool.noConfusion }
  case cibirEncoding =>
    have range := cibirValues_of_any accepted
    simp only [Bool.and_eq_true, Bool.not_eq_true', Bool.or_eq_false_iff, decide_eq_false_iff_not,
      not_lt] at range
    exact { within with cibir := fun _ => ⟨range.1.1, range.1.2, range.2.1, range.2.2⟩ }
  case versionNegotiationExt =>
    simp only [QuicTpId.apply]
    split <;> exact { within with }
  all_goals exact { within with }

/-- A record the decoder returns with `TRUE` is within every documented limit,
and its minimum ack delay is at most its maximum. -/
theorem quicCryptoTlsDecodeTransportParameters_withinLimits {isServerTP allocOk : Bool}
    {tpBuf : List UInt8} {tp : TransportParameters} (small : tpBuf.length < 2 ^ 16)
    (decoded : quicCryptoTlsDecodeTransportParameters isServerTP allocOk tpBuf = some (true, tp)) :
    tp.WithinLimits isServerTP ∧ tp.minAckDelay ≤ msToUs tp.maxAckDelay := by
  rcases quicCryptoTlsDecodeTransportParameters_cases isServerTP allocOk small with ⟨ps, framed⟩ | ⟨_, exit⟩
  swap
  · rw [decoded] at exit
    cases exit
  rw [quicCryptoTlsDecodeTransportParameters_of_framed framed small] at decoded
  obtain ⟨within, checked⟩ := runParameters_invariant (·.WithinLimits isServerTP)
    (fun _ _ _ within accepted => within.apply accepted) (QuicTransportParameters.initial_withinLimits _) decoded
  refine ⟨within, ?_⟩
  cases flagged : tp.flags.minAckDelay
  · rw [within.minAckDelayDefault flagged]
    exact Nat.zero_le _
  · simpa [minAckDelayAccepted, flagged] using checked

theorem activeConnectionIdLimit_withinLimits :
    ([0x0e, 0x01, 0x04] : List UInt8).length < 2 ^ 16 ∧
      ∃ tp, quicCryptoTlsDecodeTransportParameters false true [0x0e, 0x01, 0x04] = some (true, tp) ∧
        tp.activeConnectionIdLimit = 4 ∧ tp.WithinLimits false ∧ tp.minAckDelay ≤ msToUs tp.maxAckDelay := by
  have decoded : quicCryptoTlsDecodeTransportParameters false true [0x0e, 0x01, 0x04] =
      some (true, { QuicTransportParameters.initial with
        activeConnectionIdLimit := 4
        flags := { activeConnectionIdLimit := true } }) := by decide
  exact ⟨by decide, _, decoded, rfl, quicCryptoTlsDecodeTransportParameters_withinLimits (by decide) decoded⟩

end CryptoTls
