import CryptoTls.Encode
import Mathlib.Algebra.Order.BigOperators.Group.List

namespace CryptoTls

/-- An arm of pass 2 writes, reading only inside its sources, exactly `length`
bytes. -/
def Writes (written : Option (List UInt8)) (length : Nat) : Prop :=
  ∃ bytes, written = some bytes ∧ bytes.length = length

theorem writes_flagged {flag : Bool} {written : Option (List UInt8)} {length : Nat}
    (agree : flag = true → Writes written length) :
    Writes (flaggedWrite flag written) (flaggedLength flag length) := by
  cases flag
  · exact ⟨[], rfl, rfl⟩
  · exact agree rfl

theorem writes_varInt (id value : Nat) :
    Writes (some (tlsWriteTransportParamVarInt id value)) (tlsTransportParamLength id (quicVarIntSize value)) :=
  ⟨_, rfl, by simp [tlsWriteTransportParamVarInt, tlsTransportParamLength, Nat.add_assoc]⟩

theorem writes_param {id length : Nat} {param : Option (List UInt8)}
    (readable : 0 < length → ∃ bytes, param = some bytes ∧ length ≤ bytes.length) :
    Writes (tlsWriteTransportParam id length param) (tlsTransportParamLength id length) := by
  cases param with
  | none =>
    obtain rfl : length = 0 := by
      by_contra nonzero
      obtain ⟨_, absent, _⟩ := readable (Nat.pos_of_ne_zero nonzero)
      cases absent
    exact ⟨_, rfl, by simp [tlsTransportParamLength]⟩
  | some bytes =>
    have fits : length ≤ bytes.length := by
      rcases Nat.eq_zero_or_pos length with zero | positive
      · omega
      · obtain ⟨_, same, fits⟩ := readable positive
        cases same
        exact fits
    refine ⟨quicVarIntEncode id ++ quicVarIntEncode length ++ bytes.take length, ?_, ?_⟩
    · simp only [tlsWriteTransportParam, readBytes_of_le (show 0 + length ≤ bytes.length by omega),
        List.drop_zero, Option.map_some']
    · simp [tlsTransportParamLength, fits, Nat.add_assoc]

/-- Arm by arm agreement gives the whole of pass 2 and its lengths. -/
theorem writes_mapM : ∀ {written : List (Option (List UInt8))} {lengths : List Nat},
    List.Forall₂ Writes written lengths →
      ∃ pieces, written.mapM id = some pieces ∧ pieces.map List.length = lengths
  | [], [], .nil => ⟨[], rfl, rfl⟩
  | _ :: _, _ :: _, .cons ⟨bytes, rfl, rfl⟩ rest => by
    obtain ⟨pieces, all, lengths⟩ := writes_mapM rest
    exact ⟨bytes :: pieces, by rw [List.mapM_cons, all]; rfl, by simp [lengths]⟩

/-- The encoder's own assertions on its input: no `PREFERRED_ADDRESS`, flagged
connection IDs of at most 20 bytes, and a non-NULL buffer holding a non-zero
`VersionInfoLength` or test parameter `Length`. -/
structure EncoderAssertions (tp : TransportParameters) (testParam : Option QuicPrivateTransportParameter) :
    Prop where
  preferredAddress : tp.flags.preferredAddress = false
  originalDestinationConnectionId : tp.flags.originalDestinationConnectionId = true →
    tp.originalDestinationConnectionId.length ≤ quicMaxConnectionIdLengthV1
  initialSourceConnectionId : tp.flags.initialSourceConnectionId = true →
    tp.initialSourceConnectionId.length ≤ quicMaxConnectionIdLengthV1
  retrySourceConnectionId : tp.flags.retrySourceConnectionId = true →
    tp.retrySourceConnectionId.length ≤ quicMaxConnectionIdLengthV1
  versionInfo : tp.flags.versionNegotiation = true → 0 < tp.versionInfoLength →
    ∃ bytes, tp.versionInfo = some bytes ∧ tp.versionInfoLength ≤ bytes.length
  testParam : ∀ t, testParam = some t → 0 < t.length →
    ∃ bytes, t.buffer = some bytes ∧ t.length ≤ bytes.length

theorem EncoderAssertions.encodeAborts_eq_false {tp : TransportParameters}
    {testParam : Option QuicPrivateTransportParameter} (asserts : EncoderAssertions tp testParam) :
    encodeAborts tp = false := by
  have within {flag : Bool} {length : Nat} (bound : flag = true → length ≤ quicMaxConnectionIdLengthV1) :
      (flag && decide (length > quicMaxConnectionIdLengthV1)) = false := by
    cases flag <;> simp_all
  simp only [CryptoTls.encodeAborts, asserts.preferredAddress, within asserts.originalDestinationConnectionId,
    within asserts.initialSourceConnectionId, within asserts.retrySourceConnectionId, Bool.or_false]

/-- Pass 2 writes, parameter by parameter, what pass 1 counted. -/
theorem encodePass2_writes {tp : TransportParameters} {testParam : Option QuicPrivateTransportParameter}
    (asserts : EncoderAssertions tp testParam) (fits : requiredTPLen tp testParam ≤ 0xFFFF) :
    List.Forall₂ Writes (encodePass2 tp testParam) (encodePass1 tp testParam) := by
  have bounded : ∀ n ∈ encodePass1 tp testParam, n ≤ 0xFFFF := fun n member =>
    (List.le_sum_of_mem member).trans fits
  simp only [encodePass1, List.mem_cons, forall_eq_or_imp] at bounded
  simp only [encodePass1, encodePass2, List.forall₂_cons]
  refine ⟨writes_flagged fun _ => writes_param fun _ => ⟨_, rfl, le_rfl⟩,
    writes_flagged fun _ => writes_varInt _ _,
    writes_flagged fun _ => writes_param fun _ => ⟨_, rfl, by simp [quicStatelessResetTokenLength]⟩,
    writes_flagged fun _ => writes_varInt _ _, writes_flagged fun _ => writes_varInt _ _,
    writes_flagged fun _ => writes_varInt _ _, writes_flagged fun _ => writes_varInt _ _,
    writes_flagged fun _ => writes_varInt _ _, writes_flagged fun _ => writes_varInt _ _,
    writes_flagged fun _ => writes_varInt _ _, writes_flagged fun _ => writes_varInt _ _,
    writes_flagged fun _ => writes_varInt _ _,
    writes_flagged fun _ => writes_param fun absurd => absurd.false.elim,
    writes_flagged fun _ => writes_varInt _ _,
    writes_flagged fun _ => writes_param fun _ => ⟨_, rfl, le_rfl⟩,
    writes_flagged fun _ => writes_param fun _ => ⟨_, rfl, le_rfl⟩,
    writes_flagged fun _ => writes_varInt _ _,
    writes_flagged fun _ => writes_param fun absurd => absurd.false.elim,
    writes_flagged fun flagged => ?_,
    writes_flagged fun _ => writes_varInt _ _,
    writes_flagged fun _ => ⟨_, rfl, ?_⟩,
    writes_flagged fun _ => writes_param fun absurd => absurd.false.elim,
    writes_flagged fun _ => writes_param fun absurd => absurd.false.elim,
    writes_flagged fun _ => writes_varInt _ _, ?_, .nil⟩
  · have small := bounded.2.2.2.2.2.2.2.2.2.2.2.2.2.2.2.2.2.2.1
    simp only [flaggedLength, flagged, if_true, tlsTransportParamLength] at small
    rw [Nat.mod_eq_of_lt (by omega)]
    exact writes_param (asserts.versionInfo flagged)
  · have small : quicVarIntSize tp.cibirLength + quicVarIntSize tp.cibirOffset < 2 ^ 8 := by
      have := quicVarIntSize_le tp.cibirLength
      have := quicVarIntSize_le tp.cibirOffset
      omega
    simp only [List.length_append, length_quicVarIntEncode, Nat.mod_eq_of_lt small, tlsTransportParamLength]
    omega
  · cases testParam with
    | none => exact ⟨[], rfl, rfl⟩
    | some t =>
      have small := bounded.2.2.2.2.2.2.2.2.2.2.2.2.2.2.2.2.2.2.2.2.2.2.2.2
      simp only [tlsTransportParamLength] at small
      dsimp only
      rw [Nat.mod_eq_of_lt (by omega)]
      exact writes_param (asserts.testParam t rfl)

/-- Once pass 2 has written its pieces, under the encoder's own assertions and
a `RequiredTPLen` within 16 bits, the encoder returns their concatenation, as
long as pass 1 counted. -/
theorem quicCryptoTlsEncodeTransportParameters_of_written {tp : TransportParameters}
    {testParam : Option QuicPrivateTransportParameter} {pieces : List (List UInt8)}
    (asserts : EncoderAssertions tp testParam) (fits : requiredTPLen tp testParam ≤ 0xFFFF)
    (written : (encodePass2 tp testParam).mapM id = some pieces) (headerSize : Nat) :
    quicCryptoTlsEncodeTransportParameters headerSize true tp testParam =
        some (.buffer (headerSize + requiredTPLen tp testParam) pieces.flatten) ∧
      pieces.flatten.length = requiredTPLen tp testParam := by
  obtain ⟨counted, written', lengths⟩ := writes_mapM (encodePass2_writes asserts fits)
  obtain rfl : counted = pieces := Option.some.inj (written'.symm.trans written)
  have total : counted.flatten.length = requiredTPLen tp testParam := by
    rw [List.length_flatten, lengths, requiredTPLen]
  refine ⟨?_, total⟩
  rw [requiredTPLen] at fits total
  simp only [quicCryptoTlsEncodeTransportParameters, asserts.encodeAborts_eq_false, Bool.false_eq_true,
    if_false, gt_iff_lt, Nat.not_lt.2 fits, Bool.not_true, written, Option.bind_eq_bind, Option.some_bind,
    total, lt_irrefl, ne_eq, not_true_eq_false, requiredTPLen]

/-- Under the encoder's own assertions, pass 2 writes, parameter by parameter,
what pass 1 counted; so when `RequiredTPLen` fits in 16 bits and the
allocation succeeds, no write leaves the buffer, the `FinalTPLength` check
passes, and the buffer comes back with `*TPLen = CxPlatTlsTPHeaderSize +
RequiredTPLen`. -/
theorem quicCryptoTlsEncodeTransportParameters_sizes {tp : TransportParameters}
    {testParam : Option QuicPrivateTransportParameter} (asserts : EncoderAssertions tp testParam)
    (fits : requiredTPLen tp testParam ≤ 0xFFFF) (headerSize : Nat) :
    (∃ pieces, (encodePass2 tp testParam).mapM id = some pieces ∧
        pieces.map List.length = encodePass1 tp testParam) ∧
      ∃ tpBuf, quicCryptoTlsEncodeTransportParameters headerSize true tp testParam =
          some (.buffer (headerSize + requiredTPLen tp testParam) tpBuf) ∧
        tpBuf.length = requiredTPLen tp testParam := by
  obtain ⟨pieces, written, lengths⟩ := writes_mapM (encodePass2_writes asserts fits)
  exact ⟨⟨pieces, written, lengths⟩, pieces.flatten,
    quicCryptoTlsEncodeTransportParameters_of_written asserts fits written headerSize⟩

theorem connectionIdLimit_sizes :
    ∃ tpBuf, quicCryptoTlsEncodeTransportParameters 0 true
        { QuicTransportParameters.initial with
          initialSourceConnectionId := [0xca, 0xfe, 0xba, 0xbe]
          activeConnectionIdLimit := 4
          flags := { initialSourceConnectionId := true, activeConnectionIdLimit := true } } none =
      some (.buffer 9 tpBuf) ∧ tpBuf.length = 9 :=
  (quicCryptoTlsEncodeTransportParameters_sizes
    { preferredAddress := rfl
      originalDestinationConnectionId := fun _ => by decide
      initialSourceConnectionId := fun _ => by decide
      retrySourceConnectionId := fun _ => by decide
      versionInfo := fun flagged => absurd flagged (by decide)
      testParam := fun _ absent => Option.noConfusion absent } (by decide) 0).2

/-- The assertion on the minimum ack delay rounds it down to milliseconds: it
admits 1001 µs against a maximum of 1 ms, and the decoder refuses the bytes the
encoder then writes. -/
theorem minAckDelayAssertion_admits_refused :
    minAckDelayAssertion
        { QuicTransportParameters.initial with
          minAckDelay := 1001
          maxAckDelay := 1
          flags := { minAckDelay := true, maxAckDelay := true } } = true ∧
      ∃ tpBuf, quicCryptoTlsEncodeTransportParameters 0 true
          { QuicTransportParameters.initial with
            minAckDelay := 1001
            maxAckDelay := 1
            flags := { minAckDelay := true, maxAckDelay := true } } none =
          some (.buffer tpBuf.length tpBuf) ∧
        (quicCryptoTlsDecodeTransportParameters false true tpBuf).map Prod.fst = some false :=
  ⟨by decide, [0x0b, 0x01, 0x01, 0xc0, 0x00, 0x00, 0x00, 0xff, 0x04, 0xde, 0x1b, 0x02, 0x43, 0xe9],
    by decide, by decide⟩

end CryptoTls
