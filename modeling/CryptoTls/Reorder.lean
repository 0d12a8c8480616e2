import CryptoTls.Framing
import Mathlib.Data.List.Nodup
import Mathlib.Data.List.Perm.Basic

namespace CryptoTls

/-- The record a run leaves when each case label `k` with `payloadOf k = some p`
accepted `p` once, and no other label came: every field a function of the
payload of the label that writes it, or its initial value. -/
def recordOfPayloads (allocOk : Bool) (payloadOf : QuicTpId → Option (List UInt8)) : TransportParameters :=
  { flags :=
      { originalDestinationConnectionId := (payloadOf .originalDestinationConnectionId).isSome
        idleTimeout := (payloadOf .idleTimeout).isSome
        statelessResetToken := (payloadOf .statelessResetToken).isSome
        maxUdpPayloadSize := (payloadOf .maxUdpPayloadSize).isSome
        initialMaxData := (payloadOf .initialMaxData).isSome
        initialMaxStrmDataBidiLocal := (payloadOf .initialMaxStreamDataBidiLocal).isSome
        initialMaxStrmDataBidiRemote := (payloadOf .initialMaxStreamDataBidiRemote).isSome
        initialMaxStrmDataUni := (payloadOf .initialMaxStreamDataUni).isSome
        initialMaxStrmsBidi := (payloadOf .initialMaxStreamsBidi).isSome
        initialMaxStrmsUni := (payloadOf .initialMaxStreamsUni).isSome
        ackDelayExponent := (payloadOf .ackDelayExponent).isSome
        maxAckDelay := (payloadOf .maxAckDelay).isSome
        disableActiveMigration := (payloadOf .disableActiveMigration).isSome
        activeConnectionIdLimit := (payloadOf .activeConnectionIdLimit).isSome
        initialSourceConnectionId := (payloadOf .initialSourceConnectionId).isSome
        retrySourceConnectionId := (payloadOf .retrySourceConnectionId).isSome
        maxDatagramFrameSize := (payloadOf .maxDatagramFrameSize).isSome
        disable1rttEncryption := (payloadOf .disable1rttEncryption).isSome
        versionNegotiation := (payloadOf .versionNegotiationExt).any fun p => !(decide (0 < p.length) && !allocOk)
        minAckDelay := (payloadOf .minAckDelay).isSome
        cibirEncoding := (payloadOf .cibirEncoding).isSome
        greaseQuicBit := (payloadOf .greaseQuicBit).isSome
        reliableResetEnabled := (payloadOf .reliableResetEnabled).isSome
        timestampSendEnabled := (payloadOf .enableTimestamp).any fun p => payloadVarInt p % 2 == 1
        timestampRecvEnabled := (payloadOf .enableTimestamp).any fun p => payloadVarInt p / 2 % 2 == 1 }
    idleTimeout := ((payloadOf .idleTimeout).map payloadVarInt).getD 0
    initialMaxStreamDataBidiLocal := ((payloadOf .initialMaxStreamDataBidiLocal).map payloadVarInt).getD 0
    initialMaxStreamDataBidiRemote := ((payloadOf .initialMaxStreamDataBidiRemote).map payloadVarInt).getD 0
    initialMaxStreamDataUni := ((payloadOf .initialMaxStreamDataUni).map payloadVarInt).getD 0
    initialMaxData := ((payloadOf .initialMaxData).map payloadVarInt).getD 0
    initialMaxBidiStreams := ((payloadOf .initialMaxStreamsBidi).map payloadVarInt).getD 0
    initialMaxUniStreams := ((payloadOf .initialMaxStreamsUni).map payloadVarInt).getD 0
    maxUdpPayloadSize := ((payloadOf .maxUdpPayloadSize).map payloadVarInt).getD quicTpMaxPacketSizeDefault
    ackDelayExponent := ((payloadOf .ackDelayExponent).map payloadVarInt).getD quicTpAckDelayExponentDefault
    maxAckDelay := ((payloadOf .maxAckDelay).map payloadVarInt).getD quicTpMaxAckDelayDefault
    minAckDelay := ((payloadOf .minAckDelay).map payloadVarInt).getD 0
    activeConnectionIdLimit :=
      ((payloadOf .activeConnectionIdLimit).map payloadVarInt).getD quicTpActiveConnectionIdLimitDefault
    maxDatagramFrameSize := ((payloadOf .maxDatagramFrameSize).map payloadVarInt).getD 0
    cibirLength := (((payloadOf .cibirEncoding).bind cibirValues?).map Prod.fst).getD 0
    cibirOffset := (((payloadOf .cibirEncoding).bind cibirValues?).map Prod.snd).getD 0
    statelessResetToken :=
      match payloadOf .statelessResetToken with
      | some p => if exact : p.length = quicStatelessResetTokenLength then ⟨p, exact⟩ else Mathlib.Vector.replicate 16 0
      | none => Mathlib.Vector.replicate 16 0
    originalDestinationConnectionId := (payloadOf .originalDestinationConnectionId).getD []
    initialSourceConnectionId := (payloadOf .initialSourceConnectionId).getD []
    retrySourceConnectionId := (payloadOf .retrySourceConnectionId).getD []
    versionInfoLength :=
      (payloadOf .versionNegotiationExt).elim 0 fun p => if decide (0 < p.length) && !allocOk then 0 else p.length
    versionInfo := (payloadOf .versionNegotiationExt).bind fun p => if 0 < p.length ∧ allocOk then some p else none }

theorem recordOfPayloads_none (allocOk : Bool) :
    recordOfPayloads allocOk (fun _ => none) = .initial := rfl

/-- One accepted case on such a record records its payload, provided its label
had not come before. -/
theorem QuicTpId.apply_recordOfPayloads {allocOk : Bool} {payloadOf : QuicTpId → Option (List UInt8)}
    {k : QuicTpId} (payload : List UInt8) (fresh : payloadOf k = none) :
    k.apply allocOk payload (recordOfPayloads allocOk payloadOf) =
      recordOfPayloads allocOk (Function.update payloadOf k (some payload)) := by
  cases k
  case enableTimestamp | versionNegotiationExt | statelessResetToken =>
    simp [recordOfPayloads, QuicTpId.apply, fresh, QuicTpFlags.orTimestamp, Function.update]
  all_goals rfl

/-- The case label of a parameter, `none` for `default:`. -/
def WireParameter.kind (p : WireParameter) : Option QuicTpId :=
  QuicTpId.ofNat? p.id

/-- Whether the `switch` goes on over `p`. -/
def WireParameter.accepted (isServerTP : Bool) (p : WireParameter) : Bool :=
  match p.kind with
  | some k => k.accepts isServerTP p.payload
  | none => true

/-- The payload each case label last received along `ps`. -/
def storePayloads (payloadOf : QuicTpId → Option (List UInt8)) : List WireParameter → QuicTpId → Option (List UInt8)
  | [] => payloadOf
  | p :: ps =>
    storePayloads (match p.kind with
      | some k => Function.update payloadOf k (some p.payload)
      | none => payloadOf) ps

theorem nodup_kinds {ps : List WireParameter} (distinct : (ps.map WireParameter.id).Nodup) :
    (ps.filterMap WireParameter.kind).Nodup := by
  have labels := distinct.filterMap (f := QuicTpId.ofNat?) fun a a' k found found' =>
    (QuicTpId.toNat_of_ofNat? found).symm.trans (QuicTpId.toNat_of_ofNat? found')
  rwa [List.filterMap_map] at labels

/-- Over parameters with distinct identifiers, none of them in the mask, the
run returns `TRUE` exactly when every case accepts and the check after the loop
passes, and then leaves the record of the payloads it received. -/
theorem runParameters_distinct {isServerTP allocOk : Bool} :
    ∀ {ps : List WireParameter} {present : Nat} {payloadOf : QuicTpId → Option (List UInt8)},
      (ps.map WireParameter.id).Nodup → (∀ p ∈ ps, p.id < 64 → present.testBit p.id = false) →
      (∀ k ∈ ps.filterMap WireParameter.kind, payloadOf k = none) →
      (runParameters isServerTP allocOk ps present (recordOfPayloads allocOk payloadOf)).map Prod.fst =
          some (ps.all (·.accepted isServerTP) &&
            minAckDelayAccepted (recordOfPayloads allocOk (storePayloads payloadOf ps))) ∧
        (ps.all (·.accepted isServerTP) = true →
          runParameters isServerTP allocOk ps present (recordOfPayloads allocOk payloadOf) =
            some (minAckDelayAccepted (recordOfPayloads allocOk (storePayloads payloadOf ps)),
              recordOfPayloads allocOk (storePayloads payloadOf ps)))
  | [], _, _, _, _, _ => by simp [runParameters, storePayloads]
  | p :: ps, present, payloadOf, distinct, fresh, unused => by
    rw [List.map_cons, List.nodup_cons] at distinct
    have notSeen : ¬(decide (p.id < 64) && present.testBit p.id) = true := by
      simp only [Bool.and_eq_true, decide_eq_true_eq, not_and, Bool.not_eq_true]
      exact fresh p (List.mem_cons_self p ps)
    have freshRest : ∀ q ∈ ps, q.id < 64 →
        (if p.id < 64 then present ||| 1 <<< p.id else present).testBit q.id = false := by
      intro q member below
      have other : p.id ≠ q.id := fun same => distinct.1 (same ▸ List.mem_map_of_mem _ member)
      split <;> simp only [testBit_or_shiftLeft, fresh q (List.mem_cons_of_mem p member) below, other,
        decide_False, Bool.or_false]
    have label : QuicTpId.ofNat? p.id = p.kind := rfl
    rw [runParameters, if_neg notSeen, label]
    simp only [List.all_cons, storePayloads]
    cases kind : p.kind with
    | none =>
      simp only [List.filterMap_cons, kind] at unused
      have unknown : p.accepted isServerTP = true := by simp [WireParameter.accepted, kind]
      simp only [decodeParameter, Option.pure_def, unknown, Bool.true_and]
      exact runParameters_distinct distinct.2 freshRest unused
    | some k =>
      simp only [List.filterMap_cons, kind, List.mem_cons, forall_eq_or_imp] at unused
      have later : ∀ k' ∈ ps.filterMap WireParameter.kind, k' ≠ k := by
        have := @nodup_kinds (p :: ps) (List.nodup_cons.2 distinct)
        simp only [List.filterMap_cons, kind, List.nodup_cons] at this
        exact fun k' member same => this.1 (same ▸ member)
      have known : p.accepted isServerTP = k.accepts isServerTP p.payload := by
        simp [WireParameter.accepted, kind]
      rw [known]
      cases accepted : k.accepts isServerTP p.payload
      · obtain ⟨tp', refused⟩ := @decodeParameter_of_rejected isServerTP allocOk _
          (recordOfPayloads allocOk payloadOf) _ accepted
        simp [refused]
      · rw [(decodeParameter_spec isServerTP allocOk p.payload _ k).2 accepted,
          QuicTpId.apply_recordOfPayloads p.payload unused.1, Bool.true_and]
        exact runParameters_distinct distinct.2 freshRest fun k' member => by
          rw [Function.update_noteq (later k' member)]
          exact unused.2 k' member

/-- Parameters without a case label record nothing. -/
theorem storePayloads_filter (payloadOf : QuicTpId → Option (List UInt8)) :
    ∀ ps : List WireParameter, storePayloads payloadOf ps =
      storePayloads payloadOf (ps.filter (·.kind.isSome))
  | [] => rfl
  | p :: ps => by
    cases kind : p.kind <;>
      simp [storePayloads, List.filter_cons, kind, storePayloads_filter _ ps]

theorem all_accepted_filter (isServerTP : Bool) (ps : List WireParameter) :
    ps.all (·.accepted isServerTP) = (ps.filter (·.kind.isSome)).all (·.accepted isServerTP) := by
  induction ps with
  | nil => rfl
  | cons p ps ih =>
    rw [List.filter_cons]
    cases kind : p.kind
    · have unknown : p.accepted isServerTP = true := by simp [WireParameter.accepted, kind]
      simp only [kind, Option.isSome_none, Bool.false_eq_true, if_false, List.all_cons, unknown,
        Bool.true_and, ih]
    · simp only [kind, Option.isSome_some, if_true, List.all_cons, ih]

/-- Labels received in another order, no label twice, leave the same payloads. -/
theorem storePayloads_perm {ps₁ ps₂ : List WireParameter} (perm : ps₁.Perm ps₂) :
    (ps₁.filterMap WireParameter.kind).Nodup →
      ∀ payloadOf, storePayloads payloadOf ps₁ = storePayloads payloadOf ps₂ := by
  induction perm with
  | nil => exact fun _ _ => rfl
  | cons p _ ih =>
    intro distinct payloadOf
    simp only [storePayloads]
    apply ih
    cases kind : p.kind <;> simp only [List.filterMap_cons, kind, List.nodup_cons] at distinct
    exacts [distinct, distinct.2]
  | swap p q ps =>
    intro distinct payloadOf
    cases kindP : p.kind <;> cases kindQ : q.kind <;> simp only [storePayloads, kindP, kindQ]
    simp only [List.filterMap_cons, kindP, kindQ, List.nodup_cons, List.mem_cons, not_or] at distinct
    rw [Function.update_comm (fun same => distinct.1.1 same.symm)]
  | trans first _ ih₁ ih₂ =>
    intro distinct payloadOf
    exact (ih₁ distinct payloadOf).trans
      (ih₂ ((first.filterMap WireParameter.kind).nodup_iff.1 distinct) payloadOf)

/-- Two buffers that carry the same parameters with a case label, in any
order and among any parameters without one, no identifier twice, decode alike:
the same result, and on `TRUE` the same record. -/
theorem quicCryptoTlsDecodeTransportParameters_reorder {isServerTP allocOk : Bool}
    {b₁ b₂ : List UInt8} {ps₁ ps₂ : List WireParameter}
    (small₁ : b₁.length < 2 ^ 16) (small₂ : b₂.length < 2 ^ 16)
    (framed₁ : Framed b₁ ps₁) (framed₂ : Framed b₂ ps₂)
    (distinct₁ : (ps₁.map WireParameter.id).Nodup) (distinct₂ : (ps₂.map WireParameter.id).Nodup)
    (same : (ps₁.filter (·.kind.isSome)).Perm (ps₂.filter (·.kind.isSome))) :
    (quicCryptoTlsDecodeTransportParameters isServerTP allocOk b₁).map Prod.fst =
        (quicCryptoTlsDecodeTransportParameters isServerTP allocOk b₂).map Prod.fst ∧
      ∀ tp, quicCryptoTlsDecodeTransportParameters isServerTP allocOk b₁ = some (true, tp) →
        quicCryptoTlsDecodeTransportParameters isServerTP allocOk b₂ = some (true, tp) := by
  rw [quicCryptoTlsDecodeTransportParameters_of_framed framed₁ small₁,
    quicCryptoTlsDecodeTransportParameters_of_framed framed₂ small₂, ← recordOfPayloads_none allocOk]
  have run₁ := @runParameters_distinct isServerTP allocOk _ 0 (fun _ => none) distinct₁ (by simp) (by simp)
  have run₂ := @runParameters_distinct isServerTP allocOk _ 0 (fun _ => none) distinct₂ (by simp) (by simp)
  have stored : storePayloads (fun _ => none) ps₁ = storePayloads (fun _ => none) ps₂ := by
    rw [storePayloads_filter _ ps₁, storePayloads_filter _ ps₂]
    exact storePayloads_perm same
      (nodup_kinds (((List.filter_sublist ps₁).map WireParameter.id).nodup distinct₁)) _
  have accepted : ps₁.all (·.accepted isServerTP) = ps₂.all (·.accepted isServerTP) := by
    rw [all_accepted_filter, all_accepted_filter _ ps₂, Bool.eq_iff_iff]
    simp only [List.all_eq_true, same.mem_iff]
  refine ⟨by rw [run₁.1, run₂.1, stored, accepted], fun tp decoded => ?_⟩
  have ok : ps₁.all (·.accepted isServerTP) = true := by
    have result := run₁.1
    rw [decoded, Option.map_some', Option.some.injEq, eq_comm, Bool.and_eq_true] at result
    exact result.1
  rw [run₁.2 ok] at decoded
  rw [run₂.2 (accepted ▸ ok), ← stored, decoded]

theorem reserved_parameter_ignored :
    (quicCryptoTlsDecodeTransportParameters false true [0x01, 0x01, 0x05, 0x1b, 0x00]).map Prod.fst =
        (quicCryptoTlsDecodeTransportParameters false true [0x1b, 0x01, 0xff, 0x01, 0x01, 0x05]).map
          Prod.fst ∧
      ∀ tp, quicCryptoTlsDecodeTransportParameters false true [0x01, 0x01, 0x05, 0x1b, 0x00] = some (true, tp) →
        quicCryptoTlsDecodeTransportParameters false true [0x1b, 0x01, 0xff, 0x01, 0x01, 0x05] =
          some (true, tp) := by
  have form : ∀ v < 0x40, VarIntEncoding (quicVarIntEncode v) v := fun v small =>
    quicVarIntEncode_encoding (by omega)
  refine @quicCryptoTlsDecodeTransportParameters_reorder false true _ _
    [⟨[0x01], 1, [0x01], [0x05]⟩, ⟨[0x1b], 27, [0x00], []⟩]
    [⟨[0x1b], 27, [0x01], [0xff]⟩, ⟨[0x01], 1, [0x01], [0x05]⟩]
    (by decide) (by decide) ⟨?_, rfl⟩ ⟨?_, rfl⟩ (by decide) (by decide) (by decide) <;>
  simp only [List.mem_cons, List.mem_singleton, List.not_mem_nil, forall_eq_or_imp, forall_eq, or_false]
  · exact ⟨⟨form 1 (by decide), form 1 (by decide)⟩, form 27 (by decide), form 0 (by decide)⟩
  · exact ⟨⟨form 27 (by decide), form 1 (by decide)⟩, form 1 (by decide), form 1 (by decide)⟩

@[simp] theorem QuicTpFlags.orTimestamp_orTimestamp (flags : QuicTpFlags) (value : Nat) :
    (flags.orTimestamp value).orTimestamp value = flags.orTimestamp value := by
  simp [QuicTpFlags.orTimestamp]

/-- Every case writes values it takes from its payload alone, or sets bits:
taken twice over one payload, it writes what it wrote once. -/
theorem QuicTpId.apply_apply (allocOk : Bool) (payload : List UInt8) (tp : TransportParameters) (k : QuicTpId) :
    k.apply allocOk payload (k.apply allocOk payload tp) = k.apply allocOk payload tp := by
  cases k
  case statelessResetToken =>
    by_cases exact : payload.length = quicStatelessResetTokenLength <;> simp [QuicTpId.apply, exact]
  case versionNegotiationExt =>
    by_cases empty : 0 < payload.length <;> cases allocOk <;> simp [QuicTpId.apply, empty]
  all_goals simp [QuicTpId.apply]

/-- A case that goes on over a payload goes on again, with the same record,
over the same payload. -/
theorem decodeParameter_again {isServerTP allocOk : Bool} {payload : List UInt8} {tp tp' : TransportParameters}
    {label : Option QuicTpId} (step : decodeParameter isServerTP allocOk payload tp label = some (true, tp')) :
    decodeParameter isServerTP allocOk payload tp' label = some (true, tp') := by
  rcases decodeParameter_eq_true step with ⟨rfl, rfl⟩ | ⟨k, rfl, accepted, rfl⟩
  · exact step
  · rw [(decodeParameter_spec isServerTP allocOk payload _ k).2 accepted, QuicTpId.apply_apply]

/-- A parameter with an identifier of 64 or more stays out of the mask, and
the run takes it twice in a row as it takes it once. -/
theorem runParameters_repeated {isServerTP allocOk : Bool} {p : WireParameter} (high : 64 ≤ p.id) :
    ∀ (ps₁ ps₂ : List WireParameter) (present : Nat) (tp : TransportParameters),
      runParameters isServerTP allocOk (ps₁ ++ p :: p :: ps₂) present tp =
        runParameters isServerTP allocOk (ps₁ ++ p :: ps₂) present tp
  | [], ps₂, present, tp => by
    have unmasked : ¬(decide (p.id < 64) && present.testBit p.id) = true := by simp; omega
    simp only [List.nil_append, runParameters, if_neg unmasked, if_neg (show ¬p.id < 64 by omega)]
    rcases step : decodeParameter isServerTP allocOk p.payload tp (QuicTpId.ofNat? p.id) with _ | ⟨_ | _, tp'⟩
    · rfl
    · rfl
    · simp only [runParameters, if_neg unmasked, decodeParameter_again step]
  | q :: ps₁, ps₂, present, tp => by
    simp only [List.cons_append, runParameters]
    by_cases masked : (decide (q.id < 64) && present.testBit q.id) = true
    · rw [if_pos masked, if_pos masked]
    rw [if_neg masked, if_neg masked]
    rcases decodeParameter isServerTP allocOk q.payload tp (QuicTpId.ofNat? q.id) with _ | ⟨_ | _, tp'⟩
    · rfl
    · rfl
    · exact runParameters_repeated high ps₁ ps₂ _ tp'

/-- The mask that catches a repeated parameter holds the identifiers below 64
only. A parameter with a larger one (`min_ack_delay`, `cibir_encoding`,
`grease_quic_bit`, `enable_timestamp`, ...) sent twice in a row is not
refused: the buffer decodes as if it came once. -/
theorem quicCryptoTlsDecodeTransportParameters_repeated {isServerTP allocOk : Bool}
    {ps₁ ps₂ : List WireParameter} {p : WireParameter} (wellFormed : ∀ q ∈ ps₁ ++ p :: ps₂, q.WellFormed)
    (high : 64 ≤ p.id) (small : ((ps₁ ++ p :: p :: ps₂).flatMap WireParameter.bytes).length < 2 ^ 16) :
    quicCryptoTlsDecodeTransportParameters isServerTP allocOk ((ps₁ ++ p :: p :: ps₂).flatMap WireParameter.bytes) =
      quicCryptoTlsDecodeTransportParameters isServerTP allocOk ((ps₁ ++ p :: ps₂).flatMap WireParameter.bytes) := by
  have twice : Framed _ (ps₁ ++ p :: p :: ps₂) :=
    ⟨fun q member => wellFormed q (by simp only [List.mem_append, List.mem_cons] at member ⊢; tauto), rfl⟩
  have shorter : ((ps₁ ++ p :: ps₂).flatMap WireParameter.bytes).length < 2 ^ 16 := by
    simp only [List.flatMap_append, List.flatMap_cons, List.length_append] at small ⊢
    omega
  rw [quicCryptoTlsDecodeTransportParameters_of_framed twice small,
    quicCryptoTlsDecodeTransportParameters_of_framed ⟨wellFormed, rfl⟩ shorter, runParameters_repeated high]

/-- `grease_quic_bit` twice, empty each time. -/
theorem grease_quic_bit_twice :
    quicCryptoTlsDecodeTransportParameters false true [0x6A, 0xB2, 0x00, 0x6A, 0xB2, 0x00] =
      quicCryptoTlsDecodeTransportParameters false true [0x6A, 0xB2, 0x00] :=
  @quicCryptoTlsDecodeTransportParameters_repeated false true [] [] ⟨[0x6A, 0xB2], 0x2AB2, [0x00], []⟩
    (by simpa using (⟨⟨1, by decide, by decide, rfl⟩, ⟨0, by decide, by decide, rfl⟩⟩ :
      WireParameter.WellFormed ⟨[0x6A, 0xB2], 0x2AB2, [0x00], []⟩)) (by decide) (by decide)

/-- A mask bit that no identifier of the run tests changes nothing. -/
theorem runParameters_untested_bit {isServerTP allocOk : Bool} {j : Nat} :
    ∀ {ps : List WireParameter}, (∀ q ∈ ps, q.id ≠ j) → ∀ (present : Nat) (tp : TransportParameters),
      runParameters isServerTP allocOk ps (present ||| 1 <<< j) tp = runParameters isServerTP allocOk ps present tp
  | [], _, _, _ => rfl
  | q :: ps, other, present, tp => by
    have differs : q.id ≠ j := other q (List.mem_cons_self _ _)
    have untested : (present ||| 1 <<< j).testBit q.id = present.testBit q.id := by
      rw [testBit_or_shiftLeft, decide_eq_false (Ne.symm differs), Bool.or_false]
    simp only [runParameters, untested]
    by_cases masked : (decide (q.id < 64) && present.testBit q.id) = true
    · rw [if_pos masked, if_pos masked]
    rw [if_neg masked, if_neg masked]
    rcases decodeParameter isServerTP allocOk q.payload tp (QuicTpId.ofNat? q.id) with _ | ⟨_ | _, tp'⟩
    · rfl
    · rfl
    · have rest := @runParameters_untested_bit isServerTP allocOk j ps fun r member => other r (List.mem_cons_of_mem _ member)
      by_cases below : q.id < 64
      · rw [if_pos below, if_pos below, Nat.or_assoc, Nat.or_comm (1 <<< j), ← Nat.or_assoc]
        exact rest _ tp'
      · rw [if_neg below, if_neg below]
        exact rest present tp'

/-- A server's `preferred_address` goes on and writes nothing: while its
identifier is not in the mask, and no other parameter has it, the run takes
the parameter as if it were not there. -/
theorem runParameters_preferredAddress {allocOk : Bool} {p : WireParameter} (address : p.id = 13) :
    ∀ (ps₁ ps₂ : List WireParameter), (∀ q ∈ ps₁ ++ ps₂, q.id ≠ 13) → ∀ (present : Nat) (tp : TransportParameters),
      present.testBit 13 = false →
      runParameters true allocOk (ps₁ ++ p :: ps₂) present tp = runParameters true allocOk (ps₁ ++ ps₂) present tp
  | [], ps₂, other, present, tp, clear => by
    simp only [List.nil_append, runParameters, address, clear, Bool.and_false, Bool.false_eq_true, if_false]
    exact runParameters_untested_bit other present tp
  | q :: ps₁, ps₂, other, present, tp, clear => by
    have differs : q.id ≠ 13 := other q (List.mem_cons_self _ _)
    simp only [List.cons_append, runParameters]
    by_cases masked : (decide (q.id < 64) && present.testBit q.id) = true
    · rw [if_pos masked, if_pos masked]
    rw [if_neg masked, if_neg masked]
    rcases decodeParameter true allocOk q.payload tp (QuicTpId.ofNat? q.id) with _ | ⟨_ | _, tp'⟩
    · rfl
    · rfl
    · refine runParameters_preferredAddress address ps₁ ps₂ (fun r member => other r (List.mem_cons_of_mem _ member))
        _ tp' ?_
      by_cases below : q.id < 64
      · rw [if_pos below, testBit_or_shiftLeft, clear, decide_eq_false differs, Bool.or_false]
      · rwa [if_neg below]

/-- A server's `preferred_address` is accepted and dropped (the case is a
`TODO`): parameters that carry one, and no other parameter with its
identifier, decode exactly as they do without it. -/
theorem quicCryptoTlsDecodeTransportParameters_preferredAddress {allocOk : Bool} {ps₁ ps₂ : List WireParameter}
    {p : WireParameter} (wellFormed : ∀ q ∈ ps₁ ++ p :: ps₂, q.WellFormed) (address : p.id = 13)
    (other : ∀ q ∈ ps₁ ++ ps₂, q.id ≠ 13) (small : ((ps₁ ++ p :: ps₂).flatMap WireParameter.bytes).length < 2 ^ 16) :
    quicCryptoTlsDecodeTransportParameters true allocOk ((ps₁ ++ p :: ps₂).flatMap WireParameter.bytes) =
      quicCryptoTlsDecodeTransportParameters true allocOk ((ps₁ ++ ps₂).flatMap WireParameter.bytes) := by
  have without : Framed _ (ps₁ ++ ps₂) :=
    ⟨fun q member => wellFormed q (by simp only [List.mem_append, List.mem_cons] at member ⊢; tauto), rfl⟩
  have shorter : ((ps₁ ++ ps₂).flatMap WireParameter.bytes).length < 2 ^ 16 := by
    simp only [List.flatMap_append, List.flatMap_cons, List.length_append] at small ⊢
    omega
  rw [quicCryptoTlsDecodeTransportParameters_of_framed ⟨wellFormed, rfl⟩ small,
    quicCryptoTlsDecodeTransportParameters_of_framed without shorter,
    runParameters_preferredAddress address ps₁ ps₂ other 0 _ rfl]

/-- A server's `preferred_address` with a one-byte payload, before its
`initial_max_data` of 1000. -/
theorem preferred_address_dropped :
    quicCryptoTlsDecodeTransportParameters true true [0x0D, 0x01, 0x00, 0x04, 0x02, 0x43, 0xE8] =
      quicCryptoTlsDecodeTransportParameters true true [0x04, 0x02, 0x43, 0xE8] :=
  @quicCryptoTlsDecodeTransportParameters_preferredAddress true [] [⟨[0x04], 4, [0x02], [0x43, 0xE8]⟩]
    ⟨[0x0D], 13, [0x01], [0x00]⟩
    (by simpa using (⟨⟨⟨0, by decide, by decide, rfl⟩, ⟨0, by decide, by decide, rfl⟩⟩,
      ⟨⟨0, by decide, by decide, rfl⟩, ⟨0, by decide, by decide, rfl⟩⟩⟩ :
        WireParameter.WellFormed ⟨[0x0D], 13, [0x01], [0x00]⟩ ∧ WireParameter.WellFormed ⟨[0x04], 4, [0x02], [0x43, 0xE8]⟩))
    rfl (by decide) (by decide)

end CryptoTls
