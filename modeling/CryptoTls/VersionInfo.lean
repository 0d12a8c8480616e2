import CryptoTls.Reject

namespace CryptoTls

/-- The three fields of the version info: the `VERSION_NEGOTIATION` flag,
`VersionInfo` and `VersionInfoLength`. -/
def QuicTransportParameters.versionInfoFields {Buffer : Type} (tp : QuicTransportParameters Buffer) :
    Bool × Option Buffer × Nat :=
  (tp.flags.versionNegotiation, tp.versionInfo, tp.versionInfoLength)

/-- The version info as the zeroed record has it. -/
def QuicTransportParameters.VersionInfoUnset {Buffer : Type} (tp : QuicTransportParameters Buffer) : Prop :=
  tp.flags.versionNegotiation = false ∧ tp.versionInfo = none ∧ tp.versionInfoLength = 0

/-- The ownership contract of a record's version info, `size` giving the
length of a buffer (`none` for one that is not live): with the flag clear
`VersionInfo` is NULL; with it set, either `VersionInfo` is NULL and
`VersionInfoLength` zero, or `VersionInfo` is a buffer of exactly
`VersionInfoLength` bytes. -/
def QuicTransportParameters.VersionInfoOwned {Buffer : Type} (size : Buffer → Option Nat)
    (tp : QuicTransportParameters Buffer) : Prop :=
  (tp.flags.versionNegotiation = false → tp.versionInfo = none) ∧
    (tp.flags.versionNegotiation = true →
      tp.versionInfo = none ∧ tp.versionInfoLength = 0 ∨
        ∃ buffer, tp.versionInfo = some buffer ∧ size buffer = some tp.versionInfoLength)

/-- The record with the three fields of its version info set to `fields`. -/
def QuicTransportParameters.withVersionInfoFields (tp : TransportParameters) (fields : Bool × Option (List UInt8) × Nat) :
    TransportParameters :=
  { tp with
    flags := { tp.flags with versionNegotiation := fields.1 }, versionInfo := fields.2.1, versionInfoLength := fields.2.2 }

@[simp] theorem QuicTransportParameters.withVersionInfoFields_self (tp : TransportParameters) :
    tp.withVersionInfoFields tp.versionInfoFields = tp := rfl

@[simp] theorem QuicTransportParameters.versionInfoFields_withVersionInfoFields (tp : TransportParameters)
    (fields : Bool × Option (List UInt8) × Nat) : (tp.withVersionInfoFields fields).versionInfoFields = fields := rfl

section Frame

variable {payload : List UInt8} {tp : TransportParameters} {fields : Bool × Option (List UInt8) × Nat}

theorem readVarIntParameter_withVersionInfoFields {store : TransportParameters → Nat → TransportParameters}
    {inRange : Nat → Bool} {mark : QuicTpFlags → QuicTpFlags}
    (stores : ∀ v, store (tp.withVersionInfoFields fields) v = (store tp v).withVersionInfoFields fields)
    (marks : ∀ f : QuicTpFlags, mark { f with versionNegotiation := fields.1 } =
      { mark f with versionNegotiation := fields.1 }) :
    readVarIntParameter payload (tp.withVersionInfoFields fields) store inRange mark =
      (readVarIntParameter payload tp store inRange mark).map (Prod.map id (·.withVersionInfoFields fields)) := by
  unfold readVarIntParameter
  rcases tryReadVarInt_zero payload with ⟨read, -⟩ | ⟨value, next, read, -, -⟩ <;>
    simp only [read, Option.bind_eq_bind, Option.some_bind, Option.pure_def, stores]
  · rfl
  · split
    · simp only [Option.map_some', Prod.map, id, QuicTransportParameters.withVersionInfoFields, marks]
    · rfl

theorem readConnectionIdParameter_withVersionInfoFields {isServerTP serverOnly : Bool}
    {store : TransportParameters → List UInt8 → TransportParameters} {mark : QuicTpFlags → QuicTpFlags}
    (stores : store (tp.withVersionInfoFields fields) payload = (store tp payload).withVersionInfoFields fields)
    (marks : ∀ f : QuicTpFlags, mark { f with versionNegotiation := fields.1 } =
      { mark f with versionNegotiation := fields.1 }) :
    readConnectionIdParameter isServerTP serverOnly payload (tp.withVersionInfoFields fields) store mark =
      (readConnectionIdParameter isServerTP serverOnly payload tp store mark).map
        (Prod.map id (·.withVersionInfoFields fields)) := by
  unfold readConnectionIdParameter
  split
  · rfl
  split
  · rfl
  · rw [stores]
    simp only [Option.pure_def, Option.map_some', Prod.map, id, QuicTransportParameters.withVersionInfoFields, marks]

theorem readEmptyParameter_withVersionInfoFields {mark : QuicTpFlags → QuicTpFlags}
    (marks : ∀ f : QuicTpFlags, mark { f with versionNegotiation := fields.1 } =
      { mark f with versionNegotiation := fields.1 }) :
    readEmptyParameter payload (tp.withVersionInfoFields fields) mark =
      (readEmptyParameter payload tp mark).map (Prod.map id (·.withVersionInfoFields fields)) := by
  unfold readEmptyParameter
  split
  · rfl
  · simp only [Option.pure_def, Option.map_some', Prod.map, id, QuicTransportParameters.withVersionInfoFields, marks]

theorem readInitialMaxStreamsBidi_withVersionInfoFields :
    readInitialMaxStreamsBidi payload (tp.withVersionInfoFields fields) =
      (readInitialMaxStreamsBidi payload tp).map (Prod.map id (·.withVersionInfoFields fields)) := by
  unfold readInitialMaxStreamsBidi
  rcases tryReadVarInt_zero payload with ⟨read, -⟩ | ⟨value, next, read, -, -⟩ <;>
    simp only [read, Option.bind_eq_bind, Option.some_bind, Option.pure_def]
  · rfl
  · repeat' split
    all_goals rfl

theorem readStatelessResetToken_withVersionInfoFields {isServerTP : Bool} :
    readStatelessResetToken isServerTP payload (tp.withVersionInfoFields fields) =
      (readStatelessResetToken isServerTP payload tp).map (Prod.map id (·.withVersionInfoFields fields)) := by
  unfold readStatelessResetToken
  repeat' split
  all_goals rfl

theorem readCibirEncoding_withVersionInfoFields :
    readCibirEncoding payload (tp.withVersionInfoFields fields) =
      (readCibirEncoding payload tp).map (Prod.map id (·.withVersionInfoFields fields)) := by
  unfold readCibirEncoding
  rcases tryReadVarInt_zero payload with ⟨read, -⟩ | ⟨l, next, read, -, -⟩ <;>
    simp only [read, Option.bind_eq_bind, Option.some_bind, Option.pure_def]
  · rfl
  split
  · rfl
  rcases quicVarIntDecode_cases payload next le_rfl with second | ⟨o, _, second⟩ <;>
    simp only [tryReadVarInt] <;> simp only [second, Option.some_bind]
  · rfl
  · split <;> rfl

theorem readEnableTimestamp_withVersionInfoFields :
    readEnableTimestamp payload (tp.withVersionInfoFields fields) =
      (readEnableTimestamp payload tp).map (Prod.map id (·.withVersionInfoFields fields)) := by
  unfold readEnableTimestamp
  rcases tryReadVarInt_zero payload with ⟨read, -⟩ | ⟨value, next, read, -, -⟩ <;>
    simp only [read, Option.bind_eq_bind, Option.some_bind, Option.pure_def]
  · rfl
  · split <;> rfl

/-- Every case but `QUIC_TP_ID_VERSION_NEGOTIATION_EXT` neither reads nor
writes the version info: on a record with it set to `fields` the case does
what it does on the record, and leaves the version info at `fields`. -/
theorem decodeParameter_withVersionInfoFields (isServerTP allocOk : Bool) (payload : List UInt8)
    (tp : TransportParameters) (fields : Bool × Option (List UInt8) × Nat) {label : Option QuicTpId}
    (other : label ≠ some .versionNegotiationExt) :
    decodeParameter isServerTP allocOk payload (tp.withVersionInfoFields fields) label =
      (decodeParameter isServerTP allocOk payload tp label).map (Prod.map id (·.withVersionInfoFields fields)) := by
  cases label with
  | none => rfl
  | some k =>
    cases k
    case versionNegotiationExt => exact absurd rfl other
    all_goals simp only [decodeParameter]
    case statelessResetToken => exact readStatelessResetToken_withVersionInfoFields
    case initialMaxStreamsBidi => exact readInitialMaxStreamsBidi_withVersionInfoFields
    case cibirEncoding => exact readCibirEncoding_withVersionInfoFields
    case enableTimestamp => exact readEnableTimestamp_withVersionInfoFields
    case preferredAddress => split <;> rfl
    case originalDestinationConnectionId | initialSourceConnectionId | retrySourceConnectionId =>
      exact readConnectionIdParameter_withVersionInfoFields rfl fun _ => rfl
    case disableActiveMigration | disable1rttEncryption | greaseQuicBit | reliableResetEnabled =>
      exact readEmptyParameter_withVersionInfoFields fun _ => rfl
    all_goals exact readVarIntParameter_withVersionInfoFields (fun _ => rfl) fun _ => rfl

end Frame

/-- Every case but `QUIC_TP_ID_VERSION_NEGOTIATION_EXT` leaves the version
info as it was, whether it goes on or exits. -/
theorem decodeParameter_fields {isServerTP allocOk goOn : Bool} {payload : List UInt8} {tp tp' : TransportParameters}
    {label : Option QuicTpId} (other : label ≠ some .versionNegotiationExt)
    (result : decodeParameter isServerTP allocOk payload tp label = some (goOn, tp')) :
    tp'.versionInfoFields = tp.versionInfoFields := by
  have same := decodeParameter_withVersionInfoFields isServerTP allocOk payload tp tp.versionInfoFields other
  rw [QuicTransportParameters.withVersionInfoFields_self, result] at same
  have kept : tp' = tp'.withVersionInfoFields tp.versionInfoFields := congrArg Prod.snd (Option.some.inj same)
  rw [kept, QuicTransportParameters.versionInfoFields_withVersionInfoFields]

theorem QuicTransportParameters.VersionInfoOwned.of_fields {Buffer : Type} {size : Buffer → Option Nat}
    {tp tp' : QuicTransportParameters Buffer} (same : tp'.versionInfoFields = tp.versionInfoFields)
    (owned : tp.VersionInfoOwned size) : tp'.VersionInfoOwned size := by
  simp only [QuicTransportParameters.versionInfoFields, Prod.mk.injEq] at same
  obtain ⟨flag, info, length⟩ := same
  unfold QuicTransportParameters.VersionInfoOwned
  rwa [flag, info, length]

theorem QuicTransportParameters.VersionInfoUnset.of_fields {Buffer : Type} {tp tp' : QuicTransportParameters Buffer}
    (same : tp'.versionInfoFields = tp.versionInfoFields) (unset : tp.VersionInfoUnset) : tp'.VersionInfoUnset := by
  simp only [QuicTransportParameters.versionInfoFields, Prod.mk.injEq] at same
  obtain ⟨flag, info, length⟩ := same
  unfold QuicTransportParameters.VersionInfoUnset
  rwa [flag, info, length]

/-- The version-negotiation case run on a record whose version info is unset
leaves it owned: a buffer holding the payload, or NULL. -/
theorem readVersionNegotiationExt_owned {allocOk goOn : Bool} {payload : List UInt8} {tp tp' : TransportParameters}
    (unset : tp.VersionInfoUnset) (result : readVersionNegotiationExt allocOk payload tp = some (goOn, tp')) :
    tp'.VersionInfoOwned (fun bytes => some bytes.length) := by
  obtain ⟨flag, info, length⟩ := unset
  unfold readVersionNegotiationExt at result
  split at result
  · split at result <;> cases result <;> simp [QuicTransportParameters.VersionInfoOwned, flag]
  · rename_i empty
    cases result
    exact ⟨fun absurd => Bool.noConfusion absurd, fun _ => .inl ⟨rfl, by simpa using empty⟩⟩

/-- The loop's invariant on the version info: the record's is owned, and it
is unset while the mask has not seen the version-negotiation identifier. -/
def DecodeState.VersionInfoInvariant (s : DecodeState) : Prop :=
  s.transportParams.VersionInfoOwned (fun bytes => some bytes.length) ∧
    (s.paramsPresent.testBit QuicTpId.versionNegotiationExt.toNat = false → s.transportParams.VersionInfoUnset)

/-- A pass either exits with the record it had, its mask grown, or runs the
`switch` on an identifier the mask had not seen and records it in the mask. -/
theorem decodeIteration_result {isServerTP allocOk goOn : Bool} {tpBuf : List UInt8} {s s' : DecodeState}
    (step : decodeIteration isServerTP allocOk tpBuf s = some (goOn, s')) :
    (∀ j, s'.paramsPresent.testBit j = false → s.paramsPresent.testBit j = false) ∧
      (s'.transportParams = s.transportParams ∨
        ∃ id payload, (id < 64 → s.paramsPresent.testBit id = false) ∧
          (id < 64 → s'.paramsPresent.testBit id = true) ∧
          decodeParameter isServerTP allocOk payload s.transportParams (QuicTpId.ofNat? id) =
            some (goOn, s'.transportParams)) := by
  unfold decodeIteration at step
  rcases quicVarIntDecode_cases tpBuf s.offset le_rfl with first | ⟨id, afterId, first⟩ <;>
    simp only [first, Option.bind_eq_bind, Option.some_bind, Option.pure_def] at step
  · cases step
    exact ⟨fun _ clear => clear, .inl rfl⟩
  split at step
  · cases step
    exact ⟨fun _ clear => clear, .inl rfl⟩
  rename_i fresh
  have grow (j : Nat) (clear : (if id < 64 then s.paramsPresent ||| 1 <<< id else s.paramsPresent).testBit j = false) :
      s.paramsPresent.testBit j = false := by
    split at clear
    · rw [testBit_or_shiftLeft, Bool.or_eq_false_iff] at clear
      exact clear.1
    · exact clear
  rcases quicVarIntDecode_cases tpBuf afterId le_rfl with second | ⟨len, afterLength, second⟩ <;>
    simp only [second, Option.some_bind] at step
  · cases step
    exact ⟨grow, .inl rfl⟩
  split at step
  · cases step
    exact ⟨grow, .inl rfl⟩
  obtain ⟨payload, -, inner⟩ := Option.bind_eq_some.1 step
  obtain ⟨⟨goOn', tp⟩, result, done⟩ := Option.bind_eq_some.1 inner
  simp only [Option.some.injEq, Prod.mk.injEq] at done
  obtain ⟨rfl, rfl⟩ := done
  refine ⟨grow, .inr ⟨id, payload, fun below => ?_, fun below => ?_, result⟩⟩
  · simpa [below] using fresh
  · simp [below, testBit_or_shiftLeft]

theorem decodeIteration_versionInfoInvariant {isServerTP allocOk goOn : Bool} {tpBuf : List UInt8}
    {s s' : DecodeState} (invariant : s.VersionInfoInvariant)
    (step : decodeIteration isServerTP allocOk tpBuf s = some (goOn, s')) : s'.VersionInfoInvariant := by
  obtain ⟨owned, unset⟩ := invariant
  obtain ⟨grow, same | ⟨id, payload, fresh, seen, result⟩⟩ := decodeIteration_result step
  · simp only [DecodeState.VersionInfoInvariant, same]
    exact ⟨owned, fun clear => unset (grow _ clear)⟩
  by_cases label : QuicTpId.ofNat? id = some .versionNegotiationExt
  · have known : id = QuicTpId.versionNegotiationExt.toNat := (QuicTpId.toNat_of_ofNat? label).symm
    subst known
    rw [label] at result
    refine ⟨readVersionNegotiationExt_owned (unset (fresh (by decide))) result, fun clear => ?_⟩
    rw [seen (by decide)] at clear
    cases clear
  · have kept := decodeParameter_fields label result
    exact ⟨owned.of_fields kept, fun clear => (unset (grow _ clear)).of_fields kept⟩

theorem decodeLoop_versionInfoOwned {isServerTP allocOk result : Bool} {tpBuf : List UInt8}
    {tp : TransportParameters} :
    ∀ {fuel : Nat} {s : DecodeState}, s.VersionInfoInvariant →
      decodeLoop isServerTP allocOk tpBuf fuel s = some (result, tp) →
        tp.VersionInfoOwned (fun bytes => some bytes.length)
  | 0, _, _, run => by cases run
  | fuel + 1, s, invariant, run => by
    unfold decodeLoop at run
    split at run
    · match step : decodeIteration isServerTP allocOk tpBuf s with
      | none => simp [step] at run
      | some (goOn, s') =>
        have next := decodeIteration_versionInfoInvariant invariant step
        simp only [step, Option.bind_eq_bind, Option.some_bind] at run
        split at run
        · exact decodeLoop_versionInfoOwned next run
        · cases run
          exact next.1
    · cases run
      exact invariant.1

/-- Every record the decoder leaves, with `TRUE` or `FALSE`, has owned
version info: NULL under a clear flag, and under a set flag NULL with length
zero or exactly `VersionInfoLength` bytes. -/
theorem DecodeState.versionInfoInvariant_initial :
    DecodeState.VersionInfoInvariant ⟨0, 0, .initial⟩ :=
  ⟨⟨fun _ => rfl, fun absurd => Bool.noConfusion absurd⟩, fun _ => ⟨rfl, rfl, rfl⟩⟩

theorem quicCryptoTlsDecodeTransportParameters_versionInfoOwned {isServerTP allocOk result : Bool}
    {tpBuf : List UInt8} {tp : TransportParameters}
    (decoded : quicCryptoTlsDecodeTransportParameters isServerTP allocOk tpBuf = some (result, tp)) :
    tp.VersionInfoOwned (fun bytes => some bytes.length) :=
  decodeLoop_versionInfoOwned DecodeState.versionInfoInvariant_initial decoded

/-- The record with a non-empty version info dropped: the three fields as
the zeroed record has them, when `VersionInfoLength` is not zero. -/
def QuicTransportParameters.dropVersionInfo (tp : TransportParameters) : TransportParameters :=
  if 0 < tp.versionInfoLength then
    { tp with
      versionInfo := none, versionInfoLength := 0, flags := { tp.flags with versionNegotiation := false } }
  else tp

/-- The loop's variables with the record's version info dropped. -/
def DecodeState.dropVersionInfo (s : DecodeState) : DecodeState :=
  { s with transportParams := s.transportParams.dropVersionInfo }

theorem QuicTransportParameters.dropVersionInfo_eq (tp : TransportParameters) :
    tp.dropVersionInfo = if 0 < tp.versionInfoLength then tp.withVersionInfoFields (false, none, 0) else tp := rfl

@[simp] theorem DecodeState.dropVersionInfo_offset (s : DecodeState) : s.dropVersionInfo.offset = s.offset := rfl

@[simp] theorem DecodeState.dropVersionInfo_transportParams (s : DecodeState) :
    s.dropVersionInfo.transportParams = s.transportParams.dropVersionInfo := rfl

theorem QuicTransportParameters.dropVersionInfo_dropVersionInfo (tp : TransportParameters) :
    tp.dropVersionInfo.dropVersionInfo = tp.dropVersionInfo := by
  unfold QuicTransportParameters.dropVersionInfo
  split <;> simp_all

theorem QuicTpId.versionInfoLength_apply {k : QuicTpId} (other : k ≠ .versionNegotiationExt) (allocOk : Bool)
    (payload : List UInt8) (tp : TransportParameters) :
    (k.apply allocOk payload tp).versionInfoLength = tp.versionInfoLength := by
  cases k <;> first | exact absurd rfl other | rfl

theorem minAckDelayAccepted_dropVersionInfo (tp : TransportParameters) :
    minAckDelayAccepted tp.dropVersionInfo = minAckDelayAccepted tp := by
  unfold QuicTransportParameters.dropVersionInfo
  split <;> rfl

theorem QuicTransportParameters.VersionInfoUnset.dropVersionInfo {tp : TransportParameters}
    (unset : tp.VersionInfoUnset) : tp.dropVersionInfo = tp := by
  simp [QuicTransportParameters.dropVersionInfo, unset.2.2]

/-- Every case writes the same record from a record with its version info
dropped, whatever the allocation does; the version-negotiation case on a
record whose version info is unset drops the one it writes. -/
theorem QuicTpId.apply_dropVersionInfo (k : QuicTpId) (payload : List UInt8) {tp : TransportParameters}
    (fresh : k = .versionNegotiationExt → tp.VersionInfoUnset) :
    k.apply false payload tp.dropVersionInfo = (k.apply true payload tp).dropVersionInfo := by
  by_cases other : k = .versionNegotiationExt
  · subst other
    obtain ⟨flag, info, length⟩ := fresh rfl
    rw [(fresh rfl).dropVersionInfo]
    by_cases empty : 0 < payload.length <;>
      simp [QuicTpId.apply, QuicTransportParameters.dropVersionInfo, empty, flag, info, length]
  · unfold QuicTransportParameters.dropVersionInfo
    rw [QuicTpId.versionInfoLength_apply other]
    split <;> cases k <;> first | exact absurd rfl other | rfl

theorem decodeParameter_allocOk {isServerTP : Bool} {payload : List UInt8} {tp : TransportParameters}
    {label : Option QuicTpId} (other : label ≠ some .versionNegotiationExt) :
    decodeParameter isServerTP false payload tp label = decodeParameter isServerTP true payload tp label := by
  rcases label with _ | k
  · rfl
  · cases k <;> first | exact absurd rfl other | rfl

/-- A case other than `QUIC_TP_ID_VERSION_NEGOTIATION_EXT` does on a record
with its version info dropped what it does on the record, and returns its
record with the version info dropped. -/
theorem decodeParameter_dropVersionInfo_of_ne (isServerTP allocOk : Bool) (payload : List UInt8)
    (tp : TransportParameters) {label : Option QuicTpId} (other : label ≠ some .versionNegotiationExt) :
    decodeParameter isServerTP allocOk payload tp.dropVersionInfo label =
      (decodeParameter isServerTP allocOk payload tp label).map (Prod.map id QuicTransportParameters.dropVersionInfo) := by
  have shape := decodeParameter_withVersionInfoFields isServerTP allocOk payload tp (false, none, 0) other
  rw [QuicTransportParameters.dropVersionInfo_eq tp]
  rcases result : decodeParameter isServerTP allocOk payload tp label with _ | ⟨goOn, tp'⟩ <;> rw [result] at shape
  · split <;> first | exact shape | exact result
  · have length : tp'.versionInfoLength = tp.versionInfoLength :=
      congrArg (·.2.2) (decodeParameter_fields other result)
    rw [Option.map_some', Prod.map, id, QuicTransportParameters.dropVersionInfo_eq tp', length]
    split <;> first | exact shape | exact result

/-- One case of the `switch` with the allocation failing, from a record with
its version info dropped: what the case does with it succeeding, on every
outcome, with the record's version info dropped. -/
theorem decodeParameter_dropVersionInfo (isServerTP : Bool) (payload : List UInt8) {tp : TransportParameters}
    {label : Option QuicTpId} (fresh : label = some .versionNegotiationExt → tp.VersionInfoUnset) :
    decodeParameter isServerTP false payload tp.dropVersionInfo label =
      (decodeParameter isServerTP true payload tp label).map (Prod.map id QuicTransportParameters.dropVersionInfo) := by
  by_cases other : label = some .versionNegotiationExt
  · subst other
    have accepted : QuicTpId.versionNegotiationExt.accepts isServerTP payload = true := rfl
    rw [(decodeParameter_spec isServerTP false payload _ _).2 accepted,
      (decodeParameter_spec isServerTP true payload tp _).2 accepted,
      QuicTpId.apply_dropVersionInfo _ payload fun _ => fresh rfl]
    rfl
  · rw [decodeParameter_dropVersionInfo_of_ne isServerTP false payload tp other, decodeParameter_allocOk other]

theorem decodeIteration_dropVersionInfo (isServerTP : Bool) (tpBuf : List UInt8) {s : DecodeState}
    (invariant : s.VersionInfoInvariant) :
    decodeIteration isServerTP false tpBuf s.dropVersionInfo =
      (decodeIteration isServerTP true tpBuf s).map (Prod.map id DecodeState.dropVersionInfo) :=
  @decodeIteration_records isServerTP false isServerTP true tpBuf s s.transportParams.dropVersionInfo s.transportParams
    (fun failing succeeding => failing = succeeding.map (Prod.map id DecodeState.dropVersionInfo))
    (fun _ _ => rfl) rfl fun _ payload _ _ fresh => by
      rw [decodeParameter_dropVersionInfo isServerTP payload fun label => by
        obtain rfl := (QuicTpId.toNat_of_ofNat? label).symm
        exact invariant.2 (fresh (by decide))]
      cases decodeParameter isServerTP true payload s.transportParams _ <;> rfl

theorem decodeLoop_dropVersionInfo (isServerTP : Bool) (tpBuf : List UInt8) :
    ∀ {fuel : Nat} {s : DecodeState}, s.VersionInfoInvariant →
      decodeLoop isServerTP false tpBuf fuel s.dropVersionInfo =
        (decodeLoop isServerTP true tpBuf fuel s).map (Prod.map id QuicTransportParameters.dropVersionInfo)
  | 0, _, _ => rfl
  | fuel + 1, s, invariant => by
    unfold decodeLoop
    rw [DecodeState.dropVersionInfo_offset]
    by_cases more : s.offset < tpBuf.length
    · rw [if_pos more, if_pos more, decodeIteration_dropVersionInfo isServerTP tpBuf invariant]
      rcases step : decodeIteration isServerTP true tpBuf s with _ | ⟨_ | _, s'⟩
      · rfl
      · rfl
      · exact decodeLoop_dropVersionInfo isServerTP tpBuf (decodeIteration_versionInfoInvariant invariant step)
    · rw [if_neg more, if_neg more, DecodeState.dropVersionInfo_transportParams, minAckDelayAccepted_dropVersionInfo]
      rfl

/-- The decoder with the `VersionInfo` allocation failing is the decoder with
it succeeding, its record's non-empty version info dropped, on every buffer
and every outcome, `FALSE` included. The version-negotiation case breaks out
of the `switch` with `VersionInfo` NULL and the flag unset, no other case
reads or writes the version info, and the duplicate mask lets that case run
once. -/
theorem quicCryptoTlsDecodeTransportParameters_dropVersionInfo (isServerTP : Bool) (tpBuf : List UInt8) :
    quicCryptoTlsDecodeTransportParameters isServerTP false tpBuf =
      (quicCryptoTlsDecodeTransportParameters isServerTP true tpBuf).map
        (Prod.map id QuicTransportParameters.dropVersionInfo) :=
  decodeLoop_dropVersionInfo isServerTP tpBuf DecodeState.versionInfoInvariant_initial

/-- When the `VersionInfo` allocation fails the decoder returns the same
`BOOLEAN` as when it succeeds, and on `TRUE` the same record with its
non-empty version info dropped: the failure is never reported, and the record
reads as if the peer had sent no version information. -/
theorem quicCryptoTlsDecodeTransportParameters_allocFailure (isServerTP : Bool) (tpBuf : List UInt8) :
    (quicCryptoTlsDecodeTransportParameters isServerTP false tpBuf).map Prod.fst =
        (quicCryptoTlsDecodeTransportParameters isServerTP true tpBuf).map Prod.fst ∧
      ∀ tp, quicCryptoTlsDecodeTransportParameters isServerTP true tpBuf = some (true, tp) →
        quicCryptoTlsDecodeTransportParameters isServerTP false tpBuf = some (true, tp.dropVersionInfo) := by
  rw [quicCryptoTlsDecodeTransportParameters_dropVersionInfo]
  exact ⟨by cases quicCryptoTlsDecodeTransportParameters isServerTP true tpBuf <;> rfl, fun _ run => by rw [run]; rfl⟩

end CryptoTls
