import CryptoTls.Decode

namespace CryptoTls

/-- The varint at the front of a payload, if one fits in it. -/
def payloadVarInt? (payload : List UInt8) : Option Nat :=
  match tryReadVarInt payload 0 with
  | some (some (value, _)) => some value
  | _ => none

/-- The value a varint-valued parameter carries (zero when none fits). -/
def payloadVarInt (payload : List UInt8) : Nat :=
  (payloadVarInt? payload).getD 0

/-- The two varints of a `cibir_encoding` payload, the second read where the
first ends. -/
def cibirValues? (payload : List UInt8) : Option (Nat × Nat) :=
  match tryReadVarInt payload 0 with
  | some (some (cibirLength, next)) =>
    match tryReadVarInt payload next with
    | some (some (cibirOffset, _)) => some (cibirLength, cibirOffset)
    | _ => none
  | _ => none

/-- Whether the case of `k` goes on (rather than `goto Exit`) on `payload`:
every check of the case, in one place. -/
def QuicTpId.accepts (isServerTP : Bool) (payload : List UInt8) : QuicTpId → Bool
  | .originalDestinationConnectionId | .retrySourceConnectionId =>
    payload.length ≤ quicMaxConnectionIdLengthV1 && isServerTP
  | .initialSourceConnectionId => payload.length ≤ quicMaxConnectionIdLengthV1
  | .statelessResetToken => payload.length = quicStatelessResetTokenLength && isServerTP
  | .idleTimeout | .initialMaxData | .initialMaxStreamDataBidiLocal
  | .initialMaxStreamDataBidiRemote | .initialMaxStreamDataUni | .maxDatagramFrameSize =>
    (payloadVarInt? payload).any fun _ => true
  | .maxUdpPayloadSize =>
    (payloadVarInt? payload).any fun v =>
      !(v < quicTpMaxUdpPayloadSizeMin) && !(v > quicTpMaxUdpPayloadSizeMax)
  | .initialMaxStreamsBidi | .initialMaxStreamsUni =>
    (payloadVarInt? payload).any fun v => !(v > quicTpMaxStreamsMax)
  | .ackDelayExponent => (payloadVarInt? payload).any fun v => !(v > quicTpAckDelayExponentMax)
  | .maxAckDelay => (payloadVarInt? payload).any fun v => !(v > quicTpMaxAckDelayMax)
  | .activeConnectionIdLimit =>
    (payloadVarInt? payload).any fun v => !(v < quicTpActiveConnectionIdLimitMin)
  | .minAckDelay => (payloadVarInt? payload).any fun v => !(v > quicTpMinAckDelayMax)
  | .enableTimestamp => (payloadVarInt? payload).any fun v => !(v > 3)
  | .disableActiveMigration | .disable1rttEncryption | .greaseQuicBit | .reliableResetEnabled =>
    payload.length = 0
  | .preferredAddress => isServerTP
  | .versionNegotiationExt => true
  | .cibirEncoding =>
    (cibirValues? payload).any fun (l, o) =>
      !(l < 1 || l > quicMaxConnectionIdLengthInvariant) &&
        !(o > quicMaxConnectionIdLengthInvariant || l + o > quicMaxConnectionIdLengthInvariant)

/-- What the case of `k` writes into the record when it goes on. Each case
writes its own fields and flags only. -/
def QuicTpId.apply (allocOk : Bool) (payload : List UInt8) (tp : TransportParameters) :
    QuicTpId → TransportParameters
  | .originalDestinationConnectionId => { tp with
      originalDestinationConnectionId := payload
      flags := { tp.flags with originalDestinationConnectionId := true } }
  | .idleTimeout => { tp with
      idleTimeout := payloadVarInt payload, flags := { tp.flags with idleTimeout := true } }
  | .statelessResetToken => { tp with
      statelessResetToken :=
        if exact : payload.length = quicStatelessResetTokenLength then ⟨payload, exact⟩
        else tp.statelessResetToken
      flags := { tp.flags with statelessResetToken := true } }
  | .maxUdpPayloadSize => { tp with
      maxUdpPayloadSize := payloadVarInt payload, flags := { tp.flags with maxUdpPayloadSize := true } }
  | .initialMaxData => { tp with
      initialMaxData := payloadVarInt payload, flags := { tp.flags with initialMaxData := true } }
  | .initialMaxStreamDataBidiLocal => { tp with
      initialMaxStreamDataBidiLocal := payloadVarInt payload
      flags := { tp.flags with initialMaxStrmDataBidiLocal := true } }
  | .initialMaxStreamDataBidiRemote => { tp with
      initialMaxStreamDataBidiRemote := payloadVarInt payload
      flags := { tp.flags with initialMaxStrmDataBidiRemote := true } }
  | .initialMaxStreamDataUni => { tp with
      initialMaxStreamDataUni := payloadVarInt payload
      flags := { tp.flags with initialMaxStrmDataUni := true } }
  | .initialMaxStreamsBidi => { tp with
      initialMaxBidiStreams := payloadVarInt payload
      flags := { tp.flags with initialMaxStrmsBidi := true } }
  | .initialMaxStreamsUni => { tp with
      initialMaxUniStreams := payloadVarInt payload
      flags := { tp.flags with initialMaxStrmsUni := true } }
  | .ackDelayExponent => { tp with
      ackDelayExponent := payloadVarInt payload, flags := { tp.flags with ackDelayExponent := true } }
  | .maxAckDelay => { tp with
      maxAckDelay := payloadVarInt payload, flags := { tp.flags with maxAckDelay := true } }
  | .disableActiveMigration => { tp with flags := { tp.flags with disableActiveMigration := true } }
  | .preferredAddress => tp
  | .activeConnectionIdLimit => { tp with
      activeConnectionIdLimit := payloadVarInt payload
      flags := { tp.flags with activeConnectionIdLimit := true } }
  | .initialSourceConnectionId => { tp with
      initialSourceConnectionId := payload
      flags := { tp.flags with initialSourceConnectionId := true } }
  | .retrySourceConnectionId => { tp with
      retrySourceConnectionId := payload
      flags := { tp.flags with retrySourceConnectionId := true } }
  | .maxDatagramFrameSize => { tp with
      maxDatagramFrameSize := payloadVarInt payload
      flags := { tp.flags with maxDatagramFrameSize := true } }
  | .disable1rttEncryption => { tp with flags := { tp.flags with disable1rttEncryption := true } }
  | .versionNegotiationExt =>
    let allocFailed := decide (0 < payload.length) && !allocOk
    { tp with
      versionInfo := if 0 < payload.length ∧ allocOk then some payload else none
      flags := { tp.flags with versionNegotiation := tp.flags.versionNegotiation || !allocFailed }
      versionInfoLength := if allocFailed then tp.versionInfoLength else payload.length }
  | .minAckDelay => { tp with
      minAckDelay := payloadVarInt payload, flags := { tp.flags with minAckDelay := true } }
  | .cibirEncoding => { tp with
      cibirLength := ((cibirValues? payload).map Prod.fst).getD 0
      cibirOffset := ((cibirValues? payload).map Prod.snd).getD 0
      flags := { tp.flags with cibirEncoding := true } }
  | .greaseQuicBit => { tp with flags := { tp.flags with greaseQuicBit := true } }
  | .reliableResetEnabled => { tp with flags := { tp.flags with reliableResetEnabled := true } }
  | .enableTimestamp => { tp with flags := tp.flags.orTimestamp (payloadVarInt payload) }

theorem tryReadVarInt_ne_none (payload : List UInt8) (varIntLength : Nat) :
    tryReadVarInt payload varIntLength ≠ none :=
  quicVarIntDecode_ne_none le_rfl

theorem tryReadVarInt_zero (payload : List UInt8) :
    tryReadVarInt payload 0 = some none ∧ payloadVarInt? payload = none ∨
      ∃ value next, tryReadVarInt payload 0 = some (some (value, next)) ∧
        payloadVarInt? payload = some value ∧ payloadVarInt payload = value := by
  unfold payloadVarInt payloadVarInt?
  match read : tryReadVarInt payload 0 with
  | none => exact absurd read (tryReadVarInt_ne_none payload 0)
  | some none => exact Or.inl ⟨rfl, rfl⟩
  | some (some (value, next)) => exact Or.inr ⟨value, next, rfl, rfl, rfl⟩

/-- The spec of the shared varint case: it goes on exactly when a value fits
and is in range, and then writes that value and the flag. -/
theorem readVarIntParameter_spec (payload : List UInt8) (tp : TransportParameters)
    (store : TransportParameters → Nat → TransportParameters) (inRange : Nat → Bool)
    (mark : QuicTpFlags → QuicTpFlags) :
    (readVarIntParameter payload tp store inRange mark).map Prod.fst =
        some ((payloadVarInt? payload).any inRange) ∧
      ((payloadVarInt? payload).any inRange = true →
        readVarIntParameter payload tp store inRange mark =
          some (true, { store tp (payloadVarInt payload) with flags := mark (store tp (payloadVarInt payload)).flags })) := by
  unfold readVarIntParameter
  rcases tryReadVarInt_zero payload with ⟨read, none⟩ | ⟨value, next, read, some, value⟩
  · simp [read, none, pure]
  · simp only [read, some, value, Option.any_some, Option.bind_eq_bind, Option.some_bind]
    split <;> simp_all [pure]

/-- One step's refinement: the `switch` goes on exactly when `accepts` says so,
and then leaves what `apply` says. -/
theorem decodeParameter_spec (isServerTP allocOk : Bool) (payload : List UInt8)
    (tp : TransportParameters) (k : QuicTpId) :
    (decodeParameter isServerTP allocOk payload tp (some k)).map Prod.fst =
        some (k.accepts isServerTP payload) ∧
      (k.accepts isServerTP payload = true →
        decodeParameter isServerTP allocOk payload tp (some k) = some (true, k.apply allocOk payload tp)) := by
  cases k
  all_goals simp only [decodeParameter, QuicTpId.accepts, QuicTpId.apply]
  all_goals first
    | exact readVarIntParameter_spec payload tp _ _ _
    | skip
  case originalDestinationConnectionId | retrySourceConnectionId | initialSourceConnectionId =>
    unfold readConnectionIdParameter
    by_cases fits : payload.length ≤ quicMaxConnectionIdLengthV1
    · cases isServerTP <;> simp [fits, Nat.not_lt.mpr fits, pure]
    · cases isServerTP <;> simp [fits, Nat.lt_of_not_le fits, pure]
  case statelessResetToken =>
    unfold readStatelessResetToken
    by_cases exact : payload.length = quicStatelessResetTokenLength <;> cases isServerTP <;>
      simp [exact, pure]
  case disableActiveMigration | disable1rttEncryption | greaseQuicBit | reliableResetEnabled =>
    unfold readEmptyParameter
    by_cases empty : payload.length = 0 <;> simp [empty, pure]
  case preferredAddress => cases isServerTP <;> simp [pure]
  case versionNegotiationExt =>
    unfold readVersionNegotiationExt
    by_cases empty : 0 < payload.length <;> cases allocOk <;> simp [empty, pure]
  case initialMaxStreamsBidi | enableTimestamp =>
    first | unfold readInitialMaxStreamsBidi | unfold readEnableTimestamp
    rcases tryReadVarInt_zero payload with ⟨read, none⟩ | ⟨value, next, read, some, value⟩
    · simp [read, none, pure]
    · simp only [read, some, value, Option.any_some, Option.bind_eq_bind, Option.some_bind]
      split <;> simp_all [pure]
  case cibirEncoding =>
    unfold readCibirEncoding cibirValues?
    match first : tryReadVarInt payload 0 with
    | none => exact absurd first (tryReadVarInt_ne_none _ _)
    | some none => simp [pure]
    | some (some (l, next)) =>
      simp only [Option.bind_eq_bind, Option.some_bind]
      by_cases range : l = 0 ∨ quicMaxConnectionIdLengthInvariant < l
      · match tryReadVarInt payload next with
        | none | some none | some (some _) => simp [range, pure] <;> omega
      · match second : tryReadVarInt payload next with
        | none => exact absurd second (tryReadVarInt_ne_none _ _)
        | some none => simp [range, pure]
        | some (some (o, _)) =>
          by_cases sum : quicMaxConnectionIdLengthInvariant < o ∨
            quicMaxConnectionIdLengthInvariant < l + o <;> simp [range, sum, pure] <;> omega

/-- A case that goes on either had no label (`default:`) and left the record,
or accepted its payload and applied it. -/
theorem decodeParameter_eq_true {isServerTP allocOk : Bool} {payload : List UInt8}
    {tp tp' : TransportParameters} {label : Option QuicTpId}
    (step : decodeParameter isServerTP allocOk payload tp label = some (true, tp')) :
    label = none ∧ tp' = tp ∨
      ∃ k, label = some k ∧ k.accepts isServerTP payload = true ∧ tp' = k.apply allocOk payload tp := by
  cases label with
  | none =>
    simp only [decodeParameter, Option.pure_def, Option.some.injEq, Prod.mk.injEq, true_and] at step
    exact .inl ⟨rfl, step.symm⟩
  | some k =>
    obtain ⟨goOn, accept⟩ := decodeParameter_spec isServerTP allocOk payload tp k
    rw [step, Option.map_some', Option.some.injEq] at goOn
    have applied := accept goOn.symm
    rw [step, Option.some.injEq, Prod.mk.injEq] at applied
    exact .inr ⟨k, rfl, goOn.symm, applied.2⟩

/-- A case whose payload is refused exits the loop. -/
theorem decodeParameter_of_rejected {isServerTP allocOk : Bool} {payload : List UInt8}
    {tp : TransportParameters} {k : QuicTpId} (refused : k.accepts isServerTP payload = false) :
    ∃ tp', decodeParameter isServerTP allocOk payload tp (some k) = some (false, tp') := by
  have goOn := (decodeParameter_spec isServerTP allocOk payload tp k).1
  rw [refused] at goOn
  match result : decodeParameter isServerTP allocOk payload tp (some k) with
  | none => rw [result] at goOn; cases goOn
  | some (goOn', tp') =>
    rw [result, Option.map_some', Option.some.injEq] at goOn
    exact ⟨tp', by rw [show goOn' = false from goOn]⟩

end CryptoTls
