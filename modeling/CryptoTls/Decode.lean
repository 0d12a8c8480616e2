import CryptoTls.TransportParams

namespace CryptoTls

/-- `TRY_READ_VAR_INT(Param)`: a varint at `VarIntLength` of the parameter's
`Length` payload bytes. -/
def tryReadVarInt (payload : List UInt8) (varIntLength : Nat) : Option (Option (Nat × Nat)) :=
  quicVarIntDecode payload.length payload varIntLength

/-- The `case` of a varint-valued parameter: `TRY_READ_VAR_INT` into the
field that `store` writes, the range checks `inRange`, then the flag that
`mark` sets. The value is stored before it is checked. The result is
`(goOn, record)`, `goOn = false` being `goto Exit`. -/
def readVarIntParameter (payload : List UInt8) (tp : TransportParameters)
    (store : TransportParameters → Nat → TransportParameters) (inRange : Nat → Bool)
    (mark : QuicTpFlags → QuicTpFlags) : Option (Bool × TransportParameters) := do
  let some (value, _) ← tryReadVarInt payload 0 | pure (false, tp)
  let tp := store tp value
  if inRange value then pure (true, { tp with flags := mark tp.flags }) else pure (false, tp)

/-- The `case` of a connection ID parameter: at most 20 bytes, the
server-only ones refused in a client's parameters, then the bytes copied. -/
def readConnectionIdParameter (isServerTP serverOnly : Bool) (payload : List UInt8)
    (tp : TransportParameters) (store : TransportParameters → List UInt8 → TransportParameters)
    (mark : QuicTpFlags → QuicTpFlags) : Option (Bool × TransportParameters) :=
  if payload.length > quicMaxConnectionIdLengthV1 then pure (false, tp)
  else if serverOnly && !isServerTP then pure (false, tp)
  else pure (true, { store tp payload with flags := mark tp.flags })

/-- The `case` of a parameter that is a flag only: an empty payload. -/
def readEmptyParameter (payload : List UInt8) (tp : TransportParameters)
    (mark : QuicTpFlags → QuicTpFlags) : Option (Bool × TransportParameters) :=
  if payload.length ≠ 0 then pure (false, tp) else pure (true, { tp with flags := mark tp.flags })

/-- `case QUIC_TP_ID_INITIAL_MAX_STREAMS_BIDI`, which makes its range check
twice. -/
def readInitialMaxStreamsBidi (payload : List UInt8) (tp : TransportParameters) :
    Option (Bool × TransportParameters) := do
  let some (value, _) ← tryReadVarInt payload 0 | pure (false, tp)
  let tp := { tp with initialMaxBidiStreams := value }
  if value > quicTpMaxStreamsMax then return (false, tp)
  if value > quicTpMaxStreamsMax then return (false, tp)
  pure (true, { tp with flags := { tp.flags with initialMaxStrmsBidi := true } })

/-- `case QUIC_TP_ID_STATELESS_RESET_TOKEN`. -/
def readStatelessResetToken (isServerTP : Bool) (payload : List UInt8) (tp : TransportParameters) :
    Option (Bool × TransportParameters) :=
  if exact : payload.length = quicStatelessResetTokenLength then
    if !isServerTP then pure (false, tp)
    else pure (true, { tp with
      flags := { tp.flags with statelessResetToken := true }
      statelessResetToken := ⟨payload, exact⟩ })
  else pure (false, tp)

/-- `case QUIC_TP_ID_CIBIR_ENCODING`: two varints read one after the other,
each stored as soon as it is read, under one chain of `||` checks. -/
def readCibirEncoding (payload : List UInt8) (tp : TransportParameters) :
    Option (Bool × TransportParameters) := do
  let some (cibirLength, varIntLength) ← tryReadVarInt payload 0 | pure (false, tp)
  let tp := { tp with cibirLength }
  if cibirLength < 1 || cibirLength > quicMaxConnectionIdLengthInvariant then return (false, tp)
  let some (cibirOffset, _) ← tryReadVarInt payload varIntLength | pure (false, tp)
  let tp := { tp with cibirOffset }
  if cibirOffset > quicMaxConnectionIdLengthInvariant ||
      cibirLength + cibirOffset > quicMaxConnectionIdLengthInvariant then return (false, tp)
  pure (true, { tp with flags := { tp.flags with cibirEncoding := true } })

/-- `case QUIC_TP_ID_VERSION_NEGOTIATION_EXT`. A failed allocation
(`allocOk = false`) leaves `VersionInfo` NULL and breaks out of the switch
without setting the flag; the loop goes on. -/
def readVersionNegotiationExt (allocOk : Bool) (payload : List UInt8) (tp : TransportParameters) :
    Option (Bool × TransportParameters) :=
  if payload.length > 0 then
    if !allocOk then pure (true, { tp with versionInfo := none })
    else pure (true, { tp with
      versionInfo := some payload
      flags := { tp.flags with versionNegotiation := true }
      versionInfoLength := payload.length })
  else pure (true, { tp with
    versionInfo := none
    flags := { tp.flags with versionNegotiation := true }
    versionInfoLength := payload.length })

/-- `case QUIC_TP_ID_ENABLE_TIMESTAMP`: the value goes into `Flags` only. -/
def readEnableTimestamp (payload : List UInt8) (tp : TransportParameters) :
    Option (Bool × TransportParameters) := do
  let some (value, _) ← tryReadVarInt payload 0 | pure (false, tp)
  if value > 3 then return (false, tp)
  pure (true, { tp with flags := tp.flags.orTimestamp value })

/-- The body of `switch (Id)` for a case label. `payload` is the parameter's
`Length` bytes at `TPBuf + Offset`, the source of every copy and varint read
of the case. -/
def decodeParameter (isServerTP allocOk : Bool) (payload : List UInt8) (tp : TransportParameters) :
    Option QuicTpId → Option (Bool × TransportParameters)
  | some .originalDestinationConnectionId =>
    readConnectionIdParameter isServerTP true payload tp
      (fun tp cid => { tp with originalDestinationConnectionId := cid })
      (fun f => { f with originalDestinationConnectionId := true })
  | some .idleTimeout =>
    readVarIntParameter payload tp (fun tp v => { tp with idleTimeout := v }) (fun _ => true)
      (fun f => { f with idleTimeout := true })
  | some .statelessResetToken => readStatelessResetToken isServerTP payload tp
  | some .maxUdpPayloadSize =>
    readVarIntParameter payload tp (fun tp v => { tp with maxUdpPayloadSize := v })
      (fun v => !(v < quicTpMaxUdpPayloadSizeMin) && !(v > quicTpMaxUdpPayloadSizeMax))
      (fun f => { f with maxUdpPayloadSize := true })
  | some .initialMaxData =>
    readVarIntParameter payload tp (fun tp v => { tp with initialMaxData := v }) (fun _ => true)
      (fun f => { f with initialMaxData := true })
  | some .initialMaxStreamDataBidiLocal =>
    readVarIntParameter payload tp (fun tp v => { tp with initialMaxStreamDataBidiLocal := v })
      (fun _ => true) (fun f => { f with initialMaxStrmDataBidiLocal := true })
  | some .initialMaxStreamDataBidiRemote =>
    readVarIntParameter payload tp (fun tp v => { tp with initialMaxStreamDataBidiRemote := v })
      (fun _ => true) (fun f => { f with initialMaxStrmDataBidiRemote := true })
  | some .initialMaxStreamDataUni =>
    readVarIntParameter payload tp (fun tp v => { tp with initialMaxStreamDataUni := v })
      (fun _ => true) (fun f => { f with initialMaxStrmDataUni := true })
  | some .initialMaxStreamsBidi => readInitialMaxStreamsBidi payload tp
  | some .initialMaxStreamsUni =>
    readVarIntParameter payload tp (fun tp v => { tp with initialMaxUniStreams := v })
      (fun v => !(v > quicTpMaxStreamsMax)) (fun f => { f with initialMaxStrmsUni := true })
  | some .ackDelayExponent =>
    readVarIntParameter payload tp (fun tp v => { tp with ackDelayExponent := v })
      (fun v => !(v > quicTpAckDelayExponentMax)) (fun f => { f with ackDelayExponent := true })
  | some .maxAckDelay =>
    readVarIntParameter payload tp (fun tp v => { tp with maxAckDelay := v })
      (fun v => !(v > quicTpMaxAckDelayMax)) (fun f => { f with maxAckDelay := true })
  | some .disableActiveMigration =>
    readEmptyParameter payload tp (fun f => { f with disableActiveMigration := true })
  | some .preferredAddress => if !isServerTP then pure (false, tp) else pure (true, tp)
  | some .activeConnectionIdLimit =>
    readVarIntParameter payload tp (fun tp v => { tp with activeConnectionIdLimit := v })
      (fun v => !(v < quicTpActiveConnectionIdLimitMin))
      (fun f => { f with activeConnectionIdLimit := true })
  | some .initialSourceConnectionId =>
    readConnectionIdParameter isServerTP false payload tp
      (fun tp cid => { tp with initialSourceConnectionId := cid })
      (fun f => { f with initialSourceConnectionId := true })
  | some .retrySourceConnectionId =>
    readConnectionIdParameter isServerTP true payload tp
      (fun tp cid => { tp with retrySourceConnectionId := cid })
      (fun f => { f with retrySourceConnectionId := true })
  | some .maxDatagramFrameSize =>
    readVarIntParameter payload tp (fun tp v => { tp with maxDatagramFrameSize := v })
      (fun _ => true) (fun f => { f with maxDatagramFrameSize := true })
  | some .cibirEncoding => readCibirEncoding payload tp
  | some .disable1rttEncryption =>
    readEmptyParameter payload tp (fun f => { f with disable1rttEncryption := true })
  | some .versionNegotiationExt => readVersionNegotiationExt allocOk payload tp
  | some .minAckDelay =>
    readVarIntParameter payload tp (fun tp v => { tp with minAckDelay := v })
      (fun v => !(v > quicTpMinAckDelayMax)) (fun f => { f with minAckDelay := true })
  | some .greaseQuicBit => readEmptyParameter payload tp (fun f => { f with greaseQuicBit := true })
  | some .reliableResetEnabled =>
    readEmptyParameter payload tp (fun f => { f with reliableResetEnabled := true })
  | some .enableTimestamp => readEnableTimestamp payload tp
  | none => pure (true, tp)

/-- The local variables of the parameter loop. -/
structure DecodeState where
  paramsPresent : Nat
  offset : Nat
  transportParams : TransportParameters

/-- One pass of `while (Offset < TPLen)`: `some (true, s)` to go round again,
`some (false, s)` for `goto Exit`, `none` for a read outside `TPBuf`. The
`uint16_t` narrowing of `ParamLength` and the `uint16_t` sum `Offset + Length`
are taken modulo `2 ^ 16`. -/
def decodeIteration (isServerTP allocOk : Bool) (tpBuf : List UInt8) (s : DecodeState) :
    Option (Bool × DecodeState) := do
  let tpLen := tpBuf.length
  let some (id, offset) ← quicVarIntDecode tpLen tpBuf s.offset | pure (false, s)
  if id < 64 && s.paramsPresent.testBit id then return (false, { s with offset })
  let paramsPresent := if id < 64 then s.paramsPresent ||| 1 <<< id else s.paramsPresent
  let some (paramLength, offset) ← quicVarIntDecode tpLen tpBuf offset
    | pure (false, { s with offset, paramsPresent })
  if paramLength + offset > tpLen then return (false, { s with offset, paramsPresent })
  let length := paramLength % 2 ^ 16
  let payload ← readBytes tpBuf offset length
  let (goOn, transportParams) ←
    decodeParameter isServerTP allocOk payload s.transportParams (QuicTpId.ofNat? id)
  pure (goOn, { paramsPresent, offset := (offset + length) % 2 ^ 16, transportParams })

/-- The check after the loop: a minimum ack delay, in microseconds, above the
maximum ack delay, in milliseconds, is refused. -/
def minAckDelayAccepted (tp : TransportParameters) : Bool :=
  !(tp.flags.minAckDelay && tp.minAckDelay > msToUs tp.maxAckDelay)

/-- The parameter loop, run at most `fuel` times (`none` when the fuel runs
out), then the check after it. -/
def decodeLoop (isServerTP allocOk : Bool) (tpBuf : List UInt8) :
    Nat → DecodeState → Option (Bool × TransportParameters)
  | 0, _ => none
  | fuel + 1, s =>
    if s.offset < tpBuf.length then do
      let (goOn, s) ← decodeIteration isServerTP allocOk tpBuf s
      if goOn then decodeLoop isServerTP allocOk tpBuf fuel s else pure (false, s.transportParams)
    else pure (minAckDelayAccepted s.transportParams, s.transportParams)

/-- `QuicCryptoTlsDecodeTransportParameters` on `TPLen = tpBuf.length` bytes:
its BOOLEAN result and the record it leaves. The record passed in is released
and zeroed first, so only the ownership model (which frees its `VersionInfo`)
takes it as input. `allocOk` is whether the `VersionInfo` allocation
succeeds. The loop has fuel for `TPLen + 1` passes. -/
def quicCryptoTlsDecodeTransportParameters (isServerTP allocOk : Bool) (tpBuf : List UInt8) :
    Option (Bool × TransportParameters) :=
  decodeLoop isServerTP allocOk tpBuf (tpBuf.length + 1)
    { paramsPresent := 0, offset := 0, transportParams := .initial }

end CryptoTls
