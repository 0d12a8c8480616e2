import CryptoTls.Decode
import Mathlib.Algebra.BigOperators.Group.List

namespace CryptoTls

/-- `QUIC_PRIVATE_TRANSPORT_PARAMETER`. Modelled from the spec: the struct is
declared outside src/; the encoder reads its `Type`, its `Length` and its
`Buffer` (`none` for NULL). -/
structure QuicPrivateTransportParameter where
  type : Nat
  length : Nat
  buffer : Option (List UInt8)
  deriving DecidableEq, Repr

/-- `TlsTransportParamLength`: the bytes a parameter takes, its identifier and
length varints included. -/
def tlsTransportParamLength (id length : Nat) : Nat :=
  quicVarIntSize id + quicVarIntSize length + length

/-- `TlsWriteTransportParam`: the identifier, the `uint16_t` length, then
`Length` bytes copied from `Param` unless it is NULL; `none` for a copy that
reads past `Param`. -/
def tlsWriteTransportParam (id length : Nat) (param : Option (List UInt8)) : Option (List UInt8) :=
  match param with
  | some bytes =>
    (readBytes bytes 0 length).map fun copied => quicVarIntEncode id ++ quicVarIntEncode length ++ copied
  | none => some (quicVarIntEncode id ++ quicVarIntEncode length)

/-- `TlsWriteTransportParamVarInt`: the identifier, the value's size, the
value. -/
def tlsWriteTransportParamVarInt (id value : Nat) : List UInt8 :=
  quicVarIntEncode id ++ quicVarIntEncode (quicVarIntSize value) ++ quicVarIntEncode value

/-- The `CXPLAT_FRE_ASSERT`s of pass 1, which stop the process: a flagged
connection ID over 20 bytes, or `PREFERRED_ADDRESS`, which is not implemented. -/
def encodeAborts (tp : TransportParameters) : Bool :=
  (tp.flags.originalDestinationConnectionId &&
      tp.originalDestinationConnectionId.length > quicMaxConnectionIdLengthV1) ||
    tp.flags.preferredAddress ||
    (tp.flags.initialSourceConnectionId && tp.initialSourceConnectionId.length > quicMaxConnectionIdLengthV1) ||
    (tp.flags.retrySourceConnectionId && tp.retrySourceConnectionId.length > quicMaxConnectionIdLengthV1)

/-- One `if (TransportParams->Flags & ...)` of pass 1: what it adds to
`RequiredTPLen`. -/
@[noinline] def flaggedLength (flag : Bool) (length : Nat) : Nat :=
  if flag then length else 0

/-- One `if (TransportParams->Flags & ...)` of pass 2: what it writes. -/
@[noinline] def flaggedWrite (flag : Bool) (written : Option (List UInt8)) : Option (List UInt8) :=
  if flag then written else some []

/-- Pass 1 of `QuicCryptoTlsEncodeTransportParameters`, one entry per `if`:
what it adds to `RequiredTPLen` (nothing when its flag is clear). -/
def encodePass1 (tp : TransportParameters) (testParam : Option QuicPrivateTransportParameter) : List Nat :=
  [flaggedLength tp.flags.originalDestinationConnectionId
      (tlsTransportParamLength QuicTpId.originalDestinationConnectionId.toNat
        tp.originalDestinationConnectionId.length),
    flaggedLength tp.flags.idleTimeout
      (tlsTransportParamLength QuicTpId.idleTimeout.toNat (quicVarIntSize tp.idleTimeout)),
    flaggedLength tp.flags.statelessResetToken
      (tlsTransportParamLength QuicTpId.statelessResetToken.toNat quicStatelessResetTokenLength),
    flaggedLength tp.flags.maxUdpPayloadSize
      (tlsTransportParamLength QuicTpId.maxUdpPayloadSize.toNat (quicVarIntSize tp.maxUdpPayloadSize)),
    flaggedLength tp.flags.initialMaxData
      (tlsTransportParamLength QuicTpId.initialMaxData.toNat (quicVarIntSize tp.initialMaxData)),
    flaggedLength tp.flags.initialMaxStrmDataBidiLocal
      (tlsTransportParamLength QuicTpId.initialMaxStreamDataBidiLocal.toNat
        (quicVarIntSize tp.initialMaxStreamDataBidiLocal)),
    flaggedLength tp.flags.initialMaxStrmDataBidiRemote
      (tlsTransportParamLength QuicTpId.initialMaxStreamDataBidiRemote.toNat
        (quicVarIntSize tp.initialMaxStreamDataBidiRemote)),
    flaggedLength tp.flags.initialMaxStrmDataUni
      (tlsTransportParamLength QuicTpId.initialMaxStreamDataUni.toNat
        (quicVarIntSize tp.initialMaxStreamDataUni)),
    flaggedLength tp.flags.initialMaxStrmsBidi
      (tlsTransportParamLength QuicTpId.initialMaxStreamsBidi.toNat (quicVarIntSize tp.initialMaxBidiStreams)),
    flaggedLength tp.flags.initialMaxStrmsUni
      (tlsTransportParamLength QuicTpId.initialMaxStreamsUni.toNat (quicVarIntSize tp.initialMaxUniStreams)),
    flaggedLength tp.flags.ackDelayExponent
      (tlsTransportParamLength QuicTpId.ackDelayExponent.toNat (quicVarIntSize tp.ackDelayExponent)),
    flaggedLength tp.flags.maxAckDelay
      (tlsTransportParamLength QuicTpId.maxAckDelay.toNat (quicVarIntSize tp.maxAckDelay)),
    flaggedLength tp.flags.disableActiveMigration (tlsTransportParamLength QuicTpId.disableActiveMigration.toNat 0),
    flaggedLength tp.flags.activeConnectionIdLimit
      (tlsTransportParamLength QuicTpId.activeConnectionIdLimit.toNat
        (quicVarIntSize tp.activeConnectionIdLimit)),
    flaggedLength tp.flags.initialSourceConnectionId
      (tlsTransportParamLength QuicTpId.initialSourceConnectionId.toNat tp.initialSourceConnectionId.length),
    flaggedLength tp.flags.retrySourceConnectionId
      (tlsTransportParamLength QuicTpId.retrySourceConnectionId.toNat tp.retrySourceConnectionId.length),
    flaggedLength tp.flags.maxDatagramFrameSize
      (tlsTransportParamLength QuicTpId.maxDatagramFrameSize.toNat (quicVarIntSize tp.maxDatagramFrameSize)),
    flaggedLength tp.flags.disable1rttEncryption (tlsTransportParamLength QuicTpId.disable1rttEncryption.toNat 0),
    flaggedLength tp.flags.versionNegotiation
      (tlsTransportParamLength QuicTpId.versionNegotiationExt.toNat tp.versionInfoLength),
    flaggedLength tp.flags.minAckDelay
      (tlsTransportParamLength QuicTpId.minAckDelay.toNat (quicVarIntSize tp.minAckDelay)),
    flaggedLength tp.flags.cibirEncoding
      (tlsTransportParamLength QuicTpId.cibirEncoding.toNat
        (quicVarIntSize tp.cibirLength + quicVarIntSize tp.cibirOffset)),
    flaggedLength tp.flags.greaseQuicBit (tlsTransportParamLength QuicTpId.greaseQuicBit.toNat 0),
    flaggedLength tp.flags.reliableResetEnabled (tlsTransportParamLength QuicTpId.reliableResetEnabled.toNat 0),
    flaggedLength (tp.flags.timestampSendEnabled || tp.flags.timestampRecvEnabled)
      (tlsTransportParamLength QuicTpId.enableTimestamp.toNat (quicVarIntSize tp.flags.timestampValue)),
    match testParam with
    | some testParam => tlsTransportParamLength testParam.type testParam.length
    | none => 0]

/-- Pass 2, one entry per `if`: the bytes it writes (none when its flag is
clear), `none` for a copy that reads past its source. -/
def encodePass2 (tp : TransportParameters) (testParam : Option QuicPrivateTransportParameter) :
    List (Option (List UInt8)) :=
  [flaggedWrite tp.flags.originalDestinationConnectionId
      (tlsWriteTransportParam QuicTpId.originalDestinationConnectionId.toNat
        tp.originalDestinationConnectionId.length (some tp.originalDestinationConnectionId)),
    flaggedWrite tp.flags.idleTimeout
      (some (tlsWriteTransportParamVarInt QuicTpId.idleTimeout.toNat tp.idleTimeout)),
    flaggedWrite tp.flags.statelessResetToken
      (tlsWriteTransportParam QuicTpId.statelessResetToken.toNat quicStatelessResetTokenLength
        (some tp.statelessResetToken.toList)),
    flaggedWrite tp.flags.maxUdpPayloadSize
      (some (tlsWriteTransportParamVarInt QuicTpId.maxUdpPayloadSize.toNat tp.maxUdpPayloadSize)),
    flaggedWrite tp.flags.initialMaxData
      (some (tlsWriteTransportParamVarInt QuicTpId.initialMaxData.toNat tp.initialMaxData)),
    flaggedWrite tp.flags.initialMaxStrmDataBidiLocal
      (some (tlsWriteTransportParamVarInt QuicTpId.initialMaxStreamDataBidiLocal.toNat
        tp.initialMaxStreamDataBidiLocal)),
    flaggedWrite tp.flags.initialMaxStrmDataBidiRemote
      (some (tlsWriteTransportParamVarInt QuicTpId.initialMaxStreamDataBidiRemote.toNat
        tp.initialMaxStreamDataBidiRemote)),
    flaggedWrite tp.flags.initialMaxStrmDataUni
      (some (tlsWriteTransportParamVarInt QuicTpId.initialMaxStreamDataUni.toNat tp.initialMaxStreamDataUni)),
    flaggedWrite tp.flags.initialMaxStrmsBidi
      (some (tlsWriteTransportParamVarInt QuicTpId.initialMaxStreamsBidi.toNat tp.initialMaxBidiStreams)),
    flaggedWrite tp.flags.initialMaxStrmsUni
      (some (tlsWriteTransportParamVarInt QuicTpId.initialMaxStreamsUni.toNat tp.initialMaxUniStreams)),
    flaggedWrite tp.flags.ackDelayExponent
      (some (tlsWriteTransportParamVarInt QuicTpId.ackDelayExponent.toNat tp.ackDelayExponent)),
    flaggedWrite tp.flags.maxAckDelay
      (some (tlsWriteTransportParamVarInt QuicTpId.maxAckDelay.toNat tp.maxAckDelay)),
    flaggedWrite tp.flags.disableActiveMigration
      (tlsWriteTransportParam QuicTpId.disableActiveMigration.toNat 0 none),
    flaggedWrite tp.flags.activeConnectionIdLimit
      (some (tlsWriteTransportParamVarInt QuicTpId.activeConnectionIdLimit.toNat tp.activeConnectionIdLimit)),
    flaggedWrite tp.flags.initialSourceConnectionId
      (tlsWriteTransportParam QuicTpId.initialSourceConnectionId.toNat tp.initialSourceConnectionId.length
        (some tp.initialSourceConnectionId)),
    flaggedWrite tp.flags.retrySourceConnectionId
      (tlsWriteTransportParam QuicTpId.retrySourceConnectionId.toNat tp.retrySourceConnectionId.length
        (some tp.retrySourceConnectionId)),
    flaggedWrite tp.flags.maxDatagramFrameSize
      (some (tlsWriteTransportParamVarInt QuicTpId.maxDatagramFrameSize.toNat tp.maxDatagramFrameSize)),
    flaggedWrite tp.flags.disable1rttEncryption
      (tlsWriteTransportParam QuicTpId.disable1rttEncryption.toNat 0 none),
    flaggedWrite tp.flags.versionNegotiation
      (tlsWriteTransportParam QuicTpId.versionNegotiationExt.toNat (tp.versionInfoLength % 2 ^ 16)
        tp.versionInfo),
    flaggedWrite tp.flags.minAckDelay
      (some (tlsWriteTransportParamVarInt QuicTpId.minAckDelay.toNat tp.minAckDelay)),
    flaggedWrite tp.flags.cibirEncoding
      (some (quicVarIntEncode QuicTpId.cibirEncoding.toNat ++
        quicVarIntEncode ((quicVarIntSize tp.cibirLength + quicVarIntSize tp.cibirOffset) % 2 ^ 8) ++
        quicVarIntEncode tp.cibirLength ++ quicVarIntEncode tp.cibirOffset)),
    flaggedWrite tp.flags.greaseQuicBit (tlsWriteTransportParam QuicTpId.greaseQuicBit.toNat 0 none),
    flaggedWrite tp.flags.reliableResetEnabled (tlsWriteTransportParam QuicTpId.reliableResetEnabled.toNat 0 none),
    flaggedWrite (tp.flags.timestampSendEnabled || tp.flags.timestampRecvEnabled)
      (some (tlsWriteTransportParamVarInt QuicTpId.enableTimestamp.toNat tp.flags.timestampValue)),
    match testParam with
    | some testParam => tlsWriteTransportParam testParam.type (testParam.length % 2 ^ 16) testParam.buffer
    | none => some []]

/-- `RequiredTPLen` after pass 1. -/
def requiredTPLen (tp : TransportParameters) (testParam : Option QuicPrivateTransportParameter) : Nat :=
  (encodePass1 tp testParam).sum

/-- What `QuicCryptoTlsEncodeTransportParameters` does: stop on a failed
`CXPLAT_FRE_ASSERT`, return NULL, or return its buffer, given as `*TPLen` and
the bytes after the `CxPlatTlsTPHeaderSize` bytes left for the TLS layer. -/
inductive EncodeResult
  | abort
  | null
  | buffer (tpLen : Nat) (tpBuf : List UInt8)
  deriving DecidableEq, Repr

/-- `QuicCryptoTlsEncodeTransportParameters` with header size `headerSize`;
`allocOk` is whether `CXPLAT_ALLOC_NONPAGED` succeeds. `none` stands for a
copy that reads past a source buffer or a write past the allocation of
`CxPlatTlsTPHeaderSize + RequiredTPLen` bytes. The `CXPLAT_DBG_ASSERT`s are
compiled out of release builds and left out; `IsServerTP` is read by them
only. -/
def quicCryptoTlsEncodeTransportParameters (headerSize : Nat) (allocOk : Bool) (tp : TransportParameters)
    (testParam : Option QuicPrivateTransportParameter) : Option EncodeResult :=
  if encodeAborts tp then some .abort else
  let requiredTPLen := (encodePass1 tp testParam).sum
  if requiredTPLen > 0xFFFF then some .null else
  if !allocOk then some .null else do
  let written ← (encodePass2 tp testParam).mapM id
  let tpBuf := written.flatten
  if tpBuf.length > requiredTPLen then none
  else if tpBuf.length ≠ requiredTPLen then some .null
  else some (.buffer (headerSize + requiredTPLen) tpBuf)

/-- The `CXPLAT_DBG_ASSERT` of pass 1 on the minimum ack delay, evaluated
inside `if (Flags & QUIC_TP_FLAG_MIN_ACK_DELAY)`: `MinAckDelay` rounded down
to milliseconds against the `MaxAckDelay` field, whether `MAX_ACK_DELAY` is
flagged or not. -/
def minAckDelayAssertion (tp : TransportParameters) : Bool :=
  (tp.flags.minAckDelay && decide (usToMs tp.minAckDelay ≤ tp.maxAckDelay)) ||
    (!tp.flags.minAckDelay && decide (usToMs tp.minAckDelay ≤ quicTpMaxAckDelayDefault))

end CryptoTls
