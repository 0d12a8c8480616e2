import CryptoTls.VarInt
import Mathlib.Data.Vector.Basic

namespace CryptoTls

/-- The transport parameters that `QuicCryptoTlsDecodeTransportParameters`
has a `case` for, in the order of their `QUIC_TP_ID_*` definitions. -/
inductive QuicTpId
  | originalDestinationConnectionId | idleTimeout | statelessResetToken | maxUdpPayloadSize
  | initialMaxData | initialMaxStreamDataBidiLocal | initialMaxStreamDataBidiRemote
  | initialMaxStreamDataUni | initialMaxStreamsBidi | initialMaxStreamsUni | ackDelayExponent
  | maxAckDelay | disableActiveMigration | preferredAddress | activeConnectionIdLimit
  | initialSourceConnectionId | retrySourceConnectionId | maxDatagramFrameSize
  | disable1rttEncryption | versionNegotiationExt | minAckDelay | cibirEncoding | greaseQuicBit
  | reliableResetEnabled | enableTimestamp
  deriving DecidableEq, Repr

/-- The value of each `QUIC_TP_ID_*` macro. -/
def QuicTpId.toNat : QuicTpId → Nat
  | .originalDestinationConnectionId => 0
  | .idleTimeout => 1
  | .statelessResetToken => 2
  | .maxUdpPayloadSize => 3
  | .initialMaxData => 4
  | .initialMaxStreamDataBidiLocal => 5
  | .initialMaxStreamDataBidiRemote => 6
  | .initialMaxStreamDataUni => 7
  | .initialMaxStreamsBidi => 8
  | .initialMaxStreamsUni => 9
  | .ackDelayExponent => 10
  | .maxAckDelay => 11
  | .disableActiveMigration => 12
  | .preferredAddress => 13
  | .activeConnectionIdLimit => 14
  | .initialSourceConnectionId => 15
  | .retrySourceConnectionId => 16
  | .maxDatagramFrameSize => 32
  | .disable1rttEncryption => 0xBAAD
  | .versionNegotiationExt => 0x11
  | .minAckDelay => 0xFF04DE1B
  | .cibirEncoding => 0x1000
  | .greaseQuicBit => 0x2AB2
  | .reliableResetEnabled => 0x17f7586d2cb570
  | .enableTimestamp => 0x7158

/-- Every case label of the decoder's switch. -/
def QuicTpId.all : List QuicTpId :=
  [.originalDestinationConnectionId, .idleTimeout, .statelessResetToken, .maxUdpPayloadSize,
    .initialMaxData, .initialMaxStreamDataBidiLocal, .initialMaxStreamDataBidiRemote,
    .initialMaxStreamDataUni, .initialMaxStreamsBidi, .initialMaxStreamsUni, .ackDelayExponent,
    .maxAckDelay, .disableActiveMigration, .preferredAddress, .activeConnectionIdLimit,
    .initialSourceConnectionId, .retrySourceConnectionId, .maxDatagramFrameSize,
    .disable1rttEncryption, .versionNegotiationExt, .minAckDelay, .cibirEncoding, .greaseQuicBit,
    .reliableResetEnabled, .enableTimestamp]

/-- The case label `switch (Id)` jumps to; `none` is its `default:`. -/
def QuicTpId.ofNat? (id : Nat) : Option QuicTpId :=
  QuicTpId.all.find? (·.toNat = id)

/-- `QuicTpIdIsReserved`: the identifiers `31 * N + 27` kept for exercising
the rule that unknown parameters are ignored. -/
def quicTpIdIsReserved (id : Nat) : Bool :=
  id % 31 = 27

/-- `Flags` of `QUIC_TRANSPORT_PARAMETERS`. Modelled from the spec: the
`QUIC_TP_FLAG_*` bits are defined outside src/, and the spec gives one bit per
parameter plus the two timestamp bits; each bit is a field here, so no value
has a bit outside the documented ones. -/
@[ext] structure QuicTpFlags where
  originalDestinationConnectionId : Bool := false
  idleTimeout : Bool := false
  statelessResetToken : Bool := false
  maxUdpPayloadSize : Bool := false
  initialMaxData : Bool := false
  initialMaxStrmDataBidiLocal : Bool := false
  initialMaxStrmDataBidiRemote : Bool := false
  initialMaxStrmDataUni : Bool := false
  initialMaxStrmsBidi : Bool := false
  initialMaxStrmsUni : Bool := false
  ackDelayExponent : Bool := false
  maxAckDelay : Bool := false
  disableActiveMigration : Bool := false
  preferredAddress : Bool := false
  activeConnectionIdLimit : Bool := false
  initialSourceConnectionId : Bool := false
  retrySourceConnectionId : Bool := false
  maxDatagramFrameSize : Bool := false
  disable1rttEncryption : Bool := false
  versionNegotiation : Bool := false
  minAckDelay : Bool := false
  cibirEncoding : Bool := false
  greaseQuicBit : Bool := false
  reliableResetEnabled : Bool := false
  timestampSendEnabled : Bool := false
  timestampRecvEnabled : Bool := false
  deriving DecidableEq, Repr

/-- `(Flags & (QUIC_TP_FLAG_TIMESTAMP_SEND_ENABLED | QUIC_TP_FLAG_TIMESTAMP_RECV_ENABLED))
>> QUIC_TP_FLAG_TIMESTAMP_SHIFT`, the value the encoder writes. -/
def QuicTpFlags.timestampValue (flags : QuicTpFlags) : Nat :=
  (if flags.timestampSendEnabled then 1 else 0) + (if flags.timestampRecvEnabled then 2 else 0)

/-- `Flags |= (uint32_t)(value << QUIC_TP_FLAG_TIMESTAMP_SHIFT)` for a decoded
`value` of at most 3. -/
def QuicTpFlags.orTimestamp (flags : QuicTpFlags) (value : Nat) : QuicTpFlags :=
  { flags with
    timestampSendEnabled := flags.timestampSendEnabled || value % 2 == 1
    timestampRecvEnabled := flags.timestampRecvEnabled || value / 2 % 2 == 1 }

/-- `QUIC_TRANSPORT_PARAMETERS`. Modelled from the spec: the struct is
declared outside src/. `VersionInfo` points to a `Buffer`: its bytes in the
codec, a heap address in the ownership model. A connection ID is the first
`...IDLength` bytes of its 20-byte array. `PreferredAddress` is left out: no
modelled function reads or writes it. The defaults are the zeroed memory. -/
@[ext] structure QuicTransportParameters (Buffer : Type) where
  flags : QuicTpFlags := {}
  idleTimeout : Nat := 0
  initialMaxStreamDataBidiLocal : Nat := 0
  initialMaxStreamDataBidiRemote : Nat := 0
  initialMaxStreamDataUni : Nat := 0
  initialMaxData : Nat := 0
  initialMaxBidiStreams : Nat := 0
  initialMaxUniStreams : Nat := 0
  maxUdpPayloadSize : Nat := 0
  ackDelayExponent : Nat := 0
  maxAckDelay : Nat := 0
  minAckDelay : Nat := 0
  activeConnectionIdLimit : Nat := 0
  maxDatagramFrameSize : Nat := 0
  cibirLength : Nat := 0
  cibirOffset : Nat := 0
  statelessResetToken : Mathlib.Vector UInt8 16 := Mathlib.Vector.replicate 16 0
  originalDestinationConnectionId : List UInt8 := []
  initialSourceConnectionId : List UInt8 := []
  retrySourceConnectionId : List UInt8 := []
  versionInfoLength : Nat := 0
  versionInfo : Option Buffer := none
  deriving DecidableEq

/-- The transport parameters of the codec, version info held as its bytes. -/
abbrev TransportParameters := QuicTransportParameters (List UInt8)

/-- Modelled from the spec: the `QUIC_STATUS` codes the functions of this file
return (its three error shapes, and `OutOfMemory` of the copy). -/
inductive QuicStatus
  | success
  | pending
  | invalidParameter
  | outOfMemory
  deriving DecidableEq, Repr

/-- Modelled from the spec: `QUIC_FAILED`, true of the error codes. Pending
means more bytes are needed and is not an error. -/
def QuicStatus.failed : QuicStatus → Bool
  | .success | .pending => false
  | .invalidParameter | .outOfMemory => true

/-- Modelled from the spec (section 4.5), as every limit and default here:
`QUIC_MAX_CONNECTION_ID_LENGTH_V1`. -/
def quicMaxConnectionIdLengthV1 : Nat := 20

/-- Modelled from the spec: `QUIC_MAX_CONNECTION_ID_LENGTH_INVARIANT`. -/
def quicMaxConnectionIdLengthInvariant : Nat := 20

/-- Modelled from the spec: `QUIC_STATELESS_RESET_TOKEN_LENGTH`. -/
def quicStatelessResetTokenLength : Nat := 16

/-- Modelled from the spec: `QUIC_TP_MAX_PACKET_SIZE_DEFAULT`. -/
def quicTpMaxPacketSizeDefault : Nat := 65527

/-- Modelled from the spec: `QUIC_TP_ACK_DELAY_EXPONENT_DEFAULT`. -/
def quicTpAckDelayExponentDefault : Nat := 3

/-- Modelled from the spec: `QUIC_TP_MAX_ACK_DELAY_DEFAULT`. -/
def quicTpMaxAckDelayDefault : Nat := 25

/-- Modelled from the spec: `QUIC_TP_ACTIVE_CONNECTION_ID_LIMIT_DEFAULT`. -/
def quicTpActiveConnectionIdLimitDefault : Nat := 2

/-- Modelled from the spec: `QUIC_TP_MAX_UDP_PAYLOAD_SIZE_MIN`. -/
def quicTpMaxUdpPayloadSizeMin : Nat := 1200

/-- Modelled from the spec: `QUIC_TP_MAX_UDP_PAYLOAD_SIZE_MAX`. -/
def quicTpMaxUdpPayloadSizeMax : Nat := 65527

/-- Modelled from the spec: `QUIC_TP_MAX_STREAMS_MAX`. -/
def quicTpMaxStreamsMax : Nat := 2 ^ 60

/-- Modelled from the spec: `QUIC_TP_ACK_DELAY_EXPONENT_MAX`. -/
def quicTpAckDelayExponentMax : Nat := 20

/-- Modelled from the spec: `QUIC_TP_MAX_ACK_DELAY_MAX`. -/
def quicTpMaxAckDelayMax : Nat := 2 ^ 14 - 1

/-- Modelled from the spec: `QUIC_TP_ACTIVE_CONNECTION_ID_LIMIT_MIN`. -/
def quicTpActiveConnectionIdLimitMin : Nat := 2

/-- Modelled from the spec: `QUIC_TP_MIN_ACK_DELAY_MAX`. -/
def quicTpMinAckDelayMax : Nat := 2 ^ 24 - 1

/-- `MS_TO_US`: milliseconds to microseconds. -/
def msToUs (ms : Nat) : Nat := ms * 1000

/-- `US_TO_MS`: microseconds to whole milliseconds, rounding down. -/
def usToMs (us : Nat) : Nat := us / 1000

/-- The record the decoder starts from: `CxPlatZeroMemory`, then the four
defaults. -/
def QuicTransportParameters.initial {Buffer : Type} : QuicTransportParameters Buffer :=
  { maxUdpPayloadSize := quicTpMaxPacketSizeDefault
    ackDelayExponent := quicTpAckDelayExponentDefault
    maxAckDelay := quicTpMaxAckDelayDefault
    activeConnectionIdLimit := quicTpActiveConnectionIdLimitDefault }

theorem QuicTpId.ofNat?_toNat (id : QuicTpId) : QuicTpId.ofNat? id.toNat = some id := by
  cases id <;> rfl

theorem QuicTpId.toNat_of_ofNat? {id : Nat} {label : QuicTpId} (found : QuicTpId.ofNat? id = some label) :
    label.toNat = id := by
  simpa using List.find?_some found

theorem QuicTpId.toNat_injective : Function.Injective QuicTpId.toNat := by
  intro a b same
  simpa [QuicTpId.ofNat?_toNat] using congrArg QuicTpId.ofNat? same

@[simp] theorem QuicTpFlags.timestampValue_le (flags : QuicTpFlags) : flags.timestampValue ≤ 3 := by
  unfold QuicTpFlags.timestampValue
  split_ifs <;> omega

end CryptoTls
