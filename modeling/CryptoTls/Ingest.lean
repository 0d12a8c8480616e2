import CryptoTls.Decode

namespace CryptoTls

/-- `TLS1_PROTOCOL_VERSION`. -/
def tls1ProtocolVersion : Nat := 0x0301

/-- `TLS_MESSAGE_HEADER_LENGTH`. -/
def tlsMessageHeaderLength : Nat := 4

/-- `TLS_RANDOM_LENGTH`. -/
def tlsRandomLength : Nat := 32

/-- `TLS_SESSION_ID_LENGTH`. -/
def tlsSessionIdLength : Nat := 32

/-- `TlsHandshake_ClientHello`. -/
def tlsHandshakeClientHello : Nat := 0x01

/-- `TlsExt_ServerName`. -/
def tlsExtServerName : Nat := 0x00

/-- `TlsExt_AppProtocolNegotiation`. -/
def tlsExtAppProtocolNegotiation : Nat := 0x10

/-- `TlsExt_Sni_NameType_HostName`. -/
def tlsExtSniNameTypeHostName : Nat := 0

/-- Modelled from the spec: `TLS_EXTENSION_TYPE_QUIC_TRANSPORT_PARAMETERS`,
the extension type of the transport parameters. -/
def tlsExtensionTypeQuicTransportParameters : Nat := 0x39

/-- Modelled from the spec: `TLS_EXTENSION_TYPE_QUIC_TRANSPORT_PARAMETERS_DRAFT`,
the legacy code draft-29 uses instead. -/
def tlsExtensionTypeQuicTransportParametersDraft : Nat := 0xffa5

/-- The fields of `QUIC_NEW_CONNECTION_INFO` the readers write. A pointer is
the index in the packet it points to, `none` for NULL. -/
structure QuicNewConnectionInfo where
  serverName : Option Nat := none
  serverNameLength : Nat := 0
  clientAlpnList : Option Nat := none
  clientAlpnListLength : Nat := 0
  deriving DecidableEq, Repr

/-- What the ingest path writes: `*Info`, and `Connection->PeerTransportParams`
through the transport parameter decoder. -/
structure IngestState where
  info : QuicNewConnectionInfo
  peerTransportParams : TransportParameters

/-- A zeroed `Info`, next to the record the decoder starts from. -/
def IngestState.zeroed : IngestState :=
  ⟨{}, .initial⟩

/-- The loop of `QuicCryptoTlsReadSniExtension`: one `ServerName` (a
`NameType` byte, then a `HostName` of 16-bit length) a pass, the first host
name kept in `Info`. A pass reads three bytes at least. -/
def readSniEntries : Nat → List UInt8 → Nat → Bool → QuicNewConnectionInfo →
    Option (QuicStatus × QuicNewConnectionInfo)
  | 0, _, _, _, _ => none
  | fuel + 1, buffer, base, found, info =>
    if buffer.length > 0 then do
      let nameType ← buffer[0]?
      let buffer := buffer.drop 1
      if buffer.length < 2 then return (.invalidParameter, info)
      let nameLen ← tlsReadUint16 buffer 0
      let buffer := buffer.drop 2
      if buffer.length < nameLen then return (.invalidParameter, info)
      if nameType.toNat = tlsExtSniNameTypeHostName ∧ found = false then
        readSniEntries fuel (buffer.drop nameLen) (base + 3 + nameLen) true
          { info with serverName := some (base + 3), serverNameLength := nameLen }
      else readSniEntries fuel (buffer.drop nameLen) (base + 3 + nameLen) found info
    else pure (.success, info)

/-- `QuicCryptoTlsReadSniExtension`. Like every reader of the ingest path it
is handed its bytes `Buffer[0 .. BufferLength)` as the list `buffer`, and
`base`, the index `Buffer` points to in the packet the ingest started from.
`Buffer += k; BufferLength -= k` is `buffer.drop k` at `base + k`, each after
a check that `k` bytes are left, so no `-=` wraps. A read past the bytes a
reader was handed is `none`, and so is a loop out of fuel. -/
def quicCryptoTlsReadSniExtension (buffer : List UInt8) (base : Nat) (info : QuicNewConnectionInfo) :
    Option (QuicStatus × QuicNewConnectionInfo) := do
  if buffer.length < 2 then return (.invalidParameter, info)
  -- a `NameType` and an empty `HostName` take three bytes
  let listLength ← tlsReadUint16 buffer 0
  if listLength < 3 then return (.invalidParameter, info)
  readSniEntries (buffer.length + 1) (buffer.drop 2) (base + 2) false info

/-- The loop of `QuicCryptoTlsReadAlpnExtension`: one `ProtocolName` (a
length byte, then as many bytes) a pass, checked and skipped. -/
def readAlpnEntries : Nat → List UInt8 → Option QuicStatus
  | 0, _ => none
  | fuel + 1, buffer =>
    if buffer.length > 0 then do
      let len ← buffer[0]?
      let buffer := buffer.drop 1
      if buffer.length < 1 ∨ buffer.length < len.toNat then return .invalidParameter
      readAlpnEntries fuel (buffer.drop len.toNat)
    else pure .success

/-- `QuicCryptoTlsReadAlpnExtension`. `Info` gets the protocol list before the
loop checks it. -/
def quicCryptoTlsReadAlpnExtension (buffer : List UInt8) (base : Nat) (info : QuicNewConnectionInfo) :
    Option (QuicStatus × QuicNewConnectionInfo) := do
  if buffer.length < 2 + 2 * 1 then return (.invalidParameter, info)
  let listLength ← tlsReadUint16 buffer 0
  if buffer.length ≠ listLength + 2 then return (.invalidParameter, info)
  let info := { info with clientAlpnList := some (base + 2), clientAlpnListLength := buffer.length - 2 }
  let status ← readAlpnEntries (buffer.length + 1) (buffer.drop 2)
  pure (status, info)

/-- `FoundSNI`, `FoundALPN` and `FoundTransportParameters` of
`QuicCryptoTlsReadExtensions`. -/
structure ExtensionsFound where
  sni : Bool := false
  alpn : Bool := false
  transportParameters : Bool := false
  deriving DecidableEq, Repr

/-- What one pass of the loop of `QuicCryptoTlsReadExtensions` leaves: a
status the loop returns at once, or the flags and state it goes on with. -/
abbrev ExtensionOutcome := Except (QuicStatus × IngestState) (ExtensionsFound × IngestState)

/-- The SNI and ALPN cases: a second extension of the kind is refused, and so
is one its reader refuses; `found` is the flags the loop goes on with. -/
def readInfoExtension (seen : Bool) (reader : QuicNewConnectionInfo → Option (QuicStatus × QuicNewConnectionInfo))
    (found : ExtensionsFound) (state : IngestState) : Option ExtensionOutcome := do
  if seen then return .error (.invalidParameter, state)
  let (status, info) ← reader state.info
  if status.failed then return .error (status, { state with info })
  return .ok (found, { state with info })

/-- The transport parameter case, under either type code: a second extension
is refused, and so are parameters the decoder refuses. The decoder writes
`Connection->PeerTransportParams` in place, refused or not. -/
def readTransportParametersExtension (allocOk : Bool) (extension : List UInt8) (found : ExtensionsFound)
    (state : IngestState) : Option ExtensionOutcome := do
  if found.transportParameters then return .error (.invalidParameter, state)
  let (decoded, peerTransportParams) ← quicCryptoTlsDecodeTransportParameters false allocOk extension
  let state := { state with peerTransportParams }
  if !decoded then return .error (.invalidParameter, state)
  return .ok ({ found with transportParameters := true }, state)

/-- The `if` on `ExtType` in the loop of `QuicCryptoTlsReadExtensions`. The
connection's QUIC version enters only as whether it is draft-29; other
extension types are skipped. -/
def readExtension (isDraft29 allocOk : Bool) (extType : Nat) (extension : List UInt8) (base : Nat)
    (found : ExtensionsFound) (state : IngestState) : Option ExtensionOutcome :=
  if extType = tlsExtServerName then
    readInfoExtension found.sni (quicCryptoTlsReadSniExtension extension base) { found with sni := true } state
  else if extType = tlsExtAppProtocolNegotiation then
    readInfoExtension found.alpn (quicCryptoTlsReadAlpnExtension extension base) { found with alpn := true } state
  else if !isDraft29 then
    if extType = tlsExtensionTypeQuicTransportParameters then
      readTransportParametersExtension allocOk extension found state
    else pure (.ok (found, state))
  else if extType = tlsExtensionTypeQuicTransportParametersDraft then
    readTransportParametersExtension allocOk extension found state
  else pure (.ok (found, state))

/-- The loop of `QuicCryptoTlsReadExtensions`: one extension (16-bit type,
16-bit length, data) a pass, and the check after it that the transport
parameters came. A pass reads four bytes at least. -/
def readExtensionsLoop (isDraft29 allocOk : Bool) :
    Nat → List UInt8 → Nat → ExtensionsFound → IngestState → Option (QuicStatus × IngestState)
  | 0, _, _, _, _ => none
  | fuel + 1, buffer, base, found, state =>
    if buffer.length > 0 then do
      if buffer.length < 2 * 2 then return (.invalidParameter, state)
      let extType ← tlsReadUint16 buffer 0
      let extLen ← tlsReadUint16 buffer 2
      let buffer := buffer.drop (2 * 2)
      if buffer.length < extLen then return (.invalidParameter, state)
      let extension ← readBytes buffer 0 extLen
      match ← readExtension isDraft29 allocOk extType extension (base + 2 * 2) found state with
      | .error returned => pure returned
      | .ok (found, state) =>
        readExtensionsLoop isDraft29 allocOk fuel (buffer.drop extLen) (base + 2 * 2 + extLen) found state
    else if !found.transportParameters then pure (.invalidParameter, state)
    else pure (.success, state)

/-- `QuicCryptoTlsReadExtensions`. -/
def quicCryptoTlsReadExtensions (isDraft29 allocOk : Bool) (buffer : List UInt8) (base : Nat)
    (state : IngestState) : Option (QuicStatus × IngestState) :=
  readExtensionsLoop isDraft29 allocOk (buffer.length + 1) buffer base {} state

/-- `QuicCryptoTlsReadClientHello`: the version, the random, the session id,
the cipher suites and the compression methods are checked and skipped; the
extension list is optional. -/
def quicCryptoTlsReadClientHello (isDraft29 allocOk : Bool) (buffer : List UInt8) (base : Nat)
    (state : IngestState) : Option (QuicStatus × IngestState) := do
  -- Version
  if buffer.length < 2 then return (.invalidParameter, state)
  let version ← tlsReadUint16 buffer 0
  if version < tls1ProtocolVersion then return (.invalidParameter, state)
  let buffer := buffer.drop 2
  let base := base + 2
  -- Random
  if buffer.length < tlsRandomLength then return (.invalidParameter, state)
  let buffer := buffer.drop tlsRandomLength
  let base := base + tlsRandomLength
  -- SessionID
  if buffer.length < 1 then return (.invalidParameter, state)
  let sessionIdLength ← buffer[0]?
  if sessionIdLength.toNat > tlsSessionIdLength ∨ buffer.length < 1 + sessionIdLength.toNat then
    return (.invalidParameter, state)
  let buffer := buffer.drop (1 + sessionIdLength.toNat)
  let base := base + 1 + sessionIdLength.toNat
  -- CipherSuite
  if buffer.length < 2 then return (.invalidParameter, state)
  let len ← tlsReadUint16 buffer 0
  if len % 2 ≠ 0 ∨ buffer.length < 2 + len then return (.invalidParameter, state)
  let buffer := buffer.drop (2 + len)
  let base := base + 2 + len
  -- CompressionMethod
  if buffer.length < 1 then return (.invalidParameter, state)
  let methods ← buffer[0]?
  if methods.toNat < 1 ∨ buffer.length < 1 + methods.toNat then return (.invalidParameter, state)
  let buffer := buffer.drop (1 + methods.toNat)
  let base := base + 1 + methods.toNat
  -- Extension List (optional)
  if buffer.length < 2 then return (.success, state)
  let len ← tlsReadUint16 buffer 0
  if buffer.length < 2 + len then return (.invalidParameter, state)
  let extensions ← readBytes buffer 2 len
  quicCryptoTlsReadExtensions isDraft29 allocOk extensions (base + 2) state

/-- The loop of `QuicCryptoTlsGetCompleteTlsMessagesLength`: one complete
message (a header and the body its last three bytes count, of any type) a
pass, `messagesLength` the bytes counted so far. The `uint32` sum cannot wrap:
it stays below `BufferLength`. -/
def getCompleteTlsMessagesLoop : Nat → List UInt8 → Nat → Option Nat
  | 0, _, _ => none
  | fuel + 1, buffer, messagesLength => do
    if buffer.length < tlsMessageHeaderLength then return messagesLength
    let messageLength := tlsMessageHeaderLength + (← tlsReadUint24 buffer 1)
    if buffer.length < messageLength then return messagesLength
    getCompleteTlsMessagesLoop fuel (buffer.drop messageLength) (messagesLength + messageLength)

/-- `QuicCryptoTlsGetCompleteTlsMessagesLength`. -/
def quicCryptoTlsGetCompleteTlsMessagesLength (buffer : List UInt8) : Option Nat :=
  getCompleteTlsMessagesLoop (buffer.length + 1) buffer 0

/-- The `do { } while (BufferLength > 0)` of `QuicCryptoTlsReadInitial`: one
handshake message (a type byte, a 24-bit body length, the body) a pass, and
the check after it that the ALPN list came. A pass reads four bytes at
least. -/
def readInitialLoop (isDraft29 allocOk : Bool) :
    Nat → List UInt8 → Nat → IngestState → Option (QuicStatus × IngestState)
  | 0, _, _, _ => none
  | fuel + 1, buffer, base, state => do
    if buffer.length < tlsMessageHeaderLength then return (.pending, state)
    let messageType ← buffer[0]?
    if messageType.toNat ≠ tlsHandshakeClientHello then return (.invalidParameter, state)
    let messageLength ← tlsReadUint24 buffer 1
    if buffer.length < tlsMessageHeaderLength + messageLength then return (.pending, state)
    let message ← readBytes buffer tlsMessageHeaderLength messageLength
    let (status, state) ←
      quicCryptoTlsReadClientHello isDraft29 allocOk message (base + tlsMessageHeaderLength) state
    if status.failed then return (status, state)
    let buffer := buffer.drop (messageLength + tlsMessageHeaderLength)
    if buffer.length > 0 then
      readInitialLoop isDraft29 allocOk fuel buffer (base + messageLength + tlsMessageHeaderLength) state
    else if state.info.clientAlpnList = none then return (.invalidParameter, state)
    else return (.success, state)

/-- `QuicCryptoTlsReadInitial` on the packet `buffer`. -/
def quicCryptoTlsReadInitial (isDraft29 allocOk : Bool) (buffer : List UInt8) (state : IngestState) :
    Option (QuicStatus × IngestState) :=
  readInitialLoop isDraft29 allocOk (buffer.length + 1) buffer 0 state

/-- Modelled from the spec: the fields of `QUIC_TLS_SECRETS` that
`QuicCryptoTlsReadClientRandom` writes, the `ClientRandom` array of
`TLS_RANDOM_LENGTH` bytes and its bit in `IsSet`. -/
structure QuicTlsSecrets where
  clientRandom : List UInt8
  clientRandomSet : Bool
  length_clientRandom : clientRandom.length = tlsRandomLength

/-- `QuicCryptoTlsReadClientRandom` on the ClientHello message at the head of
`buffer`: the `memcpy` of `Random`, just past the message header and the
version. `BufferLength` is only checked by a debug assert, so a buffer shorter
than it asks for is read past its end: `none`. -/
def quicCryptoTlsReadClientRandom (buffer : List UInt8) (tlsSecrets : QuicTlsSecrets) :
    Option (QuicStatus × QuicTlsSecrets) :=
  match read : readBytes buffer (tlsMessageHeaderLength + 2) tlsRandomLength with
  | none => none
  | some clientRandom =>
    some (.success, { tlsSecrets with
                      clientRandom
                      clientRandomSet := true
                      length_clientRandom := length_readBytes read })

end CryptoTls
