import CryptoTls.ClientHello
import CryptoTls.Handshake
import CryptoTls.RoundTrip
import CryptoTls.VersionInfo

namespace CryptoTls

/-- One pass of the ingest loop over a complete ClientHello: the body goes to
`QuicCryptoTlsReadClientHello` at the offset after the header, and what the
loop does next depends on its status, on what follows in the buffer and, at
the end of the buffer, on `ClientAlpnList`. -/
theorem readInitialLoop_clientHello (isDraft29 allocOk : Bool) (fuel : Nat) {body : List UInt8}
    (small : body.length < 2 ^ 24) (more : List UInt8) (base : Nat) (state : IngestState) :
    readInitialLoop isDraft29 allocOk (fuel + 1) (handshakeMessage 1 body ++ more) base state =
      (quicCryptoTlsReadClientHello isDraft29 allocOk body (base + tlsMessageHeaderLength) state).bind fun read =>
        if read.1.failed then some read
        else if more.length > 0 then
          readInitialLoop isDraft29 allocOk fuel more (base + body.length + tlsMessageHeaderLength) read.2
        else if read.2.info.clientAlpnList = none then some (.invalidParameter, read.2)
        else some (.success, read.2) := by
  have slice : ((handshakeMessage 1 body ++ more).drop tlsMessageHeaderLength).take body.length = body := by
    simp [handshakeMessage, tlsMessageHeaderLength, List.drop_append_eq_append_drop]
  have rest : (handshakeMessage 1 body ++ more).drop (body.length + tlsMessageHeaderLength) = more := by
    simp [handshakeMessage, tlsMessageHeaderLength, List.drop_append_eq_append_drop]
  have hello : (handshakeMessage 1 body ++ more)[0]? = some 1 := rfl
  rw [readInitialLoop_header isDraft29 allocOk fuel hello rfl (handshakeMessage_header small more).1
    (by simp [tlsMessageHeaderLength]), slice, rest]

/-- Modelled from the spec: the extensions a QUIC client puts in its
ClientHello. At most one SNI, exactly one ALPN and exactly one QUIC transport
parameters extension, each SNI and ALPN well formed, and the transport
parameters extension carrying the bytes `tpBuf` of the client's encoder. -/
structure ClientExtensions (isDraft29 : Bool) (tpBuf : List UInt8) (extensions : List TlsExtension) : Prop where
  sniOnce : extensions.countP (·.extType = tlsExtServerName) ≤ 1
  alpnOnce : extensions.countP (·.extType = tlsExtAppProtocolNegotiation) = 1
  parametersOnce : extensions.countP (·.extType = transportParametersType isDraft29) = 1
  sni : ∀ extension ∈ extensions, extension.extType = tlsExtServerName → SniAccepted extension.data
  alpn : ∀ extension ∈ extensions, extension.extType = tlsExtAppProtocolNegotiation → AlpnAccepted extension.data
  parameters : ∀ extension ∈ extensions, extension.extType = transportParametersType isDraft29 →
    extension.data = tpBuf

/-- A client's extensions pass the server's extension reader, as soon as the
server's decoder accepts the transport parameter bytes. -/
theorem ClientExtensions.accepted {isDraft29 : Bool} {tpBuf : List UInt8} {extensions : List TlsExtension}
    (client : ClientExtensions isDraft29 tpBuf extensions) {allocOk : Bool}
    (decodes : TransportParametersAccepted allocOk tpBuf) : ExtensionsAcceptedFrom isDraft29 allocOk {} extensions :=
  ⟨by simpa using client.sniOnce, by simp [client.alpnOnce], by simp [client.parametersOnce],
    fun extension member => ⟨client.sni extension member, client.alpn extension member,
      fun selected => client.parameters extension member selected ▸ decodes⟩⟩

/-- The client's first flight is accepted by the server. For every record
the client's encoder turns into a buffer, every ClientHello skeleton, and
every set of client extensions that carries that buffer, the server's
`QuicCryptoTlsReadInitial` on the ClientHello returns SUCCESS, whether the
server's `VersionInfo` allocation succeeds or fails. The record it stores in
`PeerTransportParams` is the client's record in decoded form, with its
non-empty version info dropped when that allocation fails. -/
theorem quicCryptoTlsReadInitial_clientFlight {isDraft29 allocOk : Bool} {tp : TransportParameters}
    (valid : tp.Encodable false) {headerSize total : Nat} {tpBuf : List UInt8}
    (encoded : quicCryptoTlsEncodeTransportParameters headerSize true tp none = some (.buffer total tpBuf))
    (fields : ClientHelloFields) {extensions : List TlsExtension} (client : ClientExtensions isDraft29 tpBuf extensions)
    (small : (tlsExtensions extensions).length < 2 ^ 16) (junk : List UInt8)
    (fitsMessage : (fields.bytes ++ (bigEndian 2 (tlsExtensions extensions).length ++
      (tlsExtensions extensions ++ junk))).length < 2 ^ 24) (state : IngestState) :
    ∃ state', quicCryptoTlsReadInitial isDraft29 allocOk (handshakeMessage 1 (fields.bytes ++
        (bigEndian 2 (tlsExtensions extensions).length ++ (tlsExtensions extensions ++ junk)))) state =
        some (.success, state') ∧
      state'.peerTransportParams = if allocOk then tp.decodedForm else tp.decodedForm.dropVersionInfo := by
  have fits := requiredTPLen_le_of_buffer encoded
  obtain ⟨encoder, -⟩ := quicCryptoTlsEncodeTransportParameters_encodedParameters valid.encoderAssertions fits headerSize
  obtain ⟨-, rfl⟩ := EncodeResult.buffer.inj (Option.some.inj (encoder.symm.trans encoded))
  have decodes : quicCryptoTlsDecodeTransportParameters false allocOk (tp.encodedParameters.flatMap WireParameter.bytes) =
      some (true, if allocOk then tp.decodedForm else tp.decodedForm.dropVersionInfo) := by
    have succeeds := quicCryptoTlsDecodeTransportParameters_encodedParameters valid fits
    cases allocOk
    · rw [quicCryptoTlsDecodeTransportParameters_dropVersionInfo, succeeds]
      rfl
    · exact succeeds
  obtain ⟨status, state', run, success, parameters⟩ := readExtensionsLoop_extensions isDraft29 allocOk extensions _
    (0 + tlsMessageHeaderLength + fields.bytes.length + 2) {} state (Nat.lt_succ_self _)
  obtain rfl := success.2 (client.accepted (by simp [TransportParametersAccepted, decodes]))
  refine ⟨state', ?_, ?_⟩
  · have someAlpn : extensions.any (fun extension => decide (extension.extType = tlsExtAppProtocolNegotiation)) := by
      obtain ⟨extension, member, selected⟩ := List.countP_pos_iff.1 (client.alpnOnce ▸ Nat.one_pos)
      exact List.any_eq_true.2 ⟨extension, member, selected⟩
    have listed : state'.info.clientAlpnList ≠ none := by
      simpa [someAlpn, IngestState.alpnSet, QuicNewConnectionInfo.alpnSet, Option.isSome_iff_ne_none] using
        readExtensionsLoop_alpnSet isDraft29 allocOk extensions _ _ _ _ _ run
    rw [quicCryptoTlsReadInitial, ← List.append_nil (handshakeMessage 1 _), readInitialLoop_clientHello _ _ _ fitsMessage,
      quicCryptoTlsReadClientHello_extensions _ _ fields small, quicCryptoTlsReadExtensions, run]
    simp [QuicStatus.failed, listed]
  · obtain ⟨extension, member, selected⟩ := List.countP_pos_iff.1 (client.parametersOnce ▸ Nat.one_pos)
    have selected : extension.extType = transportParametersType isDraft29 := by simpa using selected
    have decoded := (parameters rfl).1 extension member selected
    rw [client.parameters extension member selected, decodes] at decoded
    exact (Prod.mk.inj (Option.some.inj decoded)).2.symm

/-- A ClientHello skeleton as a TLS 1.3 client fills it: the legacy version
`0x0303`, a zero `Random`, no session id, `TLS_AES_128_GCM_SHA256` and the
null compression method. -/
def sampleClientHello : ClientHelloFields where
  clientVersion := 0x0303
  random := List.replicate 32 0
  sessionId := []
  cipherSuites := [0x13, 0x01]
  compressionMethods := [0]
  versionFits := by decide
  randomLength := rfl
  sessionIdFits := by decide
  cipherSuitesFit := by decide
  compressionMethodsFit := by decide

/-- A client that offers `h3` and sends `initial_max_data = 1000`, encoded as
the four bytes `04 02 43 E8`. -/
theorem initialMaxData_clientFlight :
    ∃ state', quicCryptoTlsReadInitial false true (handshakeMessage 1 (sampleClientHello.bytes ++
        (bigEndian 2 (tlsExtensions [⟨tlsExtAppProtocolNegotiation, [0, 3, 2, 0x68, 0x33], by decide, by decide⟩,
            ⟨transportParametersType false, [0x04, 0x02, 0x43, 0xE8], by decide, by decide⟩]).length ++
          (tlsExtensions [⟨tlsExtAppProtocolNegotiation, [0, 3, 2, 0x68, 0x33], by decide, by decide⟩,
            ⟨transportParametersType false, [0x04, 0x02, 0x43, 0xE8], by decide, by decide⟩] ++ [])))) .zeroed =
        some (.success, state') ∧
      state'.peerTransportParams = sampleClientParameters.decodedForm :=
  @quicCryptoTlsReadInitial_clientFlight false true sampleClientParameters
    (by constructor <;> simp [sampleClientParameters, QuicTransportParameters.initial]) 0 4 [0x04, 0x02, 0x43, 0xE8]
    rfl sampleClientHello _ ⟨by decide, by decide, by decide, by decide, by decide, by decide⟩ (by decide) []
    (by decide) .zeroed

end CryptoTls
