import CryptoTls.ClientHello
import CryptoTls.Handshake
import CryptoTls.VersionInfo

namespace CryptoTls

/-- What a reader writes into `Info`: the SNI slice and the ALPN slice (where
it starts in the packet, and its length), each `none` when the reader leaves
it. -/
structure InfoWrites where
  serverName : Option (Nat × Nat) := none
  clientAlpnList : Option (Nat × Nat) := none

/-- `Info` with the slices written over it. -/
def InfoWrites.apply (w : InfoWrites) (info : QuicNewConnectionInfo) : QuicNewConnectionInfo where
  serverName := w.serverName.elim info.serverName fun slice => some slice.1
  serverNameLength := w.serverName.elim info.serverNameLength Prod.snd
  clientAlpnList := w.clientAlpnList.elim info.clientAlpnList fun slice => some slice.1
  clientAlpnListLength := w.clientAlpnList.elim info.clientAlpnListLength Prod.snd

/-- The writes of `first`, then those of `second`: the later write of a slice
wins. -/
def InfoWrites.andThen (first second : InfoWrites) : InfoWrites :=
  ⟨second.serverName.or first.serverName, second.clientAlpnList.or first.clientAlpnList⟩

@[simp] theorem InfoWrites.apply_empty (info : QuicNewConnectionInfo) : ({} : InfoWrites).apply info = info := rfl

@[simp] theorem InfoWrites.apply_andThen (first second : InfoWrites) (info : QuicNewConnectionInfo) :
    (first.andThen second).apply info = second.apply (first.apply info) := by
  obtain ⟨_ | _, _ | _⟩ := second <;> rfl

@[simp] theorem InfoWrites.apply_apply (w : InfoWrites) (info : QuicNewConnectionInfo) :
    w.apply (w.apply info) = w.apply info := by
  obtain ⟨_ | _, _ | _⟩ := w <;> rfl

/-- What a reader writes into the state: `Info`, and the record the transport
parameter decoder leaves in `PeerTransportParams`, `none` when it is not
called. -/
structure IngestWrites where
  info : InfoWrites := {}
  peerTransportParams : Option TransportParameters := none

def IngestWrites.apply (w : IngestWrites) (state : IngestState) : IngestState :=
  ⟨w.info.apply state.info, w.peerTransportParams.getD state.peerTransportParams⟩

def IngestWrites.andThen (first second : IngestWrites) : IngestWrites :=
  ⟨first.info.andThen second.info, second.peerTransportParams.or first.peerTransportParams⟩

@[simp] theorem IngestWrites.apply_empty (state : IngestState) : ({} : IngestWrites).apply state = state := rfl

@[simp] theorem IngestWrites.apply_andThen (first second : IngestWrites) (state : IngestState) :
    (first.andThen second).apply state = second.apply (first.apply state) := by
  obtain ⟨_, _ | _⟩ := second <;> simp [IngestWrites.apply, IngestWrites.andThen]

@[simp] theorem IngestWrites.apply_apply (w : IngestWrites) (state : IngestState) :
    w.apply (w.apply state) = w.apply state := by
  obtain ⟨_, _ | _⟩ := w <;> simp [IngestWrites.apply]

/-- The writes as a reader makes them with the decoder's `VersionInfo`
allocation succeeding (`allocOk`) or failing: with it failing, the record it
writes has its non-empty version info dropped. -/
def IngestWrites.forAlloc (allocOk : Bool) (w : IngestWrites) : IngestWrites :=
  if allocOk then w else { w with peerTransportParams := w.peerTransportParams.map QuicTransportParameters.dropVersionInfo }

@[simp] theorem IngestWrites.forAlloc_info (allocOk : Bool) (info : InfoWrites) :
    ({ info } : IngestWrites).forAlloc allocOk = { info } := by
  cases allocOk <;> rfl

@[simp] theorem IngestWrites.forAlloc_andThen (allocOk : Bool) (first second : IngestWrites) :
    (first.andThen second).forAlloc allocOk = (first.forAlloc allocOk).andThen (second.forAlloc allocOk) := by
  obtain ⟨_, _ | _⟩ := second <;> cases allocOk <;> rfl

/-- Writes made twice, the allocation succeeding or failing each time, leave
`Info` as the first made it, and the record as the first made it up to its
version info. -/
theorem IngestWrites.apply_forAlloc_apply (w : IngestWrites) (first second : Bool) (state : IngestState) :
    ((w.forAlloc second).apply ((w.forAlloc first).apply state)).info = ((w.forAlloc first).apply state).info ∧
      ((w.forAlloc second).apply ((w.forAlloc first).apply state)).peerTransportParams.dropVersionInfo =
        ((w.forAlloc first).apply state).peerTransportParams.dropVersionInfo := by
  obtain ⟨info, _ | tp⟩ := w <;> cases first <;> cases second <;>
    simp [IngestWrites.forAlloc, IngestWrites.apply, QuicTransportParameters.dropVersionInfo_dropVersionInfo]

section Overwrites

variable {σ τ W : Type}

/-- A reader that only overwrites: its result on every state is one outcome,
fixed by its other arguments, applied to that state. -/
def Overwrites (apply : W → σ → τ) (read : σ → Option τ) : Prop :=
  ∃ outcome : Option W, ∀ s, read s = outcome.map (apply · s)

/-- A reader that only overwrites, whatever the `VersionInfo` allocation
does: its result on every state, with the allocation succeeding or failing,
is one outcome, fixed by its other arguments, applied to that state. -/
def OverwritesEither (apply : Bool → W → σ → τ) (read : Bool → σ → Option τ) : Prop :=
  ∃ outcome : Option W, ∀ allocOk s, read allocOk s = outcome.map (apply allocOk · s)

end Overwrites

/-- A reader of `Info` returns its status with its writes applied. -/
def InfoWrites.result (outcome : QuicStatus × InfoWrites) (info : QuicNewConnectionInfo) :
    QuicStatus × QuicNewConnectionInfo :=
  (outcome.1, outcome.2.apply info)

/-- A reader of the state returns its status with its writes applied. -/
def IngestWrites.result (allocOk : Bool) (outcome : QuicStatus × IngestWrites) (state : IngestState) :
    QuicStatus × IngestState :=
  (outcome.1, (outcome.2.forAlloc allocOk).apply state)

/-- `QuicCryptoTlsReadInitial` returns a status that depends on whether the
state it leaves holds an ALPN list. -/
def IngestWrites.verdict (allocOk : Bool) (outcome : (Bool → QuicStatus) × IngestWrites) (state : IngestState) :
    QuicStatus × IngestState :=
  (outcome.1 ((outcome.2.forAlloc allocOk).apply state).alpnSet, (outcome.2.forAlloc allocOk).apply state)

/-- A pass of the extension loop returns at once, or goes on with flags, with
its writes applied. -/
def ExtensionWrites := Except (QuicStatus × IngestWrites) (ExtensionsFound × IngestWrites)

def ExtensionWrites.apply (allocOk : Bool) : ExtensionWrites → IngestState → ExtensionOutcome
  | .error (status, w), state => .error (status, (w.forAlloc allocOk).apply state)
  | .ok (found, w), state => .ok (found, (w.forAlloc allocOk).apply state)

/-- The SNI loop writes the first host name's slice. -/
theorem readSniEntries_overwrites : ∀ (fuel : Nat) (buffer : List UInt8) (base : Nat) (found : Bool),
    Overwrites InfoWrites.result (readSniEntries fuel buffer base found)
  | 0, _, _, _ => ⟨none, fun _ => rfl⟩
  | fuel + 1, [], _, _ => ⟨some (.success, {}), fun _ => rfl⟩
  | fuel + 1, nameType :: buffer, base, found => by
    by_cases short : buffer.length < 2
    · exact ⟨some (.invalidParameter, {}), fun _ => by simp [readSniEntries, short, InfoWrites.result]⟩
    obtain ⟨nameLen, read, -⟩ := tlsReadUint16_of_lt (show 0 + 2 ≤ buffer.length by omega)
    by_cases over : buffer.length - 2 < nameLen
    · exact ⟨some (.invalidParameter, {}), fun _ => by simp [readSniEntries, short, read, over, InfoWrites.result]⟩
    by_cases host : nameType.toNat = tlsExtSniNameTypeHostName ∧ found = false
    · obtain ⟨outcome, rest⟩ := readSniEntries_overwrites fuel (buffer.drop (2 + nameLen)) (base + 3 + nameLen) true
      refine ⟨outcome.map fun r => (r.1, InfoWrites.andThen { serverName := some (base + 3, nameLen) } r.2),
        fun info => ?_⟩
      have written : { info with serverName := some (base + 3), serverNameLength := nameLen } =
          InfoWrites.apply { serverName := some (base + 3, nameLen) } info := rfl
      simp [readSniEntries, short, read, over, host, written, rest, Function.comp_def, InfoWrites.result]
    · obtain ⟨outcome, rest⟩ := readSniEntries_overwrites fuel (buffer.drop (2 + nameLen)) (base + 3 + nameLen) found
      exact ⟨outcome, fun info => by simp [readSniEntries, short, read, over, host, rest]⟩

theorem quicCryptoTlsReadSniExtension_overwrites (buffer : List UInt8) (base : Nat) :
    Overwrites InfoWrites.result (quicCryptoTlsReadSniExtension buffer base) := by
  by_cases short : buffer.length < 2
  · exact ⟨some (.invalidParameter, {}), fun _ => by simp [quicCryptoTlsReadSniExtension, short, InfoWrites.result]⟩
  obtain ⟨listLength, read, -⟩ := tlsReadUint16_of_lt (show 0 + 2 ≤ buffer.length by omega)
  by_cases empty : listLength < 3
  · exact ⟨some (.invalidParameter, {}), fun _ => by
      simp [quicCryptoTlsReadSniExtension, short, read, empty, InfoWrites.result]⟩
  obtain ⟨outcome, loop⟩ := readSniEntries_overwrites (buffer.length + 1) (buffer.drop 2) (base + 2) false
  exact ⟨outcome, fun info => by simp [quicCryptoTlsReadSniExtension, short, read, empty, loop]⟩

/-- The ALPN reader writes the list's slice before its loop checks the list. -/
theorem quicCryptoTlsReadAlpnExtension_overwrites (buffer : List UInt8) (base : Nat) :
    Overwrites InfoWrites.result (quicCryptoTlsReadAlpnExtension buffer base) := by
  by_cases short : buffer.length < 2 + 2 * 1
  · exact ⟨some (.invalidParameter, {}), fun _ => by simp [quicCryptoTlsReadAlpnExtension, short, InfoWrites.result]⟩
  obtain ⟨listLength, read, -⟩ := tlsReadUint16_of_lt (show 0 + 2 ≤ buffer.length by omega)
  by_cases mismatch : buffer.length ≠ listLength + 2
  · exact ⟨some (.invalidParameter, {}), fun _ => by
      simp [quicCryptoTlsReadAlpnExtension, short, read, mismatch, InfoWrites.result]⟩
  refine ⟨(readAlpnEntries (buffer.length + 1) (buffer.drop 2)).map
    fun status => (status, { clientAlpnList := some (base + 2, buffer.length - 2) }), fun info => ?_⟩
  cases loop : readAlpnEntries (buffer.length + 1) (buffer.drop 2) <;>
    simp [quicCryptoTlsReadAlpnExtension, short, read, eq_true (not_not.1 mismatch), loop, InfoWrites.result, InfoWrites.apply]

/-- The SNI and the ALPN case write what their reader writes. -/
theorem readInfoExtension_overwrites (seen : Bool)
    {reader : QuicNewConnectionInfo → Option (QuicStatus × QuicNewConnectionInfo)}
    (overwrites : Overwrites InfoWrites.result reader) (found : ExtensionsFound) :
    OverwritesEither ExtensionWrites.apply fun _ => readInfoExtension seen reader found := by
  cases seen
  · obtain ⟨outcome, read⟩ := overwrites
    refine ⟨outcome.map fun r => if r.1.failed then .error (r.1, { info := r.2 }) else .ok (found, { info := r.2 }),
      fun allocOk state => ?_⟩
    rcases outcome with _ | ⟨status, w⟩
    · simp [readInfoExtension, read]
    · cases failed : status.failed <;>
        simp [readInfoExtension, read, failed, InfoWrites.result, ExtensionWrites.apply, IngestWrites.apply]
  · exact ⟨some (.error (.invalidParameter, {})), fun _ _ => by simp [readInfoExtension, ExtensionWrites.apply]⟩

/-- The transport parameter case writes the record the decoder leaves, refused
or not, with its version info dropped when the allocation fails. -/
theorem readTransportParametersExtension_overwrites (extension : List UInt8) (found : ExtensionsFound) :
    OverwritesEither ExtensionWrites.apply fun allocOk => readTransportParametersExtension allocOk extension found := by
  by_cases seen : found.transportParameters = true
  · exact ⟨some (.error (.invalidParameter, {})), fun _ _ => by
      simp [readTransportParametersExtension, seen, ExtensionWrites.apply]⟩
  have failing := quicCryptoTlsDecodeTransportParameters_dropVersionInfo false extension
  rcases decodes : quicCryptoTlsDecodeTransportParameters false true extension with _ | ⟨decoded, tp⟩ <;>
    rw [decodes] at failing
  · exact ⟨none, fun allocOk _ => by cases allocOk <;> simp [readTransportParametersExtension, seen, decodes, failing]⟩
  refine ⟨some (if decoded then .ok ({ found with transportParameters := true }, { peerTransportParams := some tp })
    else .error (.invalidParameter, { peerTransportParams := some tp })), fun allocOk state => ?_⟩
  cases allocOk <;> cases decoded <;>
    simp [readTransportParametersExtension, seen, decodes, failing, ExtensionWrites.apply, IngestWrites.apply,
      IngestWrites.forAlloc]

theorem readExtension_overwrites (isDraft29 : Bool) (extType : Nat) (extension : List UInt8) (base : Nat)
    (found : ExtensionsFound) :
    OverwritesEither ExtensionWrites.apply fun allocOk state =>
      readExtension isDraft29 allocOk extType extension base found state := by
  have skipped : OverwritesEither ExtensionWrites.apply fun _ state =>
      (pure (.ok (found, state)) : Option ExtensionOutcome) :=
    ⟨some (.ok (found, {})), fun allocOk _ => by cases allocOk <;> rfl⟩
  have parameters := readTransportParametersExtension_overwrites extension found
  by_cases sni : extType = tlsExtServerName
  · simpa only [readExtension, if_pos sni] using readInfoExtension_overwrites found.sni
      (quicCryptoTlsReadSniExtension_overwrites extension base) { found with sni := true }
  by_cases alpn : extType = tlsExtAppProtocolNegotiation
  · simpa only [readExtension, if_neg sni, if_pos alpn] using readInfoExtension_overwrites found.alpn
      (quicCryptoTlsReadAlpnExtension_overwrites extension base) { found with alpn := true }
  cases isDraft29
  · by_cases code : extType = tlsExtensionTypeQuicTransportParameters
    · simpa [readExtension, sni, alpn, code] using parameters
    · simpa [readExtension, sni, alpn, code] using skipped
  · by_cases code : extType = tlsExtensionTypeQuicTransportParametersDraft
    · simpa [readExtension, sni, alpn, code] using parameters
    · simpa [readExtension, sni, alpn, code] using skipped

/-- One pass of the extension loop over a complete header: the extension goes
to its case, and the loop returns what the case returns or goes on after the
extension. -/
theorem readExtensionsLoop_header (isDraft29 allocOk : Bool) (fuel : Nat) {buffer : List UInt8} {extType extLen : Nat}
    (long : 4 ≤ buffer.length) (readType : tlsReadUint16 buffer 0 = some extType)
    (readLen : tlsReadUint16 buffer 2 = some extLen) (fits : extLen ≤ buffer.length - 4) (base : Nat)
    (found : ExtensionsFound) (state : IngestState) :
    readExtensionsLoop isDraft29 allocOk (fuel + 1) buffer base found state =
      (readExtension isDraft29 allocOk extType ((buffer.drop 4).take extLen) (base + 4) found state).bind fun
        | .error returned => some returned
        | .ok (found, state) =>
          readExtensionsLoop isDraft29 allocOk fuel (buffer.drop (4 + extLen)) (base + 4 + extLen) found state := by
  have slice := readBytes_of_le (show 0 + extLen ≤ (buffer.drop (2 * 2)).length by simp; omega)
  simp only [readExtensionsLoop, if_pos (show buffer.length > 0 by omega)]
  simp only [show ¬buffer.length < 2 * 2 by omega, readType, readLen, show ¬buffer.length - 2 * 2 < extLen by omega,
    slice, if_false, Option.bind_eq_bind, Option.some_bind, List.length_drop, List.drop_zero, List.drop_drop,
    pure_bind]
  rfl

/-- The extension loop writes what its passes write, in their order. -/
theorem readExtensionsLoop_overwrites (isDraft29 : Bool) :
    ∀ (fuel : Nat) (buffer : List UInt8) (base : Nat) (found : ExtensionsFound),
      OverwritesEither IngestWrites.result fun allocOk => readExtensionsLoop isDraft29 allocOk fuel buffer base found
  | 0, _, _, _ => ⟨none, fun _ _ => rfl⟩
  | fuel + 1, buffer, base, found => by
    by_cases empty : buffer.length > 0
    swap
    · exact ⟨some (if found.transportParameters then .success else .invalidParameter, {}), fun _ _ => by
        cases parameters : found.transportParameters <;>
          simp [readExtensionsLoop, empty, parameters, IngestWrites.result]⟩
    by_cases short : buffer.length < 4
    · exact ⟨some (.invalidParameter, {}), fun _ _ => by
        simp only [readExtensionsLoop, if_pos empty]; simp [short, IngestWrites.result]⟩
    obtain ⟨extType, readType, -⟩ := tlsReadUint16_of_lt (show 0 + 2 ≤ buffer.length by omega)
    obtain ⟨extLen, readLen, -⟩ := tlsReadUint16_of_lt (show 2 + 2 ≤ buffer.length by omega)
    by_cases over : buffer.length - 4 < extLen
    · exact ⟨some (.invalidParameter, {}), fun _ _ => by
        simp only [readExtensionsLoop, if_pos empty]; simp [short, readType, readLen, over, IngestWrites.result]⟩
    have runs (allocOk : Bool) := readExtensionsLoop_header isDraft29 allocOk fuel (by omega) readType readLen
      (by omega) base found
    obtain ⟨step, stepped⟩ := readExtension_overwrites isDraft29 extType ((buffer.drop 4).take extLen) (base + 4) found
    beta_reduce at stepped
    rcases step with _ | ⟨status, w⟩ | ⟨found', w⟩
    · exact ⟨none, fun allocOk state => by beta_reduce; rw [runs, stepped]; rfl⟩
    · exact ⟨some (status, w), fun allocOk state => by beta_reduce; rw [runs, stepped]; rfl⟩
    · obtain ⟨rest, ran⟩ := readExtensionsLoop_overwrites isDraft29 fuel (buffer.drop (4 + extLen)) (base + 4 + extLen)
        found'
      refine ⟨rest.map fun r => (r.1, w.andThen r.2), fun allocOk state => ?_⟩
      beta_reduce
      rw [runs, stepped]
      simp [ExtensionWrites.apply, ran, Function.comp_def, IngestWrites.result]

theorem quicCryptoTlsReadExtensions_overwrites (isDraft29 : Bool) (buffer : List UInt8) (base : Nat) :
    OverwritesEither IngestWrites.result fun allocOk => quicCryptoTlsReadExtensions isDraft29 allocOk buffer base :=
  readExtensionsLoop_overwrites isDraft29 (buffer.length + 1) buffer base {}

/-- The ClientHello reader writes what its extension reader writes; it reads
the fields before the extension list from the body alone. -/
theorem quicCryptoTlsReadClientHello_overwrites (isDraft29 : Bool) (body : List UInt8) (base : Nat) :
    OverwritesEither IngestWrites.result fun allocOk => quicCryptoTlsReadClientHello isDraft29 allocOk body base := by
  by_cases layout : ∃ (fields : ClientHelloFields) (tail : List UInt8), body = fields.bytes ++ tail
  swap
  · exact ⟨some (.invalidParameter, {}), fun allocOk state =>
      ((quicCryptoTlsReadClientHello_cases isDraft29 allocOk body base state).resolve_left layout).trans
        (by cases allocOk <;> rfl)⟩
  obtain ⟨fields, tail, rfl⟩ := layout
  by_cases short : tail.length < 2
  · exact ⟨some (.success, {}), fun allocOk state => by
      beta_reduce
      rw [quicCryptoTlsReadClientHello_fields, if_pos short]; cases allocOk <;> rfl⟩
  obtain ⟨len, read, -⟩ := tlsReadUint16_of_lt (show 0 + 2 ≤ tail.length by omega)
  by_cases over : tail.length < 2 + len
  · exact ⟨some (.invalidParameter, {}), fun allocOk state => by
      beta_reduce
      rw [quicCryptoTlsReadClientHello_fields, if_neg short, read, Option.some_bind, if_pos over]
      cases allocOk <;> rfl⟩
  obtain ⟨outcome, extensions⟩ := quicCryptoTlsReadExtensions_overwrites isDraft29 ((tail.drop 2).take len)
    (base + fields.bytes.length + 2)
  beta_reduce at extensions
  exact ⟨outcome, fun allocOk state => by
    beta_reduce
    rw [quicCryptoTlsReadClientHello_fields, if_neg short, read, Option.some_bind, if_neg over,
      readBytes_of_le (by omega), Option.some_bind, extensions]⟩

/-- The loop of `QuicCryptoTlsReadInitial` writes what its ClientHello reads
write, in their order; its status depends on the state only through the
check for the ALPN list at the end. -/
theorem readInitialLoop_overwrites (isDraft29 : Bool) :
    ∀ (fuel : Nat) (buffer : List UInt8) (base : Nat),
      OverwritesEither IngestWrites.verdict fun allocOk => readInitialLoop isDraft29 allocOk fuel buffer base
  | 0, _, _ => ⟨none, fun _ _ => rfl⟩
  | fuel + 1, buffer, base => by
    by_cases short : buffer.length < tlsMessageHeaderLength
    · exact ⟨some (fun _ => .pending, {}), fun allocOk _ => by
        simp only [readInitialLoop, if_pos short]; cases allocOk <;> rfl⟩
    obtain ⟨messageType, readType⟩ : ∃ b, buffer[0]? = some b :=
      ⟨_, List.getElem?_eq_getElem (by simp only [tlsMessageHeaderLength] at short; omega)⟩
    by_cases notHello : messageType.toNat ≠ tlsHandshakeClientHello
    · exact ⟨some (fun _ => .invalidParameter, {}), fun allocOk _ => by
        simp only [readInitialLoop, if_neg short, readType, Option.bind_eq_bind, Option.some_bind, if_pos notHello]
        cases allocOk <;> rfl⟩
    obtain ⟨messageLength, readLength, -⟩ :=
      tlsReadUint24_of_lt (show 1 + 3 ≤ buffer.length by simp only [tlsMessageHeaderLength] at short; omega)
    by_cases unfinished : buffer.length < tlsMessageHeaderLength + messageLength
    · exact ⟨some (fun _ => .pending, {}), fun allocOk _ => by
        simp only [readInitialLoop, if_neg short, readType, Option.bind_eq_bind, Option.some_bind, if_neg notHello,
          readLength, if_pos unfinished]
        cases allocOk <;> rfl⟩
    have runs (allocOk : Bool) := readInitialLoop_header isDraft29 allocOk fuel readType (not_not.1 notHello)
      readLength (Nat.le_of_not_lt unfinished) base
    obtain ⟨hello, read⟩ := quicCryptoTlsReadClientHello_overwrites isDraft29
      ((buffer.drop tlsMessageHeaderLength).take messageLength) (base + tlsMessageHeaderLength)
    beta_reduce at read
    rcases hello with _ | ⟨status, w⟩
    · exact ⟨none, fun allocOk state => by beta_reduce; rw [runs, read]; rfl⟩
    by_cases failed : status.failed
    · exact ⟨some (fun _ => status, w), fun allocOk state => by
        beta_reduce
        rw [runs, read]
        simp [IngestWrites.result, failed, IngestWrites.verdict]⟩
    by_cases more : (buffer.drop (messageLength + tlsMessageHeaderLength)).length > 0
    · obtain ⟨rest, ran⟩ := readInitialLoop_overwrites isDraft29 fuel
        (buffer.drop (messageLength + tlsMessageHeaderLength)) (base + messageLength + tlsMessageHeaderLength)
      refine ⟨rest.map fun r => (r.1, w.andThen r.2), fun allocOk state => ?_⟩
      beta_reduce
      rw [runs, read, Option.map_some', Option.some_bind]
      simp only [IngestWrites.result, failed, Bool.false_eq_true, if_false, if_pos more, ran, Option.map_map,
        Function.comp_def, IngestWrites.verdict, IngestWrites.forAlloc_andThen, IngestWrites.apply_andThen]
    · refine ⟨some (fun alpnSet => if alpnSet then .success else .invalidParameter, w), fun allocOk state => ?_⟩
      beta_reduce
      rw [runs, read, Option.map_some', Option.some_bind]
      simp only [IngestWrites.result, failed, Bool.false_eq_true, if_false, if_neg more]
      cases alpn : ((w.forAlloc allocOk).apply state).info.clientAlpnList <;>
        simp [alpn, IngestWrites.verdict, IngestState.alpnSet, QuicNewConnectionInfo.alpnSet]

/-- Replaying a packet is harmless, whatever the `VersionInfo` allocation
does each time. Every reader only overwrites: it writes a field with a value
it takes from the packet, or leaves it, and which fields it writes, with which
values and with which status, depend on the packet alone; the check for an
ALPN list after the loop reads the `Info` it wrote. `QuicCryptoTlsReadInitial`
handed the packet again, on the state it left, returns the same status and
leaves `Info` as it was. It leaves `PeerTransportParams` as it was up to its
version info, which the replay drops when its own allocation fails and the
first run's did not, or writes back when the first run's failed and its own
does not; with the same allocation outcome it leaves the whole state as it
was. -/
theorem quicCryptoTlsReadInitial_replay {isDraft29 allocOk : Bool} {packet : List UInt8}
    {state state' : IngestState} {status : QuicStatus}
    (read : quicCryptoTlsReadInitial isDraft29 allocOk packet state = some (status, state')) (allocOk' : Bool) :
    ∃ state'', quicCryptoTlsReadInitial isDraft29 allocOk' packet state' = some (status, state'') ∧
      state''.info = state'.info ∧
      state''.peerTransportParams.dropVersionInfo = state'.peerTransportParams.dropVersionInfo ∧
      (allocOk' = allocOk → state'' = state') := by
  obtain ⟨outcome, overwrites⟩ := readInitialLoop_overwrites isDraft29 (packet.length + 1) packet 0
  beta_reduce at overwrites
  rw [quicCryptoTlsReadInitial, overwrites] at read ⊢
  obtain ⟨⟨verdict, w⟩, rfl, written⟩ := Option.map_eq_some'.1 read
  obtain ⟨rfl, rfl⟩ := Prod.mk.inj written
  obtain ⟨info, peer⟩ := w.apply_forAlloc_apply allocOk allocOk' state
  refine ⟨_, ?_, info, peer, fun same => ?_⟩
  · simp only [Option.map_some', IngestWrites.verdict, IngestState.alpnSet, info]
  · rw [same, IngestWrites.apply_apply]

theorem h3Hello_replay :
    ∃ state', quicCryptoTlsReadInitial false true (handshakeMessage 1 h3Hello) .zeroed = some (.success, state') ∧
      ∃ state'', quicCryptoTlsReadInitial false false (handshakeMessage 1 h3Hello) state' = some (.success, state'') ∧
        state''.info = state'.info ∧
        state''.peerTransportParams.dropVersionInfo = state'.peerTransportParams.dropVersionInfo ∧
        (false = true → state'' = state') := by
  have accepted : (quicCryptoTlsReadInitial false true (handshakeMessage 1 h3Hello) .zeroed).map Prod.fst =
      some .success := by decide
  obtain ⟨⟨status, state'⟩, run, success⟩ := Option.map_eq_some'.1 accepted
  obtain rfl : status = .success := success
  exact ⟨state', run, quicCryptoTlsReadInitial_replay run false⟩

end CryptoTls
