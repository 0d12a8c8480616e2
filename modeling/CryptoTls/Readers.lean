import CryptoTls.Ingest
import CryptoTls.Reject

namespace CryptoTls

/-- Whether `Info` holds an ALPN list. -/
def QuicNewConnectionInfo.alpnSet (info : QuicNewConnectionInfo) : Bool :=
  info.clientAlpnList.isSome

/-- Every slice `Info` exposes lies in the first `total` bytes of the
packet. -/
structure QuicNewConnectionInfo.Within (total : Nat) (info : QuicNewConnectionInfo) : Prop where
  serverName : ∀ p, info.serverName = some p → p + info.serverNameLength ≤ total
  clientAlpnList : ∀ p, info.clientAlpnList = some p → p + info.clientAlpnListLength ≤ total

theorem QuicNewConnectionInfo.within_zeroed (total : Nat) : ({} : QuicNewConnectionInfo).Within total :=
  ⟨fun _ absurd => Option.noConfusion absurd, fun _ absurd => Option.noConfusion absurd⟩

def IngestState.alpnSet (state : IngestState) : Bool :=
  state.info.alpnSet

def IngestState.Within (total : Nat) (state : IngestState) : Prop :=
  state.info.Within total

section Reader

variable {σ : Type} (alpnSet : σ → Bool) (within : Nat → σ → Prop)

/-- What a caller relies on of a reader of `length` bytes: whatever state it
is handed and wherever its bytes lie, it returns, with SUCCESS or
INVALID_PARAMETER, the same each time; on SUCCESS it has set the ALPN list
or left it, the same each time; and what it writes lies in its bytes. -/
def ReaderSpec (length : Nat) (read : Nat → σ → Option (QuicStatus × σ)) : Prop :=
  ∃ accepted setsAlpn : Bool, ∀ base state, ∃ state',
    read base state = some (if accepted then .success else .invalidParameter, state') ∧
      (accepted = true → alpnSet state' = (setsAlpn || alpnSet state)) ∧
      ∀ total, base + length ≤ total → within total state → within total state'

variable {alpnSet within} {length : Nat} {read : Nat → σ → Option (QuicStatus × σ)}

theorem ReaderSpec.refused (refuses : ∀ base state, read base state = some (.invalidParameter, state)) :
    ReaderSpec alpnSet within length read :=
  ⟨false, false, fun base state => ⟨state, refuses base state, Bool.noConfusion, fun _ _ => id⟩⟩

theorem ReaderSpec.succeeded (succeeds : ∀ base state, read base state = some (.success, state)) :
    ReaderSpec alpnSet within length read :=
  ⟨true, false, fun base state => ⟨state, succeeds base state, fun _ => by simp, fun _ _ => id⟩⟩

/-- A reader that writes the state, then hands on to a reader of the bytes
from `k` on. -/
theorem ReaderSpec.after (spec : ReaderSpec alpnSet within length read) {length' : Nat} (k : Nat)
    (fits : k + length ≤ length') (update : Nat → σ → σ)
    (sameAlpn : ∀ base state, alpnSet (update base state) = alpnSet state)
    (keeps : ∀ base state total, base + length' ≤ total → within total state → within total (update base state))
    {read' : Nat → σ → Option (QuicStatus × σ)}
    (runs : ∀ base state, read' base state = read (base + k) (update base state)) :
    ReaderSpec alpnSet within length' read' := by
  obtain ⟨accepted, setsAlpn, spec⟩ := spec
  refine ⟨accepted, setsAlpn, fun base state => ?_⟩
  obtain ⟨state', run, alpn, kept⟩ := spec (base + k) (update base state)
  exact ⟨state', (runs base state).trans run, fun ok => by rw [alpn ok, sameAlpn],
    fun total below inside => kept total (by omega) (keeps base state total below inside)⟩

/-- A reader that hands on to a reader of the bytes from `k` on. -/
theorem ReaderSpec.skip (spec : ReaderSpec alpnSet within length read) {length' : Nat} (k : Nat)
    (fits : k + length ≤ length') {read' : Nat → σ → Option (QuicStatus × σ)}
    (runs : ∀ base state, read' base state = read (base + k) state) :
    ReaderSpec alpnSet within length' read' :=
  spec.after k fits (fun _ state => state) (fun _ _ => rfl) (fun _ _ _ _ => id) runs

end Reader

/-- The loop of the SNI reader: each pass reads three header bytes and a name
inside its bytes, and the first host name it keeps lies there too. -/
theorem readSniEntries_spec : ∀ (fuel : Nat) (buffer : List UInt8) (found : Bool), buffer.length < fuel →
    ReaderSpec QuicNewConnectionInfo.alpnSet QuicNewConnectionInfo.Within buffer.length
      (fun base info => readSniEntries fuel buffer base found info)
  | 0, _, _, enough => absurd enough (Nat.not_lt_zero _)
  | fuel + 1, [], _, _ => ReaderSpec.succeeded fun _ _ => rfl
  | fuel + 1, nameType :: buffer, found, enough => by
    by_cases short : buffer.length < 2
    · exact .refused fun _ _ => by simp [readSniEntries, short]
    obtain ⟨nameLen, read, -⟩ := tlsReadUint16_of_lt (show 0 + 2 ≤ buffer.length by omega)
    by_cases over : buffer.length - 2 < nameLen
    · exact .refused fun _ _ => by simp [readSniEntries, short, read, over]
    have rest (found : Bool) := readSniEntries_spec fuel ((buffer.drop 2).drop nameLen) found
      (by simp only [List.length_drop, List.length_cons] at enough ⊢; omega)
    have fits : 3 + nameLen + ((buffer.drop 2).drop nameLen).length ≤ (nameType :: buffer).length := by
      simp only [List.length_drop, List.length_cons]
      omega
    by_cases host : nameType.toNat = tlsExtSniNameTypeHostName ∧ found = false
    · refine (rest true).after (3 + nameLen) fits
        (fun base info => { info with serverName := some (base + 3), serverNameLength := nameLen })
        (fun _ _ => rfl) (fun base info total below inside => ⟨fun p held => ?_, inside.clientAlpnList⟩)
        fun base info => by simp [readSniEntries, short, read, over, host, Nat.add_assoc]
      dsimp only at held ⊢
      simp only [Option.some.injEq] at held
      simp only [List.length_cons] at below
      omega
    · exact (rest found).skip (3 + nameLen) fits
        fun base info => by simp [readSniEntries, short, read, over, host, Nat.add_assoc]

theorem quicCryptoTlsReadSniExtension_spec (buffer : List UInt8) :
    ReaderSpec QuicNewConnectionInfo.alpnSet QuicNewConnectionInfo.Within buffer.length
      (quicCryptoTlsReadSniExtension buffer) := by
  by_cases short : buffer.length < 2
  · exact .refused fun _ _ => by simp [quicCryptoTlsReadSniExtension, short]
  obtain ⟨listLength, read, -⟩ := tlsReadUint16_of_lt (show 0 + 2 ≤ buffer.length by omega)
  by_cases empty : listLength < 3
  · exact .refused fun _ _ => by simp [quicCryptoTlsReadSniExtension, short, read, empty]
  exact (readSniEntries_spec (buffer.length + 1) (buffer.drop 2) false (by simp; omega)).skip 2
    (by simp; omega) fun _ _ => by simp [quicCryptoTlsReadSniExtension, short, read, empty]

/-- The loop of the ALPN reader reads each length byte and skips each name
inside its bytes. -/
theorem readAlpnEntries_spec : ∀ (fuel : Nat) (buffer : List UInt8), buffer.length < fuel →
    ∃ accepted : Bool, readAlpnEntries fuel buffer = some (if accepted then .success else .invalidParameter)
  | 0, _, enough => absurd enough (Nat.not_lt_zero _)
  | fuel + 1, [], _ => ⟨true, rfl⟩
  | fuel + 1, len :: buffer, enough => by
    by_cases bad : buffer = [] ∨ buffer.length < len.toNat
    · exact ⟨false, by simp [readAlpnEntries, bad]⟩
    obtain ⟨accepted, run⟩ := readAlpnEntries_spec fuel (buffer.drop len.toNat)
      (by simp only [List.length_drop, List.length_cons] at enough ⊢; omega)
    exact ⟨accepted, by simp [readAlpnEntries, bad, run]⟩

/-- The ALPN reader sets the ALPN list to the bytes after the list's length,
which it has checked to be all of its bytes. -/
theorem quicCryptoTlsReadAlpnExtension_spec (buffer : List UInt8) :
    ReaderSpec QuicNewConnectionInfo.alpnSet QuicNewConnectionInfo.Within buffer.length
      (quicCryptoTlsReadAlpnExtension buffer) := by
  by_cases short : buffer.length < 2 + 2 * 1
  · exact .refused fun _ _ => by simp [quicCryptoTlsReadAlpnExtension, short]
  obtain ⟨listLength, read, -⟩ := tlsReadUint16_of_lt (show 0 + 2 ≤ buffer.length by omega)
  by_cases mismatch : buffer.length ≠ listLength + 2
  · exact .refused fun _ _ => by simp [quicCryptoTlsReadAlpnExtension, short, read, mismatch]
  obtain ⟨accepted, run⟩ := readAlpnEntries_spec (buffer.length + 1) (buffer.drop 2) (by simp; omega)
  refine ⟨accepted, true, fun base info =>
    ⟨{ info with clientAlpnList := some (base + 2), clientAlpnListLength := buffer.length - 2 }, ?_,
      fun _ => rfl, fun total below inside => ⟨inside.serverName, fun p held => ?_⟩⟩⟩
  · simp [quicCryptoTlsReadAlpnExtension, short, read, mismatch, run]
  · dsimp only at held ⊢
    simp only [Option.some.injEq] at held
    omega

/-- What the loop of `QuicCryptoTlsReadExtensions` relies on of its `if` on
`ExtType` for an extension of `length` bytes: whatever state it is handed
and wherever the extension lies, it returns INVALID_PARAMETER at once, or
goes on with flags that depend on neither and with the ALPN list set or not,
the same each time; and what it writes lies in the extension. -/
def OutcomeSpec (length : Nat) (step : Nat → IngestState → Option ExtensionOutcome) : Prop :=
  ∃ (next : Option ExtensionsFound) (setsAlpn : Bool), ∀ base state, ∃ state',
    step base state = some (next.elim (.error (.invalidParameter, state')) fun found => .ok (found, state')) ∧
      (next.isSome → state'.alpnSet = (setsAlpn || state.alpnSet)) ∧
      ∀ total, base + length ≤ total → state.Within total → state'.Within total

/-- The SNI and the ALPN case take their reader's guarantees over. -/
theorem readInfoExtension_spec {length : Nat}
    {reader : Nat → QuicNewConnectionInfo → Option (QuicStatus × QuicNewConnectionInfo)}
    (spec : ReaderSpec QuicNewConnectionInfo.alpnSet QuicNewConnectionInfo.Within length reader) (seen : Bool)
    (found : ExtensionsFound) :
    OutcomeSpec length fun base state => readInfoExtension seen (reader base) found state := by
  cases seen
  · obtain ⟨accepted, setsAlpn, spec⟩ := spec
    refine ⟨if accepted then some found else none, setsAlpn, fun base state => ?_⟩
    obtain ⟨info, run, alpn, kept⟩ := spec base state.info
    refine ⟨{ state with info }, ?_, fun ok => ?_, kept⟩
    · cases accepted <;> simp [readInfoExtension, run, QuicStatus.failed]
    · cases accepted
      · simp at ok
      · exact alpn rfl
  · exact ⟨none, false, fun base state => ⟨state, by simp [readInfoExtension], by simp, fun _ _ => id⟩⟩

/-- The transport parameter case: the decoder returns on the extension, and
nothing of `Info` changes. -/
theorem readTransportParametersExtension_spec (allocOk : Bool) {extension : List UInt8}
    (small : extension.length < 2 ^ 16) (found : ExtensionsFound) :
    OutcomeSpec extension.length fun _ state => readTransportParametersExtension allocOk extension found state := by
  by_cases seen : found.transportParameters = true
  · exact ⟨none, false, fun _ state => ⟨state, by simp [readTransportParametersExtension, seen], by simp,
      fun _ _ => id⟩⟩
  obtain ⟨⟨decoded, tp⟩, decodes⟩ :=
    Option.ne_none_iff_exists'.mp (quicCryptoTlsDecodeTransportParameters_ne_none false allocOk small)
  refine ⟨if decoded then some { found with transportParameters := true } else none, false, fun _ state =>
    ⟨{ state with peerTransportParams := tp }, ?_, fun _ => by simp [IngestState.alpnSet], fun _ _ => id⟩⟩
  cases decoded <;> simp [readTransportParametersExtension, seen, decodes]

theorem readExtension_spec (isDraft29 allocOk : Bool) (extType : Nat) (extension : List UInt8)
    (small : extension.length < 2 ^ 16) (found : ExtensionsFound) :
    OutcomeSpec extension.length fun base state => readExtension isDraft29 allocOk extType extension base found state := by
  have skipped : OutcomeSpec extension.length fun _ state => (pure (.ok (found, state)) : Option ExtensionOutcome) :=
    ⟨some found, false, fun _ state => ⟨state, rfl, by simp, fun _ _ => id⟩⟩
  have parameters := readTransportParametersExtension_spec allocOk small found
  by_cases sni : extType = tlsExtServerName
  · simpa only [readExtension, if_pos sni] using
      readInfoExtension_spec (quicCryptoTlsReadSniExtension_spec extension) found.sni { found with sni := true }
  by_cases alpn : extType = tlsExtAppProtocolNegotiation
  · simpa only [readExtension, if_neg sni, if_pos alpn] using
      readInfoExtension_spec (quicCryptoTlsReadAlpnExtension_spec extension) found.alpn { found with alpn := true }
  cases isDraft29
  · by_cases code : extType = tlsExtensionTypeQuicTransportParameters
    · simpa [readExtension, sni, alpn, code] using parameters
    · simpa [readExtension, sni, alpn, code] using skipped
  · by_cases code : extType = tlsExtensionTypeQuicTransportParametersDraft
    · simpa [readExtension, sni, alpn, code] using parameters
    · simpa [readExtension, sni, alpn, code] using skipped

/-- The loop of the extension reader: each pass reads a four-byte header and
hands the extension it announces, inside the loop's bytes, to its case. -/
theorem readExtensionsLoop_spec (isDraft29 allocOk : Bool) :
    ∀ (fuel : Nat) (buffer : List UInt8) (found : ExtensionsFound), buffer.length < fuel →
      ReaderSpec IngestState.alpnSet IngestState.Within buffer.length
        (fun base state => readExtensionsLoop isDraft29 allocOk fuel buffer base found state)
  | 0, _, _, enough => absurd enough (Nat.not_lt_zero _)
  | fuel + 1, buffer, found, enough => by
    by_cases empty : buffer.length > 0
    swap
    · cases parameters : found.transportParameters
      · exact .refused fun _ _ => by simp [readExtensionsLoop, empty, parameters]
      · exact .succeeded fun _ _ => by simp [readExtensionsLoop, empty, parameters]
    by_cases short : buffer.length < 4
    · exact .refused fun _ _ => by simp only [readExtensionsLoop, if_pos empty]; simp [short]
    obtain ⟨extType, readType, -⟩ := tlsReadUint16_of_lt (show 0 + 2 ≤ buffer.length by omega)
    obtain ⟨extLen, readLen, smallLen⟩ := tlsReadUint16_of_lt (show 2 + 2 ≤ buffer.length by omega)
    by_cases over : buffer.length - 4 < extLen
    · exact .refused fun _ _ => by simp only [readExtensionsLoop, if_pos empty]; simp [short, readType, readLen, over]
    have slice := readBytes_of_le (show 0 + extLen ≤ (buffer.drop (2 * 2)).length by simp; omega)
    obtain ⟨next, setsAlpn, step⟩ := readExtension_spec isDraft29 allocOk extType
      ((buffer.drop (2 * 2) |>.drop 0).take extLen) (by simp; omega) found
    have runs (base : Nat) (state : IngestState) :
        readExtensionsLoop isDraft29 allocOk (fuel + 1) buffer base found state =
          (readExtension isDraft29 allocOk extType ((buffer.drop (2 * 2) |>.drop 0).take extLen) (base + 2 * 2)
            found state).bind fun
            | .error returned => some returned
            | .ok (found, state) =>
              readExtensionsLoop isDraft29 allocOk fuel ((buffer.drop (2 * 2)).drop extLen) (base + 2 * 2 + extLen)
                found state := by
      simp only [readExtensionsLoop, if_pos empty]
      simp only [short, readType, readLen, over, slice, if_false, Option.bind_eq_bind, Option.some_bind,
        List.length_drop, List.drop_zero, pure_bind]
      rfl
    cases next with
    | none =>
      refine ⟨false, false, fun base state => ?_⟩
      obtain ⟨state', stepped, -, kept⟩ := step (base + 2 * 2) state
      beta_reduce at stepped
      exact ⟨state', by beta_reduce; rw [runs, stepped]; rfl, Bool.noConfusion,
        fun total below inside => kept total (by simp; omega) inside⟩
    | some found' =>
      obtain ⟨accepted, setsAlpn', rest⟩ := readExtensionsLoop_spec isDraft29 allocOk fuel
        ((buffer.drop (2 * 2)).drop extLen) found' (by simp; omega)
      refine ⟨accepted, setsAlpn' || setsAlpn, fun base state => ?_⟩
      obtain ⟨state₁, stepped, alpn₁, kept₁⟩ := step (base + 2 * 2) state
      obtain ⟨state₂, ran, alpn₂, kept₂⟩ := rest (base + 2 * 2 + extLen) state₁
      beta_reduce at stepped ran
      refine ⟨state₂, by beta_reduce; rw [runs, stepped]; exact ran, fun ok => ?_,
        fun total below inside => kept₂ total (by simp; omega) (kept₁ total (by simp; omega) inside)⟩
      rw [alpn₂ ok, alpn₁ rfl, Bool.or_assoc]

theorem quicCryptoTlsReadExtensions_spec (isDraft29 allocOk : Bool) (buffer : List UInt8) :
    ReaderSpec IngestState.alpnSet IngestState.Within buffer.length
      (quicCryptoTlsReadExtensions isDraft29 allocOk buffer) :=
  readExtensionsLoop_spec isDraft29 allocOk (buffer.length + 1) buffer {} (Nat.lt_succ_self _)

/-- `QuicCryptoTlsReadClientHello` checks each field inside its bytes before it
skips it, and hands the extension list, inside its bytes, to the extension
reader. -/
theorem quicCryptoTlsReadClientHello_spec (isDraft29 allocOk : Bool) (buffer : List UInt8) :
    ReaderSpec IngestState.alpnSet IngestState.Within buffer.length
      (quicCryptoTlsReadClientHello isDraft29 allocOk buffer) := by
  -- each check that fails refuses; those goals are closed together at the end
  by_cases short : buffer.length < 2; swap
  obtain ⟨version, readVersion, -⟩ := tlsReadUint16_of_lt (show 0 + 2 ≤ buffer.length by omega)
  by_cases old : version < tls1ProtocolVersion; swap
  by_cases noRandom : buffer.length - 2 < tlsRandomLength; swap
  by_cases noSession : buffer.length - (2 + tlsRandomLength) < 1; swap
  obtain ⟨session, readSession⟩ : ∃ b, (buffer.drop (2 + tlsRandomLength))[0]? = some b :=
    ⟨_, List.getElem?_eq_getElem (by simp; omega)⟩
  by_cases badSession : session.toNat > tlsSessionIdLength ∨
    buffer.length - (2 + tlsRandomLength) < 1 + session.toNat; swap
  by_cases noSuites : buffer.length - (2 + tlsRandomLength + (1 + session.toNat)) < 2; swap
  obtain ⟨suites, readSuites, -⟩ := tlsReadUint16_of_lt
    (show 0 + 2 ≤ (buffer.drop (2 + tlsRandomLength + (1 + session.toNat))).length by simp; omega)
  by_cases badSuites : suites % 2 ≠ 0 ∨
    buffer.length - (2 + tlsRandomLength + (1 + session.toNat)) < 2 + suites; swap
  by_cases noMethods : buffer.length - (2 + tlsRandomLength + (1 + session.toNat) + (2 + suites)) < 1; swap
  obtain ⟨methods, readMethods⟩ :
      ∃ b, (buffer.drop (2 + tlsRandomLength + (1 + session.toNat) + (2 + suites)))[0]? = some b :=
    ⟨_, List.getElem?_eq_getElem (by simp; omega)⟩
  by_cases badMethods : methods.toNat < 1 ∨
    buffer.length - (2 + tlsRandomLength + (1 + session.toNat) + (2 + suites)) < 1 + methods.toNat; swap
  -- the extension list
  generalize skipped : 2 + tlsRandomLength + (1 + session.toNat) + (2 + suites) + (1 + methods.toNat) = k
  by_cases noExtensions : buffer.length - k < 2
  · exact .succeeded fun _ _ => by
      simp only [quicCryptoTlsReadClientHello, Option.bind_eq_bind, Option.some_bind, pure_bind, Option.pure_def,
        List.drop_drop, List.length_drop, *, if_false, if_true]
  obtain ⟨len, readLen, -⟩ := tlsReadUint16_of_lt (show 0 + 2 ≤ (buffer.drop k).length by simp; omega)
  by_cases overExtensions : buffer.length - k < 2 + len; swap
  · have slice := readBytes_of_le (show 2 + len ≤ (buffer.drop k).length by simp; omega)
    refine (quicCryptoTlsReadExtensions_spec isDraft29 allocOk ((buffer.drop (k + 2)).take len)).skip (k + 2)
      (by simp; omega) fun base state => ?_
    simp only [quicCryptoTlsReadClientHello, Option.bind_eq_bind, Option.some_bind, pure_bind, Option.pure_def,
      List.drop_drop, List.length_drop, *, if_false, if_true]
    congr 1
    omega
  all_goals
    exact .refused fun _ _ => by
      simp only [quicCryptoTlsReadClientHello, Option.bind_eq_bind, Option.some_bind, pure_bind, Option.pure_def,
        List.drop_drop, List.length_drop, *, if_false, if_true]

/-- The loop of `QuicCryptoTlsReadInitial` reads each message header inside
the packet and hands each body, inside the packet, to the ClientHello
reader. -/
theorem readInitialLoop_spec (isDraft29 allocOk : Bool) :
    ∀ (fuel : Nat) (buffer : List UInt8) (base : Nat) (state : IngestState) (total : Nat),
      buffer.length < fuel → base + buffer.length ≤ total → state.Within total →
      ∃ status state', readInitialLoop isDraft29 allocOk fuel buffer base state = some (status, state') ∧
        status ≠ .outOfMemory ∧ state'.Within total
  | 0, _, _, _, _, enough, _, _ => absurd enough (Nat.not_lt_zero _)
  | fuel + 1, buffer, base, state, total, enough, below, inside => by
    by_cases short : buffer.length < tlsMessageHeaderLength
    · exact ⟨.pending, state, by simp only [readInitialLoop, if_pos short, Option.pure_def], nofun, inside⟩
    obtain ⟨messageType, readType⟩ : ∃ b, buffer[0]? = some b :=
      ⟨_, List.getElem?_eq_getElem (by simp only [tlsMessageHeaderLength] at short; omega)⟩
    by_cases notHello : messageType.toNat ≠ tlsHandshakeClientHello
    · exact ⟨.invalidParameter, state, by simp only [readInitialLoop, Option.bind_eq_bind, Option.some_bind,
        pure_bind, Option.pure_def, *, ne_eq, not_false_eq_true, if_false, if_true], nofun, inside⟩
    obtain ⟨messageLength, readLength, -⟩ :=
      tlsReadUint24_of_lt (show 1 + 3 ≤ buffer.length by simp only [tlsMessageHeaderLength] at short; omega)
    by_cases unfinished : buffer.length < tlsMessageHeaderLength + messageLength
    · exact ⟨.pending, state, by simp only [readInitialLoop, Option.bind_eq_bind, Option.some_bind, pure_bind,
        Option.pure_def, *, ne_eq, not_true_eq_false, if_false, if_true], nofun, inside⟩
    have slice := readBytes_of_le (show tlsMessageHeaderLength + messageLength ≤ buffer.length by omega)
    obtain ⟨accepted, _, hello⟩ := quicCryptoTlsReadClientHello_spec isDraft29 allocOk
      ((buffer.drop tlsMessageHeaderLength).take messageLength)
    obtain ⟨state₁, read, -, kept⟩ := hello (base + tlsMessageHeaderLength) state
    have inside₁ := kept total (by simp; omega) inside
    cases accepted
    · simp only [Bool.false_eq_true, if_false] at read
      exact ⟨.invalidParameter, state₁, by simp only [readInitialLoop, Option.bind_eq_bind, Option.some_bind,
        pure_bind, Option.pure_def, *, QuicStatus.failed, ne_eq, not_true_eq_false, if_false, if_true], nofun,
        inside₁⟩
    simp only [if_true] at read
    have continues : readInitialLoop isDraft29 allocOk (fuel + 1) buffer base state =
        if (buffer.drop (messageLength + tlsMessageHeaderLength)).length > 0 then
          readInitialLoop isDraft29 allocOk fuel (buffer.drop (messageLength + tlsMessageHeaderLength))
            (base + messageLength + tlsMessageHeaderLength) state₁
        else if state₁.info.clientAlpnList = none then some (.invalidParameter, state₁)
        else some (.success, state₁) := by
      simp only [readInitialLoop, Option.bind_eq_bind, Option.some_bind, pure_bind, Option.pure_def, *,
        QuicStatus.failed, ne_eq, not_true_eq_false, Bool.false_eq_true, if_false, if_true]
    rw [continues]
    by_cases more : (buffer.drop (messageLength + tlsMessageHeaderLength)).length > 0
    · rw [if_pos more]
      obtain ⟨status, state', ran, ok, inside'⟩ := readInitialLoop_spec isDraft29 allocOk fuel
        (buffer.drop (messageLength + tlsMessageHeaderLength)) (base + messageLength + tlsMessageHeaderLength)
        state₁ total (by simp only [List.length_drop, tlsMessageHeaderLength] at short ⊢; omega)
        (by simp only [List.length_drop]; omega) inside₁
      exact ⟨status, state', ran, ok, inside'⟩
    · rw [if_neg more]
      by_cases unset : state₁.info.clientAlpnList = none
      · exact ⟨.invalidParameter, state₁, by rw [if_pos unset], nofun, inside₁⟩
      · exact ⟨.success, state₁, by rw [if_neg unset], nofun, inside₁⟩

/-- `QuicCryptoTlsReadInitial` on any packet, and every reader it reaches,
reads nothing outside the packet and returns, and every slice it exposes in
`Info` lies in the packet; the transport parameter decoder, called on its
own, reads nothing outside `TPBuf` and returns. -/
theorem quicCryptoTlsReadInitial_in_bounds (isDraft29 allocOk : Bool) (packet : List UInt8) (state : IngestState)
    (exposed : state.info.Within packet.length) :
    (∃ status state', quicCryptoTlsReadInitial isDraft29 allocOk packet state = some (status, state') ∧
      state'.info.Within packet.length) ∧
    ∀ (isServerTP : Bool) (tpBuf : List UInt8), tpBuf.length < 2 ^ 16 →
      quicCryptoTlsDecodeTransportParameters isServerTP allocOk tpBuf ≠ none := by
  obtain ⟨status, state', run, -, inside⟩ := readInitialLoop_spec isDraft29 allocOk (packet.length + 1) packet 0 state
    packet.length (Nat.lt_succ_self _) (Nat.zero_add _).le exposed
  exact ⟨⟨status, state', run, inside⟩, fun isServerTP _ small =>
    quicCryptoTlsDecodeTransportParameters_ne_none isServerTP allocOk small⟩

theorem clientHello_header_in_bounds :
    ({} : QuicNewConnectionInfo).Within 4 ∧
      (∃ status state', quicCryptoTlsReadInitial false true [0x01, 0x00, 0x00, 0x00] IngestState.zeroed =
        some (status, state') ∧ state'.info.Within 4) ∧
      ([] : List UInt8).length < 2 ^ 16 ∧ quicCryptoTlsDecodeTransportParameters false true [] ≠ none :=
  have bounds := quicCryptoTlsReadInitial_in_bounds false true [0x01, 0x00, 0x00, 0x00] IngestState.zeroed
    (QuicNewConnectionInfo.within_zeroed _)
  ⟨QuicNewConnectionInfo.within_zeroed _, bounds.1, by decide, bounds.2 false [] (by decide)⟩

end CryptoTls
