import CryptoTls.Readers

namespace CryptoTls

/-- Modelled from the spec: an extension, a 16-bit type, then data behind a
16-bit length. -/
structure TlsExtension where
  extType : Nat
  data : List UInt8
  typeFits : extType < 2 ^ 16
  fits : data.length < 2 ^ 16

def TlsExtension.bytes (extension : TlsExtension) : List UInt8 :=
  bigEndian 2 extension.extType ++ (bigEndian 2 extension.data.length ++ extension.data)

def tlsExtensions (extensions : List TlsExtension) : List UInt8 :=
  (extensions.map TlsExtension.bytes).flatten

/-- The transport parameter extension type the connection's QUIC version
selects. -/
def transportParametersType (isDraft29 : Bool) : Nat :=
  if isDraft29 then tlsExtensionTypeQuicTransportParametersDraft else tlsExtensionTypeQuicTransportParameters

/-- By `quicCryptoTlsReadSniExtension_spec` acceptance does not depend on the
position or on `Info`. -/
def SniAccepted (data : List UInt8) : Prop :=
  (quicCryptoTlsReadSniExtension data 0 {}).map Prod.fst = some .success

def AlpnAccepted (data : List UInt8) : Prop :=
  (quicCryptoTlsReadAlpnExtension data 0 {}).map Prod.fst = some .success

def TransportParametersAccepted (allocOk : Bool) (data : List UInt8) : Prop :=
  (quicCryptoTlsDecodeTransportParameters false allocOk data).map Prod.fst = some true

instance : DecidablePred SniAccepted := fun _ => inferInstanceAs (Decidable (_ = _))

instance : DecidablePred AlpnAccepted := fun _ => inferInstanceAs (Decidable (_ = _))

instance (allocOk : Bool) : DecidablePred (TransportParametersAccepted allocOk) :=
  fun _ => inferInstanceAs (Decidable (_ = _))

/-- Whether the loop goes on after `extension`, with the flags `found` before
it: a second SNI, ALPN or transport parameter extension is refused, and so is
one whose reader refuses its data. -/
def ExtensionAccepted (isDraft29 allocOk : Bool) (found : ExtensionsFound) (extension : TlsExtension) : Prop :=
  (extension.extType = tlsExtServerName → found.sni = false ∧ SniAccepted extension.data) ∧
    (extension.extType = tlsExtAppProtocolNegotiation → found.alpn = false ∧ AlpnAccepted extension.data) ∧
    (extension.extType = transportParametersType isDraft29 →
      found.transportParameters = false ∧ TransportParametersAccepted allocOk extension.data)

instance (isDraft29 allocOk : Bool) (found : ExtensionsFound) :
    DecidablePred (ExtensionAccepted isDraft29 allocOk found) :=
  fun _ => inferInstanceAs (Decidable (_ ∧ _ ∧ _))

/-- The flags after an accepted extension. -/
def ExtensionsFound.record (isDraft29 : Bool) (found : ExtensionsFound) (extension : TlsExtension) :
    ExtensionsFound :=
  if extension.extType = tlsExtServerName then { found with sni := true }
  else if extension.extType = tlsExtAppProtocolNegotiation then { found with alpn := true }
  else if extension.extType = transportParametersType isDraft29 then { found with transportParameters := true }
  else found

/-- The spec's condition on a block, after extensions that set the flags
`found`: with `found = {}`, SNI and ALPN at most once, the version's transport
parameter extension exactly once, and each accepted by its reader. -/
def ExtensionsAcceptedFrom (isDraft29 allocOk : Bool) (found : ExtensionsFound)
    (extensions : List TlsExtension) : Prop :=
  found.sni.toNat + extensions.countP (·.extType = tlsExtServerName) ≤ 1 ∧
    found.alpn.toNat + extensions.countP (·.extType = tlsExtAppProtocolNegotiation) ≤ 1 ∧
    found.transportParameters.toNat + extensions.countP (·.extType = transportParametersType isDraft29) = 1 ∧
    ∀ extension ∈ extensions,
      (extension.extType = tlsExtServerName → SniAccepted extension.data) ∧
      (extension.extType = tlsExtAppProtocolNegotiation → AlpnAccepted extension.data) ∧
      (extension.extType = transportParametersType isDraft29 → TransportParametersAccepted allocOk extension.data)

@[simp] theorem tlsExtensions_nil : tlsExtensions [] = [] := rfl

@[simp] theorem tlsExtensions_cons (extension : TlsExtension) (extensions : List TlsExtension) :
    tlsExtensions (extension :: extensions) = extension.bytes ++ tlsExtensions extensions := rfl

@[simp] theorem TlsExtension.length_bytes (extension : TlsExtension) :
    extension.bytes.length = 4 + extension.data.length := by
  simp [TlsExtension.bytes]
  omega

theorem transportParametersType_ne (isDraft29 : Bool) :
    transportParametersType isDraft29 ≠ tlsExtServerName ∧
      transportParametersType isDraft29 ≠ tlsExtAppProtocolNegotiation := by
  cases isDraft29 <;> decide

/-- One pass of the extension loop over a whole extension: its case decides,
and the loop goes on after it. -/
theorem readExtensionsLoop_extension (isDraft29 allocOk : Bool) (fuel : Nat) (extension : TlsExtension)
    (more : List UInt8) (base : Nat) (found : ExtensionsFound) (state : IngestState) :
    readExtensionsLoop isDraft29 allocOk (fuel + 1) (extension.bytes ++ more) base found state =
      (readExtension isDraft29 allocOk extension.extType extension.data (base + 4) found state).bind fun
        | .error returned => some returned
        | .ok (found, state) =>
          readExtensionsLoop isDraft29 allocOk fuel more (base + 4 + extension.data.length) found state := by
  have extType := tlsReadUint16_bigEndian extension.typeFits (bigEndian 2 extension.data.length ++
    (extension.data ++ more))
  have extLen := tlsReadUint16_append (bigEndian 2 extension.extType)
    (bigEndian 2 extension.data.length ++ (extension.data ++ more)) 0
  rw [tlsReadUint16_bigEndian extension.fits, length_bigEndian] at extLen
  have rest : (extension.bytes ++ more).drop (2 * 2) = extension.data ++ more := by
    simp [TlsExtension.bytes, List.drop_append_eq_append_drop]
  have fits : ¬(extension.data ++ more).length < extension.data.length := by simp
  have slice : readBytes (extension.data ++ more) 0 extension.data.length = some extension.data := by
    rw [readBytes_of_le (by simp)]
    simp
  have long : ¬(extension.bytes ++ more).length < 2 * 2 := by
    simp only [List.length_append, TlsExtension.length_bytes]
    omega
  have nonempty : (extension.bytes ++ more).length > 0 := by
    simp only [List.length_append, TlsExtension.length_bytes]
    omega
  simp only [TlsExtension.bytes, List.append_assoc] at extType extLen rest long nonempty ⊢
  simp only [readExtensionsLoop, if_pos nonempty, long, if_false, extType, extLen, rest, fits, slice,
    Option.bind_eq_bind, Option.some_bind, List.drop_left, Nat.reduceMul]
  rfl

/-- The SNI and ALPN cases: a second one is refused; otherwise the reader runs
on the connection info, and the loop goes on exactly when it succeeds.
Neither touches `PeerTransportParams`. -/
theorem readInfoExtension_outcome {length : Nat} (seen : Bool)
    {reader : Nat → QuicNewConnectionInfo → Option (QuicStatus × QuicNewConnectionInfo)}
    (spec : ReaderSpec QuicNewConnectionInfo.alpnSet QuicNewConnectionInfo.Within length reader)
    (base : Nat) (found : ExtensionsFound) (state : IngestState) :
    ∃ state', readInfoExtension seen (reader base) found state =
      some (if seen = false ∧ (reader 0 {}).map Prod.fst = some .success then .ok (found, state')
        else .error (.invalidParameter, state')) ∧ state'.peerTransportParams = state.peerTransportParams := by
  cases seen
  · obtain ⟨accepted, _, runs⟩ := spec
    obtain ⟨info, run, -⟩ := runs base state.info
    obtain ⟨_, zeroed, -⟩ := runs 0 {}
    refine ⟨{ state with info }, ?_, rfl⟩
    cases accepted <;> simp [readInfoExtension, run, zeroed, QuicStatus.failed]
  · exact ⟨state, by simp [readInfoExtension], rfl⟩

/-- What the case of an extension does: go on with the flags recorded exactly
when the extension is accepted, refuse with INVALID_PARAMETER otherwise; only
the transport parameter case, the first time, writes
`PeerTransportParams`, with the decoder's record. -/
theorem readExtension_outcome (isDraft29 allocOk : Bool) (extension : TlsExtension) (base : Nat)
    (found : ExtensionsFound) (state : IngestState) :
    ∃ state', readExtension isDraft29 allocOk extension.extType extension.data base found state =
        some (if ExtensionAccepted isDraft29 allocOk found extension then .ok (found.record isDraft29 extension, state')
          else .error (.invalidParameter, state')) ∧
      (extension.extType = transportParametersType isDraft29 ∧ found.transportParameters = false →
        (quicCryptoTlsDecodeTransportParameters false allocOk extension.data).map Prod.snd =
          some state'.peerTransportParams) ∧
      (¬(extension.extType = transportParametersType isDraft29 ∧ found.transportParameters = false) →
        state'.peerTransportParams = state.peerTransportParams) := by
  obtain ⟨notSni, notAlpn⟩ := transportParametersType_ne isDraft29
  by_cases sni : extension.extType = tlsExtServerName
  · obtain ⟨state', run, same⟩ := readInfoExtension_outcome found.sni
      (quicCryptoTlsReadSniExtension_spec extension.data) base { found with sni := true } state
    have accepted : ExtensionAccepted isDraft29 allocOk found extension ↔
        found.sni = false ∧ SniAccepted extension.data := by
      have serverAlpn : tlsExtServerName ≠ tlsExtAppProtocolNegotiation := by decide
      simp only [ExtensionAccepted, sni, serverAlpn, Ne.symm notSni, true_implies, false_implies, and_true]
    have recorded : found.record isDraft29 extension = { found with sni := true } := by
      simp [ExtensionsFound.record, sni]
    refine ⟨state', ?_, fun ⟨tp, _⟩ => (notSni (tp.symm.trans sni)).elim, fun _ => same⟩
    simp only [readExtension, if_pos sni, run, accepted, recorded, SniAccepted]
  by_cases alpn : extension.extType = tlsExtAppProtocolNegotiation
  · obtain ⟨state', run, same⟩ := readInfoExtension_outcome found.alpn
      (quicCryptoTlsReadAlpnExtension_spec extension.data) base { found with alpn := true } state
    have alpnServer : tlsExtAppProtocolNegotiation ≠ tlsExtServerName := by decide
    have accepted : ExtensionAccepted isDraft29 allocOk found extension ↔
        found.alpn = false ∧ AlpnAccepted extension.data := by
      simp only [ExtensionAccepted, alpn, alpnServer, Ne.symm notAlpn, true_implies, false_implies, and_true,
        true_and]
    have recorded : found.record isDraft29 extension = { found with alpn := true } := by
      simp [ExtensionsFound.record, alpn, alpnServer]
    refine ⟨state', ?_, fun ⟨tp, _⟩ => (notAlpn (tp.symm.trans alpn)).elim, fun _ => same⟩
    simp only [readExtension, if_neg sni, if_pos alpn, run, accepted, recorded, AlpnAccepted]
  have dispatch : readExtension isDraft29 allocOk extension.extType extension.data base found state =
      if extension.extType = transportParametersType isDraft29 then
        readTransportParametersExtension allocOk extension.data found state
      else pure (.ok (found, state)) := by
    cases isDraft29 <;> simp [readExtension, transportParametersType, sni, alpn]
  rw [dispatch]
  by_cases parameters : extension.extType = transportParametersType isDraft29
  swap
  · refine ⟨state, ?_, fun ⟨tp, _⟩ => absurd tp parameters, fun _ => rfl⟩
    simp [parameters, ExtensionAccepted, ExtensionsFound.record, sni, alpn, pure]
  rw [if_pos parameters]
  cases seen : found.transportParameters
  · obtain ⟨⟨decoded, tp⟩, decodes⟩ :=
      Option.ne_none_iff_exists'.mp (quicCryptoTlsDecodeTransportParameters_ne_none false allocOk extension.fits)
    refine ⟨{ state with peerTransportParams := tp }, ?_, fun _ => by simp [decodes], fun other => ?_⟩
    · cases decoded <;>
        simp [readTransportParametersExtension, seen, decodes, ExtensionAccepted, ExtensionsFound.record, parameters,
          notSni, notAlpn, TransportParametersAccepted]
    · exact absurd ⟨parameters, rfl⟩ other
  · refine ⟨state, ?_, fun ⟨_, unseen⟩ => Bool.noConfusion unseen, fun _ => rfl⟩
    simp [readTransportParametersExtension, seen, ExtensionAccepted, parameters]

theorem extensionsAcceptedFrom_nil (isDraft29 allocOk : Bool) (found : ExtensionsFound) :
    ExtensionsAcceptedFrom isDraft29 allocOk found [] ↔ found.transportParameters = true := by
  rcases found with ⟨sni, alpn, transportParameters⟩
  cases sni <;> cases alpn <;> cases transportParameters <;> simp [ExtensionsAcceptedFrom]

/-- A further extension of a kind keeps its count at most one exactly when
none came before it. -/
private theorem toNat_add_succ_le_one (flag : Bool) (count : Nat) :
    flag.toNat + (count + 1) ≤ 1 ↔ flag = false ∧ true.toNat + count ≤ 1 := by
  cases flag <;> simp

/-- A further extension of a kind makes its count exactly one exactly when
none came before it. -/
private theorem toNat_add_succ_eq_one (flag : Bool) (count : Nat) :
    flag.toNat + (count + 1) = 1 ↔ flag = false ∧ true.toNat + count = 1 := by
  cases flag <;> simp

/-- The spec's condition, one extension at a time, as the loop checks it. -/
theorem extensionsAcceptedFrom_cons (isDraft29 allocOk : Bool) (found : ExtensionsFound)
    (extension : TlsExtension) (extensions : List TlsExtension) :
    ExtensionsAcceptedFrom isDraft29 allocOk found (extension :: extensions) ↔
      ExtensionAccepted isDraft29 allocOk found extension ∧
        ExtensionsAcceptedFrom isDraft29 allocOk (found.record isDraft29 extension) extensions := by
  obtain ⟨notSni, notAlpn⟩ := transportParametersType_ne isDraft29
  have serverAlpn : tlsExtServerName ≠ tlsExtAppProtocolNegotiation := by decide
  simp only [ExtensionsAcceptedFrom, ExtensionAccepted, ExtensionsFound.record, List.countP_cons,
    List.forall_mem_cons]
  by_cases isSni : extension.extType = tlsExtServerName
  · simp only [isSni, serverAlpn, Ne.symm notSni, if_true, if_false, decide_True, decide_False, true_implies,
      false_implies, and_true, true_and, Bool.false_eq_true, add_zero, toNat_add_succ_le_one]
    tauto
  by_cases isAlpn : extension.extType = tlsExtAppProtocolNegotiation
  · simp only [isAlpn, Ne.symm serverAlpn, Ne.symm notAlpn, if_true, if_false, decide_True, decide_False,
      true_implies, false_implies, and_true, true_and, Bool.false_eq_true, add_zero, toNat_add_succ_le_one]
    tauto
  by_cases isParameters : extension.extType = transportParametersType isDraft29
  · simp only [isParameters, notSni, notAlpn, if_true, if_false, decide_True, decide_False, true_implies,
      false_implies, and_true, true_and, Bool.false_eq_true, add_zero, toNat_add_succ_eq_one]
    tauto
  · simp only [isSni, isAlpn, isParameters, if_false, decide_False, false_implies, and_true, true_and, add_zero]
    tauto

/-- The extension loop on whole extensions: SUCCESS exactly when the spec's
condition holds, and then every transport parameter extension decodes to
`PeerTransportParams`, which stays as it was when there is none. -/
theorem readExtensionsLoop_extensions (isDraft29 allocOk : Bool) :
    ∀ (extensions : List TlsExtension) (fuel base : Nat) (found : ExtensionsFound) (state : IngestState),
      (tlsExtensions extensions).length < fuel →
      ∃ status state', readExtensionsLoop isDraft29 allocOk fuel (tlsExtensions extensions) base found state =
          some (status, state') ∧
        (status = .success ↔ ExtensionsAcceptedFrom isDraft29 allocOk found extensions) ∧
        (status = .success →
          (∀ extension ∈ extensions, extension.extType = transportParametersType isDraft29 →
            quicCryptoTlsDecodeTransportParameters false allocOk extension.data =
              some (true, state'.peerTransportParams)) ∧
          ((∀ extension ∈ extensions, extension.extType ≠ transportParametersType isDraft29) →
            state'.peerTransportParams = state.peerTransportParams))
  | _, 0, _, _, _, enough => absurd enough (Nat.not_lt_zero _)
  | [], fuel + 1, base, found, state, _ => by
    refine ⟨if found.transportParameters then .success else .invalidParameter, state, ?_, ?_, fun _ => ⟨nofun, fun _ => rfl⟩⟩
    · cases parameters : found.transportParameters <;> simp [readExtensionsLoop, parameters]
    · rw [extensionsAcceptedFrom_nil]
      cases found.transportParameters <;> simp
  | extension :: extensions, fuel + 1, base, found, state, enough => by
    have enough' : (tlsExtensions extensions).length < fuel := by
      simp only [tlsExtensions_cons, List.length_append, TlsExtension.length_bytes] at enough
      omega
    obtain ⟨state₁, step, decoded, kept⟩ := readExtension_outcome isDraft29 allocOk extension (base + 4) found state
    rw [tlsExtensions_cons, readExtensionsLoop_extension, step, extensionsAcceptedFrom_cons]
    by_cases accepted : ExtensionAccepted isDraft29 allocOk found extension
    swap
    · exact ⟨.invalidParameter, state₁, by simp [accepted], by simp [accepted], nofun⟩
    obtain ⟨status, state', run, success, parameters⟩ := readExtensionsLoop_extensions isDraft29 allocOk extensions fuel
      (base + 4 + extension.data.length) (found.record isDraft29 extension) state₁ enough'
    refine ⟨status, state', by simpa [accepted] using run, by simp [accepted, success], fun succeeded => ?_⟩
    obtain ⟨decodes, same⟩ := parameters succeeded
    have rest := (success.1 succeeded).2.2.1
    refine ⟨fun other member selected => ?_, fun none => ?_⟩
    · rcases List.mem_cons.1 member with rfl | member
      · obtain ⟨unseen, accepts⟩ := accepted.2.2 selected
        have after : ∀ e ∈ extensions, e.extType ≠ transportParametersType isDraft29 := by
          have : (found.record isDraft29 other).transportParameters = true := by
            simp [ExtensionsFound.record, selected, (transportParametersType_ne isDraft29).1,
              (transportParametersType_ne isDraft29).2]
          rw [this] at rest
          simpa using rest
        rw [same after]
        obtain ⟨⟨accepted', tp⟩, result⟩ := Option.ne_none_iff_exists'.mp
          (quicCryptoTlsDecodeTransportParameters_ne_none false allocOk other.fits)
        have record := decoded ⟨selected, unseen⟩
        simp only [TransportParametersAccepted, result, Option.map_some', Option.some.injEq] at accepts record
        rw [result, accepts, record]
      · exact decodes other member selected
    · rw [same fun e member => none e (List.mem_cons_of_mem _ member),
        kept fun ⟨selected, _⟩ => none extension (List.mem_cons_self _ _) selected]

/-- The extension loop succeeds only on whole extensions. -/
theorem readExtensionsLoop_success (isDraft29 allocOk : Bool) :
    ∀ (fuel : Nat) (buffer : List UInt8) (base : Nat) (found : ExtensionsFound) (state state' : IngestState),
      readExtensionsLoop isDraft29 allocOk fuel buffer base found state = some (.success, state') →
      ∃ extensions, buffer = tlsExtensions extensions
  | 0, _, _, _, _, _, run => by simp [readExtensionsLoop] at run
  | _ + 1, [], _, _, _, _, _ => ⟨[], rfl⟩
  | _ + 1, [_], _, _, _, _, run | _ + 1, [_, _], _, _, _, _, run | _ + 1, [_, _, _], _, _, _, _, run => by
    simp [readExtensionsLoop] at run
  | fuel + 1, t0 :: t1 :: l0 :: l1 :: rest, base, found, state, state', run => by
    have extLen : tlsReadUint16 (t0 :: t1 :: l0 :: l1 :: rest) 2 = some (readBigEndian [l0, l1]) :=
      (tlsReadUint16_append [t0, t1] _ 0).trans (tlsReadUint16_cons l0 l1 rest)
    by_cases over : rest.length < readBigEndian [l0, l1]
    · simp [readExtensionsLoop, tlsReadUint16_cons, extLen, over] at run
    have typeSmall : readBigEndian [t0, t1] < 256 ^ 2 := readBigEndian_lt [t0, t1]
    have lengthSmall : readBigEndian [l0, l1] < 256 ^ 2 := readBigEndian_lt [l0, l1]
    let extension : TlsExtension :=
      ⟨readBigEndian [t0, t1], rest.take (readBigEndian [l0, l1]), by omega, by rw [List.length_take]; omega⟩
    have split : t0 :: t1 :: l0 :: l1 :: rest = extension.bytes ++ rest.drop (readBigEndian [l0, l1]) := by
      show _ = bigEndian 2 (readBigEndian [t0, t1]) ++
        (bigEndian 2 (rest.take _).length ++ rest.take (readBigEndian [l0, l1])) ++ _
      have typeBytes : bigEndian 2 (readBigEndian [t0, t1]) = [t0, t1] := bigEndian_readBigEndian [t0, t1]
      have lengthBytes : bigEndian 2 (readBigEndian [l0, l1]) = [l0, l1] := bigEndian_readBigEndian [l0, l1]
      rw [List.length_take, Nat.min_eq_left (Nat.le_of_not_lt over), typeBytes, lengthBytes]
      simp
    rw [split, readExtensionsLoop_extension] at run
    obtain ⟨state₁, step, -, -⟩ := readExtension_outcome isDraft29 allocOk extension (base + 4) found state
    rw [step] at run
    by_cases accepted : ExtensionAccepted isDraft29 allocOk found extension
    · simp only [accepted, if_true, Option.some_bind] at run
      obtain ⟨extensions, more⟩ := readExtensionsLoop_success isDraft29 allocOk fuel _ _ _ _ _ run
      exact ⟨extension :: extensions, by rw [split, more]; rfl⟩
    · simp [accepted] at run

theorem quicCryptoTlsReadExtensions_accepts (isDraft29 allocOk : Bool) (block : List UInt8) (base : Nat)
    (state : IngestState) :
    ((quicCryptoTlsReadExtensions isDraft29 allocOk block base state).map Prod.fst = some .success ↔
      ∃ extensions, block = tlsExtensions extensions ∧ ExtensionsAcceptedFrom isDraft29 allocOk {} extensions) ∧
      ∀ state', quicCryptoTlsReadExtensions isDraft29 allocOk block base state = some (.success, state') →
        ∃ extensions, block = tlsExtensions extensions ∧
          ∃ parameters ∈ extensions, parameters.extType = transportParametersType isDraft29 ∧
            quicCryptoTlsDecodeTransportParameters false allocOk parameters.data =
              some (true, state'.peerTransportParams) := by
  unfold quicCryptoTlsReadExtensions
  refine ⟨⟨fun accepted => ?_, fun ⟨extensions, split, accepted⟩ => ?_⟩, fun state' run => ?_⟩
  · obtain ⟨⟨status, state'⟩, run, rfl⟩ := Option.map_eq_some'.mp accepted
    obtain ⟨extensions, rfl⟩ := readExtensionsLoop_success isDraft29 allocOk _ _ _ _ _ _ run
    obtain ⟨status', state'', run', success, -⟩ :=
      readExtensionsLoop_extensions isDraft29 allocOk extensions _ base {} state (Nat.lt_succ_self _)
    rw [run'] at run
    obtain ⟨rfl, rfl⟩ := Prod.mk.inj (Option.some.inj run)
    exact ⟨extensions, rfl, success.1 rfl⟩
  · subst split
    obtain ⟨status, state', run, success, -⟩ :=
      readExtensionsLoop_extensions isDraft29 allocOk extensions _ base {} state (Nat.lt_succ_self _)
    rw [run, Option.map_some', success.2 accepted]
  · obtain ⟨extensions, rfl⟩ := readExtensionsLoop_success isDraft29 allocOk _ _ _ _ _ _ run
    obtain ⟨status, state'', run', success, parameters⟩ :=
      readExtensionsLoop_extensions isDraft29 allocOk extensions _ base {} state (Nat.lt_succ_self _)
    rw [run'] at run
    obtain ⟨rfl, rfl⟩ := Prod.mk.inj (Option.some.inj run)
    obtain ⟨-, -, once, -⟩ := success.1 rfl
    obtain ⟨selected, member, isParameters⟩ :=
      List.countP_pos_iff.1 (show 0 < extensions.countP (·.extType = transportParametersType isDraft29) by
        simp only [Bool.toNat_false] at once; omega)
    have isParameters : selected.extType = transportParametersType isDraft29 := by simpa using isParameters
    exact ⟨extensions, rfl, selected, member, isParameters, (parameters rfl).1 selected member isParameters⟩

theorem empty_transport_parameters_accepted :
    ∃ state', quicCryptoTlsReadExtensions false true [0x00, 0x39, 0x00, 0x00] 0 .zeroed = some (.success, state') ∧
      ∃ extensions, [0x00, 0x39, 0x00, 0x00] = tlsExtensions extensions ∧
        ∃ parameters ∈ extensions, parameters.extType = transportParametersType false ∧
          quicCryptoTlsDecodeTransportParameters false true parameters.data =
            some (true, state'.peerTransportParams) := by
  obtain ⟨state', run⟩ : ∃ state',
      quicCryptoTlsReadExtensions false true [0x00, 0x39, 0x00, 0x00] 0 .zeroed = some (.success, state') :=
    ⟨_, rfl⟩
  exact ⟨state', run, (quicCryptoTlsReadExtensions_accepts false true _ 0 .zeroed).2 state' run⟩

theorem ExtensionsAcceptedFrom.perm {isDraft29 allocOk : Bool} {found : ExtensionsFound}
    {extensions extensions' : List TlsExtension} (perm : extensions.Perm extensions')
    (accepted : ExtensionsAcceptedFrom isDraft29 allocOk found extensions) :
    ExtensionsAcceptedFrom isDraft29 allocOk found extensions' := by
  obtain ⟨sni, alpn, parameters, each⟩ := accepted
  rw [perm.countP_eq] at sni alpn parameters
  exact ⟨sni, alpn, parameters, fun extension member => each extension (perm.mem_iff.2 member)⟩

/-- An accepted extension list from no extension found holds a transport
parameters extension. -/
theorem ExtensionsAcceptedFrom.exists_parameters {isDraft29 allocOk : Bool} {extensions : List TlsExtension}
    (accepted : ExtensionsAcceptedFrom isDraft29 allocOk {} extensions) :
    ∃ parameters ∈ extensions, parameters.extType = transportParametersType isDraft29 := by
  obtain ⟨-, -, once, -⟩ := accepted
  obtain ⟨parameters, member, selected⟩ :=
    List.countP_pos_iff.1 (show 0 < extensions.countP (·.extType = transportParametersType isDraft29) by
      simp only [Bool.toNat_false] at once; omega)
  exact ⟨parameters, member, by simpa using selected⟩

/-- The extension reader does not depend on the order of the extensions, on
where the block sits in the packet, or on the state it starts from: a block
and any reordering of it are both accepted or both refused, and when accepted
they leave the same peer transport parameters. -/
theorem quicCryptoTlsReadExtensions_perm {isDraft29 allocOk : Bool} {extensions extensions' : List TlsExtension}
    (perm : extensions.Perm extensions') (base base' : Nat) (state state' : IngestState) :
    ((quicCryptoTlsReadExtensions isDraft29 allocOk (tlsExtensions extensions) base state).map Prod.fst =
        some .success ↔
      (quicCryptoTlsReadExtensions isDraft29 allocOk (tlsExtensions extensions') base' state').map Prod.fst =
        some .success) ∧
      ∀ read read', quicCryptoTlsReadExtensions isDraft29 allocOk (tlsExtensions extensions) base state =
          some (.success, read) →
        quicCryptoTlsReadExtensions isDraft29 allocOk (tlsExtensions extensions') base' state' =
          some (.success, read') →
        read.peerTransportParams = read'.peerTransportParams := by
  obtain ⟨status, read, run, success, parameters⟩ :=
    readExtensionsLoop_extensions isDraft29 allocOk extensions _ base {} state (Nat.lt_succ_self _)
  obtain ⟨status', read', run', success', parameters'⟩ :=
    readExtensionsLoop_extensions isDraft29 allocOk extensions' _ base' {} state' (Nat.lt_succ_self _)
  unfold quicCryptoTlsReadExtensions
  rw [run, run']
  refine ⟨?_, fun _ _ first second => ?_⟩
  · simp only [Option.map_some', Option.some.injEq, success, success']
    exact ⟨(·.perm perm), (·.perm perm.symm)⟩
  obtain ⟨rfl, rfl⟩ := Prod.mk.inj (Option.some.inj first)
  obtain ⟨rfl, rfl⟩ := Prod.mk.inj (Option.some.inj second)
  obtain ⟨selected, member, isParameters⟩ := (success.1 rfl).exists_parameters
  have decoded := (parameters' rfl).1 selected (perm.mem_iff.1 member) isParameters
  rw [(parameters rfl).1 selected member isParameters] at decoded
  exact (Prod.mk.inj (Option.some.inj decoded)).2

/-- An ALPN extension offering h3, then an empty transport parameters
extension. -/
def h3Extensions : List TlsExtension :=
  [⟨0x10, [0x00, 0x03, 0x02, 0x68, 0x33], by decide, by decide⟩, ⟨0x39, [], by decide, by decide⟩]

theorem h3Extensions_reversed :
    ((quicCryptoTlsReadExtensions false true (tlsExtensions h3Extensions.reverse) 0 .zeroed).map Prod.fst =
        some .success ↔
      (quicCryptoTlsReadExtensions false true (tlsExtensions h3Extensions) 40 .zeroed).map Prod.fst =
        some .success) ∧
      ∀ read read', quicCryptoTlsReadExtensions false true (tlsExtensions h3Extensions.reverse) 0 .zeroed =
          some (.success, read) →
        quicCryptoTlsReadExtensions false true (tlsExtensions h3Extensions) 40 .zeroed = some (.success, read') →
        read.peerTransportParams = read'.peerTransportParams :=
  quicCryptoTlsReadExtensions_perm (List.reverse_perm _) 0 40 .zeroed .zeroed

end CryptoTls
