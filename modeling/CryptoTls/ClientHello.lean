import CryptoTls.Extensions
import CryptoTls.NameLists

namespace CryptoTls

/-- The fields of a ClientHello before its extension list, laid out as the
comment of `QuicCryptoTlsReadClientHello` has them, with the checks the reader
makes on each:
- a version of at least `TLS1_PROTOCOL_VERSION`;
- a `Random` of `TLS_RANDOM_LENGTH` bytes;
- a session id of at most `TLS_SESSION_ID_LENGTH` bytes;
- cipher suites of an even length, where an empty list passes;
- at least one compression method. -/
structure ClientHelloFields where
  clientVersion : Nat
  random : List UInt8
  sessionId : List UInt8
  cipherSuites : List UInt8
  compressionMethods : List UInt8
  versionFits : tls1ProtocolVersion ≤ clientVersion ∧ clientVersion < 2 ^ 16
  randomLength : random.length = tlsRandomLength
  sessionIdFits : sessionId.length ≤ tlsSessionIdLength
  cipherSuitesFit : cipherSuites.length % 2 = 0 ∧ cipherSuites.length < 2 ^ 16
  compressionMethodsFit : 1 ≤ compressionMethods.length ∧ compressionMethods.length < 2 ^ 8

/-- The fields on the wire: the version in 16 bits, `Random`, then the
session id, the cipher suites and the compression methods, each after its
length (8, 16 and 8 bits). -/
def ClientHelloFields.bytes (fields : ClientHelloFields) : List UInt8 :=
  bigEndian 2 fields.clientVersion ++ (fields.random ++
    ((UInt8.ofNat fields.sessionId.length :: fields.sessionId) ++
      ((bigEndian 2 fields.cipherSuites.length ++ fields.cipherSuites) ++
        (UInt8.ofNat fields.compressionMethods.length :: fields.compressionMethods))))

@[simp] theorem ClientHelloFields.length_bytes (fields : ClientHelloFields) :
    fields.bytes.length = 2 + tlsRandomLength + (1 + fields.sessionId.length) + (2 + fields.cipherSuites.length) +
      (1 + fields.compressionMethods.length) := by
  simp [ClientHelloFields.bytes, fields.randomLength]
  omega

/-- Two bytes or more begin with a 16-bit value. -/
theorem exists_bigEndian_two {l : List UInt8} (long : 2 ≤ l.length) :
    ∃ value rest, value < 2 ^ 16 ∧ l = bigEndian 2 value ++ rest :=
  match l, long with
  | b0 :: b1 :: rest, _ =>
    have small : readBigEndian [b0, b1] < 256 ^ 2 := readBigEndian_lt [b0, b1]
    have bytes : bigEndian 2 (readBigEndian [b0, b1]) = [b0, b1] := bigEndian_readBigEndian [b0, b1]
    ⟨readBigEndian [b0, b1], rest, by omega, by rw [bytes]; rfl⟩

theorem exists_append_of_le_length {l : List UInt8} {n : Nat} (long : n ≤ l.length) :
    ∃ front rest, front.length = n ∧ l = front ++ rest :=
  ⟨l.take n, l.drop n, by simp; omega, (List.take_append_drop n l).symm⟩

/-- The reader on fields it accepts: it skips them, then reads the optional
extension list from the bytes after them. -/
theorem quicCryptoTlsReadClientHello_fields (isDraft29 allocOk : Bool) (fields : ClientHelloFields)
    (tail : List UInt8) (base : Nat) (state : IngestState) :
    quicCryptoTlsReadClientHello isDraft29 allocOk (fields.bytes ++ tail) base state =
      if tail.length < 2 then some (.success, state) else
        (tlsReadUint16 tail 0).bind fun len =>
          if tail.length < 2 + len then some (.invalidParameter, state) else
            (readBytes tail 2 len).bind fun extensions =>
              quicCryptoTlsReadExtensions isDraft29 allocOk extensions (base + fields.bytes.length + 2) state := by
  obtain ⟨v, random, sid, suites, methods, ⟨newer, vFits⟩, randomLength, sidFits, ⟨even, suitesFit⟩,
    ⟨someMethod, methodsFit⟩⟩ := fields
  rw [ClientHelloFields.length_bytes]
  simp only [tls1ProtocolVersion, tlsSessionIdLength, tlsRandomLength] at newer sidFits randomLength
  have sidByte : (UInt8.ofNat sid.length).toNat = sid.length := by
    rw [UInt8.toNat_ofNat]; exact Nat.mod_eq_of_lt (by omega)
  have methodsByte : (UInt8.ofNat methods.length).toNat = methods.length := by
    rw [UInt8.toNat_ofNat]; exact Nat.mod_eq_of_lt (by omega)
  simp only [ClientHelloFields.bytes, List.append_assoc]
  generalize UInt8.ofNat sid.length = s at sidByte
  generalize UInt8.ofNat methods.length = m at methodsByte
  set r3 := (m :: methods) ++ tail with r3Def
  set r2 := bigEndian 2 suites.length ++ (suites ++ r3) with r2Def
  set r1 := (s :: sid) ++ r2 with r1Def
  set r0 := random ++ r1 with r0Def
  have version : tlsReadUint16 (bigEndian 2 v ++ r0) 0 = some v := tlsReadUint16_bigEndian vFits r0
  have suitesRead : tlsReadUint16 r2 0 = some suites.length := tlsReadUint16_bigEndian suitesFit _
  have drop0 : (bigEndian 2 v ++ r0).drop 2 = r0 := List.drop_left' (length_bigEndian 2 v)
  have drop1 : r0.drop 32 = r1 := List.drop_left' randomLength
  have drop2 : r1.drop (1 + sid.length) = r2 := List.drop_left' (by simp; omega)
  have drop3 : r2.drop (2 + suites.length) = r3 := by
    rw [r2Def, ← List.append_assoc]; exact List.drop_left' (by simp)
  have drop4 : r3.drop (1 + methods.length) = tail := List.drop_left' (by simp; omega)
  have at1 : r1[0]? = some s := by simp [r1Def]
  have at3 : r3[0]? = some m := by simp [r3Def]
  have length0 : r0.length = 32 + r1.length := by simp [r0Def, randomLength]
  have length1 : r1.length = 1 + sid.length + r2.length := by simp [r1Def]; omega
  have length2 : r2.length = 2 + suites.length + r3.length := by simp [r2Def]; omega
  have length3 : r3.length = 1 + methods.length + tail.length := by simp [r3Def]; omega
  simp only [quicCryptoTlsReadClientHello, version, suitesRead, drop0, drop1, drop2, drop3, drop4, at1, at3,
    sidByte, methodsByte, List.length_append, length_bigEndian, Option.bind_eq_bind, Option.some_bind, pure_bind,
    Option.pure_def, tls1ProtocolVersion, tlsRandomLength, tlsSessionIdLength]
  repeat rw [if_neg (by omega)]
  rw [show base + 2 + 32 + 1 + sid.length + 2 + suites.length + 1 + methods.length =
    base + (2 + 32 + (1 + sid.length) + (2 + suites.length) + (1 + methods.length)) by omega]

/-- Every body the reader does not refuse in its first five fields is fields it
accepts followed by more bytes. -/
theorem quicCryptoTlsReadClientHello_cases (isDraft29 allocOk : Bool) (body : List UInt8) (base : Nat)
    (state : IngestState) :
    (∃ (fields : ClientHelloFields) (tail : List UInt8), body = fields.bytes ++ tail) ∨
      quicCryptoTlsReadClientHello isDraft29 allocOk body base state = some (.invalidParameter, state) := by
  refine or_iff_not_imp_left.2 fun notFields => ?_
  simp only [quicCryptoTlsReadClientHello, Option.bind_eq_bind, Option.pure_def, Option.some_bind]
  by_cases noVersion : body.length < 2
  · rw [if_pos noVersion]
  obtain ⟨v, r0, vFits, rfl⟩ := exists_bigEndian_two (Nat.le_of_not_lt noVersion)
  rw [if_neg noVersion, tlsReadUint16_bigEndian vFits r0, Option.some_bind, List.drop_left' (length_bigEndian 2 v)]
  by_cases old : v < tls1ProtocolVersion
  · rw [if_pos old]
  rw [if_neg old]
  by_cases noRandom : r0.length < tlsRandomLength
  · rw [if_pos noRandom]
  obtain ⟨random, r1, randomLength, rfl⟩ := exists_append_of_le_length (Nat.le_of_not_lt noRandom)
  rw [if_neg noRandom, List.drop_left' randomLength]
  by_cases noSession : r1.length < 1
  · rw [if_pos noSession]
  obtain ⟨s, r1, rfl⟩ := List.exists_cons_of_ne_nil (List.ne_nil_of_length_pos (show 0 < r1.length by omega))
  rw [if_neg noSession, List.getElem?_cons_zero, Option.some_bind]
  by_cases badSession : s.toNat > tlsSessionIdLength ∨ (s :: r1).length < 1 + s.toNat
  · rw [if_pos badSession]
  obtain ⟨sid, r2, sidLength, rfl⟩ := exists_append_of_le_length (show s.toNat ≤ r1.length by simp at badSession; omega)
  rw [if_neg badSession, show (s :: (sid ++ r2)).drop (1 + s.toNat) = r2 by
    rw [← List.cons_append]; exact List.drop_left' (by simp; omega)]
  by_cases noSuites : r2.length < 2
  · rw [if_pos noSuites]
  obtain ⟨c, r2, cFits, rfl⟩ := exists_bigEndian_two (Nat.le_of_not_lt noSuites)
  rw [if_neg noSuites, tlsReadUint16_bigEndian cFits r2, Option.some_bind]
  by_cases badSuites : c % 2 ≠ 0 ∨ (bigEndian 2 c ++ r2).length < 2 + c
  · rw [if_pos badSuites]
  obtain ⟨suites, r3, suitesLength, rfl⟩ := exists_append_of_le_length (show c ≤ r2.length by simp at badSuites; omega)
  rw [if_neg badSuites, show (bigEndian 2 c ++ (suites ++ r3)).drop (2 + c) = r3 by
    rw [← List.append_assoc]; exact List.drop_left' (by simp; omega)]
  by_cases noMethods : r3.length < 1
  · rw [if_pos noMethods]
  obtain ⟨m, r3, rfl⟩ := List.exists_cons_of_ne_nil (List.ne_nil_of_length_pos (show 0 < r3.length by omega))
  rw [if_neg noMethods, List.getElem?_cons_zero, Option.some_bind]
  by_cases badMethods : m.toNat < 1 ∨ (m :: r3).length < 1 + m.toNat
  · rw [if_pos badMethods]
  obtain ⟨methods, tail, methodsLength, rfl⟩ := exists_append_of_le_length (show m.toNat ≤ r3.length by simp at badMethods; omega)
  have sessionByte : UInt8.ofNat sid.length = s := UInt8.toNat.inj (by
    rw [UInt8.toNat_ofNat, sidLength]; exact Nat.mod_eq_of_lt (UInt8.toNat_lt_size s))
  have methodsByte : UInt8.ofNat methods.length = m := UInt8.toNat.inj (by
    rw [UInt8.toNat_ofNat, methodsLength]; exact Nat.mod_eq_of_lt (UInt8.toNat_lt_size m))
  have methodsFit := UInt8.toNat_lt_size m
  simp only [not_or, not_lt, Decidable.not_not, List.length_append, List.length_cons, length_bigEndian,
    tls1ProtocolVersion, tlsSessionIdLength, UInt8.size] at old badSession badSuites badMethods methodsFit
  refine absurd ⟨⟨v, random, sid, suites, methods, ⟨old, vFits⟩, randomLength, show sid.length ≤ 32 by omega, ⟨by omega, by omega⟩,
    ⟨by omega, by omega⟩⟩, tail, ?_⟩ notFields
  simp only [ClientHelloFields.bytes, sessionByte, methodsByte, suitesLength, List.append_assoc, List.cons_append]

/-- No extension list: fewer than two bytes after the fields, a single stray
byte included, and the reader succeeds without reading them. -/
theorem quicCryptoTlsReadClientHello_no_extensions (isDraft29 allocOk : Bool) (fields : ClientHelloFields)
    {tail : List UInt8} (short : tail.length < 2) (base : Nat) (state : IngestState) :
    quicCryptoTlsReadClientHello isDraft29 allocOk (fields.bytes ++ tail) base state = some (.success, state) := by
  rw [quicCryptoTlsReadClientHello_fields, if_pos short]

/-- An extension list longer than the bytes after its length is refused. -/
theorem quicCryptoTlsReadClientHello_overlong (isDraft29 allocOk : Bool) (fields : ClientHelloFields)
    {length : Nat} (small : length < 2 ^ 16) {rest : List UInt8} (over : rest.length < length) (base : Nat)
    (state : IngestState) :
    quicCryptoTlsReadClientHello isDraft29 allocOk (fields.bytes ++ (bigEndian 2 length ++ rest)) base state =
      some (.invalidParameter, state) := by
  rw [quicCryptoTlsReadClientHello_fields, if_neg (by simp), tlsReadUint16_bigEndian small, Option.some_bind,
    if_pos (by simp; omega)]

/-- An extension list of the length it declares goes to the extension reader,
whatever follows it. -/
theorem quicCryptoTlsReadClientHello_extensions (isDraft29 allocOk : Bool) (fields : ClientHelloFields)
    {block : List UInt8} (small : block.length < 2 ^ 16) (junk : List UInt8) (base : Nat) (state : IngestState) :
    quicCryptoTlsReadClientHello isDraft29 allocOk (fields.bytes ++ (bigEndian 2 block.length ++ (block ++ junk)))
        base state =
      quicCryptoTlsReadExtensions isDraft29 allocOk block (base + fields.bytes.length + 2) state := by
  rw [quicCryptoTlsReadClientHello_fields, if_neg (by simp), tlsReadUint16_bigEndian small, Option.some_bind,
    if_neg (by simp), readBytes_of_le (by simp), Option.some_bind, List.drop_left' (length_bigEndian 2 _),
    List.take_left' rfl]

/-- What `QuicCryptoTlsReadClientHello` accepts, from any state and at any
position: fields with the checks above, followed by either no extension list
(at most one byte), or a 16-bit length, the whole extensions of an accepted
block of that length, and any bytes at all after them. -/
theorem quicCryptoTlsReadClientHello_accepts (isDraft29 allocOk : Bool) (body : List UInt8) (base : Nat)
    (state : IngestState) :
    (quicCryptoTlsReadClientHello isDraft29 allocOk body base state).map Prod.fst = some .success ↔
      ∃ (fields : ClientHelloFields) (tail : List UInt8), body = fields.bytes ++ tail ∧
        (tail.length < 2 ∨ ∃ extensions junk, (tlsExtensions extensions).length < 2 ^ 16 ∧
          tail = bigEndian 2 (tlsExtensions extensions).length ++ (tlsExtensions extensions ++ junk) ∧
          ExtensionsAcceptedFrom isDraft29 allocOk {} extensions) := by
  constructor
  · intro succeeded
    obtain ⟨fields, tail, rfl⟩ | refused := quicCryptoTlsReadClientHello_cases isDraft29 allocOk body base state
    swap
    · simp [refused] at succeeded
    refine ⟨fields, tail, rfl, ?_⟩
    by_cases short : tail.length < 2
    · exact .inl short
    obtain ⟨length, rest, small, rfl⟩ := exists_bigEndian_two (Nat.le_of_not_lt short)
    by_cases over : rest.length < length
    · simp [quicCryptoTlsReadClientHello_overlong isDraft29 allocOk fields small over] at succeeded
    obtain ⟨block, junk, rfl, rfl⟩ := exists_append_of_le_length (Nat.le_of_not_lt over)
    rw [quicCryptoTlsReadClientHello_extensions isDraft29 allocOk fields small, quicCryptoTlsReadExtensions] at succeeded
    obtain ⟨⟨status, state'⟩, run, rfl⟩ := Option.map_eq_some'.mp succeeded
    obtain ⟨extensions, rfl⟩ := readExtensionsLoop_success isDraft29 allocOk _ _ _ _ _ _ run
    obtain ⟨status', state'', run', accepted, -⟩ :=
      readExtensionsLoop_extensions isDraft29 allocOk extensions _ _ {} state (Nat.lt_succ_self _)
    rw [run'] at run
    obtain ⟨rfl, rfl⟩ := Prod.mk.inj (Option.some.inj run)
    exact .inr ⟨extensions, junk, small, rfl, accepted.1 rfl⟩
  · rintro ⟨fields, tail, rfl, short | ⟨extensions, junk, small, rfl, accepted⟩⟩
    · rw [quicCryptoTlsReadClientHello_no_extensions isDraft29 allocOk fields short]
      rfl
    · obtain ⟨status, state', run, success, -⟩ :=
        readExtensionsLoop_extensions isDraft29 allocOk extensions _ (base + fields.bytes.length + 2) {} state
          (Nat.lt_succ_self _)
      rw [quicCryptoTlsReadClientHello_extensions isDraft29 allocOk fields small, quicCryptoTlsReadExtensions, run,
        Option.map_some', success.2 accepted]

/-- The SNI loop writes the server name only. -/
theorem readSniEntries_clientAlpnList :
    ∀ (fuel : Nat) (buffer : List UInt8) (base : Nat) (found : Bool) (info : QuicNewConnectionInfo)
      {status : QuicStatus} {info' : QuicNewConnectionInfo},
      readSniEntries fuel buffer base found info = some (status, info') → info'.clientAlpnList = info.clientAlpnList
  | 0, _, _, _, _, _, _, run => by simp [readSniEntries] at run
  | _ + 1, [], _, _, _, _, _, run => by simp [readSniEntries] at run; rw [← run.2]
  | _ + 1, [_], _, _, _, _, _, run | _ + 1, [_, _], _, _, _, _, _, run => by
    simp [readSniEntries] at run; rw [← run.2]
  | fuel + 1, nameType :: b0 :: b1 :: rest, base, found, info, status, info', run => by
    by_cases fits : rest.length < readBigEndian [b0, b1]
    · simp [readSniEntries, tlsReadUint16_cons, fits] at run; rw [← run.2]
    have long : ¬rest.length + 1 + 1 < 2 := by omega
    by_cases pick : nameType.toNat = tlsExtSniNameTypeHostName ∧ found = false
    · simp only [readSniEntries, List.length_cons, List.drop_succ_cons, List.drop_zero, tlsReadUint16_cons, fits,
        if_pos pick, long, List.getElem?_cons_zero, Option.bind_eq_bind, Option.some_bind, gt_iff_lt,
        Nat.zero_lt_succ, if_true, if_false, pure_bind] at run
      exact (readSniEntries_clientAlpnList fuel _ _ _ _ run).trans rfl
    · simp only [readSniEntries, List.length_cons, List.drop_succ_cons, List.drop_zero, tlsReadUint16_cons, fits,
        if_neg pick, long, List.getElem?_cons_zero, Option.bind_eq_bind, Option.some_bind, gt_iff_lt,
        Nat.zero_lt_succ, if_true, if_false, pure_bind] at run
      exact readSniEntries_clientAlpnList fuel _ _ _ _ run

theorem quicCryptoTlsReadSniExtension_clientAlpnList {buffer : List UInt8} {base : Nat}
    {info info' : QuicNewConnectionInfo} {status : QuicStatus}
    (run : quicCryptoTlsReadSniExtension buffer base info = some (status, info')) :
    info'.clientAlpnList = info.clientAlpnList := by
  simp only [quicCryptoTlsReadSniExtension, Option.pure_def, Option.bind_eq_bind, Option.some_bind] at run
  split_ifs at run
  · cases run; rfl
  obtain ⟨listLength, -, run⟩ := Option.bind_eq_some.mp run
  split_ifs at run
  · cases run; rfl
  · exact readSniEntries_clientAlpnList _ _ _ _ _ run

/-- The ALPN reader, when it does not fail, has set the list just after the
list length. -/
theorem quicCryptoTlsReadAlpnExtension_clientAlpnList {buffer : List UInt8} {base : Nat}
    {info info' : QuicNewConnectionInfo} {status : QuicStatus}
    (run : quicCryptoTlsReadAlpnExtension buffer base info = some (status, info')) (passed : status.failed = false) :
    info'.clientAlpnList = some (base + 2) := by
  simp only [quicCryptoTlsReadAlpnExtension, Option.pure_def, Option.bind_eq_bind, Option.some_bind] at run
  split_ifs at run
  · cases run; cases passed
  obtain ⟨listLength, -, run⟩ := Option.bind_eq_some.mp run
  split_ifs at run
  · cases run; cases passed
  · obtain ⟨status', -, run⟩ := Option.bind_eq_some.mp run
    cases run; rfl

theorem readInfoExtension_ok {seen : Bool}
    {reader : QuicNewConnectionInfo → Option (QuicStatus × QuicNewConnectionInfo)} {found found' : ExtensionsFound}
    {state state' : IngestState} (run : readInfoExtension seen reader found state = some (.ok (found', state'))) :
    ∃ status, reader state.info = some (status, state'.info) ∧ status.failed = false := by
  simp only [readInfoExtension, Option.pure_def, Option.bind_eq_bind, Option.some_bind] at run
  split_ifs at run
  · cases run
  obtain ⟨⟨status, info⟩, read, run⟩ := Option.bind_eq_some.mp run
  split_ifs at run with failed
  · cases run
  · cases run
    exact ⟨status, read, by simpa using failed⟩

theorem readTransportParametersExtension_ok {allocOk : Bool} {data : List UInt8} {found found' : ExtensionsFound}
    {state state' : IngestState} (run : readTransportParametersExtension allocOk data found state = some (.ok (found', state'))) :
    state'.info = state.info := by
  simp only [readTransportParametersExtension, Option.pure_def, Option.bind_eq_bind, Option.some_bind] at run
  split_ifs at run
  · cases run
  obtain ⟨⟨decoded, tp⟩, -, run⟩ := Option.bind_eq_some.mp run
  split_ifs at run
  · cases run
  · cases run; rfl

/-- One extension the loop goes on after: an ALPN extension has set the list,
and any other kind leaves whether it is set. -/
theorem readExtension_alpnSet {isDraft29 allocOk : Bool} {extType : Nat} {data : List UInt8} {base : Nat}
    {found found' : ExtensionsFound} {state state' : IngestState}
    (run : readExtension isDraft29 allocOk extType data base found state = some (.ok (found', state'))) :
    state'.alpnSet = (decide (extType = tlsExtAppProtocolNegotiation) || state.alpnSet) := by
  unfold readExtension at run
  by_cases sni : extType = tlsExtServerName
  · rw [if_pos sni] at run
    obtain ⟨status, read, -⟩ := readInfoExtension_ok run
    have other : extType ≠ tlsExtAppProtocolNegotiation := by rw [sni]; decide
    simp [IngestState.alpnSet, QuicNewConnectionInfo.alpnSet, quicCryptoTlsReadSniExtension_clientAlpnList read,
      other]
  by_cases alpn : extType = tlsExtAppProtocolNegotiation
  · rw [if_neg sni, if_pos alpn] at run
    obtain ⟨status, read, passed⟩ := readInfoExtension_ok run
    simp [IngestState.alpnSet, QuicNewConnectionInfo.alpnSet, quicCryptoTlsReadAlpnExtension_clientAlpnList read passed,
      alpn]
  rw [if_neg sni, if_neg alpn] at run
  have same : state'.info = state.info := by
    split_ifs at run
    all_goals first
      | exact readTransportParametersExtension_ok run
      | cases run; rfl
  simp [IngestState.alpnSet, same, alpn]

/-- After the extension loop succeeds on whole extensions, the ALPN list is set
exactly when one of them is an ALPN extension or it was set before. -/
theorem readExtensionsLoop_alpnSet (isDraft29 allocOk : Bool) :
    ∀ (extensions : List TlsExtension) (fuel base : Nat) (found : ExtensionsFound) (state state' : IngestState),
      readExtensionsLoop isDraft29 allocOk fuel (tlsExtensions extensions) base found state = some (.success, state') →
      state'.alpnSet =
        (extensions.any (fun extension => decide (extension.extType = tlsExtAppProtocolNegotiation)) || state.alpnSet)
  | _, 0, _, _, _, _, run => by simp [readExtensionsLoop] at run
  | [], fuel + 1, base, found, state, state', run => by
    simp only [readExtensionsLoop, tlsExtensions_nil, List.length_nil, gt_iff_lt, Nat.lt_irrefl, if_false] at run
    split_ifs at run <;> cases run
    simp
  | extension :: extensions, fuel + 1, base, found, state, state', run => by
    obtain ⟨state₁, step, -, -⟩ := readExtension_outcome isDraft29 allocOk extension (base + 4) found state
    rw [tlsExtensions_cons, readExtensionsLoop_extension, step] at run
    by_cases accepted : ExtensionAccepted isDraft29 allocOk found extension
    · rw [if_pos accepted] at step run
      rw [Option.some_bind] at run
      rw [readExtensionsLoop_alpnSet isDraft29 allocOk extensions fuel _ _ _ _ run, readExtension_alpnSet step]
      simp only [List.any_cons, Bool.or_assoc, Bool.or_left_comm]
    · simp [accepted] at run

end CryptoTls
