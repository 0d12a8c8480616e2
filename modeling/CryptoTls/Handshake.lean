import CryptoTls.Readers

namespace CryptoTls

/-- A handshake message: a type byte, the body's length in 24 bits
big-endian, and the body. -/
def handshakeMessage (messageType : UInt8) (body : List UInt8) : List UInt8 :=
  messageType :: (bigEndian 3 body.length ++ body)

/-- ClientHello messages with these bodies, one after another. -/
def clientHellos (bodies : List (List UInt8)) : List UInt8 :=
  (bodies.map (handshakeMessage 1)).flatten

/-- Whether `QuicCryptoTlsReadClientHello` accepts a message body; by
`quicCryptoTlsReadClientHello_spec` it does not matter on which state and at
which position. -/
def ClientHelloAccepted (isDraft29 allocOk : Bool) (body : List UInt8) : Prop :=
  (quicCryptoTlsReadClientHello isDraft29 allocOk body 0 .zeroed).map Prod.fst = some .success

/-- Whether `QuicCryptoTlsReadClientHello` sets the ALPN list when it reads a
message body into a zeroed `Info`. -/
def ClientHelloSetsAlpn (isDraft29 allocOk : Bool) (body : List UInt8) : Prop :=
  (quicCryptoTlsReadClientHello isDraft29 allocOk body 0 .zeroed).map (·.2.alpnSet) = some true

instance (isDraft29 allocOk : Bool) : DecidablePred (ClientHelloAccepted isDraft29 allocOk) :=
  fun _ => inferInstanceAs (Decidable (_ = _))

instance (isDraft29 allocOk : Bool) : DecidablePred (ClientHelloSetsAlpn isDraft29 allocOk) :=
  fun _ => inferInstanceAs (Decidable (_ = _))

/-- Message bodies that fit the 24-bit length, each accepted. -/
def AcceptedHellos (isDraft29 allocOk : Bool) (bodies : List (List UInt8)) : Prop :=
  ∀ body ∈ bodies, body.length < 2 ^ 24 ∧ ClientHelloAccepted isDraft29 allocOk body

instance (isDraft29 allocOk : Bool) : DecidablePred (AcceptedHellos isDraft29 allocOk) :=
  fun _ => inferInstanceAs (Decidable (∀ _ ∈ _, _))

/-- An unfinished message: fewer than four bytes, or the header of a
ClientHello whose body runs past the bytes there are. -/
def Unfinished (rest : List UInt8) : Prop :=
  rest.length < 4 ∨ rest.head? = some 1 ∧ rest.length < 4 + readBigEndian ((rest.drop 1).take 3)

instance : DecidablePred Unfinished :=
  fun _ => inferInstanceAs (Decidable (_ ∨ _))

/-- In the spec's words, the packets on which `QuicCryptoTlsReadInitial`
succeeds: one complete ClientHello or more, each accepted, one of which sets
the ALPN list. -/
def CompleteFlight (isDraft29 allocOk : Bool) (packet : List UInt8) : Prop :=
  ∃ bodies, bodies ≠ [] ∧ AcceptedHellos isDraft29 allocOk bodies ∧
    (∃ body ∈ bodies, ClientHelloSetsAlpn isDraft29 allocOk body) ∧ packet = clientHellos bodies

/-- In the spec's words, the packets on which `QuicCryptoTlsReadInitial` asks
for more bytes: the empty packet, or accepted ClientHello messages and then an
unfinished one. -/
def PendingFlight (isDraft29 allocOk : Bool) (packet : List UInt8) : Prop :=
  packet = [] ∨ ∃ bodies rest, AcceptedHellos isDraft29 allocOk bodies ∧ rest ≠ [] ∧ Unfinished rest ∧
    packet = clientHellos bodies ++ rest

/-- Where the loop of `QuicCryptoTlsReadInitial` stops after the messages it
accepts: at the end of the packet, at an unfinished message, at a message
that is not a ClientHello, or at a ClientHello it refuses. -/
inductive Stop (isDraft29 allocOk : Bool) : List UInt8 → Prop
  | done : Stop isDraft29 allocOk []
  | unfinished {rest : List UInt8} : rest ≠ [] → Unfinished rest → Stop isDraft29 allocOk rest
  | notClientHello {rest : List UInt8} : 4 ≤ rest.length → rest.head? ≠ some 1 → Stop isDraft29 allocOk rest
  | refused {body : List UInt8} (more : List UInt8) : body.length < 2 ^ 24 →
      ¬ClientHelloAccepted isDraft29 allocOk body → Stop isDraft29 allocOk (handshakeMessage 1 body ++ more)

/-- A handshake message of any type as `QuicCryptoTlsGetCompleteTlsMessagesLength`
frames it; the body fits the 24-bit length. -/
structure TlsMessage where
  messageType : UInt8
  body : List UInt8
  fits : body.length < 2 ^ 24

def TlsMessage.bytes (message : TlsMessage) : List UInt8 :=
  handshakeMessage message.messageType message.body

/-- Messages one after another. -/
def tlsMessages (messages : List TlsMessage) : List UInt8 :=
  (messages.map TlsMessage.bytes).flatten

/-- Bytes that do not hold a complete message: fewer than a header, or a
header whose body runs past the bytes there are. -/
def Incomplete (rest : List UInt8) : Prop :=
  rest.length < 4 ∨ rest.length < 4 + readBigEndian ((rest.drop 1).take 3)

instance : DecidablePred Incomplete :=
  fun _ => inferInstanceAs (Decidable (_ ∨ _))

@[simp] theorem clientHellos_nil : clientHellos [] = [] := rfl

@[simp] theorem clientHellos_cons (body : List UInt8) (bodies : List (List UInt8)) :
    clientHellos (body :: bodies) = handshakeMessage 1 body ++ clientHellos bodies := rfl

@[simp] theorem length_handshakeMessage (messageType : UInt8) (body : List UInt8) :
    (handshakeMessage messageType body).length = 4 + body.length := by
  simp [handshakeMessage]
  omega

@[simp] theorem TlsMessage.length_bytes (message : TlsMessage) : message.bytes.length = 4 + message.body.length :=
  length_handshakeMessage _ _

@[simp] theorem tlsMessages_nil : tlsMessages [] = [] := rfl

@[simp] theorem tlsMessages_cons (message : TlsMessage) (messages : List TlsMessage) :
    tlsMessages (message :: messages) = message.bytes ++ tlsMessages messages := rfl

theorem tlsMessages_append (messages messages' : List TlsMessage) :
    tlsMessages (messages ++ messages') = tlsMessages messages ++ tlsMessages messages' := by
  simp [tlsMessages]

@[simp] theorem acceptedHellos_nil (isDraft29 allocOk : Bool) : AcceptedHellos isDraft29 allocOk [] := nofun

@[simp] theorem acceptedHellos_cons (isDraft29 allocOk : Bool) (body : List UInt8) (bodies : List (List UInt8)) :
    AcceptedHellos isDraft29 allocOk (body :: bodies) ↔
      (body.length < 2 ^ 24 ∧ ClientHelloAccepted isDraft29 allocOk body) ∧ AcceptedHellos isDraft29 allocOk bodies :=
  List.forall_mem_cons

/-- Four bytes or more begin with a header. -/
theorem exists_header {rest : List UInt8} (long : 4 ≤ rest.length) :
    ∃ t b0 b1 b2 tail, rest = t :: b0 :: b1 :: b2 :: tail :=
  match rest, long with
  | t :: b0 :: b1 :: b2 :: tail, _ => ⟨t, b0, b1, b2, tail, rfl⟩

theorem tlsReadUint24_cons (t b0 b1 b2 : UInt8) (more : List UInt8) :
    tlsReadUint24 (t :: b0 :: b1 :: b2 :: more) 1 = some (readBigEndian [b0, b1, b2]) := by
  simp [tlsReadUint24, readBigEndian, Nat.shiftLeft_eq]
  ring

/-- The header of a handshake message reads back as the body's length. -/
theorem handshakeMessage_header {messageType : UInt8} {body : List UInt8} (small : body.length < 2 ^ 24)
    (more : List UInt8) :
    tlsReadUint24 (handshakeMessage messageType body ++ more) 1 = some body.length ∧
      readBigEndian (((handshakeMessage messageType body ++ more).drop 1).take 3) = body.length := by
  have header := readBigEndian_bigEndian 3 body.length
  rw [Nat.mod_eq_of_lt (by simpa using small)] at header
  obtain ⟨b0, b1, b2, three⟩ : ∃ b0 b1 b2, bigEndian 3 body.length = [b0, b1, b2] := by
    match bigEndian 3 body.length, length_bigEndian 3 body.length with
    | [b0, b1, b2], _ => exact ⟨b0, b1, b2, rfl⟩
  rw [three] at header
  simp only [handshakeMessage, three, List.cons_append, List.nil_append, List.append_assoc]
  exact ⟨(tlsReadUint24_cons _ _ _ _ _).trans (congrArg some header), by simpa using header⟩

/-- Bytes that hold a complete message begin with one. -/
theorem exists_message_of_complete {buffer : List UInt8} (complete : ¬Incomplete buffer) :
    ∃ (message : TlsMessage) (more : List UInt8), buffer = message.bytes ++ more := by
  have long : 4 ≤ buffer.length := by unfold Incomplete at complete; omega
  obtain ⟨t, b0, b1, b2, tail, rfl⟩ := exists_header long
  have fits : readBigEndian [b0, b1, b2] ≤ tail.length := by
    simp only [Incomplete, List.length_cons, List.drop_succ_cons, List.drop_zero, List.take_succ_cons,
      List.take_zero] at complete
    omega
  have small : readBigEndian [b0, b1, b2] < 256 ^ 3 := readBigEndian_lt [b0, b1, b2]
  have header : bigEndian 3 (readBigEndian [b0, b1, b2]) = [b0, b1, b2] := bigEndian_readBigEndian [b0, b1, b2]
  refine ⟨⟨t, tail.take (readBigEndian [b0, b1, b2]), by rw [List.length_take]; omega⟩,
    tail.drop (readBigEndian [b0, b1, b2]), ?_⟩
  show _ = handshakeMessage t (tail.take _) ++ _
  rw [handshakeMessage, List.length_take, Nat.min_eq_left fits, header]
  simp only [List.cons_append, List.nil_append, List.append_assoc, List.take_append_drop]

/-- `QuicCryptoTlsReadClientHello` at any position and on any state accepts
or refuses as on a zeroed `Info`, and on acceptance sets the ALPN list as it
does there, or keeps it. -/
theorem quicCryptoTlsReadClientHello_run (isDraft29 allocOk : Bool) (body : List UInt8) (base : Nat)
    (state : IngestState) :
    ∃ state', quicCryptoTlsReadClientHello isDraft29 allocOk body base state =
        some (if ClientHelloAccepted isDraft29 allocOk body then .success else .invalidParameter, state') ∧
      (ClientHelloAccepted isDraft29 allocOk body →
        state'.alpnSet = (decide (ClientHelloSetsAlpn isDraft29 allocOk body) || state.alpnSet)) := by
  obtain ⟨accepted, setsAlpn, spec⟩ := quicCryptoTlsReadClientHello_spec isDraft29 allocOk body
  obtain ⟨zeroed, zeroedRun, zeroedAlpn, -⟩ := spec 0 .zeroed
  obtain ⟨state', run, alpn, -⟩ := spec base state
  have acceptedIff : ClientHelloAccepted isDraft29 allocOk body ↔ accepted = true := by
    cases accepted <;> simp [ClientHelloAccepted, zeroedRun]
  refine ⟨state', by cases accepted <;> simp [run, acceptedIff], fun ok => ?_⟩
  have setsIff : ClientHelloSetsAlpn isDraft29 allocOk body ↔ setsAlpn = true := by
    rw [ClientHelloSetsAlpn, zeroedRun, Option.map_some', Option.some.injEq]
    show zeroed.alpnSet = true ↔ _
    rw [zeroedAlpn (acceptedIff.1 ok)]
    cases setsAlpn <;> rfl
  rw [alpn (acceptedIff.1 ok)]
  cases setsAlpn <;> simp [setsIff]

/-- One pass of the loop of `QuicCryptoTlsReadInitial` over a complete
ClientHello: the body goes to the ClientHello reader, and the loop returns a
failure, goes on after the message, or checks for the ALPN list at the end. -/
theorem readInitialLoop_header (isDraft29 allocOk : Bool) (fuel : Nat) {buffer : List UInt8} {messageType : UInt8}
    {messageLength : Nat} (readType : buffer[0]? = some messageType)
    (hello : messageType.toNat = tlsHandshakeClientHello) (readLength : tlsReadUint24 buffer 1 = some messageLength)
    (fits : tlsMessageHeaderLength + messageLength ≤ buffer.length) (base : Nat) (state : IngestState) :
    readInitialLoop isDraft29 allocOk (fuel + 1) buffer base state =
      (quicCryptoTlsReadClientHello isDraft29 allocOk ((buffer.drop tlsMessageHeaderLength).take messageLength)
          (base + tlsMessageHeaderLength) state).bind fun read =>
        if read.1.failed then some read
        else if (buffer.drop (messageLength + tlsMessageHeaderLength)).length > 0 then
          readInitialLoop isDraft29 allocOk fuel (buffer.drop (messageLength + tlsMessageHeaderLength))
            (base + messageLength + tlsMessageHeaderLength) read.2
        else if read.2.info.clientAlpnList = none then some (.invalidParameter, read.2)
        else some (.success, read.2) := by
  have long : ¬buffer.length < tlsMessageHeaderLength := by simp only [tlsMessageHeaderLength] at fits ⊢; omega
  simp only [readInitialLoop, if_neg long, readType, hello, ne_eq, not_true_eq_false, if_false, readLength,
    if_neg (Nat.not_lt.2 fits), readBytes_of_le fits, Option.bind_eq_bind, Option.some_bind, Option.pure_def]

/-- One pass of the loop of `QuicCryptoTlsReadInitial` over a complete
ClientHello: the ClientHello reader decides, and the loop goes on after the
message or, at the end of the packet, checks the ALPN list. -/
theorem readInitialLoop_hello (isDraft29 allocOk : Bool) (fuel : Nat) {body : List UInt8}
    (small : body.length < 2 ^ 24) (more : List UInt8) (base : Nat) (state : IngestState) :
    ∃ state', readInitialLoop isDraft29 allocOk (fuel + 1) (handshakeMessage 1 body ++ more) base state =
        (if ClientHelloAccepted isDraft29 allocOk body then
          if more.length > 0 then readInitialLoop isDraft29 allocOk fuel more (base + body.length + 4) state'
          else if state'.info.clientAlpnList = none then some (.invalidParameter, state')
          else some (.success, state')
        else some (.invalidParameter, state')) ∧
      (ClientHelloAccepted isDraft29 allocOk body →
        state'.alpnSet = (decide (ClientHelloSetsAlpn isDraft29 allocOk body) || state.alpnSet)) := by
  obtain ⟨state', run, alpn⟩ :=
    quicCryptoTlsReadClientHello_run isDraft29 allocOk body (base + tlsMessageHeaderLength) state
  refine ⟨state', ?_, alpn⟩
  have header : tlsReadUint24 (handshakeMessage 1 body ++ more) 1 = some body.length :=
    (handshakeMessage_header small more).1
  have long : ¬(handshakeMessage 1 body ++ more).length < tlsMessageHeaderLength + body.length := by
    simp [tlsMessageHeaderLength]
  have slice : readBytes (handshakeMessage 1 body ++ more) tlsMessageHeaderLength body.length = some body := by
    rw [readBytes_of_le (by simp [tlsMessageHeaderLength])]
    simp [handshakeMessage, tlsMessageHeaderLength, List.drop_append_eq_append_drop]
  have rest : (handshakeMessage 1 body ++ more).drop (body.length + tlsMessageHeaderLength) = more := by
    simp [handshakeMessage, tlsMessageHeaderLength, List.drop_append_eq_append_drop]
  simp only [readInitialLoop, Option.bind_eq_bind, Option.some_bind, pure_bind, Option.pure_def, header, slice,
    rest, run]
  by_cases accepted : ClientHelloAccepted isDraft29 allocOk body
  · simp [accepted, QuicStatus.failed, handshakeMessage, tlsMessageHeaderLength, tlsHandshakeClientHello,
      Nat.add_assoc]
    rw [if_neg (by omega), if_neg (by omega)]
  · simp [accepted, QuicStatus.failed, handshakeMessage, tlsMessageHeaderLength, tlsHandshakeClientHello]
    rw [if_neg (by omega), if_neg (by omega)]

/-- The loop asks for more bytes at an unfinished message. -/
theorem readInitialLoop_unfinished (isDraft29 allocOk : Bool) (fuel : Nat) {rest : List UInt8}
    (nonempty : rest ≠ []) (unfinished : Unfinished rest) (base : Nat) (state : IngestState) :
    readInitialLoop isDraft29 allocOk (fuel + 1) rest base state = some (.pending, state) := by
  by_cases short : rest.length < 4
  · simp [readInitialLoop, tlsMessageHeaderLength, short]
  obtain ⟨header, long⟩ := unfinished.resolve_left short
  obtain ⟨t, b0, b1, b2, tail, rfl⟩ := exists_header (Nat.le_of_not_lt short)
  simp only [List.head?_cons, Option.some.injEq] at header
  subst header
  simp only [List.drop_succ_cons, List.drop_zero, List.take_succ_cons, List.take_zero, List.length_cons] at long
  simp [readInitialLoop, tlsMessageHeaderLength, tlsHandshakeClientHello, tlsReadUint24_cons, long]

/-- The loop refuses a message that is not a ClientHello. -/
theorem readInitialLoop_notClientHello (isDraft29 allocOk : Bool) (fuel : Nat) {rest : List UInt8}
    (long : 4 ≤ rest.length) (notHello : rest.head? ≠ some 1) (base : Nat) (state : IngestState) :
    readInitialLoop isDraft29 allocOk (fuel + 1) rest base state = some (.invalidParameter, state) := by
  match rest, long with
  | t :: _ :: _ :: _ :: _, _ =>
    have other : t.toNat ≠ 1 := fun same =>
      notHello (by rw [UInt8.toNat.inj (show t.toNat = (1 : UInt8).toNat from same)]; rfl)
    simp [readInitialLoop, tlsMessageHeaderLength, tlsHandshakeClientHello, other]

/-- The status the spec gives a packet made of accepted ClientHello messages
and then `rest`, where the loop stops, for an `Info` whose ALPN list is set
or not. -/
def flightStatus (isDraft29 allocOk alpnSet : Bool) (bodies : List (List UInt8)) (rest : List UInt8) :
    QuicStatus :=
  if rest = [] then
    if bodies = [] then .pending
    else if alpnSet || bodies.any (fun body => decide (ClientHelloSetsAlpn isDraft29 allocOk body)) then .success
    else .invalidParameter
  else if Unfinished rest then .pending else .invalidParameter

/-- A complete message is not unfinished. -/
theorem not_unfinished_message {body : List UInt8} (small : body.length < 2 ^ 24) (more : List UInt8) :
    ¬Unfinished (handshakeMessage 1 body ++ more) := by
  rw [Unfinished, (handshakeMessage_header small more).2]
  simp
  omega

/-- The loop over accepted ClientHello messages and then `rest` ends with the
status `flightStatus` gives. -/
theorem readInitialLoop_flight (isDraft29 allocOk : Bool) {rest : List UInt8} (stop : Stop isDraft29 allocOk rest) :
    ∀ (bodies : List (List UInt8)), AcceptedHellos isDraft29 allocOk bodies →
      ∀ (fuel base : Nat) (state : IngestState), (clientHellos bodies ++ rest).length < fuel →
        (readInitialLoop isDraft29 allocOk fuel (clientHellos bodies ++ rest) base state).map Prod.fst =
          some (flightStatus isDraft29 allocOk state.alpnSet bodies rest)
  | _, _, 0, _, _, enough => absurd enough (Nat.not_lt_zero _)
  | [], _, fuel + 1, base, state, _ => by
    cases stop with
    | done => simp [readInitialLoop, tlsMessageHeaderLength, flightStatus]
    | unfinished nonempty unfinished =>
      simp [readInitialLoop_unfinished isDraft29 allocOk fuel nonempty unfinished, flightStatus, nonempty,
        unfinished]
    | notClientHello long notHello =>
      have finished : ¬Unfinished rest := fun
        | .inl short => by omega
        | .inr ⟨header, _⟩ => notHello header
      have nonempty : rest ≠ [] := by rintro rfl; simp at long
      simp [readInitialLoop_notClientHello isDraft29 allocOk fuel long notHello, flightStatus, nonempty, finished]
    | @refused body more small refused =>
      obtain ⟨state', run, -⟩ := readInitialLoop_hello isDraft29 allocOk fuel small more base state
      have nonempty : handshakeMessage 1 body ++ more ≠ [] := by simp [handshakeMessage]
      rw [clientHellos_nil, List.nil_append, run, if_neg refused]
      simp [flightStatus, not_unfinished_message small more, nonempty]
  | body :: bodies, accepted, fuel + 1, base, state, enough => by
    obtain ⟨⟨small, hello⟩, others⟩ := (acceptedHellos_cons _ _ _ _).1 accepted
    obtain ⟨state', run, alpn⟩ :=
      readInitialLoop_hello isDraft29 allocOk fuel small (clientHellos bodies ++ rest) base state
    rw [clientHellos_cons, List.append_assoc, run, if_pos hello]
    have alpn' := alpn hello
    by_cases more : (clientHellos bodies ++ rest).length > 0
    · rw [if_pos more, readInitialLoop_flight isDraft29 allocOk stop bodies others fuel _ state'
        (by simp only [List.length_append, clientHellos_cons, length_handshakeMessage] at enough ⊢; omega)]
      by_cases finished : rest = []
      · have some : bodies ≠ [] := by rintro rfl; simp [finished] at more
        simp [flightStatus, finished, some, alpn', Bool.or_assoc, Bool.or_comm, Bool.or_left_comm]
      · simp [flightStatus, finished]
    · rw [if_neg more]
      obtain ⟨hellos, rfl⟩ : clientHellos bodies = [] ∧ rest = [] := by simpa using more
      obtain rfl : bodies = [] := by cases bodies <;> simp_all [handshakeMessage]
      have ended : flightStatus isDraft29 allocOk state.alpnSet [body] [] =
          if state'.alpnSet then .success else .invalidParameter := by
        simp [flightStatus, alpn', Bool.or_comm]
      rw [ended]
      cases alpnNow : state'.info.clientAlpnList <;>
        simp [IngestState.alpnSet, QuicNewConnectionInfo.alpnSet, alpnNow]

/-- Every packet is accepted ClientHello messages and then the bytes at which
the loop of `QuicCryptoTlsReadInitial` stops. -/
theorem flight_decomposition (isDraft29 allocOk : Bool) (packet : List UInt8) :
    ∃ bodies rest, AcceptedHellos isDraft29 allocOk bodies ∧ Stop isDraft29 allocOk rest ∧
      packet = clientHellos bodies ++ rest := by
  by_cases empty : packet = []
  · exact ⟨[], [], nofun, .done, by simp [empty]⟩
  by_cases unfinished : Unfinished packet
  · exact ⟨[], packet, nofun, .unfinished empty unfinished, rfl⟩
  have long : 4 ≤ packet.length := by unfold Unfinished at unfinished; omega
  by_cases hello : packet.head? = some 1
  swap
  · exact ⟨[], packet, nofun, .notClientHello long hello, rfl⟩
  have complete : ¬Incomplete packet := fun
    | .inl short => unfinished (.inl short)
    | .inr short => unfinished (.inr ⟨hello, short⟩)
  obtain ⟨⟨messageType, body, small⟩, more, split⟩ := exists_message_of_complete complete
  obtain rfl : messageType = 1 := by simpa [split, TlsMessage.bytes, handshakeMessage] using hello
  have shorter : more.length < packet.length := by simp [split]
  by_cases accepted : ClientHelloAccepted isDraft29 allocOk body
  · obtain ⟨bodies, rest, others, stop, hellos⟩ := flight_decomposition isDraft29 allocOk more
    exact ⟨body :: bodies, rest, (acceptedHellos_cons _ _ _ _).2 ⟨⟨small, accepted⟩, others⟩, stop,
      by rw [split, hellos, clientHellos_cons, ← List.append_assoc]; rfl⟩
  · exact ⟨[], packet, nofun, split ▸ .refused more small accepted, rfl⟩
termination_by packet.length
decreasing_by exact shorter

theorem flightStatus_eq_success (isDraft29 allocOk : Bool) (bodies : List (List UInt8)) (rest : List UInt8) :
    flightStatus isDraft29 allocOk false bodies rest = .success ↔
      bodies ≠ [] ∧ (∃ body ∈ bodies, ClientHelloSetsAlpn isDraft29 allocOk body) ∧ rest = [] := by
  unfold flightStatus
  by_cases finished : rest = [] <;> by_cases empty : bodies = [] <;> split_ifs <;> simp_all

theorem flightStatus_eq_pending (isDraft29 allocOk alpnSet : Bool) (bodies : List (List UInt8)) (rest : List UInt8) :
    flightStatus isDraft29 allocOk alpnSet bodies rest = .pending ↔
      bodies = [] ∧ rest = [] ∨ rest ≠ [] ∧ Unfinished rest := by
  unfold flightStatus
  by_cases finished : rest = [] <;> by_cases empty : bodies = [] <;> split_ifs <;> simp_all

@[simp] theorem IngestState.alpnSet_zeroed : IngestState.zeroed.alpnSet = false := rfl

/-- The status of `QuicCryptoTlsReadInitial`, read off any decomposition of
the packet. -/
theorem quicCryptoTlsReadInitial_flight {isDraft29 allocOk : Bool} {bodies : List (List UInt8)} {rest : List UInt8}
    (accepted : AcceptedHellos isDraft29 allocOk bodies) (stop : Stop isDraft29 allocOk rest) (state : IngestState) :
    (quicCryptoTlsReadInitial isDraft29 allocOk (clientHellos bodies ++ rest) state).map Prod.fst =
      some (flightStatus isDraft29 allocOk state.alpnSet bodies rest) :=
  readInitialLoop_flight isDraft29 allocOk stop bodies accepted _ 0 state (Nat.lt_succ_self _)

theorem quicCryptoTlsReadInitial_success_iff (isDraft29 allocOk : Bool) (packet : List UInt8) :
    (quicCryptoTlsReadInitial isDraft29 allocOk packet .zeroed).map Prod.fst = some .success ↔
      CompleteFlight isDraft29 allocOk packet := by
  constructor
  · intro succeeded
    obtain ⟨bodies, rest, accepted, stop, rfl⟩ := flight_decomposition isDraft29 allocOk packet
    rw [quicCryptoTlsReadInitial_flight accepted stop, IngestState.alpnSet_zeroed, Option.some.injEq,
      flightStatus_eq_success] at succeeded
    obtain ⟨nonempty, sets, rfl⟩ := succeeded
    exact ⟨bodies, nonempty, accepted, sets, List.append_nil _⟩
  · rintro ⟨bodies, nonempty, accepted, sets, rfl⟩
    rw [← List.append_nil (clientHellos bodies), quicCryptoTlsReadInitial_flight accepted .done,
      IngestState.alpnSet_zeroed, Option.some.injEq, flightStatus_eq_success]
    exact ⟨nonempty, sets, rfl⟩

theorem quicCryptoTlsReadInitial_pending_iff (isDraft29 allocOk : Bool) (packet : List UInt8) :
    (quicCryptoTlsReadInitial isDraft29 allocOk packet .zeroed).map Prod.fst = some .pending ↔
      PendingFlight isDraft29 allocOk packet := by
  constructor
  · intro waiting
    obtain ⟨bodies, rest, accepted, stop, rfl⟩ := flight_decomposition isDraft29 allocOk packet
    rw [quicCryptoTlsReadInitial_flight accepted stop, Option.some.injEq, flightStatus_eq_pending] at waiting
    rcases waiting with ⟨rfl, rfl⟩ | ⟨nonempty, unfinished⟩
    · exact .inl rfl
    · exact .inr ⟨bodies, rest, accepted, nonempty, unfinished, rfl⟩
  · rintro (rfl | ⟨bodies, rest, accepted, nonempty, unfinished, rfl⟩)
    · exact (quicCryptoTlsReadInitial_flight (acceptedHellos_nil isDraft29 allocOk) .done _).trans
        (by simp [flightStatus])
    · rw [quicCryptoTlsReadInitial_flight accepted (.unfinished nonempty unfinished), Option.some.injEq,
        flightStatus_eq_pending]
      exact .inr ⟨nonempty, unfinished⟩

theorem quicCryptoTlsReadInitial_status (isDraft29 allocOk : Bool) (packet : List UInt8) :
    ((quicCryptoTlsReadInitial isDraft29 allocOk packet .zeroed).map Prod.fst = some .success ↔
        CompleteFlight isDraft29 allocOk packet) ∧
      ((quicCryptoTlsReadInitial isDraft29 allocOk packet .zeroed).map Prod.fst = some .pending ↔
        PendingFlight isDraft29 allocOk packet) ∧
      ((quicCryptoTlsReadInitial isDraft29 allocOk packet .zeroed).map Prod.fst = some .invalidParameter ↔
        ¬CompleteFlight isDraft29 allocOk packet ∧ ¬PendingFlight isDraft29 allocOk packet) := by
  have success := quicCryptoTlsReadInitial_success_iff isDraft29 allocOk packet
  have pending := quicCryptoTlsReadInitial_pending_iff isDraft29 allocOk packet
  refine ⟨success, pending, ?_⟩
  obtain ⟨bodies, rest, accepted, stop, rfl⟩ := flight_decomposition isDraft29 allocOk packet
  rw [← success, ← pending, quicCryptoTlsReadInitial_flight accepted stop]
  unfold flightStatus
  split_ifs <;> simp

/-- A ClientHello message cut anywhere before its end is unfinished. -/
theorem unfinished_take_message {body : List UInt8} (small : body.length < 2 ^ 24) {k : Nat}
    (short : k < (handshakeMessage 1 body).length) : Unfinished ((handshakeMessage 1 body).take k) := by
  rw [length_handshakeMessage] at short
  by_cases noHeader : k < 4
  · exact .inl (by simp; omega)
  obtain ⟨j, rfl⟩ : ∃ j, k = (1 :: bigEndian 3 body.length).length + j := ⟨k - 4, by simp; omega⟩
  have length := readBigEndian_bigEndian 3 body.length
  rw [Nat.mod_eq_of_lt (by simpa using small)] at length
  rw [handshakeMessage, ← List.cons_append, List.take_append]
  refine .inr ⟨rfl, ?_⟩
  simp only [List.length_cons, length_bigEndian] at short
  simp [List.take_left' (length_bigEndian 3 body.length), length]
  omega

/-- Accepted ClientHello messages, then one cut anywhere inside it: PENDING,
from any state. -/
theorem quicCryptoTlsReadInitial_truncated {isDraft29 allocOk : Bool} {bodies : List (List UInt8)}
    (accepted : AcceptedHellos isDraft29 allocOk bodies) {body : List UInt8} (small : body.length < 2 ^ 24)
    {k : Nat} (cut : 0 < k) (short : k < (handshakeMessage 1 body).length) (state : IngestState) :
    (quicCryptoTlsReadInitial isDraft29 allocOk (clientHellos bodies ++ (handshakeMessage 1 body).take k)
      state).map Prod.fst = some .pending := by
  have nonempty : (handshakeMessage 1 body).take k ≠ [] := by simp [handshakeMessage]; omega
  have unfinished := unfinished_take_message small short
  rw [quicCryptoTlsReadInitial_flight accepted (.unfinished nonempty unfinished), Option.some.injEq,
    flightStatus_eq_pending]
  exact .inr ⟨nonempty, unfinished⟩

/-- A ClientHello body a client could send: the legacy version `0x0303`, a
zero `Random`, no session id, `TLS_AES_128_GCM_SHA256`, the null compression
method, an ALPN extension offering `h3` and an empty QUIC transport parameters
extension. -/
def h3Hello : List UInt8 :=
  [0x03, 0x03] ++ List.replicate 32 0 ++
    [0x00, 0x00, 0x02, 0x13, 0x01, 0x01, 0x00, 0x00, 0x0D, 0x00, 0x10, 0x00, 0x05, 0x00, 0x03, 0x02, 0x68, 0x33,
      0x00, 0x39, 0x00, 0x00]

theorem second_hello_truncated :
    (quicCryptoTlsReadInitial false true (clientHellos [h3Hello] ++ (handshakeMessage 1 h3Hello).take 10)
      .zeroed).map Prod.fst = some .pending :=
  quicCryptoTlsReadInitial_truncated (by decide) (by decide) (by decide) (by decide) .zeroed

/-- One pass of the loop of `QuicCryptoTlsGetCompleteTlsMessagesLength` counts
a complete message. -/
theorem getCompleteTlsMessagesLoop_message (fuel : Nat) (message : TlsMessage) (more : List UInt8)
    (counted : Nat) :
    getCompleteTlsMessagesLoop (fuel + 1) (message.bytes ++ more) counted =
      getCompleteTlsMessagesLoop fuel more (counted + message.bytes.length) := by
  have header : tlsReadUint24 (message.bytes ++ more) 1 = some message.body.length :=
    (handshakeMessage_header message.fits more).1
  have rest : (message.bytes ++ more).drop (4 + message.body.length) = more := List.drop_left' (by simp)
  have long : ¬4 + message.body.length + more.length < 4 := by omega
  simp only [TlsMessage.bytes] at header rest ⊢
  simp [getCompleteTlsMessagesLoop, tlsMessageHeaderLength, header, rest, long]

/-- The loop stops, with what it counted, at bytes that hold no complete
message. -/
theorem getCompleteTlsMessagesLoop_incomplete (fuel : Nat) {rest : List UInt8} (incomplete : Incomplete rest)
    (counted : Nat) :
    getCompleteTlsMessagesLoop (fuel + 1) rest counted = some counted := by
  by_cases short : rest.length < 4
  · simp [getCompleteTlsMessagesLoop, tlsMessageHeaderLength, short]
  obtain ⟨t, b0, b1, b2, tail, rfl⟩ := exists_header (Nat.le_of_not_lt short)
  have long := incomplete.resolve_left short
  simp only [List.drop_succ_cons, List.drop_zero, List.take_succ_cons, List.take_zero, List.length_cons] at long
  simp [getCompleteTlsMessagesLoop, tlsMessageHeaderLength, tlsReadUint24_cons, long]

/-- The loop counts complete messages one after another. -/
theorem getCompleteTlsMessagesLoop_messages :
    ∀ (messages : List TlsMessage) (fuel : Nat) (rest : List UInt8) (counted : Nat),
      (tlsMessages messages ++ rest).length < fuel →
      ∃ fuel', rest.length < fuel' ∧
        getCompleteTlsMessagesLoop fuel (tlsMessages messages ++ rest) counted =
          getCompleteTlsMessagesLoop fuel' rest (counted + (tlsMessages messages).length)
  | [], fuel, rest, counted, enough => ⟨fuel, enough, by simp⟩
  | _ :: _, 0, _, _, enough => absurd enough (Nat.not_lt_zero _)
  | message :: messages, fuel + 1, rest, counted, enough => by
    obtain ⟨fuel', enough', run⟩ := getCompleteTlsMessagesLoop_messages messages fuel rest
      (counted + message.bytes.length)
      (by simp only [tlsMessages_cons, List.length_append, TlsMessage.length_bytes] at enough ⊢; omega)
    refine ⟨fuel', enough', ?_⟩
    rw [tlsMessages_cons, List.append_assoc, getCompleteTlsMessagesLoop_message, run, List.length_append,
      Nat.add_assoc]

/-- The loop, on enough fuel, splits its bytes into complete messages, which
it counts, and bytes that hold no complete message. -/
theorem getCompleteTlsMessagesLoop_spec :
    ∀ (fuel : Nat) (buffer : List UInt8) (counted : Nat), buffer.length < fuel →
      ∃ messages rest, Incomplete rest ∧ buffer = tlsMessages messages ++ rest ∧
        getCompleteTlsMessagesLoop fuel buffer counted = some (counted + (tlsMessages messages).length)
  | 0, _, _, enough => absurd enough (Nat.not_lt_zero _)
  | fuel + 1, buffer, counted, enough => by
    by_cases incomplete : Incomplete buffer
    · exact ⟨[], buffer, incomplete, rfl, getCompleteTlsMessagesLoop_incomplete fuel incomplete counted⟩
    obtain ⟨message, more, rfl⟩ := exists_message_of_complete incomplete
    obtain ⟨messages, rest, incomplete', split, run⟩ := getCompleteTlsMessagesLoop_spec fuel more
      (counted + message.bytes.length)
      (by simp only [List.length_append, TlsMessage.length_bytes] at enough; omega)
    refine ⟨message :: messages, rest, incomplete', by rw [split, tlsMessages_cons, List.append_assoc], ?_⟩
    rw [getCompleteTlsMessagesLoop_message, run, tlsMessages_cons, List.length_append, Nat.add_assoc]

/-- After complete messages and bytes that hold none, the walk counts exactly
the messages. -/
theorem quicCryptoTlsGetCompleteTlsMessagesLength_messages (messages : List TlsMessage) {rest : List UInt8}
    (incomplete : Incomplete rest) :
    quicCryptoTlsGetCompleteTlsMessagesLength (tlsMessages messages ++ rest) = some (tlsMessages messages).length := by
  obtain ⟨_ | fuel, enough, run⟩ := getCompleteTlsMessagesLoop_messages messages _ rest 0 (Nat.lt_succ_self _)
  · exact absurd enough (Nat.not_lt_zero _)
  · rw [quicCryptoTlsGetCompleteTlsMessagesLength, run, getCompleteTlsMessagesLoop_incomplete fuel incomplete,
      Nat.zero_add]

/-- Bytes that arrive later never undo a count: the walk over `packet ++ more`
counts the complete messages it counted in `packet`, then resumes at the
first incomplete one as if that were the start of the buffer. -/
theorem quicCryptoTlsGetCompleteTlsMessagesLength_append (packet more : List UInt8) :
    ∃ m, quicCryptoTlsGetCompleteTlsMessagesLength packet = some m ∧
      quicCryptoTlsGetCompleteTlsMessagesLength (packet ++ more) =
        (quicCryptoTlsGetCompleteTlsMessagesLength (packet.drop m ++ more)).map (m + ·) := by
  obtain ⟨messages, rest, incomplete, rfl, -⟩ := getCompleteTlsMessagesLoop_spec _ packet 0 (Nat.lt_succ_self _)
  refine ⟨_, quicCryptoTlsGetCompleteTlsMessagesLength_messages messages incomplete, ?_⟩
  obtain ⟨messages', rest', incomplete', split, -⟩ :=
    getCompleteTlsMessagesLoop_spec _ (rest ++ more) 0 (Nat.lt_succ_self _)
  rw [List.drop_left, List.append_assoc, split, ← List.append_assoc, ← tlsMessages_append,
    quicCryptoTlsGetCompleteTlsMessagesLength_messages _ incomplete',
    quicCryptoTlsGetCompleteTlsMessagesLength_messages _ incomplete', tlsMessages_append, List.length_append]
  rfl

/-- Accepted ClientHello messages are complete messages. -/
theorem exists_tlsMessages_of_accepted {isDraft29 allocOk : Bool} :
    ∀ {bodies : List (List UInt8)}, AcceptedHellos isDraft29 allocOk bodies →
      ∃ messages, tlsMessages messages = clientHellos bodies
  | [], _ => ⟨[], rfl⟩
  | body :: _, accepted =>
    have ⟨⟨small, _⟩, others⟩ := (acceptedHellos_cons _ _ _ _).1 accepted
    have ⟨messages, same⟩ := exists_tlsMessages_of_accepted others
    ⟨⟨1, body, small⟩ :: messages, by rw [tlsMessages_cons, same]; rfl⟩

/-- Bytes that hold no complete message, with a ClientHello header if they
hold a header at all, are an unfinished ClientHello. -/
theorem unfinished_of_incomplete {rest : List UInt8} (incomplete : Incomplete rest)
    (hello : 4 ≤ rest.length → rest.head? = some 1) : Unfinished rest := by
  by_cases short : rest.length < 4
  · exact .inl short
  · exact .inr ⟨hello (Nat.le_of_not_lt short), incomplete.resolve_left short⟩

theorem stop_of_incomplete (isDraft29 allocOk : Bool) {rest : List UInt8} (incomplete : Incomplete rest)
    (hello : 4 ≤ rest.length → rest.head? = some 1) : Stop isDraft29 allocOk rest :=
  if finished : rest = [] then finished ▸ .done
  else .unfinished finished (unfinished_of_incomplete incomplete hello)

theorem quicCryptoTlsGetCompleteTlsMessagesLength_walk (packet : List UInt8) :
    ∃ m, quicCryptoTlsGetCompleteTlsMessagesLength packet = some m ∧ m ≤ packet.length ∧
      (∃ messages, packet.take m = tlsMessages messages) ∧ Incomplete (packet.drop m) ∧
      (∀ messages rest, packet = tlsMessages messages ++ rest → (tlsMessages messages).length ≤ m) ∧
      ∀ (isDraft29 allocOk : Bool) (state : IngestState) (bodies : List (List UInt8)) (rest : List UInt8),
        packet ≠ [] → AcceptedHellos isDraft29 allocOk bodies → packet = clientHellos bodies ++ rest →
        Incomplete rest → (4 ≤ rest.length → rest.head? = some 1) →
        ((quicCryptoTlsReadInitial isDraft29 allocOk packet state).map Prod.fst = some .pending ↔
          m < packet.length) := by
  obtain ⟨messages, rest, incomplete, rfl, -⟩ := getCompleteTlsMessagesLoop_spec _ packet 0 (Nat.lt_succ_self _)
  have walk := quicCryptoTlsGetCompleteTlsMessagesLength_messages messages incomplete
  refine ⟨_, walk, by simp, ⟨messages, by simp⟩, by simpa using incomplete, ?_, ?_⟩
  · intro messages' rest' split
    obtain ⟨fuel, enough, run⟩ := getCompleteTlsMessagesLoop_messages messages' _ rest' 0 (Nat.lt_succ_self _)
    obtain ⟨_, _, _, _, run'⟩ := getCompleteTlsMessagesLoop_spec fuel rest' (0 + (tlsMessages messages').length)
      enough
    rw [quicCryptoTlsGetCompleteTlsMessagesLength, split, run, run', Option.some.injEq] at walk
    omega
  · intro isDraft29 allocOk state bodies rest' nonempty accepted split incomplete' hello
    obtain ⟨hellos, same⟩ := exists_tlsMessages_of_accepted accepted
    have counted := quicCryptoTlsGetCompleteTlsMessagesLength_messages hellos incomplete'
    rw [same, ← split, walk, Option.some.injEq] at counted
    rw [split, quicCryptoTlsReadInitial_flight accepted (stop_of_incomplete isDraft29 allocOk incomplete' hello),
      Option.some.injEq, flightStatus_eq_pending, counted, List.length_append]
    constructor
    · rintro (⟨rfl, rfl⟩ | ⟨waiting, -⟩)
      · exact absurd split nonempty
      · exact Nat.lt_add_of_pos_right (List.length_pos.2 waiting)
    · intro short
      have waiting : rest' ≠ [] := fun finished => by simp [finished] at short
      exact .inr ⟨waiting, unfinished_of_incomplete incomplete' hello⟩

theorem unfinished_hello_walk :
    (quicCryptoTlsGetCompleteTlsMessagesLength [0x01, 0x00, 0x00, 0x05, 0x00] = some 0 ∧
      ((quicCryptoTlsReadInitial false true [0x01, 0x00, 0x00, 0x05, 0x00] .zeroed).map Prod.fst = some .pending ↔
        0 < 5)) ∧
    (quicCryptoTlsGetCompleteTlsMessagesLength (clientHellos [h3Hello] ++ (handshakeMessage 1 h3Hello).take 10) =
        some 60 ∧
      ((quicCryptoTlsReadInitial false true (clientHellos [h3Hello] ++ (handshakeMessage 1 h3Hello).take 10)
        .zeroed).map Prod.fst = some .pending ↔ 60 < 70)) := by
  obtain ⟨m, walk, -, -, -, -, agree⟩ := quicCryptoTlsGetCompleteTlsMessagesLength_walk [0x01, 0x00, 0x00, 0x05, 0x00]
  obtain rfl : m = 0 := Option.some.inj (walk.symm.trans rfl)
  obtain ⟨m', walk', -, -, -, -, agree'⟩ :=
    quicCryptoTlsGetCompleteTlsMessagesLength_walk (clientHellos [h3Hello] ++ (handshakeMessage 1 h3Hello).take 10)
  obtain rfl : m' = 60 := Option.some.inj (walk'.symm.trans rfl)
  exact ⟨⟨walk, agree false true .zeroed [] _ (by decide) (acceptedHellos_nil _ _) rfl (by decide) fun _ => rfl⟩,
    walk', agree' false true .zeroed [h3Hello] _ (by decide) (by decide) rfl (by decide) fun _ => rfl⟩

/-- `QuicCryptoTlsReadClientHello` refuses a body too short for the version
and `Random`. -/
theorem quicCryptoTlsReadClientHello_short (isDraft29 allocOk : Bool) {body : List UInt8}
    (short : body.length < 2 + tlsRandomLength) (base : Nat) (state : IngestState) :
    quicCryptoTlsReadClientHello isDraft29 allocOk body base state = some (.invalidParameter, state) := by
  by_cases noVersion : body.length < 2
  · simp only [quicCryptoTlsReadClientHello, if_pos noVersion, Option.pure_def]
  obtain ⟨version, readVersion, -⟩ := tlsReadUint16_of_lt (show 0 + 2 ≤ body.length by omega)
  have noRandom : (body.drop 2).length < tlsRandomLength := by rw [List.length_drop]; omega
  simp only [quicCryptoTlsReadClientHello, if_neg noVersion, readVersion, noRandom, Option.bind_eq_bind,
    Option.some_bind, Option.pure_def, if_true, ite_self]

/-- An accepted ClientHello body holds the version and `Random`. -/
theorem ClientHelloAccepted.random_fits {isDraft29 allocOk : Bool} {body : List UInt8}
    (accepted : ClientHelloAccepted isDraft29 allocOk body) : 2 + tlsRandomLength ≤ body.length :=
  Nat.not_lt.mp fun short => by
    simp [ClientHelloAccepted, quicCryptoTlsReadClientHello_short isDraft29 allocOk short] at accepted

/-- On a packet that begins with a ClientHello the reader accepts, the debug
assert of `QuicCryptoTlsReadClientRandom` holds and the bytes it copies are
that message's `Random`, whatever follows the message. -/
theorem quicCryptoTlsReadClientRandom_hello {isDraft29 allocOk : Bool} {body : List UInt8}
    (accepted : ClientHelloAccepted isDraft29 allocOk body) (more : List UInt8) (tlsSecrets : QuicTlsSecrets) :
    ∃ secrets', quicCryptoTlsReadClientRandom (handshakeMessage 1 body ++ more) tlsSecrets =
        some (.success, secrets') ∧
      secrets'.clientRandom = (body.drop 2).take tlsRandomLength ∧ secrets'.clientRandomSet = true := by
  have fits := accepted.random_fits
  have read : readBytes (handshakeMessage 1 body ++ more) (tlsMessageHeaderLength + 2) tlsRandomLength =
      some ((body.drop 2).take tlsRandomLength) := by
    rw [readBytes_of_le (by simp [handshakeMessage, tlsMessageHeaderLength]; omega)]
    simp [handshakeMessage, tlsMessageHeaderLength, List.drop_append_eq_append_drop, show 2 - body.length = 0 by omega,
      List.drop_eq_nil_of_le (show (bigEndian 3 body.length).length ≤ 5 by simp [length_bigEndian]),
      List.take_append_of_le_length (show tlsRandomLength ≤ (body.drop 2).length by simp; omega)]
  unfold quicCryptoTlsReadClientRandom
  split
  · simp_all
  · next clientRandom read' => exact ⟨_, rfl, by simpa [read] using read'.symm, rfl⟩

/-- Once `QuicCryptoTlsReadInitial` succeeds on a packet, from any state, the
packet begins with a ClientHello the reader accepts: the debug assert of
`QuicCryptoTlsReadClientRandom` holds on it, and `ClientRandom` becomes the
`Random` of that first ClientHello. -/
theorem quicCryptoTlsReadClientRandom_of_success {isDraft29 allocOk : Bool} {packet : List UInt8}
    {state : IngestState}
    (succeeded : (quicCryptoTlsReadInitial isDraft29 allocOk packet state).map Prod.fst = some .success)
    (tlsSecrets : QuicTlsSecrets) :
    ∃ body more, packet = handshakeMessage 1 body ++ more ∧ ClientHelloAccepted isDraft29 allocOk body ∧
      ∃ secrets', quicCryptoTlsReadClientRandom packet tlsSecrets = some (.success, secrets') ∧
        secrets'.clientRandom = (body.drop 2).take tlsRandomLength ∧ secrets'.clientRandomSet = true := by
  obtain ⟨bodies, rest, accepted, stop, rfl⟩ := flight_decomposition isDraft29 allocOk packet
  rw [quicCryptoTlsReadInitial_flight accepted stop, Option.some.injEq] at succeeded
  cases bodies with
  | nil =>
    unfold flightStatus at succeeded
    split_ifs at succeeded with _ empty
    exact absurd rfl empty
  | cons body bodies =>
    have hello := ((acceptedHellos_cons _ _ _ _).1 accepted).1.2
    rw [clientHellos_cons, List.append_assoc]
    exact ⟨body, _, rfl, hello, quicCryptoTlsReadClientRandom_hello hello _ tlsSecrets⟩

theorem h3Hello_clientRandom :
    ∃ body more, handshakeMessage 1 h3Hello = handshakeMessage 1 body ++ more ∧ ClientHelloAccepted false true body ∧
      ∃ secrets', quicCryptoTlsReadClientRandom (handshakeMessage 1 h3Hello) ⟨List.replicate 32 0xFF, false, rfl⟩ =
          some (.success, secrets') ∧
        secrets'.clientRandom = (body.drop 2).take tlsRandomLength ∧ secrets'.clientRandomSet = true :=
  @quicCryptoTlsReadClientRandom_of_success false true (handshakeMessage 1 h3Hello) .zeroed (by decide)
    ⟨List.replicate 32 0xFF, false, rfl⟩

/- PENDING is not enough: the packet may stop inside the first message, and
the copy then runs past its end. -/
example : (quicCryptoTlsReadInitial false true [0x01, 0x00, 0x00, 0x05, 0x00] .zeroed).map Prod.fst = some .pending ∧
    ∀ tlsSecrets, quicCryptoTlsReadClientRandom [0x01, 0x00, 0x00, 0x05, 0x00] tlsSecrets = none :=
  ⟨by decide, fun _ => rfl⟩

end CryptoTls
