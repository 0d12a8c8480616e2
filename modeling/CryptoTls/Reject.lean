import CryptoTls.Framing

namespace CryptoTls

/-- A pass either finds a well-formed parameter at `Offset` or exits. -/
theorem decodeIteration_cases (isServerTP allocOk : Bool) (tpBuf : List UInt8) (s : DecodeState) :
    (∃ (p : WireParameter) (rest : List UInt8), p.WellFormed ∧ tpBuf.drop s.offset = p.bytes ++ rest) ∨
      ∃ s', decodeIteration isServerTP allocOk tpBuf s = some (false, s') := by
  unfold decodeIteration
  rcases quicVarIntDecode_cases tpBuf s.offset le_rfl with
    first | ⟨id, afterId, first⟩
  · exact .inr ⟨s, by simp [first, pure]⟩
  obtain ⟨e₁, idForm, idFront, rfl, -⟩ := quicVarIntDecode_sound first
  simp only [first, Option.bind_eq_bind, Option.some_bind, Option.pure_def]
  split
  · exact .inr ⟨_, rfl⟩
  rcases quicVarIntDecode_cases tpBuf (s.offset + e₁.length) le_rfl with
    second | ⟨len, afterLength, second⟩
  · exact .inr ⟨_, by rw [second]; rfl⟩
  obtain ⟨e₂, lengthForm, lengthFront, rfl, -⟩ := quicVarIntDecode_sound second
  simp only [second, Option.some_bind]
  split
  · exact .inr ⟨_, rfl⟩
  rename_i fits
  set window := tpBuf.drop (s.offset + e₁.length + e₂.length)
  have payloadLength : (window.take len).length = len := by
    simp only [window, List.length_take, List.length_drop]
    omega
  refine .inl ⟨⟨e₁, id, e₂, window.take len⟩, window.drop len, ⟨idForm, ?_⟩, ?_⟩
  · rwa [payloadLength]
  rw [drop_eq_append_of_front idFront, drop_eq_append_of_front lengthFront]
  simp only [WireParameter.bytes, List.append_assoc]
  rw [List.take_append_drop]

/-- With fuel for one pass per byte left, the loop either reads bytes that
split into parameters or exits with `FALSE`. -/
theorem decodeLoop_cases {isServerTP allocOk : Bool} {tpBuf : List UInt8} (small : tpBuf.length < 2 ^ 16) :
    ∀ {fuel : Nat} {s : DecodeState}, tpBuf.length - s.offset < fuel →
      (∃ ps, Framed (tpBuf.drop s.offset) ps) ∨
        ∃ tp, decodeLoop isServerTP allocOk tpBuf fuel s = some (false, tp)
  | 0, _, enough => absurd enough (Nat.not_lt_zero _)
  | fuel + 1, s, enough => by
    by_cases more : s.offset < tpBuf.length
    swap
    · exact .inl ⟨[], framed_nil.2 (List.drop_eq_nil_of_le (by omega))⟩
    rcases decodeIteration_cases isServerTP allocOk tpBuf s with ⟨p, rest, wf, split⟩ | ⟨s', exit⟩
    swap
    · exact .inr ⟨s'.transportParams, by simp [decodeLoop, more, exit, pure]⟩
    have total := congrArg List.length split
    have two := wf.two_le
    simp only [List.length_drop, List.length_append] at total
    have iteration := @decodeIteration_of_front isServerTP allocOk _ _ _ _ wf split small
    by_cases dup : (decide (p.id < 64) && s.paramsPresent.testBit p.id) = true
    · rw [if_pos dup] at iteration
      exact .inr ⟨s.transportParams, by simp [decodeLoop, more, iteration, pure]⟩
    rw [if_neg dup] at iteration
    match result : decodeParameter isServerTP allocOk p.payload s.transportParams (QuicTpId.ofNat? p.id) with
    | none => exact absurd result (decodeParameter_ne_none _ _ _ _ _)
    | some (false, tp) => exact .inr ⟨tp, by simp [decodeLoop, more, iteration, result, pure]⟩
    | some (true, tp) =>
      rw [result, Option.map_some'] at iteration
      let next : DecodeState :=
        { paramsPresent := if p.id < 64 then s.paramsPresent ||| 1 <<< p.id else s.paramsPresent
          offset := s.offset + p.bytes.length, transportParams := tp }
      rcases @decodeLoop_cases isServerTP allocOk tpBuf small fuel next (by dsimp only [next]; omega) with
        ⟨ps, framed⟩ | ⟨tp', exit⟩
      · exact .inl ⟨p :: ps, framed_cons.2 ⟨wf, rest, split, by rwa [drop_add_of_drop_eq split] at framed⟩⟩
      · exact .inr ⟨tp', by rw [decodeLoop, if_pos more, iteration]; exact exit⟩

/-- The decoder either reads bytes that split into parameters or returns
`FALSE`. -/
theorem quicCryptoTlsDecodeTransportParameters_cases (isServerTP allocOk : Bool) {tpBuf : List UInt8}
    (small : tpBuf.length < 2 ^ 16) :
    (∃ ps, Framed tpBuf ps) ∨
      ∃ tp, quicCryptoTlsDecodeTransportParameters isServerTP allocOk tpBuf = some (false, tp) :=
  @decodeLoop_cases isServerTP allocOk tpBuf small _ ⟨0, 0, .initial⟩ (by simp)

/-- The decoder reads nothing outside `TPBuf` and its loop ends: it never
faults and never runs out of fuel. -/
theorem quicCryptoTlsDecodeTransportParameters_ne_none (isServerTP allocOk : Bool) {tpBuf : List UInt8}
    (small : tpBuf.length < 2 ^ 16) :
    quicCryptoTlsDecodeTransportParameters isServerTP allocOk tpBuf ≠ none := by
  rcases quicCryptoTlsDecodeTransportParameters_cases isServerTP allocOk small with ⟨ps, framed⟩ | ⟨tp, exit⟩
  · rw [quicCryptoTlsDecodeTransportParameters_of_framed framed small]
    exact runParameters_ne_none isServerTP allocOk ps 0 _
  · simp [exit]

/-- The cases of the four server-only parameters refuse a client's
parameters. -/
theorem serverOnly_refused {id : Nat} {k : QuicTpId} (payload : List UInt8)
    (serverOnly : id ∈ [0, 2, 13, 16]) (label : QuicTpId.ofNat? id = some k) :
    k.accepts false payload = false := by
  simp only [List.mem_cons, List.mem_singleton, List.not_mem_nil, or_false] at serverOnly
  rcases serverOnly with rfl | rfl | rfl | rfl <;> cases label <;> simp [QuicTpId.accepts]

/-- A run exits with `FALSE` when an identifier below 64 is already in the
mask or comes twice, or when a client's parameters carry a server-only one. -/
theorem runParameters_rejects {isServerTP allocOk : Bool} :
    ∀ {ps : List WireParameter} {present : Nat} {tp : TransportParameters},
      (∃ p ∈ ps, p.id < 64 ∧ present.testBit p.id = true) ∨
          ¬((ps.map WireParameter.id).filter (· < 64)).Nodup ∨
          (isServerTP = false ∧ ∃ p ∈ ps, p.id ∈ [0, 2, 13, 16]) →
        ∃ tp', runParameters isServerTP allocOk ps present tp = some (false, tp')
  | [], _, _, bad => by simp at bad
  | p :: ps, present, tp, bad => by
    rw [runParameters]
    by_cases dup : (decide (p.id < 64) && present.testBit p.id) = true
    · exact ⟨tp, by rw [if_pos dup]⟩
    rw [if_neg dup]
    simp only [Bool.and_eq_true, decide_eq_true_eq, not_and, Bool.not_eq_true] at dup
    match result : decodeParameter isServerTP allocOk p.payload tp (QuicTpId.ofNat? p.id) with
    | none => exact absurd result (decodeParameter_ne_none _ _ _ _ _)
    | some (false, tp') => exact ⟨tp', rfl⟩
    | some (true, tp') =>
      refine runParameters_rejects ?_
      rcases bad with ⟨q, member, below, seen⟩ | twice | ⟨client, q, member, server⟩
      · rcases List.mem_cons.1 member with rfl | member
        · exact absurd seen (by simp [dup below])
        · refine .inl ⟨q, member, below, ?_⟩
          split <;> simp [testBit_or_shiftLeft, seen]
      · rw [List.map_cons, List.filter_cons] at twice
        split at twice
        · rename_i below
          simp only [decide_eq_true_eq] at below
          rw [List.nodup_cons, not_and_or, not_not] at twice
          rcases twice with again | twice
          · obtain ⟨q, member, same⟩ := List.mem_map.1 (List.mem_filter.1 again).1
            exact .inl ⟨q, member, same ▸ below, by simp [below, testBit_or_shiftLeft, same]⟩
          · exact .inr (.inl twice)
        · exact .inr (.inl twice)
      · rcases List.mem_cons.1 member with rfl | member
        · subst client
          rcases decodeParameter_eq_true result with ⟨unknown, -⟩ | ⟨k, known, accepted, -⟩
          · simp only [List.mem_cons, List.mem_singleton, List.not_mem_nil, or_false] at server
            rcases server with same | same | same | same <;> rw [same] at unknown <;> cases unknown
          · rw [serverOnly_refused q.payload server known] at accepted
            cases accepted
        · exact .inr (.inr ⟨client, q, member, server⟩)

/-- The decoder returns `FALSE` on bytes that do not split into parameters, on
two parameters with one identifier below 64, and on a server-only parameter in
a client's parameters. -/
theorem quicCryptoTlsDecodeTransportParameters_false {isServerTP allocOk : Bool} {tpBuf : List UInt8}
    (small : tpBuf.length < 2 ^ 16)
    (bad : (¬∃ ps, Framed tpBuf ps) ∨ ∃ ps, Framed tpBuf ps ∧
      (¬((ps.map WireParameter.id).filter (· < 64)).Nodup ∨
        isServerTP = false ∧ ∃ p ∈ ps, p.id ∈ [0, 2, 13, 16])) :
    ∃ tp, quicCryptoTlsDecodeTransportParameters isServerTP allocOk tpBuf = some (false, tp) := by
  rcases bad with unframed | ⟨ps, framed, bad⟩
  · rcases quicCryptoTlsDecodeTransportParameters_cases isServerTP allocOk small with framed | exit
    · exact absurd framed unframed
    · exact exit
  · rw [quicCryptoTlsDecodeTransportParameters_of_framed framed small]
    exact runParameters_rejects (.inr bad)

theorem truncated_length_rejected :
    ([0x01] : List UInt8).length < 2 ^ 16 ∧ (¬∃ ps, Framed [0x01] ps) ∧
      ∃ tp, quicCryptoTlsDecodeTransportParameters true true [0x01] = some (false, tp) := by
  have unframed : ¬∃ ps, Framed [0x01] ps := by
    rintro ⟨_ | ⟨p, ps⟩, framed⟩
    · cases framed_nil.1 framed
    · obtain ⟨wf, rest, split, -⟩ := framed_cons.1 framed
      have total := congrArg List.length split
      have := wf.two_le
      simp only [List.length_append, List.length_singleton] at total
      omega
  exact ⟨by decide, unframed, quicCryptoTlsDecodeTransportParameters_false (by decide) (.inl unframed)⟩

/-- The cases that read their value with `TRY_READ_VAR_INT` at the start of the
payload. -/
def QuicTpId.readsVarInt : QuicTpId → Bool
  | .idleTimeout | .maxUdpPayloadSize | .initialMaxData | .initialMaxStreamDataBidiLocal
  | .initialMaxStreamDataBidiRemote | .initialMaxStreamDataUni | .initialMaxStreamsBidi
  | .initialMaxStreamsUni | .ackDelayExponent | .maxAckDelay | .activeConnectionIdLimit
  | .maxDatagramFrameSize | .minAckDelay | .enableTimestamp => true
  | _ => false

theorem payloadVarInt?_front {payload : List UInt8} {value : Nat} (found : payloadVarInt? payload = some value) :
    ∃ e, VarIntEncoding e value ∧ e <+: payload := by
  rcases tryReadVarInt_zero payload with ⟨-, none⟩ | ⟨value', next, read, some, -⟩
  · rw [found] at none
    cases none
  · rw [found, Option.some.injEq] at some
    obtain ⟨e, form, front, -⟩ := quicVarIntDecode_sound read
    exact ⟨e, some ▸ form, front⟩

theorem cibirValues?_front {payload : List UInt8} {l o : Nat} (found : cibirValues? payload = some (l, o)) :
    ∃ e₁ e₂, VarIntEncoding e₁ l ∧ VarIntEncoding e₂ o ∧ e₁ ++ e₂ <+: payload := by
  unfold cibirValues? tryReadVarInt at found
  rcases quicVarIntDecode_cases payload 0 le_rfl with first | ⟨l', n, first⟩
  · simp [first] at found
  rcases quicVarIntDecode_cases payload n le_rfl with second | ⟨o', n', second⟩
  · simp [first, second] at found
  simp only [first, second, Option.some.injEq, Prod.mk.injEq] at found
  obtain ⟨rfl, rfl⟩ := found
  obtain ⟨e₁, form₁, front₁, rfl, -⟩ := quicVarIntDecode_sound first
  obtain ⟨e₂, form₂, front₂, -⟩ := quicVarIntDecode_sound second
  refine ⟨e₁, e₂, form₁, form₂, ?_⟩
  have split := drop_eq_append_of_front front₁
  rw [List.drop_zero] at split
  rw [split]
  exact (List.prefix_append_right_inj e₁).2 front₂

/-- A parameter whose case reads a varint is accepted only if its payload
starts with one, and `cibir_encoding` only if its payload starts with two; the
bytes after them are not looked at. -/
theorem quicCryptoTlsDecodeTransportParameters_varint_front {isServerTP allocOk : Bool}
    {tpBuf : List UInt8} {tp : TransportParameters} (small : tpBuf.length < 2 ^ 16)
    (decoded : quicCryptoTlsDecodeTransportParameters isServerTP allocOk tpBuf = some (true, tp)) :
    ∃ ps, Framed tpBuf ps ∧ ∀ p ∈ ps, ∀ k, QuicTpId.ofNat? p.id = some k →
      (k.readsVarInt = true → ∃ e v, VarIntEncoding e v ∧ e <+: p.payload) ∧
      (k = .cibirEncoding →
        ∃ e₁ l e₂ o, VarIntEncoding e₁ l ∧ VarIntEncoding e₂ o ∧ e₁ ++ e₂ <+: p.payload) := by
  rcases quicCryptoTlsDecodeTransportParameters_cases isServerTP allocOk small with ⟨ps, framed⟩ | ⟨_, exit⟩
  swap
  · rw [decoded] at exit
    cases exit
  refine ⟨ps, framed, fun p member k label => ⟨fun reads => ?_, fun cibir => ?_⟩⟩ <;>
    have accepted := runParameters_accepts
      ((quicCryptoTlsDecodeTransportParameters_of_framed framed small).symm.trans decoded) p member k label
  · obtain ⟨value, found⟩ : ∃ value, payloadVarInt? p.payload = some value := by
      cases found : payloadVarInt? p.payload with
      | some value => exact ⟨value, rfl⟩
      | none => cases k <;> simp [QuicTpId.readsVarInt, QuicTpId.accepts, found] at reads accepted
    obtain ⟨e, form, front⟩ := payloadVarInt?_front found
    exact ⟨e, value, form, front⟩
  · subst cibir
    match found : cibirValues? p.payload with
    | none => simp [QuicTpId.accepts, found] at accepted
    | some (l, o) =>
      obtain ⟨e₁, e₂, form₁, form₂, front⟩ := cibirValues?_front found
      exact ⟨e₁, l, e₂, o, form₁, form₂, front⟩

theorem trailing_byte_varint_front :
    ∃ ps, Framed [0x01, 0x02, 0x05, 0x00] ps ∧ ∀ p ∈ ps, ∀ k, QuicTpId.ofNat? p.id = some k →
      (k.readsVarInt = true → ∃ e v, VarIntEncoding e v ∧ e <+: p.payload) ∧
      (k = .cibirEncoding →
        ∃ e₁ l e₂ o, VarIntEncoding e₁ l ∧ VarIntEncoding e₂ o ∧ e₁ ++ e₂ <+: p.payload) :=
  @quicCryptoTlsDecodeTransportParameters_varint_front false true _
    { QuicTransportParameters.initial with idleTimeout := 5, flags := { idleTimeout := true } } (by decide) (by decide)

theorem trailing_byte_accepted :
    quicCryptoTlsDecodeTransportParameters false true [0x01, 0x02, 0x05, 0x00] =
        some (true, { QuicTransportParameters.initial with
          idleTimeout := 5, flags := { idleTimeout := true } }) ∧
      Framed [0x01, 0x02, 0x05, 0x00] [⟨[0x01], 1, [0x02], [0x05, 0x00]⟩] ∧
      ¬∃ v, VarIntEncoding [0x05, 0x00] v := by
  refine ⟨by decide, ⟨?_, rfl⟩, ?_⟩
  · simp only [List.mem_singleton, forall_eq]
    exact ⟨⟨0, by decide, by decide, by decide⟩, ⟨0, by decide, by decide, by decide⟩⟩
  · rintro ⟨v, form⟩
    have read := @quicVarIntDecode_of_encoding 2 0 _ _ _ form
      (List.prefix_refl _) (by simp)
    rw [show quicVarIntDecode 2 [0x05, 0x00] 0 = some (some (5, 1)) by decide] at read
    simp at read

/-- A pass reads the record in its `switch` only: two passes over the same
bytes from the same mask and offset, with records `tp₁` and `tp₂`, exit
together with the same mask and offset and their records untouched, or run
their cases on the same parameter and record its identifier and offset the
same way. -/
theorem decodeIteration_records {isServerTP₁ allocOk₁ isServerTP₂ allocOk₂ : Bool} {tpBuf : List UInt8}
    (s : DecodeState) (tp₁ tp₂ : TransportParameters) (R : Option (Bool × DecodeState) → Option (Bool × DecodeState) → Prop)
    (exit : ∀ paramsPresent offset,
      R (some (false, ⟨paramsPresent, offset, tp₁⟩)) (some (false, ⟨paramsPresent, offset, tp₂⟩)))
    (fault : R none none)
    (switch : ∀ id payload (paramsPresent offset : Nat), (id < 64 → s.paramsPresent.testBit id = false) →
      R ((decodeParameter isServerTP₁ allocOk₁ payload tp₁ (QuicTpId.ofNat? id)).bind
          fun r => some (r.1, ⟨paramsPresent, offset, r.2⟩))
        ((decodeParameter isServerTP₂ allocOk₂ payload tp₂ (QuicTpId.ofNat? id)).bind
          fun r => some (r.1, ⟨paramsPresent, offset, r.2⟩))) :
    R (decodeIteration isServerTP₁ allocOk₁ tpBuf { s with transportParams := tp₁ })
      (decodeIteration isServerTP₂ allocOk₂ tpBuf { s with transportParams := tp₂ }) := by
  unfold decodeIteration
  rcases quicVarIntDecode_cases tpBuf s.offset le_rfl with first | ⟨id, afterId, first⟩ <;>
    simp only [first, Option.bind_eq_bind, Option.some_bind, Option.pure_def]
  · exact exit _ _
  by_cases dup : (decide (id < 64) && s.paramsPresent.testBit id) = true
  · rw [if_pos dup, if_pos dup]
    exact exit _ _
  rw [if_neg dup, if_neg dup]
  rcases quicVarIntDecode_cases tpBuf afterId le_rfl with second | ⟨len, afterLength, second⟩ <;>
    simp only [second, Option.some_bind]
  · exact exit _ _
  by_cases over : len + afterLength > tpBuf.length
  · rw [if_pos over, if_pos over]
    exact exit _ _
  rw [if_neg over, if_neg over]
  cases readBytes tpBuf afterLength (len % 2 ^ 16) with
  | none => exact fault
  | some payload => exact switch id payload _ _ fun below => by simpa [below] using dup

/-- A case that accepts a client's payload accepts it in a server's
parameters too. -/
theorem QuicTpId.accepts_of_client (k : QuicTpId) {payload : List UInt8} (accepted : k.accepts false payload = true) :
    k.accepts true payload = true := by
  cases k <;> first | exact accepted | simp [QuicTpId.accepts] at accepted

theorem decodeParameter_of_client {allocOk : Bool} {payload : List UInt8} {tp tp' : TransportParameters}
    {label : Option QuicTpId} (run : decodeParameter false allocOk payload tp label = some (true, tp')) :
    decodeParameter true allocOk payload tp label = some (true, tp') := by
  rcases decodeParameter_eq_true run with ⟨rfl, rfl⟩ | ⟨k, rfl, accepted, rfl⟩
  · rfl
  · exact (decodeParameter_spec true allocOk payload tp k).2 (k.accepts_of_client accepted)

theorem decodeIteration_of_client {allocOk : Bool} {tpBuf : List UInt8} {s s' : DecodeState}
    (step : decodeIteration false allocOk tpBuf s = some (true, s')) : decodeIteration true allocOk tpBuf s = some (true, s') :=
  decodeIteration_records s s.transportParams s.transportParams (fun r₁ r₂ => ∀ s', r₁ = some (true, s') → r₂ = some (true, s'))
    (fun _ _ _ exited => by cases exited) (fun _ faulted => by cases faulted)
    (fun _ _ _ _ _ _ run => by
      obtain ⟨⟨goOn, tp⟩, result, done⟩ := Option.bind_eq_some.1 run
      obtain ⟨rfl, rfl⟩ := Prod.mk.inj (Option.some.inj done)
      rw [decodeParameter_of_client result]
      rfl) s' step

theorem decodeLoop_of_client {allocOk : Bool} {tpBuf : List UInt8} {tp : TransportParameters} :
    ∀ {fuel : Nat} {s : DecodeState}, decodeLoop false allocOk tpBuf fuel s = some (true, tp) →
      decodeLoop true allocOk tpBuf fuel s = some (true, tp)
  | 0, _, run => by cases run
  | fuel + 1, s, run => by
    unfold decodeLoop at run ⊢
    split at run
    · rename_i more
      rw [if_pos more]
      obtain ⟨⟨goOn, s'⟩, step, next⟩ := Option.bind_eq_some.1 run
      cases goOn
      · cases next
      · rw [decodeIteration_of_client step, Option.bind_eq_bind, Option.some_bind]
        exact decodeLoop_of_client next
    · rename_i done
      rwa [if_neg done]

/-- `IsServerTP` only adds refusals: parameters that the decoder accepts as a
client's it accepts as a server's too, into the same record. -/
theorem quicCryptoTlsDecodeTransportParameters_of_client {allocOk : Bool} {tpBuf : List UInt8}
    {tp : TransportParameters} (decoded : quicCryptoTlsDecodeTransportParameters false allocOk tpBuf = some (true, tp)) :
    quicCryptoTlsDecodeTransportParameters true allocOk tpBuf = some (true, tp) :=
  decodeLoop_of_client decoded

theorem idleTimeout_either_side :
    ∃ tp, quicCryptoTlsDecodeTransportParameters false true [0x01, 0x02, 0x05, 0x00] = some (true, tp) ∧
      quicCryptoTlsDecodeTransportParameters true true [0x01, 0x02, 0x05, 0x00] = some (true, tp) :=
  ⟨_, rfl, quicCryptoTlsDecodeTransportParameters_of_client rfl⟩

end CryptoTls
