import CryptoTls.Parameter

namespace CryptoTls

/-- One transport parameter as it stands on the wire: a varint identifier, a
varint length, then that many payload bytes. -/
structure WireParameter where
  idBytes : List UInt8
  id : Nat
  lengthBytes : List UInt8
  payload : List UInt8
  deriving DecidableEq

def WireParameter.bytes (p : WireParameter) : List UInt8 :=
  p.idBytes ++ p.lengthBytes ++ p.payload

/-- The two varints are forms (of any size) of the identifier and of the
payload's length. -/
def WireParameter.WellFormed (p : WireParameter) : Prop :=
  VarIntEncoding p.idBytes p.id ∧ VarIntEncoding p.lengthBytes p.payload.length

/-- `bytes` split exactly into the parameters `ps`, one after the other. -/
def Framed (bytes : List UInt8) (ps : List WireParameter) : Prop :=
  (∀ p ∈ ps, p.WellFormed) ∧ bytes = ps.flatMap WireParameter.bytes

/-- The decoder read over a list of parameters instead of a byte offset: the
duplicate mask, the `switch`, the first exit ending the run, and the check
after the loop. -/
def runParameters (isServerTP allocOk : Bool) :
    List WireParameter → Nat → TransportParameters → Option (Bool × TransportParameters)
  | [], _, tp => some (minAckDelayAccepted tp, tp)
  | p :: ps, present, tp =>
    if p.id < 64 && present.testBit p.id then some (false, tp) else
    match decodeParameter isServerTP allocOk p.payload tp (QuicTpId.ofNat? p.id) with
    | some (true, tp) =>
      runParameters isServerTP allocOk ps (if p.id < 64 then present ||| 1 <<< p.id else present) tp
    | result => result

theorem WireParameter.WellFormed.two_le {p : WireParameter} (wf : p.WellFormed) : 2 ≤ p.bytes.length := by
  have := wf.1.length
  have := wf.2.length
  simp only [WireParameter.bytes, List.length_append]
  omega

theorem decodeParameter_ne_none (isServerTP allocOk : Bool) (payload : List UInt8)
    (tp : TransportParameters) (label : Option QuicTpId) :
    decodeParameter isServerTP allocOk payload tp label ≠ none := by
  cases label with
  | none => simp [decodeParameter, pure]
  | some k =>
    intro fault
    have := (decodeParameter_spec isServerTP allocOk payload tp k).1
    rw [fault] at this
    cases this

/-- An iteration reads nothing outside `TPBuf`: each varint read is bounded by
`TPLen`, and the payload window by the check `ParamLength + Offset > TPLen`. -/
theorem decodeIteration_ne_none (isServerTP allocOk : Bool) (tpBuf : List UInt8) (s : DecodeState) :
    decodeIteration isServerTP allocOk tpBuf s ≠ none := by
  unfold decodeIteration
  rcases quicVarIntDecode_cases tpBuf s.offset le_rfl with
    first | ⟨id, offset, first⟩
  · simp [first, pure]
  simp only [first, Option.bind_eq_bind, Option.some_bind]
  split
  · simp [pure]
  rcases quicVarIntDecode_cases tpBuf offset le_rfl with
    second | ⟨paramLength, offset', second⟩
  · simp [second, pure]
  simp only [second, Option.some_bind]
  split
  · simp [pure]
  rename_i fits
  rw [readBytes_of_le (by have := Nat.mod_le paramLength (2 ^ 16); omega), Option.some_bind]
  have safe := decodeParameter_ne_none isServerTP allocOk
    ((tpBuf.drop offset').take (paramLength % 2 ^ 16)) s.transportParams (QuicTpId.ofNat? id)
  revert safe
  cases decodeParameter isServerTP allocOk _ s.transportParams (QuicTpId.ofNat? id) <;> simp [pure]

theorem runParameters_ne_none (isServerTP allocOk : Bool) :
    ∀ (ps : List WireParameter) (present : Nat) (tp : TransportParameters),
      runParameters isServerTP allocOk ps present tp ≠ none
  | [], _, _ => by simp [runParameters]
  | p :: ps, present, tp => by
    rw [runParameters]
    split
    · simp
    match result : decodeParameter isServerTP allocOk p.payload tp (QuicTpId.ofNat? p.id) with
    | none => exact absurd result (decodeParameter_ne_none _ _ _ _ _)
    | some (false, _) => simp
    | some (true, tp') => exact runParameters_ne_none isServerTP allocOk ps _ tp'

/-- A run that returns `TRUE` got past the duplicate check and the `switch` of
its first parameter, and the rest of the run returned `TRUE`. -/
theorem runParameters_cons_true {isServerTP allocOk : Bool} {p : WireParameter}
    {ps : List WireParameter} {present : Nat} {tp tp' : TransportParameters}
    (run : runParameters isServerTP allocOk (p :: ps) present tp = some (true, tp')) :
    (decide (p.id < 64) && present.testBit p.id) = false ∧
      ∃ tp'', decodeParameter isServerTP allocOk p.payload tp (QuicTpId.ofNat? p.id) = some (true, tp'') ∧
        runParameters isServerTP allocOk ps (if p.id < 64 then present ||| 1 <<< p.id else present) tp'' =
          some (true, tp') := by
  rw [runParameters] at run
  split at run
  · simp at run
  rename_i fresh
  refine ⟨Bool.eq_false_iff.2 fresh, ?_⟩
  match result : decodeParameter isServerTP allocOk p.payload tp (QuicTpId.ofNat? p.id) with
  | none => exact absurd result (decodeParameter_ne_none _ _ _ _ _)
  | some (false, _) => rw [result] at run; simp at run
  | some (true, tp'') => rw [result] at run; exact ⟨tp'', rfl, run⟩

/-- What the start has and every accepted parameter keeps, the record after a
run that returns `TRUE` has; and that record passed the check after the loop. -/
theorem runParameters_invariant {isServerTP allocOk : Bool} (P : TransportParameters → Prop)
    (step : ∀ (k : QuicTpId) payload tp, P tp → k.accepts isServerTP payload = true →
      P (k.apply allocOk payload tp)) :
    ∀ {ps : List WireParameter} {present : Nat} {tp tp' : TransportParameters}, P tp →
      runParameters isServerTP allocOk ps present tp = some (true, tp') →
        P tp' ∧ minAckDelayAccepted tp' = true
  | [], _, _, _, start, run => by
    simp only [runParameters, Option.some.injEq, Prod.mk.injEq] at run
    obtain ⟨accepted, rfl⟩ := run
    exact ⟨start, accepted⟩
  | _ :: _, _, _, _, start, run => by
    obtain ⟨-, tp'', result, rest⟩ := runParameters_cons_true run
    rcases decodeParameter_eq_true result with ⟨-, rfl⟩ | ⟨k, -, accepted, rfl⟩
    · exact runParameters_invariant P step start rest
    · exact runParameters_invariant P step (step k _ _ start accepted) rest

/-- In a run that returns `TRUE`, every parameter with a case label passed the
checks of its case. -/
theorem runParameters_accepts {isServerTP allocOk : Bool} :
    ∀ {ps : List WireParameter} {present : Nat} {tp tp' : TransportParameters},
      runParameters isServerTP allocOk ps present tp = some (true, tp') →
        ∀ p ∈ ps, ∀ k, QuicTpId.ofNat? p.id = some k → k.accepts isServerTP p.payload = true
  | [], _, _, _, _ => by simp
  | _ :: _, _, _, _, run => by
    obtain ⟨-, _, result, rest⟩ := runParameters_cons_true run
    intro q member k label
    rcases List.mem_cons.1 member with rfl | member
    · rcases decodeParameter_eq_true result with ⟨unknown, -⟩ | ⟨k', known, accepted, -⟩
      · rw [label] at unknown
        cases unknown
      · rw [label, Option.some.injEq] at known
        rwa [known]
    · exact runParameters_accepts rest q member k label

theorem testBit_or_shiftLeft (present i j : Nat) :
    (present ||| 1 <<< i).testBit j = (present.testBit j || decide (i = j)) := by
  rw [Nat.testBit_or, Nat.shiftLeft_eq, Nat.one_mul, Nat.testBit_two_pow]

theorem drop_add_of_drop_eq {tpBuf xs ys : List UInt8} {offset : Nat}
    (split : tpBuf.drop offset = xs ++ ys) : tpBuf.drop (offset + xs.length) = ys := by
  rw [← List.drop_drop, split, List.drop_left]

theorem drop_eq_append_of_front {tpBuf e : List UInt8} {offset : Nat} (front : e <+: tpBuf.drop offset) :
    tpBuf.drop offset = e ++ tpBuf.drop (offset + e.length) := by
  obtain ⟨rest, split⟩ := front
  rw [drop_add_of_drop_eq split.symm, split]

/-- A pass over a well-formed parameter at `Offset`: the duplicate check, then
the `switch` on its payload, the offset moved past it. -/
theorem decodeIteration_of_front {isServerTP allocOk : Bool} {p : WireParameter}
    {rest tpBuf : List UInt8} {s : DecodeState}
    (wf : p.WellFormed) (split : tpBuf.drop s.offset = p.bytes ++ rest) (small : tpBuf.length < 2 ^ 16) :
    decodeIteration isServerTP allocOk tpBuf s =
      if p.id < 64 && s.paramsPresent.testBit p.id then
        some (false, { s with offset := s.offset + p.idBytes.length })
      else (decodeParameter isServerTP allocOk p.payload s.transportParams (QuicTpId.ofNat? p.id)).map
        fun r => (r.1,
          { paramsPresent := if p.id < 64 then s.paramsPresent ||| 1 <<< p.id else s.paramsPresent
            offset := s.offset + p.bytes.length, transportParams := r.2 }) := by
  simp only [WireParameter.bytes, List.append_assoc] at split ⊢
  have within : s.offset + (p.idBytes.length + (p.lengthBytes.length + (p.payload.length + rest.length)))
      = tpBuf.length := by
    have total := congrArg List.length split
    have := wf.1.length
    simp only [List.length_drop, List.length_append] at total
    omega
  have idRead := @quicVarIntDecode_of_encoding tpBuf.length _ _ _ _ wf.1
    (split ▸ List.prefix_append _ _) (by omega)
  have afterId := drop_add_of_drop_eq split
  have lengthRead := @quicVarIntDecode_of_encoding tpBuf.length _ _ _ _ wf.2
    (afterId ▸ List.prefix_append _ _) (by omega)
  have payloadRead : readBytes tpBuf (s.offset + p.idBytes.length + p.lengthBytes.length)
      p.payload.length = some p.payload := by
    rw [readBytes_of_le (by omega), drop_add_of_drop_eq afterId, List.take_left]
  have narrow : p.payload.length % 2 ^ 16 = p.payload.length := Nat.mod_eq_of_lt (by omega)
  unfold decodeIteration
  simp only [idRead, lengthRead, Option.bind_eq_bind, Option.some_bind, Option.pure_def]
  by_cases dup : (decide (p.id < 64) && s.paramsPresent.testBit p.id) = true
  · rw [if_pos dup, if_pos dup]
  rw [if_neg dup, if_neg dup]
  simp only [gt_iff_lt, show ¬tpBuf.length < p.payload.length + (s.offset + p.idBytes.length +
    p.lengthBytes.length) by omega, if_false, Option.some_bind, narrow, payloadRead, List.length_append]
  rw [Nat.mod_eq_of_lt (by omega)]
  cases decodeParameter isServerTP allocOk p.payload s.transportParams (QuicTpId.ofNat? p.id) <;>
    simp only [Option.none_bind, Option.map_none', Option.some_bind, Option.map_some', Nat.add_assoc]

theorem framed_nil {bytes : List UInt8} : Framed bytes [] ↔ bytes = [] := by
  simp [Framed]

theorem framed_cons {bytes : List UInt8} {p : WireParameter} {ps : List WireParameter} :
    Framed bytes (p :: ps) ↔ p.WellFormed ∧ ∃ rest, bytes = p.bytes ++ rest ∧ Framed rest ps := by
  simp only [Framed, List.forall_mem_cons, List.flatMap_cons]
  constructor
  · rintro ⟨⟨wf, wfs⟩, rfl⟩
    exact ⟨wf, _, rfl, wfs, rfl⟩
  · rintro ⟨wf, rest, rfl, wfs, rfl⟩
    exact ⟨⟨wf, wfs⟩, rfl⟩

/-- On bytes that split into parameters, the loop is the run over them, given
fuel for one pass per byte left. -/
theorem decodeLoop_of_framed {isServerTP allocOk : Bool} {tpBuf : List UInt8}
    (small : tpBuf.length < 2 ^ 16) : ∀ {ps : List WireParameter} {fuel : Nat} {s : DecodeState},
      Framed (tpBuf.drop s.offset) ps → tpBuf.length - s.offset < fuel →
      decodeLoop isServerTP allocOk tpBuf fuel s =
        runParameters isServerTP allocOk ps s.paramsPresent s.transportParams
  | _, 0, _, _, enough => absurd enough (Nat.not_lt_zero _)
  | [], fuel + 1, s, framed, _ => by
    have done : tpBuf.length ≤ s.offset := by simpa using framed_nil.1 framed
    simp [decodeLoop, runParameters, Nat.not_lt.mpr done, pure]
  | p :: ps, fuel + 1, s, framed, enough => by
    obtain ⟨wf, rest, split, framedRest⟩ := framed_cons.1 framed
    have total := congrArg List.length split
    have two := wf.two_le
    simp only [List.length_drop, List.length_append] at total
    rw [decodeLoop, if_pos (by omega), decodeIteration_of_front wf split small, runParameters]
    by_cases dup : (decide (p.id < 64) && s.paramsPresent.testBit p.id) = true
    · simp [dup, pure]
    rw [if_neg dup, if_neg dup]
    match result : decodeParameter isServerTP allocOk p.payload s.transportParams (QuicTpId.ofNat? p.id) with
    | none => exact absurd result (decodeParameter_ne_none _ _ _ _ _)
    | some (false, tp) => simp [pure]
    | some (true, tp) =>
      simp only [Option.map_some', Option.some_bind, if_true]
      exact decodeLoop_of_framed small (by rwa [drop_add_of_drop_eq split]) (by dsimp only; omega)

/-- The decoder on a buffer that splits into parameters `ps` is the run over
`ps` from an empty mask and the initial record. -/
theorem quicCryptoTlsDecodeTransportParameters_of_framed {isServerTP allocOk : Bool}
    {tpBuf : List UInt8} {ps : List WireParameter} (framed : Framed tpBuf ps)
    (small : tpBuf.length < 2 ^ 16) :
    quicCryptoTlsDecodeTransportParameters isServerTP allocOk tpBuf =
      runParameters isServerTP allocOk ps 0 .initial :=
  decodeLoop_of_framed small framed (by simp)

end CryptoTls
