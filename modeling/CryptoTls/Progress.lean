import CryptoTls.Framing

namespace CryptoTls

/-- `QuicVarIntDecode` within the bytes it may read either fails, leaving the
offset, or advances it by the size of one form: 1, 2, 4 or 8 bytes. -/
theorem quicVarIntDecode_advances (buffer : List UInt8) (offset : Nat) {bufferLength : Nat}
    (within : bufferLength ≤ buffer.length) :
    quicVarIntDecode bufferLength buffer offset = some none ∨
      ∃ value, ∃ size ∈ [1, 2, 4, 8], offset + size ≤ bufferLength ∧
        quicVarIntDecode bufferLength buffer offset = some (some (value, offset + size)) := by
  rcases quicVarIntDecode_cases buffer offset within with failed | ⟨value, next, decoded⟩
  · exact .inl failed
  obtain ⟨e, ⟨tag, small, -, rfl⟩, -, rfl, fits⟩ := quicVarIntDecode_sound decoded
  rw [length_varIntForm] at decoded fits
  refine .inr ⟨value, 2 ^ tag, ?_, fits, decoded⟩
  interval_cases tag <;> simp

/-- A pass of the loop keeps `Offset` within `TPLen`, and a pass that goes on
decoded the identifier and `ParamLength` and raised `Offset` by their two
sizes and `ParamLength`: the check `ParamLength + Offset > TPLen` comes before
the narrowing to `uint16_t`, which therefore loses nothing. -/
theorem decodeIteration_advances {isServerTP allocOk : Bool} {tpBuf : List UInt8} (small : tpBuf.length < 2 ^ 16)
    {s s' : DecodeState} {goOn : Bool} (within : s.offset ≤ tpBuf.length)
    (run : decodeIteration isServerTP allocOk tpBuf s = some (goOn, s')) :
    s'.offset ≤ tpBuf.length ∧
      (goOn = true → ∃ id, ∃ idSize ∈ [1, 2, 4, 8], ∃ paramLength, ∃ lengthSize ∈ [1, 2, 4, 8],
        quicVarIntDecode tpBuf.length tpBuf s.offset = some (some (id, s.offset + idSize)) ∧
        quicVarIntDecode tpBuf.length tpBuf (s.offset + idSize) =
          some (some (paramLength, s.offset + idSize + lengthSize)) ∧
        s'.offset = s.offset + idSize + lengthSize + paramLength) := by
  unfold decodeIteration at run
  rcases quicVarIntDecode_advances tpBuf s.offset le_rfl with first | ⟨id, idSize, idSizes, idFits, first⟩
  · simp only [first, Option.bind_eq_bind, Option.some_bind, Option.pure_def, Option.some.injEq,
      Prod.mk.injEq] at run
    obtain ⟨rfl, rfl⟩ := run
    exact ⟨within, nofun⟩
  simp only [first, Option.bind_eq_bind, Option.some_bind, Option.pure_def] at run
  split at run
  · obtain ⟨rfl, rfl⟩ := Prod.mk.inj (Option.some.inj run)
    exact ⟨idFits, nofun⟩
  rcases quicVarIntDecode_advances tpBuf (s.offset + idSize) le_rfl with
    second | ⟨paramLength, lengthSize, lengthSizes, lengthFits, second⟩
  · simp only [second, Option.some_bind, Option.some.injEq, Prod.mk.injEq] at run
    obtain ⟨rfl, rfl⟩ := run
    exact ⟨idFits, nofun⟩
  simp only [second, Option.some_bind] at run
  split at run
  · obtain ⟨rfl, rfl⟩ := Prod.mk.inj (Option.some.inj run)
    exact ⟨lengthFits, nofun⟩
  rename_i fits
  have narrowed : paramLength % 2 ^ 16 = paramLength := Nat.mod_eq_of_lt (by omega)
  rw [narrowed, readBytes_of_le (by omega), Option.some_bind] at run
  obtain ⟨⟨goOn', tp⟩, -, run⟩ := Option.bind_eq_some.mp run
  obtain ⟨rfl, rfl⟩ := Prod.mk.inj (Option.some.inj run)
  have sum : (s.offset + idSize + lengthSize + paramLength) % 2 ^ 16 = s.offset + idSize + lengthSize + paramLength :=
    Nat.mod_eq_of_lt (by omega)
  exact ⟨by dsimp only; omega, fun _ => ⟨id, idSize, idSizes, paramLength, lengthSize, lengthSizes, first, second, sum⟩⟩

/-- With fuel for `TPLen - Offset` passes and one more, the loop returns. -/
theorem decodeLoop_returns {isServerTP allocOk : Bool} {tpBuf : List UInt8} (small : tpBuf.length < 2 ^ 16) :
    ∀ (fuel : Nat) (s : DecodeState), s.offset ≤ tpBuf.length → tpBuf.length - s.offset < fuel →
      decodeLoop isServerTP allocOk tpBuf fuel s ≠ none
  | 0, _, _, enough => absurd enough (Nat.not_lt_zero _)
  | fuel + 1, s, within, enough => by
    unfold decodeLoop
    split
    swap
    · simp
    obtain ⟨⟨goOn, s'⟩, run⟩ := Option.ne_none_iff_exists'.mp (decodeIteration_ne_none isServerTP allocOk tpBuf s)
    obtain ⟨inside, advanced⟩ := decodeIteration_advances small within run
    rw [run]
    cases goOn
    · simp [pure]
    obtain ⟨_, idSize, idSizes, _, lengthSize, -, -, -, raised⟩ := advanced rfl
    have positive : 1 ≤ idSize := by simp at idSizes; omega
    simpa using decodeLoop_returns small fuel s' inside (by omega)

/-- The parameter loop ends: `QuicVarIntDecode` steps over exactly one encoded
size, and a pass that goes on raises `Offset` by the two sizes and `Length`
without leaving `TPLen`, so `TPLen - Offset` falls on every pass and the
decoder returns within its fuel. -/
theorem quicCryptoTlsDecodeTransportParameters_terminates (isServerTP allocOk : Bool) {tpBuf : List UInt8}
    (small : tpBuf.length < 2 ^ 16) :
    (∀ offset, quicVarIntDecode tpBuf.length tpBuf offset = some none ∨
      ∃ value, ∃ size ∈ [1, 2, 4, 8], offset + size ≤ tpBuf.length ∧
        quicVarIntDecode tpBuf.length tpBuf offset = some (some (value, offset + size))) ∧
      (∀ (s s' : DecodeState) (goOn : Bool), s.offset ≤ tpBuf.length →
        decodeIteration isServerTP allocOk tpBuf s = some (goOn, s') →
        s'.offset ≤ tpBuf.length ∧
          (goOn = true → ∃ id, ∃ idSize ∈ [1, 2, 4, 8], ∃ paramLength, ∃ lengthSize ∈ [1, 2, 4, 8],
            quicVarIntDecode tpBuf.length tpBuf s.offset = some (some (id, s.offset + idSize)) ∧
            quicVarIntDecode tpBuf.length tpBuf (s.offset + idSize) =
              some (some (paramLength, s.offset + idSize + lengthSize)) ∧
            s'.offset = s.offset + idSize + lengthSize + paramLength)) ∧
      quicCryptoTlsDecodeTransportParameters isServerTP allocOk tpBuf ≠ none :=
  ⟨fun offset => quicVarIntDecode_advances tpBuf offset le_rfl,
    fun _ _ _ within run => decodeIteration_advances small within run,
    decodeLoop_returns small _ _ (Nat.zero_le _) (by simp)⟩

theorem disable_active_migration_terminates :
    ([0x0c, 0x00] : List UInt8).length < 2 ^ 16 ∧
      (∃ s', decodeIteration false true [0x0c, 0x00] ⟨0, 0, .initial⟩ = some (true, s') ∧ s'.offset ≤ 2) ∧
      quicCryptoTlsDecodeTransportParameters false true [0x0c, 0x00] ≠ none := by
  have small : ([0x0c, 0x00] : List UInt8).length < 2 ^ 16 := by decide
  obtain ⟨-, iteration, returns⟩ := quicCryptoTlsDecodeTransportParameters_terminates false true small
  obtain ⟨s', run⟩ : ∃ s', decodeIteration false true [0x0c, 0x00] ⟨0, 0, .initial⟩ = some (true, s') := ⟨_, rfl⟩
  exact ⟨small, ⟨s', run, (iteration _ _ _ (Nat.zero_le _) run).1⟩, returns⟩

end CryptoTls
