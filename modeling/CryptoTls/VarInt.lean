import CryptoTls.Bytes
import Mathlib.Tactic.IntervalCases

namespace CryptoTls

/-- Modelled from the spec: `QuicVarIntSize` is not under src/ (section 4.1,
`size(v)`). The smallest of the one, two, four and eight byte forms that
holds `value`. -/
def quicVarIntSize (value : Nat) : Nat :=
  if value < 0x40 then 1 else if value < 0x4000 then 2 else if value < 0x40000000 then 4 else 8

/-- The varint form with length tag `tag`: `2 ^ tag` big-endian bytes whose
two most significant bits hold `tag` and whose other bits hold `value`. -/
def varIntForm (tag value : Nat) : List UInt8 :=
  bigEndian (2 ^ tag) (tag * 2 ^ (8 * 2 ^ tag - 2) + value % 2 ^ (8 * 2 ^ tag - 2))

/-- Modelled from the spec: `QuicVarIntEncode` is not under src/ (section 4.1,
`encode(v, dst)`). Writes `quicVarIntSize value` bytes. -/
def quicVarIntEncode (value : Nat) : List UInt8 :=
  if value < 0x40 then varIntForm 0 value
  else if value < 0x4000 then varIntForm 1 value
  else if value < 0x40000000 then varIntForm 2 value
  else varIntForm 3 value

/-- Modelled from the spec: `QuicVarIntDecode` is not under src/ (section 4.1,
`decode(buf, len, *offset, *out)`). One varint at `offset` of a buffer whose
first `bufferLength` bytes may be read: `some (some (value, offset'))` on
success, `some none` (FALSE, offset not advanced) on truncation, and `none`
for a read outside `buffer`. -/
def quicVarIntDecode (bufferLength : Nat) (buffer : List UInt8) (offset : Nat) :
    Option (Option (Nat × Nat)) :=
  if bufferLength < offset + 1 then some none else do
    let first ← buffer[offset]?
    let size := 2 ^ (first.toNat >>> 6)
    if bufferLength < offset + size then pure none else do
      let bytes ← readBytes buffer offset size
      pure (some (readBigEndian bytes % 2 ^ (8 * size - 2), offset + size))

/-- The wire grammar of a varint: `e` is one of the four forms of `value`,
not necessarily the smallest. -/
def VarIntEncoding (e : List UInt8) (value : Nat) : Prop :=
  ∃ tag < 4, value < 2 ^ (8 * 2 ^ tag - 2) ∧ e = varIntForm tag value

theorem length_varIntForm (tag value : Nat) : (varIntForm tag value).length = 2 ^ tag := by
  simp [varIntForm]

theorem varIntForm_head {tag value : Nat} (small : tag < 4) (fits : value < 2 ^ (8 * 2 ^ tag - 2)) :
    ∃ first rest, varIntForm tag value = first :: rest ∧ first.toNat >>> 6 = tag := by
  obtain ⟨m, size⟩ : ∃ m, 2 ^ tag = m + 1 := ⟨2 ^ tag - 1, by have := Nat.one_le_two_pow (n := tag); omega⟩
  refine ⟨_, _, by rw [varIntForm, size, bigEndian_head], ?_⟩
  obtain rfl : m = 2 ^ tag - 1 := by omega
  rw [UInt8.toNat_ofNat, Nat.shiftRight_eq_div_pow]
  interval_cases tag <;> norm_num at fits ⊢ <;> omega

theorem readBigEndian_varIntForm {tag value : Nat} (small : tag < 4) (fits : value < 2 ^ (8 * 2 ^ tag - 2)) :
    readBigEndian (varIntForm tag value) % 2 ^ (8 * 2 ^ tag - 2) = value := by
  rw [varIntForm, readBigEndian_bigEndian]
  interval_cases tag <;> norm_num at fits ⊢ <;> omega

theorem VarIntEncoding.length {e : List UInt8} {value : Nat} (encoding : VarIntEncoding e value) :
    1 ≤ e.length ∧ e.length ≤ 8 := by
  obtain ⟨tag, small, _, rfl⟩ := encoding
  rw [length_varIntForm]
  interval_cases tag <;> norm_num

theorem bigEndian_readBigEndian (bytes : List UInt8) :
    bigEndian bytes.length (readBigEndian bytes) = bytes := by
  induction bytes using List.reverseRecOn with
  | nil => rfl
  | append_singleton xs b ih =>
    have byte := UInt8.toNat_lt_size b
    simp only [UInt8.size] at byte
    have single : readBigEndian [b] = b.toNat := by simp [readBigEndian]
    rw [readBigEndian_append, single, List.length_append, List.length_singleton, pow_one, bigEndian,
      show (readBigEndian xs * 256 + b.toNat) / 256 = readBigEndian xs by omega, ih]
    congr 2
    apply UInt8.toNat.inj
    rw [UInt8.toNat_ofNat]
    omega

theorem getElem?_of_front {buffer : List UInt8} {offset : Nat} {first : UInt8} {rest : List UInt8}
    (front : first :: rest <+: buffer.drop offset) : buffer[offset]? = some first := by
  obtain ⟨tail, same⟩ := front
  have := congrArg (·[0]?) same
  simpa [List.getElem?_drop] using this.symm

/-- Decoding finds every varint form that fits, in the prefix form that
composes: the offset moves past exactly its bytes. -/
theorem quicVarIntDecode_of_encoding {bufferLength offset value : Nat} {buffer e : List UInt8}
    (encoding : VarIntEncoding e value) (front : e <+: buffer.drop offset)
    (fits : offset + e.length ≤ bufferLength) :
    quicVarIntDecode bufferLength buffer offset = some (some (value, offset + e.length)) := by
  obtain ⟨tag, small, below, rfl⟩ := encoding
  obtain ⟨first, rest, form, tagged⟩ := varIntForm_head small below
  have atOffset := getElem?_of_front (form ▸ front)
  have size := length_varIntForm tag value
  have positive := Nat.one_le_two_pow (n := tag)
  have inBuffer : offset + 2 ^ tag ≤ buffer.length := by
    have := front.length_le
    simp only [List.length_drop, size] at this
    omega
  have bytes : readBytes buffer offset (2 ^ tag) = some (varIntForm tag value) := by
    rw [readBytes_of_le inBuffer, ← size, ← List.prefix_iff_eq_take.mp front]
  rw [size] at fits ⊢
  unfold quicVarIntDecode
  rw [if_neg (by omega)]
  simp only [atOffset, Option.bind_eq_bind, Option.some_bind, tagged]
  rw [if_neg (by omega), bytes]
  simp [pure, readBigEndian_varIntForm small below]

/-- Decoding reads only a varint form: what it returns is the value of the
bytes it stepped over. -/
theorem quicVarIntDecode_sound {bufferLength offset value next : Nat} {buffer : List UInt8}
    (decoded : quicVarIntDecode bufferLength buffer offset = some (some (value, next))) :
    ∃ e, VarIntEncoding e value ∧ e <+: buffer.drop offset ∧ next = offset + e.length ∧
      next ≤ bufferLength := by
  unfold quicVarIntDecode at decoded
  split at decoded
  · simp at decoded
  obtain ⟨first, atOffset, decoded⟩ := Option.bind_eq_some.mp decoded
  dsimp only at decoded
  split at decoded
  · simp [pure] at decoded
  obtain ⟨bytes, read, decoded⟩ := Option.bind_eq_some.mp decoded
  simp only [pure, Option.some.injEq, Prod.mk.injEq] at decoded
  obtain ⟨rfl, rfl⟩ := decoded
  obtain ⟨inBuffer, rfl⟩ := readBytes_eq_some.mp read
  have byte := UInt8.toNat_lt_size first
  simp only [UInt8.size] at byte
  have small : first.toNat >>> 6 < 4 := by rw [Nat.shiftRight_eq_div_pow]; omega
  generalize tagDef : first.toNat >>> 6 = tag at *
  obtain ⟨m, size⟩ : ∃ m, 2 ^ tag = m + 1 :=
    ⟨2 ^ tag - 1, by have := Nat.one_le_two_pow (n := tag); omega⟩
  set e := (buffer.drop offset).take (2 ^ tag) with bytesAt
  have length : e.length = m + 1 := by simp only [e, List.length_take, List.length_drop]; omega
  have head : (bigEndian (m + 1) (readBigEndian e))[0]? = some first := by
    rw [← length, bigEndian_readBigEndian]
    simp [e, List.getElem?_drop, atOffset, size]
  have firstByte := bigEndian_first head
  have bound := readBigEndian_lt e
  rw [length] at bound
  refine ⟨e, ⟨tag, small, Nat.mod_lt _ (by positivity), ?_⟩, List.take_prefix _ _, by omega, by omega⟩
  conv_lhs => rw [← bigEndian_readBigEndian e, length, ← size]
  unfold varIntForm
  congr 1
  rw [Nat.shiftRight_eq_div_pow] at tagDef
  obtain rfl : m = 2 ^ tag - 1 := by omega
  generalize readBigEndian e = r at *
  interval_cases tag <;> norm_num at firstByte tagDef bound ⊢ <;> omega

/-- The decoder never reads outside a buffer that holds its `bufferLength`
bytes. -/
theorem quicVarIntDecode_ne_none {bufferLength offset : Nat} {buffer : List UInt8}
    (within : bufferLength ≤ buffer.length) : quicVarIntDecode bufferLength buffer offset ≠ none := by
  unfold quicVarIntDecode
  split
  · simp
  rw [List.getElem?_eq_getElem (by omega)]
  simp only [Option.bind_eq_bind, Option.some_bind]
  split
  · simp [pure]
  rw [readBytes_of_le (by omega)]
  simp [pure]

theorem quicVarIntDecode_cases (buffer : List UInt8) (offset : Nat) {bufferLength : Nat}
    (within : bufferLength ≤ buffer.length) :
    quicVarIntDecode bufferLength buffer offset = some none ∨
      ∃ value next, quicVarIntDecode bufferLength buffer offset = some (some (value, next)) := by
  match decoded : quicVarIntDecode bufferLength buffer offset with
  | none => exact absurd decoded (quicVarIntDecode_ne_none within)
  | some none => exact Or.inl rfl
  | some (some (value, next)) => exact Or.inr ⟨value, next, rfl⟩

theorem quicVarIntSize_le (value : Nat) : quicVarIntSize value ≤ 8 := by
  unfold quicVarIntSize
  split_ifs <;> omega

@[simp] theorem length_quicVarIntEncode (value : Nat) :
    (quicVarIntEncode value).length = quicVarIntSize value := by
  unfold quicVarIntEncode quicVarIntSize
  split_ifs <;> simp [length_varIntForm]

/-- The encoder writes a varint form of every value it is given below
`2 ^ 62`, the smallest one. -/
theorem quicVarIntEncode_encoding {value : Nat} (small : value < 2 ^ 62) :
    VarIntEncoding (quicVarIntEncode value) value := by
  unfold quicVarIntEncode
  split_ifs with one two four
  · exact ⟨0, by norm_num, by norm_num; omega, rfl⟩
  · exact ⟨1, by norm_num, by norm_num; omega, rfl⟩
  · exact ⟨2, by norm_num, by norm_num; omega, rfl⟩
  · exact ⟨3, by norm_num, by norm_num; omega, rfl⟩

end CryptoTls
