import Mathlib.Data.List.Infix
import Mathlib.Tactic.Ring
import Mathlib.Tactic.Linarith

namespace CryptoTls

/-- `n` bytes of `value`, most significant first: the byte order of every
integer on the wire, in the TLS framing and in QUIC varints alike. -/
def bigEndian : Nat → Nat → List UInt8
  | 0, _ => []
  | n + 1, value => bigEndian n (value / 256) ++ [UInt8.ofNat value]

/-- The integer whose big-endian bytes are `bytes`. -/
def readBigEndian (bytes : List UInt8) : Nat :=
  bytes.foldl (fun acc b => acc * 256 + b.toNat) 0

/-- The source read of a `CxPlatCopyMemory` of `n` bytes at `offset`, or of
any other run of `n` consecutive byte reads: `none` unless every byte read
lies in the buffer. -/
def readBytes (buffer : List UInt8) (offset n : Nat) : Option (List UInt8) :=
  if offset + n ≤ buffer.length then some ((buffer.drop offset).take n) else none

/-- `TlsReadUint16` at `Buffer + offset`. The C function reads unchecked;
here a byte outside the buffer is `none`. -/
def tlsReadUint16 (buffer : List UInt8) (offset : Nat) : Option Nat := do
  let b0 ← buffer[offset]?
  let b1 ← buffer[offset + 1]?
  pure ((b0.toNat <<< 8) + b1.toNat)

/-- `TlsReadUint24` at `Buffer + offset`. -/
def tlsReadUint24 (buffer : List UInt8) (offset : Nat) : Option Nat := do
  let b0 ← buffer[offset]?
  let b1 ← buffer[offset + 1]?
  let b2 ← buffer[offset + 2]?
  pure ((b0.toNat <<< 16) + (b1.toNat <<< 8) + b2.toNat)

theorem UInt8.toNat_ofNat (n : Nat) : (UInt8.ofNat n).toNat = n % 256 := by
  simp [UInt8.toNat, UInt8.ofNat]

@[simp] theorem length_bigEndian (n value : Nat) : (bigEndian n value).length = n := by
  induction n generalizing value with
  | zero => rfl
  | succ n ih => simp [bigEndian, ih]

theorem readBigEndian_append (xs ys : List UInt8) :
    readBigEndian (xs ++ ys) = readBigEndian xs * 256 ^ ys.length + readBigEndian ys := by
  unfold readBigEndian
  rw [List.foldl_append]
  generalize xs.foldl _ 0 = acc
  induction ys generalizing acc with
  | nil => simp
  | cons y ys ih =>
    simp only [List.foldl_cons, List.length_cons, pow_succ]
    rw [ih, ih (0 * 256 + y.toNat)]
    ring

theorem readBigEndian_bigEndian (n value : Nat) :
    readBigEndian (bigEndian n value) = value % 256 ^ n := by
  induction n generalizing value with
  | zero => simp [bigEndian, readBigEndian, Nat.mod_one]
  | succ n ih =>
    rw [bigEndian, readBigEndian_append, ih]
    simp only [readBigEndian, List.foldl_cons, List.foldl_nil, List.length_singleton, pow_one,
      UInt8.toNat_ofNat, Nat.zero_mul, Nat.zero_add]
    rw [Nat.pow_succ', Nat.mod_mul]
    ring

theorem readBigEndian_lt (bytes : List UInt8) : readBigEndian bytes < 256 ^ bytes.length := by
  induction bytes using List.reverseRecOn with
  | nil => simp [readBigEndian]
  | append_singleton xs b ih =>
    have byte := UInt8.toNat_lt_size b
    have single : readBigEndian [b] = b.toNat := by simp [readBigEndian]
    rw [readBigEndian_append, single, List.length_append, List.length_singleton, pow_one,
      Nat.pow_succ]
    simp only [UInt8.size] at byte
    nlinarith

/-- The first byte of a big-endian integer is its top eight bits. -/
theorem bigEndian_head (n value : Nat) :
    bigEndian (n + 1) value = UInt8.ofNat (value / 256 ^ n) :: bigEndian n value := by
  induction n generalizing value with
  | zero => simp [bigEndian]
  | succ n ih =>
    rw [bigEndian, ih, bigEndian, Nat.div_div_eq_div_mul, ← Nat.pow_succ']
    rfl

theorem bigEndian_first {n value : Nat} {first : UInt8}
    (head : (bigEndian (n + 1) value)[0]? = some first) : first.toNat = value / 256 ^ n % 256 := by
  rw [bigEndian_head] at head
  simp only [List.getElem?_cons_zero, Option.some.injEq] at head
  rw [← head, UInt8.toNat_ofNat]

theorem readBytes_eq_some {buffer : List UInt8} {offset n : Nat} {bytes : List UInt8} :
    readBytes buffer offset n = some bytes ↔
      offset + n ≤ buffer.length ∧ bytes = (buffer.drop offset).take n := by
  unfold readBytes
  split <;> simp_all [eq_comm]

theorem readBytes_of_le {buffer : List UInt8} {offset n : Nat} (fits : offset + n ≤ buffer.length) :
    readBytes buffer offset n = some ((buffer.drop offset).take n) := by
  simp [readBytes, fits]

@[simp] theorem length_readBytes {buffer bytes : List UInt8} {offset n : Nat}
    (read : readBytes buffer offset n = some bytes) : bytes.length = n := by
  obtain ⟨fits, rfl⟩ := readBytes_eq_some.mp read
  simp only [List.length_take, List.length_drop]
  omega

theorem tlsReadUint16_of_lt {buffer : List UInt8} {offset : Nat} (fits : offset + 2 ≤ buffer.length) :
    ∃ v, tlsReadUint16 buffer offset = some v ∧ v < 2 ^ 16 := by
  have at0 : offset < buffer.length := by omega
  have at1 : offset + 1 < buffer.length := by omega
  have first := UInt8.toNat_lt_size buffer[offset]
  have second := UInt8.toNat_lt_size buffer[offset + 1]
  simp only [UInt8.size] at first second
  refine ⟨buffer[offset].toNat <<< 8 + buffer[offset + 1].toNat, ?_, ?_⟩
  · simp [tlsReadUint16, List.getElem?_eq_getElem at0, List.getElem?_eq_getElem at1]
  · simp only [Nat.shiftLeft_eq]
    omega

theorem tlsReadUint16_cons (b0 b1 : UInt8) (more : List UInt8) :
    tlsReadUint16 (b0 :: b1 :: more) 0 = some (readBigEndian [b0, b1]) := by
  simp [tlsReadUint16, readBigEndian, Nat.shiftLeft_eq]

/-- A 16-bit length written big-endian reads back. -/
theorem tlsReadUint16_bigEndian {value : Nat} (small : value < 2 ^ 16) (more : List UInt8) :
    tlsReadUint16 (bigEndian 2 value ++ more) 0 = some value := by
  have header := readBigEndian_bigEndian 2 value
  rw [Nat.mod_eq_of_lt (by simpa using small)] at header
  simp only [bigEndian, List.nil_append, List.singleton_append, List.cons_append, tlsReadUint16_cons] at header ⊢
  rw [header]

theorem tlsReadUint16_append (front rest : List UInt8) (offset : Nat) :
    tlsReadUint16 (front ++ rest) (front.length + offset) = tlsReadUint16 rest offset := by
  simp [tlsReadUint16, List.getElem?_append_right, Nat.add_assoc]

theorem tlsReadUint24_of_lt {buffer : List UInt8} {offset : Nat} (fits : offset + 3 ≤ buffer.length) :
    ∃ v, tlsReadUint24 buffer offset = some v ∧ v < 2 ^ 24 := by
  have at0 : offset < buffer.length := by omega
  have at1 : offset + 1 < buffer.length := by omega
  have at2 : offset + 2 < buffer.length := by omega
  have first := UInt8.toNat_lt_size buffer[offset]
  have second := UInt8.toNat_lt_size buffer[offset + 1]
  have third := UInt8.toNat_lt_size buffer[offset + 2]
  simp only [UInt8.size] at first second third
  refine ⟨buffer[offset].toNat <<< 16 + buffer[offset + 1].toNat <<< 8 + buffer[offset + 2].toNat, ?_, ?_⟩
  · simp [tlsReadUint24, List.getElem?_eq_getElem at0, List.getElem?_eq_getElem at1,
      List.getElem?_eq_getElem at2]
  · simp only [Nat.shiftLeft_eq]
    omega

end CryptoTls
