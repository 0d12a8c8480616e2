import CryptoTls.Heap

namespace CryptoTls

/-- The records, each in its slot, and the heap of their buffers. -/
structure Memory where
  heap : Heap
  records : Nat → OwnedParameters

/-- Every record zeroed and no buffer allocated. -/
def Memory.zeroed : Memory :=
  ⟨⟨fun _ => none, 0⟩, fun _ => {}⟩

/-- A call of the ownership API on the records. -/
inductive Call
  | decode (slot : Nat) (isServerTP allocOk : Bool) (tpBuf : List UInt8)
  | copy (source destination : Nat) (allocOk : Bool)
  | cleanup (slot : Nat)

def Memory.step (memory : Memory) : Call → Except MemoryFault Memory
  | .decode slot isServerTP allocOk tpBuf => do
    let (_, heap, tp) ← quicCryptoTlsDecodeTransportParametersWithHeap isServerTP allocOk tpBuf memory.heap
      (memory.records slot)
    pure ⟨heap, Function.update memory.records slot tp⟩
  | .copy source destination allocOk => do
    let (_, heap, tp) ← quicCryptoTlsCopyTransportParameters allocOk memory.heap (memory.records source)
    pure ⟨heap, Function.update memory.records destination tp⟩
  | .cleanup slot => do
    let (heap, tp) ← quicCryptoTlsCleanupTransportParameters memory.heap (memory.records slot)
    pure ⟨heap, Function.update memory.records slot tp⟩

def Memory.run (memory : Memory) : List Call → Except MemoryFault Memory
  | [] => .ok memory
  | call :: calls => memory.step call >>= fun memory => memory.run calls

/-- The memory discipline: a clear flag means NULL, every buffer a record
holds is live, no two records hold the same buffer, and nothing is live at a
fresh address. -/
structure Memory.Safe (memory : Memory) : Prop where
  cleared : ∀ slot, (memory.records slot).flags.versionNegotiation = false →
    (memory.records slot).versionInfo = none
  live : ∀ slot address, (memory.records slot).versionInfo = some address → (memory.heap.size address).isSome
  unshared : ∀ slot slot' address, (memory.records slot).versionInfo = some address →
    (memory.records slot').versionInfo = some address → slot = slot'
  fresh : ∀ address, memory.heap.next ≤ address → memory.heap.size address = none

/-- The ownership contract: every record's version info owned (NULL under a
clear flag; NULL with length zero, or a live buffer of exactly
`VersionInfoLength` bytes, under a set one), no buffer held by two records,
and every live buffer held by one. -/
structure Memory.Owned (memory : Memory) : Prop where
  versionInfo : ∀ slot, (memory.records slot).VersionInfoOwned memory.heap.size
  unshared : ∀ slot slot' address, (memory.records slot).versionInfo = some address →
    (memory.records slot').versionInfo = some address → slot = slot'
  noLeak : ∀ address, (memory.heap.size address).isSome → ∃ slot, (memory.records slot).versionInfo = some address

theorem except_bind_eq_ok {α β : Type} {x : Except MemoryFault α} {f : α → Except MemoryFault β} {b : β} :
    x >>= f = .ok b ↔ ∃ a, x = .ok a ∧ f a = .ok b := by
  cases x <;> simp [bind, Except.bind]

theorem Memory.zeroed_safe : Memory.zeroed.Safe :=
  ⟨fun _ _ => rfl, fun _ _ absurd => Option.noConfusion absurd, fun _ _ _ absurd => Option.noConfusion absurd,
    fun _ _ => rfl⟩

theorem Memory.zeroed_owned : Memory.zeroed.Owned :=
  ⟨fun _ => ⟨fun _ => rfl, fun absurd => Bool.noConfusion absurd⟩,
    fun _ _ _ absurd => Option.noConfusion absurd, fun _ absurd => Bool.noConfusion absurd⟩

section Write

variable {memory : Memory} {heap : Heap} {slot : Nat} {tp : OwnedParameters}

/-- Writing one slot keeps the discipline when the new record is well formed
and holds a live buffer no other record holds, the other records' buffers
stay live, and fresh addresses stay free. -/
theorem Memory.Safe.write (safe : memory.Safe)
    (cleared : tp.flags.versionNegotiation = false → tp.versionInfo = none)
    (live : ∀ address, tp.versionInfo = some address → (heap.size address).isSome)
    (unshared : ∀ address, tp.versionInfo = some address →
      ∀ other ≠ slot, (memory.records other).versionInfo ≠ some address)
    (kept : ∀ other ≠ slot, ∀ address, (memory.records other).versionInfo = some address →
      (heap.size address).isSome)
    (fresh : ∀ address, heap.next ≤ address → heap.size address = none) :
    (Memory.mk heap (Function.update memory.records slot tp)).Safe := by
  refine ⟨fun other flag => ?_, fun other address held => ?_, fun other other' address held held' => ?_, fresh⟩
  · by_cases same : other = slot
    · subst same
      simp only [Function.update_same] at flag ⊢
      exact cleared flag
    · simp only [Function.update_noteq same] at flag ⊢
      exact safe.cleared other flag
  · by_cases same : other = slot
    · subst same
      simp only [Function.update_same] at held
      exact live address held
    · simp only [Function.update_noteq same] at held
      exact kept other same address held
  · by_cases same : other = slot <;> by_cases same' : other' = slot
    · rw [same, same']
    · subst same
      simp only [Function.update_same, Function.update_noteq same'] at held held'
      exact absurd held' (unshared address held other' same')
    · subst same'
      simp only [Function.update_same, Function.update_noteq same] at held held'
      exact absurd held (unshared address held' other same)
    · simp only [Function.update_noteq same, Function.update_noteq same'] at held held'
      exact safe.unshared other other' address held held'

/-- Writing one slot keeps the contract when the new record's version info is
owned, it holds no buffer another record holds, the other records' buffers
keep their sizes, and every live buffer is the new record's or another
record's. -/
theorem Memory.Owned.write (owned : memory.Owned) (versionInfo : tp.VersionInfoOwned heap.size)
    (unshared : ∀ address, tp.versionInfo = some address →
      ∀ other ≠ slot, (memory.records other).versionInfo ≠ some address)
    (kept : ∀ other ≠ slot, ∀ address, (memory.records other).versionInfo = some address →
      heap.size address = memory.heap.size address)
    (noLeak : ∀ address, (heap.size address).isSome →
      tp.versionInfo = some address ∨ ∃ other ≠ slot, (memory.records other).versionInfo = some address) :
    (Memory.mk heap (Function.update memory.records slot tp)).Owned := by
  refine ⟨fun other => ?_, fun other other' address held held' => ?_, fun address isLive => ?_⟩
  · by_cases same : other = slot
    · subst same
      simpa only [Function.update_same] using versionInfo
    · simp only [Function.update_noteq same]
      obtain ⟨clear, flagged⟩ := owned.versionInfo other
      refine ⟨clear, fun flag => (flagged flag).imp id fun ⟨buffer, held, size⟩ => ⟨buffer, held, ?_⟩⟩
      rw [kept other same buffer held, size]
  · by_cases same : other = slot <;> by_cases same' : other' = slot
    · rw [same, same']
    · subst same
      simp only [Function.update_same, Function.update_noteq same'] at held held'
      exact absurd held' (unshared address held other' same')
    · subst same'
      simp only [Function.update_same, Function.update_noteq same] at held held'
      exact absurd held (unshared address held' other same)
    · simp only [Function.update_noteq same, Function.update_noteq same'] at held held'
      exact owned.unshared other other' address held held'
  · rcases noLeak address isLive with held | ⟨other, same, held⟩
    · exact ⟨slot, by simpa using held⟩
    · exact ⟨other, by simpa [Function.update_noteq same] using held⟩

end Write

section Calls

variable {memory memory' : Memory}

theorem except_bind_ne_error {α : Type} {x : Except MemoryFault α} {f : α → Except MemoryFault Memory}
    {fault : MemoryFault} (never : x ≠ .error fault) (after : ∀ a, f a ≠ .error fault) :
    x >>= f ≠ .error fault := by
  cases x with
  | error fault' =>
    intro same
    simp only [bind, Except.bind, Except.error.injEq] at same
    exact never (same ▸ rfl)
  | ok a => exact after a

/-- The heap facts a call needs about the buffer it releases: the other
records' buffers keep their sizes, and fresh addresses stay free. -/
theorem Memory.Safe.release {heap : Heap} {slot : Nat} (safe : memory.Safe)
    (released : memory.heap.release (memory.records slot).versionInfo = .ok heap) :
    heap.next = memory.heap.next ∧
      (∀ other ≠ slot, ∀ address, (memory.records other).versionInfo = some address →
        heap.size address = memory.heap.size address) ∧
      (∀ address, (heap.size address).isSome → (memory.heap.size address).isSome ∧
        ∀ held, (memory.records slot).versionInfo = some held → held ≠ address) ∧
      ∀ address, heap.next ≤ address → heap.size address = none := by
  obtain ⟨sameNext, size⟩ := Heap.release_ok released
  refine ⟨sameNext, fun other different address held => ?_, fun address isLive => ?_, fun address above => ?_⟩
  · rw [size address, if_neg fun old => different (safe.unshared other slot address held old)]
  · rw [size address] at isLive
    split at isLive
    · cases isLive
    · rename_i notHeld
      exact ⟨isLive, fun held old same => notHeld (by rw [old, same])⟩
  · rw [size address]
    split
    · rfl
    · exact safe.fresh address (sameNext ▸ above)

theorem Memory.Safe.release_live {heap : Heap} {slot : Nat} (safe : memory.Safe)
    (released : memory.heap.release (memory.records slot).versionInfo = .ok heap) :
    ∀ other ≠ slot, ∀ address, (memory.records other).versionInfo = some address → (heap.size address).isSome :=
  fun other different address held => by
    rw [(safe.release released).2.1 other different address held]
    exact safe.live other address held

/-- After the release, every live buffer is held by another record. -/
theorem Memory.Owned.release_held {heap : Heap} {slot : Nat} (owned : memory.Owned) (safe : memory.Safe)
    (released : memory.heap.release (memory.records slot).versionInfo = .ok heap) {address : Nat}
    (isLive : (heap.size address).isSome) : ∃ other ≠ slot, (memory.records other).versionInfo = some address := by
  obtain ⟨wasLive, notHeld⟩ := (safe.release released).2.2.1 address isLive
  obtain ⟨other, held⟩ := owned.noLeak address wasLive
  exact ⟨other, fun same => notHeld address (same ▸ held) rfl, held⟩

/-- A buffer allocated at the heap's first fresh address is held by no
record. -/
theorem Memory.Safe.next_unheld (safe : memory.Safe) (slot : Nat) :
    (memory.records slot).versionInfo ≠ some memory.heap.next := fun held =>
  absurd (safe.live slot _ held) (by simp [safe.fresh _ le_rfl])

theorem Memory.Safe.alloc_kept (safe : memory.Safe) {heap : Heap} (sameNext : heap.next = memory.heap.next)
    (length : Nat) {slot address : Nat} (held : (memory.records slot).versionInfo = some address) :
    (heap.alloc length).1.size address = heap.size address := by
  rw [Heap.alloc_size, if_neg]
  rintro rfl
  exact safe.next_unheld slot (sameNext ▸ held)

/-- A decode keeps the discipline, and the contract. -/
theorem Memory.Safe.decode {slot : Nat} {isServerTP allocOk : Bool} {tpBuf : List UInt8} (safe : memory.Safe)
    (stepped : memory.step (.decode slot isServerTP allocOk tpBuf) = .ok memory') :
    memory'.Safe ∧ (memory.Owned → memory'.Owned) := by
  obtain ⟨⟨result, heap, tp⟩, decoded, done⟩ := except_bind_eq_ok.1 stepped
  simp only [pure, Except.pure, Except.ok.injEq] at done
  subst done
  obtain ⟨released, codec, release, codecDecoded, written⟩ := decodeWithHeap_ok decoded
  obtain ⟨sameNext, kept, -, fresh⟩ := safe.release release
  obtain ⟨clear, flagged⟩ := quicCryptoTlsDecodeTransportParameters_versionInfoOwned codecDecoded
  have leaked (owned : memory.Owned) {address : Nat} (isLive : (released.size address).isSome) :=
    owned.release_held safe release isLive
  have stillLive := safe.release_live release
  rcases written with ⟨absent, rfl, rfl⟩ | ⟨bytes, present, rfl, rfl⟩
  · refine ⟨safe.write (by simp) (by simp) (by simp) stillLive fresh,
      fun owned => owned.write ⟨fun _ => rfl, fun flag => .inl ⟨rfl, ?_⟩⟩ (by simp) kept
        fun address isLive => .inr (leaked owned isLive)⟩
    rcases flagged flag with ⟨_, zero⟩ | ⟨_, held, _⟩
    · simpa using zero
    · rw [absent] at held
      cases held
  · have flag : codec.flags.versionNegotiation = true := by
      cases unflagged : codec.flags.versionNegotiation
      · rw [clear unflagged] at present
        cases present
      · rfl
    have length : bytes.length = codec.versionInfoLength := by
      rcases flagged flag with ⟨held, _⟩ | ⟨_, held, size⟩ <;> rw [held] at present
      · cases present
      · cases present
        simpa using size
    have unheld (address : Nat) (held : (codec.withVersionInfo (some released.next)).versionInfo = some address)
        (other : Nat) (_ : other ≠ slot) : (memory.records other).versionInfo ≠ some address := by
      simp only [withVersionInfo_versionInfo, Option.some.injEq] at held
      subst held
      exact sameNext ▸ safe.next_unheld other
    have allocKept (other : Nat) (address : Nat) (held : (memory.records other).versionInfo = some address) :=
      safe.alloc_kept sameNext bytes.length held
    refine ⟨safe.write (fun unflagged => by simp [flag] at unflagged) (fun address held => ?_) unheld
      (fun other different address held => ?_) (fun address above => ?_),
      fun owned => owned.write ⟨fun unflagged => by simp [flag] at unflagged, fun _ => .inr ⟨_, rfl, ?_⟩⟩ unheld
        (fun other different address held => ?_) (fun address isLive => ?_)⟩
    · simp only [withVersionInfo_versionInfo, Option.some.injEq] at held
      simp [← held, Heap.alloc_size]
    · rw [allocKept other address held]
      exact stillLive other different address held
    · rw [Heap.alloc_size, if_neg (by simp at above; omega)]
      exact fresh address (by simp at above; omega)
    · simp [Heap.alloc_size, length]
    · rw [allocKept other address held, kept other different address held]
    · rw [Heap.alloc_size] at isLive
      split at isLive
      · exact .inl (by simp [*])
      · exact .inr (leaked owned isLive)

/-- A cleanup keeps the discipline, and the contract. -/
theorem Memory.Safe.cleanup {slot : Nat} (safe : memory.Safe) (stepped : memory.step (.cleanup slot) = .ok memory') :
    memory'.Safe ∧ (memory.Owned → memory'.Owned) := by
  obtain ⟨⟨heap, tp⟩, cleaned, done⟩ := except_bind_eq_ok.1 stepped
  simp only [pure, Except.pure, Except.ok.injEq] at done
  subst done
  rcases cleanup_ok cleaned with ⟨-, rfl, rfl⟩ | ⟨-, release, rfl⟩
  · simp only [Function.update_eq_self]
    exact ⟨safe, id⟩
  · obtain ⟨-, kept, -, fresh⟩ := safe.release release
    exact ⟨safe.write (by simp) (by simp) (by simp) (safe.release_live release) fresh,
      fun owned => owned.write ⟨fun _ => rfl, fun unflagged => by simp at unflagged⟩ (by simp) kept
        fun _ isLive => .inr (owned.release_held safe release isLive)⟩

/-- A copy keeps the discipline. It keeps the contract when the destination
holds no buffer and the allocation succeeds or has nothing to hold. -/
theorem Memory.Safe.copy {source destination : Nat} {allocOk : Bool} (safe : memory.Safe)
    (stepped : memory.step (.copy source destination allocOk) = .ok memory') :
    memory'.Safe ∧ (memory.Owned → (memory.records destination).versionInfo = none →
      (allocOk = true ∨ (memory.records source).versionInfoLength = 0) → memory'.Owned) := by
  obtain ⟨⟨status, heap, tp⟩, copied, done⟩ := except_bind_eq_ok.1 stepped
  simp only [pure, Except.pure, Except.ok.injEq] at done
  subst done
  have stays (owned : memory.Owned) (empty : (memory.records destination).versionInfo = none) {address : Nat}
      (isLive : (memory.heap.size address).isSome) :
      ∃ other ≠ destination, (memory.records other).versionInfo = some address := by
    obtain ⟨other, held⟩ := owned.noLeak address isLive
    refine ⟨other, ?_, held⟩
    rintro rfl
    rw [empty] at held
    cases held
  have live (other : Nat) (_ : other ≠ destination) := safe.live other
  rcases copy_ok copied with ⟨clear, -, rfl, rfl⟩ | ⟨flag, failed, -, rfl, rfl⟩ | ⟨flag, -, -, -, rfl, rfl⟩
  · have absent := safe.cleared source clear
    exact ⟨safe.write (fun _ => absent) (by simp [absent]) (by simp [absent]) live safe.fresh,
      fun owned empty _ => owned.write (owned.versionInfo source) (by simp [absent]) (fun _ _ _ _ => rfl)
        fun _ isLive => .inr (stays owned empty isLive)⟩
  · refine ⟨safe.write (by simp) (by simp) (by simp) live safe.fresh,
      fun owned empty succeeded => owned.write ⟨fun _ => rfl, fun _ => .inl ⟨rfl, ?_⟩⟩ (by simp)
        (fun _ _ _ _ => rfl) fun _ isLive => .inr (stays owned empty isLive)⟩
    rcases succeeded with ok | zero
    · rw [failed] at ok
      cases ok
    · exact zero
  · have unheld (address : Nat) (held : ({ memory.records source with
          versionInfo := some memory.heap.next
          flags := { (memory.records source).flags with versionNegotiation := true }
          versionInfoLength := (memory.records source).versionInfoLength } : OwnedParameters).versionInfo =
            some address) (other : Nat) (_ : other ≠ destination) :
        (memory.records other).versionInfo ≠ some address := by
      simp only [Option.some.injEq] at held
      subst held
      exact safe.next_unheld other
    have allocKept (other address : Nat) (held : (memory.records other).versionInfo = some address) :=
      safe.alloc_kept rfl (memory.records source).versionInfoLength held
    refine ⟨safe.write (fun unflagged => by simp at unflagged) (fun address held => ?_) unheld
      (fun other _ address held => ?_) (fun address above => ?_),
      fun owned empty _ => owned.write ⟨fun unflagged => by simp at unflagged, fun _ => .inr ⟨_, rfl, ?_⟩⟩ unheld
        (fun other _ address held => allocKept other address held) (fun address isLive => ?_)⟩
    · simp only [Option.some.injEq] at held
      simp [← held, Heap.alloc_size]
    · rw [allocKept other address held]
      exact safe.live other address held
    · rw [Heap.alloc_size, if_neg (by simp at above; omega)]
      exact safe.fresh address (by simp at above; omega)
    · simp [Heap.alloc_size]
    · rw [Heap.alloc_size] at isLive
      split at isLive
      · exact .inl (by simp [*])
      · exact .inr (stays owned empty isLive)

/-- Under the discipline no call frees a buffer that is not live. -/
theorem Memory.Safe.step_ne_invalidFree (safe : memory.Safe) (call : Call) :
    memory.step call ≠ .error .invalidFree := by
  have written (heap : Heap) (slot : Nat) (tp : OwnedParameters) :
      (pure ⟨heap, Function.update memory.records slot tp⟩ : Except MemoryFault Memory) ≠ .error .invalidFree :=
    Except.noConfusion
  cases call with
  | decode slot =>
    exact except_bind_ne_error (decodeWithHeap_ne_invalidFree (safe.live slot)) fun _ => written _ _ _
  | copy source destination => exact except_bind_ne_error copy_ne_invalidFree fun _ => written _ _ _
  | cleanup slot => exact except_bind_ne_error (cleanup_ne_invalidFree (safe.live slot)) fun _ => written _ _ _

theorem Memory.Safe.step (safe : memory.Safe) {call : Call} (stepped : memory.step call = .ok memory') :
    memory'.Safe := by
  cases call with
  | decode => exact (safe.decode stepped).1
  | copy => exact (safe.copy stepped).1
  | cleanup => exact (safe.cleanup stepped).1

end Calls

/-- Over every sequence of calls from records that keep the discipline, no
buffer is freed twice, and the discipline holds after every call that
returns. -/
theorem Memory.Safe.run : ∀ {calls : List Call} {memory : Memory}, memory.Safe →
    memory.run calls ≠ .error .invalidFree ∧ ∀ memory', memory.run calls = .ok memory' → memory'.Safe
  | [], _, safe => ⟨Except.noConfusion, fun _ ran => by cases ran; exact safe⟩
  | call :: calls, memory, safe => by
    rw [Memory.run]
    cases stepped : memory.step call with
    | error fault =>
      have never := safe.step_ne_invalidFree call
      rw [stepped] at never
      exact ⟨fun same => never (by simpa [bind, Except.bind] using same), fun _ ran => by cases ran⟩
    | ok memory₁ => exact Memory.Safe.run (safe.step stepped)

/-- No sequence of decode, copy and cleanup calls on zeroed records frees a
buffer twice, and after each call every buffer a record holds is live and held
by that record only, and a record with a clear flag holds none. -/
theorem Memory.zeroed_run_safe (calls : List Call) :
    Memory.zeroed.run calls ≠ .error .invalidFree ∧
      ∀ memory, Memory.zeroed.run calls = .ok memory → memory.Safe :=
  Memory.zeroed_safe.run

/-- A copy breaks the contract twice over. With the allocation failing it
leaves the destination flagged with `VersionInfoLength` one and a NULL
`VersionInfo`; onto a record that owns a buffer, `*Destination = *Source`
drops that buffer, which stays live with no record holding it. -/
theorem quicCryptoTlsCopyTransportParameters_breaks_ownership :
    (∃ memory, Memory.zeroed.run [.decode 0 false true [0x11, 0x01, 0x01], .copy 0 1 false] = .ok memory ∧
      (memory.records 1).flags.versionNegotiation = true ∧ (memory.records 1).versionInfo = none ∧
      (memory.records 1).versionInfoLength = 1 ∧ ¬memory.Owned) ∧
    (∃ memory, Memory.zeroed.run [.decode 0 false true [0x11, 0x01, 0x01],
        .decode 1 false true [0x11, 0x01, 0x01], .copy 0 1 true] = .ok memory ∧
      memory.heap.size 1 = some 1 ∧ (∀ slot, (memory.records slot).versionInfo ≠ some 1) ∧ ¬memory.Owned) := by
  let decoded : OwnedParameters :=
    { (QuicTransportParameters.initial : OwnedParameters) with
      versionInfo := some 0
      versionInfoLength := 1
      flags := { versionNegotiation := true } }
  have failed : Memory.zeroed.run [.decode 0 false true [0x11, 0x01, 0x01], .copy 0 1 false] =
      .ok ⟨⟨Function.update (fun _ => none) 0 (some 1), 1⟩,
        Function.update (Function.update (fun _ => {}) 0 decoded) 1 { decoded with versionInfo := none }⟩ := rfl
  have leaked : Memory.zeroed.run [.decode 0 false true [0x11, 0x01, 0x01],
        .decode 1 false true [0x11, 0x01, 0x01], .copy 0 1 true] =
      .ok ⟨⟨Function.update (Function.update (Function.update (fun _ => none) 0 (some 1)) 1 (some 1)) 2 (some 1), 3⟩,
        Function.update (Function.update (Function.update (fun _ => {}) 0 decoded) 1 { decoded with versionInfo := some 1 })
          1 { decoded with versionInfo := some 2 }⟩ := rfl
  refine ⟨⟨_, failed, rfl, rfl, rfl, fun owned => ?_⟩, ⟨_, leaked, rfl, fun slot => ?_, fun owned => ?_⟩⟩
  · have ownedOne := (owned.versionInfo 1).2 rfl
    simp [decoded] at ownedOne
  · rcases slot with _ | _ | slot <;> simp [Function.update_apply, decoded]
  · obtain ⟨slot, held⟩ := owned.noLeak 1 rfl
    rcases slot with _ | _ | slot <;> simp [Function.update_apply, decoded] at held

/-- What the contract asks of a call: a copy writes into a record that holds
no buffer, and its allocation succeeds or has nothing to hold. Decodes and
cleanups ask nothing. -/
def Memory.Allowed (memory : Memory) : Call → Prop
  | .copy source destination allocOk => (memory.records destination).versionInfo = none ∧
      (allocOk = true ∨ (memory.records source).versionInfoLength = 0)
  | _ => True

/-- Every call of a sequence allowed in the memory it runs on. -/
def Memory.AllowedRun : Memory → List Call → Prop
  | _, [] => True
  | memory, call :: calls =>
    memory.Allowed call ∧ ∀ memory', memory.step call = .ok memory' → memory'.AllowedRun calls

section Allowed

variable {memory memory' : Memory}

theorem Memory.Owned.step {call : Call} (owned : memory.Owned) (safe : memory.Safe) (allowed : memory.Allowed call)
    (stepped : memory.step call = .ok memory') : memory'.Owned := by
  cases call with
  | decode => exact (safe.decode stepped).2 owned
  | cleanup => exact (safe.cleanup stepped).2 owned
  | copy => exact (safe.copy stepped).2 owned allowed.1 allowed.2

theorem Memory.Owned.run_allowed : ∀ {calls : List Call} {memory memory' : Memory}, memory.Owned → memory.Safe →
    memory.AllowedRun calls → memory.run calls = .ok memory' → memory'.Owned
  | [], _, _, owned, _, _, ran => by cases ran; exact owned
  | _ :: _, _, _, owned, safe, ⟨allowed, rest⟩, ran => by
    obtain ⟨memory₁, stepped, ran⟩ := except_bind_eq_ok.1 ran
    exact (owned.step safe allowed stepped).run_allowed (safe.step stepped) (rest memory₁ stepped) ran

end Allowed

/-- From zeroed records, every sequence of decodes, cleanups and the copies
the contract allows (each into a record that holds no buffer, without a
failed allocation it needed) keeps the contract: exact lengths, no buffer held
twice, none leaked. -/
theorem Memory.zeroed_run_owned {calls : List Call} {memory : Memory} (allowed : Memory.zeroed.AllowedRun calls)
    (ran : Memory.zeroed.run calls = .ok memory) : memory.Owned :=
  Memory.zeroed_owned.run_allowed Memory.zeroed_safe allowed ran

theorem copy_into_cleaned_owned :
    ∃ memory, Memory.zeroed.run [.decode 0 false true [0x11, 0x01, 0x01], .decode 1 false true [0x11, 0x01, 0x02],
      .cleanup 1, .copy 0 1 true] = .ok memory ∧ memory.Owned :=
  ⟨_, rfl, @Memory.zeroed_run_owned [.decode 0 false true [0x11, 0x01, 0x01], .decode 1 false true [0x11, 0x01, 0x02],
      .cleanup 1, .copy 0 1 true] _ ⟨trivial, fun _ first => by
    cases first
    exact ⟨trivial, fun _ second => by
      cases second
      exact ⟨trivial, fun _ cleaned => by
        cases cleaned
        exact ⟨⟨rfl, .inl rfl⟩, fun _ _ => trivial⟩⟩⟩⟩ rfl⟩

end CryptoTls
