import CryptoTls.Ingest

namespace CryptoTls

/-- Modelled from the spec: a `ServerName` entry, a `NameType` byte, then a
name behind a 16-bit length. -/
structure ServerName where
  nameType : UInt8
  name : List UInt8
  fits : name.length < 2 ^ 16

def ServerName.bytes (entry : ServerName) : List UInt8 :=
  entry.nameType :: (bigEndian 2 entry.name.length ++ entry.name)

def ServerName.IsHostName (entry : ServerName) : Prop :=
  entry.nameType.toNat = tlsExtSniNameTypeHostName

instance : DecidablePred ServerName.IsHostName :=
  fun _ => inferInstanceAs (Decidable (_ = _))

def serverNames (entries : List ServerName) : List UInt8 :=
  (entries.map ServerName.bytes).flatten

/-- `Info` once the first `host_name` entry of a list that starts at `base` is
exposed in it, or `Info` as it was when there is none. -/
def exposeFirstHostName (base : Nat) : List ServerName → QuicNewConnectionInfo → QuicNewConnectionInfo
  | [], info => info
  | entry :: entries, info =>
    if entry.IsHostName then { info with serverName := some (base + 3), serverNameLength := entry.name.length }
    else exposeFirstHostName (base + entry.bytes.length) entries info

/-- The spec's `ServerNameList`: a 16-bit length of at least 3 that counts the
bytes after it, then one entry or more. -/
def SniListWellFormed (payload : List UInt8) : Prop :=
  2 ≤ payload.length ∧ 3 ≤ readBigEndian (payload.take 2) ∧ readBigEndian (payload.take 2) = payload.length - 2 ∧
    ∃ entries, entries ≠ [] ∧ payload.drop 2 = serverNames entries

/-- Modelled from the spec: a `ProtocolName`, a name behind an 8-bit length. -/
structure ProtocolName where
  name : List UInt8
  fits : name.length < 2 ^ 8

def ProtocolName.bytes (entry : ProtocolName) : List UInt8 :=
  UInt8.ofNat entry.name.length :: entry.name

def protocolNames (entries : List ProtocolName) : List UInt8 :=
  (entries.map ProtocolName.bytes).flatten

/-- The spec's `ProtocolNameList`: a 16-bit length that counts the bytes after
it, then one name or more, none of them empty. -/
def AlpnListWellFormed (payload : List UInt8) : Prop :=
  4 ≤ payload.length ∧ readBigEndian (payload.take 2) = payload.length - 2 ∧
    ∃ entries, entries ≠ [] ∧ (∀ entry ∈ entries, entry.name ≠ []) ∧ payload.drop 2 = protocolNames entries

@[simp] theorem serverNames_nil : serverNames [] = [] := rfl

@[simp] theorem serverNames_cons (entry : ServerName) (entries : List ServerName) :
    serverNames (entry :: entries) = entry.bytes ++ serverNames entries := rfl

@[simp] theorem ServerName.length_bytes (entry : ServerName) : entry.bytes.length = 3 + entry.name.length := by
  simp [ServerName.bytes]
  omega

@[simp] theorem protocolNames_nil : protocolNames [] = [] := rfl

@[simp] theorem protocolNames_cons (entry : ProtocolName) (entries : List ProtocolName) :
    protocolNames (entry :: entries) = entry.bytes ++ protocolNames entries := rfl

@[simp] theorem ProtocolName.length_bytes (entry : ProtocolName) : entry.bytes.length = 1 + entry.name.length := by
  simp [ProtocolName.bytes]
  omega

/-- One pass of the SNI loop over an entry: the first `host_name` is exposed,
and the loop goes on after the entry. -/
theorem readSniEntries_entry (fuel : Nat) (entry : ServerName) (more : List UInt8) (base : Nat) (found : Bool)
    (info : QuicNewConnectionInfo) :
    readSniEntries (fuel + 1) (entry.bytes ++ more) base found info =
      if entry.IsHostName ∧ found = false then
        readSniEntries fuel more (base + 3 + entry.name.length) true
          { info with serverName := some (base + 3), serverNameLength := entry.name.length }
      else readSniEntries fuel more (base + 3 + entry.name.length) found info := by
  have header := tlsReadUint16_bigEndian entry.fits (entry.name ++ more)
  have rest : (bigEndian 2 entry.name.length ++ (entry.name ++ more)).drop 2 = entry.name ++ more :=
    List.drop_left' (length_bigEndian 2 _)
  simp [readSniEntries, ServerName.bytes, ServerName.IsHostName, header, rest]

/-- The SNI loop on whole entries succeeds; with no `host_name` found yet it
exposes the first one. -/
theorem readSniEntries_serverNames :
    ∀ (entries : List ServerName) (fuel base : Nat) (found : Bool) (info : QuicNewConnectionInfo),
      (serverNames entries).length < fuel →
      readSniEntries fuel (serverNames entries) base found info =
        some (.success, if found then info else exposeFirstHostName base entries info)
  | _, 0, _, _, _, enough => absurd enough (Nat.not_lt_zero _)
  | [], fuel + 1, base, found, info, _ => by cases found <;> simp [readSniEntries, exposeFirstHostName]
  | entry :: entries, fuel + 1, base, found, info, enough => by
    have enough' : (serverNames entries).length < fuel := by
      simp only [serverNames_cons, List.length_append, ServerName.length_bytes] at enough
      omega
    rw [serverNames_cons, readSniEntries_entry]
    by_cases host : entry.IsHostName <;> cases found <;>
      simp [host, readSniEntries_serverNames entries fuel _ _ _ enough', exposeFirstHostName, Nat.add_assoc]

/-- The SNI loop succeeds only on whole entries. -/
theorem readSniEntries_success :
    ∀ (fuel : Nat) (buffer : List UInt8) (base : Nat) (found : Bool) (info info' : QuicNewConnectionInfo),
      readSniEntries fuel buffer base found info = some (.success, info') → ∃ entries, buffer = serverNames entries
  | 0, _, _, _, _, _, run => by simp [readSniEntries] at run
  | _ + 1, [], _, _, _, _, _ => ⟨[], rfl⟩
  | _ + 1, [_], _, _, _, _, run | _ + 1, [_, _], _, _, _, _, run => by simp [readSniEntries] at run
  | fuel + 1, nameType :: b0 :: b1 :: rest, base, found, info, info', run => by
    have small : readBigEndian [b0, b1] < 256 ^ 2 := readBigEndian_lt [b0, b1]
    have header : bigEndian 2 (readBigEndian [b0, b1]) = [b0, b1] := bigEndian_readBigEndian [b0, b1]
    by_cases fits : rest.length < readBigEndian [b0, b1]
    · simp [readSniEntries, tlsReadUint16_cons, fits] at run
    obtain ⟨entries, split⟩ : ∃ entries, rest.drop (readBigEndian [b0, b1]) = serverNames entries := by
      simp only [readSniEntries, List.length_cons, List.drop_succ_cons, List.drop_zero, tlsReadUint16_cons,
        Option.bind_eq_bind, Option.some_bind, List.getElem?_cons_zero, pure_bind, fits, if_false, gt_iff_lt,
        Nat.zero_lt_succ, if_true, show ¬rest.length + 1 + 1 < 2 by omega] at run
      split at run <;> exact readSniEntries_success fuel _ _ _ _ _ run
    refine ⟨⟨nameType, rest.take (readBigEndian [b0, b1]), by rw [List.length_take]; omega⟩ :: entries, ?_⟩
    rw [serverNames_cons, ← split]
    show _ = nameType :: (bigEndian 2 (rest.take _).length ++ rest.take _) ++ _
    rw [List.length_take, Nat.min_eq_left (Nat.le_of_not_lt fits), header]
    simp

theorem quicCryptoTlsReadSniExtension_cons (b0 b1 : UInt8) (rest : List UInt8) (base : Nat)
    (info : QuicNewConnectionInfo) :
    quicCryptoTlsReadSniExtension (b0 :: b1 :: rest) base info =
      if readBigEndian [b0, b1] < 3 then some (.invalidParameter, info)
      else readSniEntries (rest.length + 1 + 1 + 1) rest (base + 2) false info := by
  simp [quicCryptoTlsReadSniExtension, tlsReadUint16_cons]

/-- What the code accepts as an SNI payload: a 16-bit length of at least 3,
then whole entries. The length is not compared with the payload, and the list
may be empty. -/
theorem quicCryptoTlsReadSniExtension_accepts (payload : List UInt8) (base : Nat) (info : QuicNewConnectionInfo) :
    (quicCryptoTlsReadSniExtension payload base info).map Prod.fst = some .success ↔
      2 ≤ payload.length ∧ 3 ≤ readBigEndian (payload.take 2) ∧ ∃ entries, payload.drop 2 = serverNames entries := by
  match payload with
  | [] | [_] => simp [quicCryptoTlsReadSniExtension]
  | b0 :: b1 :: rest =>
    rw [quicCryptoTlsReadSniExtension_cons]
    by_cases short : readBigEndian [b0, b1] < 3
    · simp [short]
    simp only [short, if_false, List.length_cons, List.take_succ_cons, List.take_zero, List.drop_succ_cons,
      List.drop_zero]
    constructor
    · intro accepted
      obtain ⟨⟨status, info'⟩, run, rfl⟩ := Option.map_eq_some'.mp accepted
      exact ⟨by simp, Nat.le_of_not_lt short, readSniEntries_success _ _ _ _ _ _ run⟩
    · rintro ⟨-, -, entries, rfl⟩
      rw [readSniEntries_serverNames entries _ _ _ _ (by omega)]
      rfl

theorem quicCryptoTlsReadSniExtension_accepts_unmatched_length :
    (quicCryptoTlsReadSniExtension [0x00, 0x03] 0 {}).map Prod.fst = some .success ∧
      ¬SniListWellFormed [0x00, 0x03] ∧
      (quicCryptoTlsReadSniExtension [0x00, 0x09, 0x00, 0x00, 0x01, 0x61] 0 {}).map Prod.fst = some .success ∧
      ¬SniListWellFormed [0x00, 0x09, 0x00, 0x00, 0x01, 0x61] :=
  ⟨rfl, fun ⟨_, _, counted, _⟩ => absurd counted (by decide), rfl,
    fun ⟨_, _, counted, _⟩ => absurd counted (by decide)⟩

/-- Where the first `host_name` of a list is exposed, spelled out: after the
entries of other types before it, or nowhere, with `Info` unchanged. -/
theorem exposeFirstHostName_cases (info : QuicNewConnectionInfo) :
    ∀ (entries : List ServerName) (base : Nat),
      (∃ before entry after, entries = before ++ entry :: after ∧ (∀ other ∈ before, ¬other.IsHostName) ∧
        entry.IsHostName ∧
        exposeFirstHostName base entries info =
          { info with
            serverName := some (base + (serverNames before).length + 3)
            serverNameLength := entry.name.length }) ∨
      ((∀ entry ∈ entries, ¬entry.IsHostName) ∧ exposeFirstHostName base entries info = info)
  | [], _ => .inr ⟨nofun, rfl⟩
  | entry :: entries, base => by
    by_cases host : entry.IsHostName
    · exact .inl ⟨[], entry, entries, rfl, nofun, host, by simp [exposeFirstHostName, host]⟩
    rcases exposeFirstHostName_cases info entries (base + entry.bytes.length) with
      ⟨before, first, after, rfl, others, isHost, exposed⟩ | ⟨none, kept⟩
    · refine .inl ⟨entry :: before, first, after, rfl, ?_, isHost, ?_⟩
      · simpa [host] using others
      · simp only [exposeFirstHostName, if_neg host, exposed, serverNames_cons, List.length_append, Nat.add_assoc]
    · exact .inr ⟨by simpa [host] using none, by simp only [exposeFirstHostName, if_neg host, kept]⟩

theorem quicCryptoTlsReadSniExtension_first_hostName {payload : List UInt8} {base : Nat}
    {info info' : QuicNewConnectionInfo} (accepted : quicCryptoTlsReadSniExtension payload base info = some (.success, info')) :
    (∃ entries, payload.drop 2 = serverNames entries) ∧
      ∀ entries, payload.drop 2 = serverNames entries →
        (∃ before entry after, entries = before ++ entry :: after ∧ (∀ other ∈ before, ¬other.IsHostName) ∧
          entry.IsHostName ∧
          info' = { info with
            serverName := some (base + 2 + (serverNames before).length + 3)
            serverNameLength := entry.name.length }) ∨
        ((∀ entry ∈ entries, ¬entry.IsHostName) ∧ info' = info) := by
  match payload, accepted with
  | b0 :: b1 :: rest, accepted =>
    rw [quicCryptoTlsReadSniExtension_cons] at accepted
    by_cases short : readBigEndian [b0, b1] < 3
    · simp [short] at accepted
    rw [if_neg short] at accepted
    simp only [List.drop_succ_cons, List.drop_zero]
    refine ⟨readSniEntries_success _ _ _ _ _ _ accepted, fun entries split => ?_⟩
    subst split
    rw [readSniEntries_serverNames entries _ _ _ _ (by omega), Option.some.injEq, Prod.mk.injEq] at accepted
    rw [← accepted.2]
    exact exposeFirstHostName_cases info entries (base + 2)

theorem second_entry_hostName :
    (∃ entries, [0x00, 0x09, 0x09, 0x00, 0x01, 0x78, 0x00, 0x00, 0x02, 0x61, 0x62].drop 2 = serverNames entries) ∧
      ∀ entries, [0x00, 0x09, 0x09, 0x00, 0x01, 0x78, 0x00, 0x00, 0x02, 0x61, 0x62].drop 2 = serverNames entries →
        (∃ before entry after, entries = before ++ entry :: after ∧ (∀ other ∈ before, ¬other.IsHostName) ∧
          entry.IsHostName ∧
          ({ serverName := some 9, serverNameLength := 2 } : QuicNewConnectionInfo) =
            { ({} : QuicNewConnectionInfo) with
              serverName := some (0 + 2 + (serverNames before).length + 3)
              serverNameLength := entry.name.length }) ∨
        ((∀ entry ∈ entries, ¬entry.IsHostName) ∧
          ({ serverName := some 9, serverNameLength := 2 } : QuicNewConnectionInfo) = {}) :=
  quicCryptoTlsReadSniExtension_first_hostName rfl

/-- One pass of the ALPN loop over a name: refused only when it is empty and
the last byte. -/
theorem readAlpnEntries_entry (fuel : Nat) (entry : ProtocolName) (more : List UInt8) :
    readAlpnEntries (fuel + 1) (entry.bytes ++ more) =
      if entry.name = [] ∧ more = [] then some .invalidParameter else readAlpnEntries fuel more := by
  have length : (UInt8.ofNat entry.name.length).toNat = entry.name.length := by
    rw [UInt8.toNat_ofNat, Nat.mod_eq_of_lt (by simpa using entry.fits)]
  by_cases empty : entry.name = [] ∧ more = []
  · obtain ⟨named, rfl⟩ := empty
    simp [readAlpnEntries, ProtocolName.bytes, named]
  · have long : ¬((entry.name ++ more).length < 1 ∨ (entry.name ++ more).length < entry.name.length) := by
      simp only [List.length_append, not_or]
      refine ⟨fun short => empty ?_, by omega⟩
      exact ⟨List.eq_nil_of_length_eq_zero (by omega), List.eq_nil_of_length_eq_zero (by omega)⟩
    simp only [readAlpnEntries, ProtocolName.bytes, List.cons_append, List.length_cons, List.getElem?_cons_zero,
      Option.bind_eq_bind, Option.some_bind, List.drop_succ_cons, List.drop_zero, length, long, if_false,
      List.drop_left, empty, gt_iff_lt, Nat.zero_lt_succ, if_true, pure_bind]

/-- The ALPN loop on whole names succeeds unless the last name is empty. -/
theorem readAlpnEntries_protocolNames :
    ∀ (entries : List ProtocolName) (fuel : Nat), (protocolNames entries).length < fuel →
      readAlpnEntries fuel (protocolNames entries) =
        some (if entries.getLast?.map ProtocolName.name = some [] then .invalidParameter else .success)
  | _, 0, enough => absurd enough (Nat.not_lt_zero _)
  | [], fuel + 1, _ => by simp [readAlpnEntries]
  | entry :: entries, fuel + 1, enough => by
    have enough' : (protocolNames entries).length < fuel := by
      simp only [protocolNames_cons, List.length_append, ProtocolName.length_bytes] at enough
      omega
    rw [protocolNames_cons, readAlpnEntries_entry]
    cases entries with
    | nil => cases fuel <;> by_cases empty : entry.name = [] <;> simp_all [readAlpnEntries]
    | cons next entries =>
      have nonempty : protocolNames (next :: entries) ≠ [] := by simp [ProtocolName.bytes]
      rw [if_neg fun both => nonempty both.2, readAlpnEntries_protocolNames _ fuel enough']
      simp

/-- The ALPN loop succeeds only on whole names. -/
theorem readAlpnEntries_success :
    ∀ (fuel : Nat) (buffer : List UInt8), readAlpnEntries fuel buffer = some .success →
      ∃ entries, buffer = protocolNames entries
  | 0, _, run => by simp [readAlpnEntries] at run
  | _ + 1, [], _ => ⟨[], rfl⟩
  | fuel + 1, length :: rest, run => by
    by_cases short : rest = [] ∨ rest.length < length.toNat
    · simp [readAlpnEntries, short] at run
    simp [readAlpnEntries, short] at run
    obtain ⟨entries, split⟩ := readAlpnEntries_success fuel _ run
    have fits : length.toNat ≤ rest.length := by simp only [not_or] at short; omega
    have small := UInt8.toNat_lt_size length
    refine ⟨⟨rest.take length.toNat, by rw [List.length_take]; simp only [UInt8.size] at small; omega⟩ :: entries, ?_⟩
    rw [protocolNames_cons, ← split]
    show _ = UInt8.ofNat (rest.take _).length :: rest.take _ ++ _
    rw [List.length_take, Nat.min_eq_left fits, List.cons_append, List.take_append_drop]
    congr
    exact UInt8.toNat.inj (by rw [UInt8.toNat_ofNat, Nat.mod_eq_of_lt small])

theorem quicCryptoTlsReadAlpnExtension_cons (b0 b1 : UInt8) (rest : List UInt8) (base : Nat)
    (info : QuicNewConnectionInfo) :
    quicCryptoTlsReadAlpnExtension (b0 :: b1 :: rest) base info =
      if rest.length < 2 ∨ rest.length ≠ readBigEndian [b0, b1] then some (.invalidParameter, info)
      else (readAlpnEntries (rest.length + 1 + 1 + 1) rest).map fun status =>
        (status, { info with clientAlpnList := some (base + 2), clientAlpnListLength := rest.length }) := by
  by_cases short : rest.length < 2
  · simp [quicCryptoTlsReadAlpnExtension, short]
  have long : ¬rest.length + 1 + 1 < 2 + 2 * 1 := by omega
  have counted : rest.length + 1 + 1 ≠ readBigEndian [b0, b1] + 2 ↔ rest.length ≠ readBigEndian [b0, b1] := by
    omega
  have payload : rest.length + 1 + 1 - 2 = rest.length := rfl
  simp only [quicCryptoTlsReadAlpnExtension, List.length_cons, tlsReadUint16_cons, Option.bind_eq_bind,
    Option.some_bind, pure_bind, long, if_false, counted, short, false_or, List.drop_succ_cons, List.drop_zero,
    payload]
  cases readAlpnEntries (rest.length + 1 + 1 + 1) rest <;> rfl

/-- What the code accepts as an ALPN payload, and the list it exposes: a
16-bit length that counts the bytes after it, then whole names of which the
last is not empty; empty names elsewhere pass. -/
theorem quicCryptoTlsReadAlpnExtension_accepts (payload : List UInt8) (base : Nat) (info : QuicNewConnectionInfo) :
    ((quicCryptoTlsReadAlpnExtension payload base info).map Prod.fst = some .success ↔
      4 ≤ payload.length ∧ readBigEndian (payload.take 2) = payload.length - 2 ∧
        ∃ entries, payload.drop 2 = protocolNames entries ∧ entries.getLast?.map ProtocolName.name ≠ some []) ∧
      ∀ info', quicCryptoTlsReadAlpnExtension payload base info = some (.success, info') →
        info' = { info with clientAlpnList := some (base + 2), clientAlpnListLength := payload.length - 2 } := by
  match payload with
  | [] | [_] => simp [quicCryptoTlsReadAlpnExtension]
  | b0 :: b1 :: rest =>
    rw [quicCryptoTlsReadAlpnExtension_cons]
    simp only [List.length_cons, List.take_succ_cons, List.take_zero, List.drop_succ_cons, List.drop_zero,
      Nat.add_sub_cancel]
    by_cases bad : rest.length < 2 ∨ rest.length ≠ readBigEndian [b0, b1]
    · simp only [if_pos bad, Option.map_some', Option.some.injEq, Prod.mk.injEq]
      refine ⟨⟨nofun, fun ⟨long, counted, _⟩ => ?_⟩, fun _ ⟨refused, _⟩ => nomatch refused⟩
      omega
    rw [if_neg bad]
    refine ⟨?_, fun info' run => ?_⟩
    · simp only [Option.map_map, Function.comp_def, Option.map_id']
      constructor
      · intro run
        obtain ⟨entries, rfl⟩ := readAlpnEntries_success _ _ run
        rw [readAlpnEntries_protocolNames entries _ (by omega)] at run
        refine ⟨by omega, by omega, entries, rfl, fun last => ?_⟩
        simp [last] at run
      · rintro ⟨-, -, entries, rfl, last⟩
        rw [readAlpnEntries_protocolNames entries _ (by omega), if_neg last]
    · obtain ⟨status, -, same⟩ := Option.map_eq_some'.mp run
      exact (congrArg Prod.snd same).symm

theorem quicCryptoTlsReadAlpnExtension_accepts_empty_name :
    quicCryptoTlsReadAlpnExtension [0x00, 0x03, 0x00, 0x01, 0x61] 0 {} =
        some (.success, { clientAlpnList := some 2, clientAlpnListLength := 3 }) ∧
      ¬AlpnListWellFormed [0x00, 0x03, 0x00, 0x01, 0x61] := by
  refine ⟨rfl, ?_⟩
  rintro ⟨-, -, _ | ⟨entry, entries⟩, nonempty, named, split⟩
  · exact nonempty rfl
  have first : UInt8.ofNat entry.name.length = 0 := by
    simp only [List.drop_succ_cons, List.drop_zero, protocolNames_cons, ProtocolName.bytes, List.cons_append,
      List.cons.injEq] at split
    exact split.1.symm
  have empty : entry.name.length = 0 := by
    have := congrArg UInt8.toNat first
    rw [UInt8.toNat_ofNat, Nat.mod_eq_of_lt (by simpa using entry.fits)] at this
    exact this
  exact named entry (List.mem_cons_self _ _) (List.eq_nil_of_length_eq_zero empty)

end CryptoTls
