import GrantProgram.Basic

/-
**The proof-of-process message: `parse_pop_message` and its readers.**

A claim carries a proof-of-process message: a byte string signed off-chain, with the fields

  `version · grant · claimer · period_index · prev_hash · stream_prev_hash · [audit_hash] ·
  entry_hash · issued_at`

of widths `1, 32, 32, 8, 32, 32, [32], 32, 8`, where `audit_hash` is present in version 2 only and the
two integers are little-endian.  `parse_pop_message` checks that the string is non-empty, that its
first byte is a known version and that its length is the exact length of that version, and then
reads the fields one after the other with `read_pubkey`, `read_hash`, `read_u64_le` and
`read_i64_le`, each of which checks its own bounds again and advances a shared offset.

Main definitions:

* `GrantProgram.readField` — the reader the four `read_*` functions instantiate;
* `GrantProgram.parsePopMessage` — `parse_pop_message`;
* `GrantProgram.serializePopMessage` — the layout written out, field after field; the program has no
  serializer, so this one follows the message layout of the specification.

Main results:

* `GrantProgram.parsePopMessage_serialize` — every well-formed message is read back from its layout;
* `GrantProgram.parsePopMessage_eq_ok` — **the parser is the inverse of the layout**: it accepts `b`
  with result `m` exactly when `m` is well formed and `b` is the layout of `m`;
* `GrantProgram.parsePopMessage_error` — the parser fails only at its first three checks, so none of
  the readers' own checks (`MathOverflow`, the bounds, `try_into`) can fail.
-/

set_option autoImplicit false

namespace GrantProgram

/-! ### Constants and the message -/

/-- `POP_MESSAGE_VERSION_V1`. -/
def popMessageVersionV1 : UInt8 := 1

/-- `POP_MESSAGE_VERSION_V2`. -/
def popMessageVersionV2 : UInt8 := 2

/-- `POP_MESSAGE_LEN_V1`. -/
def popMessageLenV1 : ℕ := 1 + 32 + 32 + 8 + 32 + 32 + 32 + 8

/-- `POP_MESSAGE_LEN_V2`. -/
def popMessageLenV2 : ℕ := 1 + 32 + 32 + 8 + 32 + 32 + 32 + 32 + 8

/-- `PopProofMessage`. -/
structure PopProofMessage where
  version : UInt8
  grant : Pubkey
  claimer : Pubkey
  periodIndex : UInt64
  prevHash : Hash
  streamPrevHash : Hash
  auditHash : Hash
  entryHash : Hash
  issuedAt : I64
deriving DecidableEq

/-! ### The readers -/

/-- The reader `read_pubkey`, `read_hash`, `read_u64_le` and `read_i64_le` share: the `width` bytes
at `offset`, converted by `decode` (the `try_into` and `from_le_bytes` of each), and the offset
moved past them. -/
def readField {α : Type} (width : ℕ) (decode : Bytes → Option α) (data : Bytes) (offset : ℕ) :
    Except ProgramError (α × ℕ) := do
  let stop ← okOr (checkedAddUsize offset width) .mathOverflow
  require (stop ≤ data.length) .invalidPopMessageLength
  let bytes ← sliceRange data offset stop
  let out ← okOr (decode bytes) .invalidPopMessageLength
  pure (out, stop)

/-- `u64::from_le_bytes(slice.try_into()?)`. -/
def u64OfLeBytes? (b : Bytes) : Option UInt64 :=
  if b.length = 8 then some (UInt64.ofNat (leValue b)) else none

/-- `i64::from_le_bytes(slice.try_into()?)`. -/
def i64OfLeBytes? (b : Bytes) : Option I64 :=
  if b.length = 8 then some (I64.ofBits (leValue b)) else none

/-- `read_pubkey`. -/
def readPubkey : Bytes → ℕ → Except ProgramError (Pubkey × ℕ) := readField 32 Bytes32.ofList?

/-- `read_hash`. -/
def readHash : Bytes → ℕ → Except ProgramError (Hash × ℕ) := readField 32 Bytes32.ofList?

/-- `read_u64_le`. -/
def readU64Le : Bytes → ℕ → Except ProgramError (UInt64 × ℕ) := readField 8 u64OfLeBytes?

/-- `read_i64_le`. -/
def readI64Le : Bytes → ℕ → Except ProgramError (I64 × ℕ) := readField 8 i64OfLeBytes?

/-- A reader at an offset where the input continues with `x` of the reader's width returns the
decoding of `x`. -/
theorem readField_of_drop {α : Type} {w off : ℕ} {decode : Bytes → Option α} {data x rest : Bytes}
    {a : α} (hd : data.drop off = x ++ rest) (hx : x.length = w) (hw : 0 < w)
    (ha : decode x = some a) (hs : off + w < 18446744073709551616) :
    readField w decode data off = .ok (a, off + w) := by
  have hlen : off + w ≤ data.length := by
    have := congrArg List.length hd
    simp only [List.length_drop, List.length_append] at this
    omega
  have hslice : sliceRange data off (off + w) = .ok x := by
    rw [sliceRange_of_le (Nat.le_add_right off w) hlen, slice, hd, Nat.add_sub_cancel_left,
      List.take_left' hx]
  simp [readField, checkedAddUsize, hs, require_of_true _ hlen, hslice, ha]

/-- Past a field the input continues with what follows it. -/
theorem drop_add_of_drop {data x rest : Bytes} {off w : ℕ} (hd : data.drop off = x ++ rest)
    (hx : x.length = w) : data.drop (off + w) = rest := by
  rw [← List.drop_drop, hd, List.drop_left' hx]

/-! ### The parser -/

/-- `parse_pop_message`. -/
def parsePopMessage (message : Bytes) : Except ProgramError PopProofMessage := do
  require (message ≠ []) .invalidPopMessageLength
  let version := message.headD 0
  require (version = popMessageVersionV1 ∨ version = popMessageVersionV2) .invalidPopMessageVersion
  let expectedLen := if version = popMessageVersionV2 then popMessageLenV2 else popMessageLenV1
  require (message.length = expectedLen) .invalidPopMessageLength
  let (grant, offset) ← readPubkey message 1
  let (claimer, offset) ← readPubkey message offset
  let (periodIndex, offset) ← readU64Le message offset
  let (prevHash, offset) ← readHash message offset
  let (streamPrevHash, offset) ← readHash message offset
  let (auditHash, offset) ←
    if version = popMessageVersionV2 then readHash message offset else pure (Bytes32.zero, offset)
  let (entryHash, offset) ← readHash message offset
  let (issuedAt, _) ← readI64Le message offset
  pure
    { version := version, grant := grant, claimer := claimer, periodIndex := periodIndex
      prevHash := prevHash, streamPrevHash := streamPrevHash, auditHash := auditHash
      entryHash := entryHash, issuedAt := issuedAt }

/-- The audit-hash bytes of the layout: present in version 2 only. -/
def auditBytes (m : PopProofMessage) : Bytes :=
  if m.version = popMessageVersionV2 then m.auditHash.toList else []

/-- The message layout, field after field: `version`, `grant`, `claimer`, `period_index`
(`u64`, little-endian), `prev_hash`, `stream_prev_hash`, `audit_hash` (version 2 only),
`entry_hash`, `issued_at` (`i64`, little-endian). -/
def serializePopMessage (m : PopProofMessage) : Bytes :=
  [m.version] ++ m.grant.toList ++ m.claimer.toList ++ leBytes m.periodIndex.toNat 8 ++
    m.prevHash.toList ++ m.streamPrevHash.toList ++ auditBytes m ++ m.entryHash.toList ++
    leBytes m.issuedAt.bits 8

/-- The messages the layout can carry: version 2, or version 1 with no audit hash. -/
def PopProofMessage.WellFormed (m : PopProofMessage) : Prop :=
  m.version = popMessageVersionV2 ∨ (m.version = popMessageVersionV1 ∧ m.auditHash = Bytes32.zero)

/-! ### The layout -/

theorem u64OfLeBytes?_leBytes (k : UInt64) : u64OfLeBytes? (leBytes k.toNat 8) = some k := by
  have hk : k.toNat < 256 ^ 8 := k.toNat_lt_size
  simp only [u64OfLeBytes?, leBytes_length, leValue_leBytes, Nat.mod_eq_of_lt hk, if_true]
  exact congrArg some (UInt64.toNat.inj (UInt64.toNat_ofNat_of_lt k.toNat_lt_size))

theorem i64OfLeBytes?_leBytes (a : I64) : i64OfLeBytes? (leBytes a.bits 8) = some a := by
  have ha : a.bits < 256 ^ 8 := a.bits_lt
  simp only [i64OfLeBytes?, leBytes_length, leValue_leBytes, Nat.mod_eq_of_lt ha, if_true,
    I64.ofBits_bits]

theorem leBytes_u64OfLeBytes? {b : Bytes} {k : UInt64} (h : u64OfLeBytes? b = some k) :
    leBytes k.toNat 8 = b := by
  unfold u64OfLeBytes? at h
  split at h
  · rename_i hb
    cases h
    have hv : leValue b < UInt64.size := by simpa [hb] using leValue_lt b
    rw [UInt64.toNat_ofNat_of_lt hv, ← hb, leBytes_leValue]
  · cases h

theorem bits_ofBits {v : ℕ} (hv : v < 18446744073709551616) : (I64.ofBits v).bits = v := by
  simp only [I64.bits, I64.ofBits]
  split <;> omega

theorem leBytes_i64OfLeBytes? {b : Bytes} {a : I64} (h : i64OfLeBytes? b = some a) :
    leBytes a.bits 8 = b := by
  unfold i64OfLeBytes? at h
  split at h
  · rename_i hb
    cases h
    have hv : leValue b < 18446744073709551616 := by simpa [hb] using leValue_lt b
    rw [bits_ofBits hv, ← hb, leBytes_leValue]
  · cases h

@[simp] theorem auditBytes_length (m : PopProofMessage) :
    (auditBytes m).length = if m.version = popMessageVersionV2 then 32 else 0 := by
  unfold auditBytes; split <;> simp

theorem serializePopMessage_length (m : PopProofMessage) :
    (serializePopMessage m).length =
      if m.version = popMessageVersionV2 then popMessageLenV2 else popMessageLenV1 := by
  simp only [serializePopMessage, List.length_append, List.length_singleton, Bytes32.length_toList,
    leBytes_length, auditBytes_length]
  split <;> rfl

/-- The layout after its version byte. -/
theorem serializePopMessage_drop_one (m : PopProofMessage) :
    (serializePopMessage m).drop 1 = m.grant.toList ++ (m.claimer.toList ++
      (leBytes m.periodIndex.toNat 8 ++ (m.prevHash.toList ++ (m.streamPrevHash.toList ++
      (auditBytes m ++ (m.entryHash.toList ++ leBytes m.issuedAt.bits 8)))))) := by
  simp [serializePopMessage]

/-- **Round trip**: every well-formed message is read back from its layout. -/
theorem parsePopMessage_serialize {m : PopProofMessage} (hm : m.WellFormed) :
    parsePopMessage (serializePopMessage m) = .ok m := by
  -- the input after each field, and the reader of each field
  have d₁ := serializePopMessage_drop_one m
  have d₂ := drop_add_of_drop d₁ m.grant.length_toList
  have d₃ := drop_add_of_drop d₂ m.claimer.length_toList
  have d₄ := drop_add_of_drop d₃ (leBytes_length _ _)
  have d₅ := drop_add_of_drop d₄ m.prevHash.length_toList
  have d₆ := drop_add_of_drop d₅ m.streamPrevHash.length_toList
  have d₇ := drop_add_of_drop d₆ rfl
  have d₈ := drop_add_of_drop d₇ m.entryHash.length_toList
  have h32 : 0 < 32 := by decide
  have h8 : 0 < 8 := by decide
  have hv : m.version = popMessageVersionV1 ∨ m.version = popMessageVersionV2 := by
    rcases hm with h | ⟨h, -⟩ <;> simp [h]
  simp only [parsePopMessage, serializePopMessage_length,
    require_of_true _ (show serializePopMessage m ≠ [] by simp [serializePopMessage]),
    show (serializePopMessage m).headD 0 = m.version from rfl, require_of_true _ hv,
    require_true, ok_bind, readPubkey, readHash, readU64Le, readI64Le,
    readField_of_drop d₁ m.grant.length_toList h32 (Bytes32.ofList?_toList _) (by decide),
    readField_of_drop d₂ m.claimer.length_toList h32 (Bytes32.ofList?_toList _) (by decide),
    readField_of_drop d₃ (leBytes_length _ _) h8 (u64OfLeBytes?_leBytes _) (by decide),
    readField_of_drop d₄ m.prevHash.length_toList h32 (Bytes32.ofList?_toList _) (by decide),
    readField_of_drop d₅ m.streamPrevHash.length_toList h32 (Bytes32.ofList?_toList _) (by decide)]
  rcases hm with h | ⟨h, ha⟩
  · have hA : auditBytes m = m.auditHash.toList := if_pos h
    rw [hA] at d₆ d₇ d₈
    simp only [Bytes32.length_toList] at d₇ d₈
    simp only [h, if_true, ok_bind,
      readField_of_drop d₆ m.auditHash.length_toList h32 (Bytes32.ofList?_toList _) (by decide),
      readField_of_drop d₇ m.entryHash.length_toList h32 (Bytes32.ofList?_toList _) (by decide),
      readField_of_drop d₈ (leBytes_length _ _) h8 (i64OfLeBytes?_leBytes _) (by decide)]
    rw [← h]; rfl
  · have hA : auditBytes m = [] := if_neg (by rw [h]; decide)
    rw [hA] at d₆ d₇ d₈
    simp only [List.length_nil, Nat.add_zero] at d₇ d₈
    rw [if_neg (show m.version ≠ popMessageVersionV2 by rw [h]; decide)]
    simp only [h, pure_eq_ok, ok_bind, List.length_nil, Nat.add_zero,
      readField_of_drop d₇ m.entryHash.length_toList h32 (Bytes32.ofList?_toList _) (by decide),
      readField_of_drop d₈ (leBytes_length _ _) h8 (i64OfLeBytes?_leBytes _) (by decide)]
    rw [← h, ← ha]

theorem exists_append_of_le (l : Bytes) (n : ℕ) (h : n ≤ l.length) :
    ∃ x y, l = x ++ y ∧ x.length = n ∧ y.length + n = l.length :=
  ⟨l.take n, l.drop n, (List.take_append_drop n l).symm, List.length_take_of_le h,
    by rw [List.length_drop]; omega⟩

/-- Every byte string of a version's exact length is the layout of a well-formed message. -/
theorem exists_serializePopMessage {v : UInt8} {rest : Bytes}
    (hv : v = popMessageVersionV1 ∨ v = popMessageVersionV2)
    (hlen : (v :: rest).length =
      if v = popMessageVersionV2 then popMessageLenV2 else popMessageLenV1) :
    ∃ m, m.WellFormed ∧ serializePopMessage m = v :: rest := by
  have hA : (if v = popMessageVersionV2 then 32 else 0) ≤ 32 := by split <;> omega
  replace hlen : rest.length = 32 + 32 + 8 + 32 + 32 + (if v = popMessageVersionV2 then 32 else 0)
      + 32 + 8 := by
    simp only [List.length_cons, popMessageLenV1, popMessageLenV2] at hlen; split at hlen <;> simp_all
  -- cut the string into its fields, each remainder shorter by the field's width
  obtain ⟨g, r, rfl, hg, n₁⟩ := exists_append_of_le rest 32 (by omega)
  obtain ⟨c, r, rfl, hc, n₂⟩ := exists_append_of_le r 32 (by omega)
  obtain ⟨p, r, rfl, hp, n₃⟩ := exists_append_of_le r 8 (by omega)
  obtain ⟨h₁, r, rfl, hh₁, n₄⟩ := exists_append_of_le r 32 (by omega)
  obtain ⟨h₂, r, rfl, hh₂, n₅⟩ := exists_append_of_le r 32 (by omega)
  obtain ⟨a, r, rfl, ha, n₆⟩ :=
    exists_append_of_le r (if v = popMessageVersionV2 then 32 else 0) (by omega)
  obtain ⟨e, i, rfl, he, n₇⟩ := exists_append_of_le r 32 (by omega)
  have hi : i.length = 8 := by omega
  let m : PopProofMessage :=
    { version := v, grant := ⟨g, hg⟩, claimer := ⟨c, hc⟩, periodIndex := UInt64.ofNat (leValue p)
      prevHash := ⟨h₁, hh₁⟩, streamPrevHash := ⟨h₂, hh₂⟩
      auditHash := if h : v = popMessageVersionV2 then ⟨a, by simpa [h] using ha⟩ else Bytes32.zero
      entryHash := ⟨e, he⟩, issuedAt := I64.ofBits (leValue i) }
  have hmA : auditBytes m = a := by
    by_cases h : v = popMessageVersionV2
    · simp [auditBytes, m, h]
    · simp only [auditBytes, m, h, if_false]
      simp only [h, if_false] at ha
      exact (List.eq_nil_of_length_eq_zero ha).symm
  refine ⟨m, ?_, ?_⟩
  · rcases hv with h | h
    · exact .inr ⟨h, dif_neg (by rw [h]; decide)⟩
    · exact .inl h
  · have hp' := leBytes_u64OfLeBytes? (show u64OfLeBytes? p = _ from if_pos hp)
    have hi' := leBytes_i64OfLeBytes? (show i64OfLeBytes? i = _ from if_pos hi)
    simp only [serializePopMessage, hmA, hp', hi', List.singleton_append, List.cons_append,
      List.append_assoc, List.nil_append]

/-- The parser accepts only strings that pass its first three checks. -/
theorem parsePopMessage_error_of_checks {b : Bytes}
    (h : ¬(b ≠ [] ∧ (b.headD 0 = popMessageVersionV1 ∨ b.headD 0 = popMessageVersionV2) ∧
      b.length = if b.headD 0 = popMessageVersionV2 then popMessageLenV2 else popMessageLenV1)) :
    parsePopMessage b = .error (.custom .invalidPopMessageLength) ∨
      parsePopMessage b = .error (.custom .invalidPopMessageVersion) := by
  by_cases h₁ : b ≠ []
  · by_cases h₂ : b.headD 0 = popMessageVersionV1 ∨ b.headD 0 = popMessageVersionV2
    · have h₃ := fun h₃ => h ⟨h₁, h₂, h₃⟩
      simp only [parsePopMessage, require_of_true _ h₁, require_of_true _ h₂,
        require_of_false _ h₃, ok_bind, error_bind, true_or]
    · simp only [parsePopMessage, require_of_true _ h₁, require_of_false _ h₂, ok_bind, error_bind,
        or_true]
  · simp only [parsePopMessage, require_of_false _ h₁, error_bind, true_or]

/-- **The parser is the inverse of the layout.** -/
theorem parsePopMessage_eq_ok {b : Bytes} {m : PopProofMessage} :
    parsePopMessage b = .ok m ↔ m.WellFormed ∧ serializePopMessage m = b := by
  constructor
  · intro h
    by_cases hc : b ≠ [] ∧ (b.headD 0 = popMessageVersionV1 ∨ b.headD 0 = popMessageVersionV2) ∧
        b.length = if b.headD 0 = popMessageVersionV2 then popMessageLenV2 else popMessageLenV1
    · obtain ⟨hne, hv, hlen⟩ := hc
      obtain ⟨v, rest, rfl⟩ := List.exists_cons_of_ne_nil hne
      change v = _ ∨ v = _ at hv
      change _ = ite (v = _) _ _ at hlen
      obtain ⟨m', hm', hb⟩ := exists_serializePopMessage hv hlen
      rw [← hb, parsePopMessage_serialize hm', Except.ok.injEq] at h
      exact h ▸ ⟨hm', hb⟩
    · rcases parsePopMessage_error_of_checks hc with h' | h' <;> simp [h'] at h
  · rintro ⟨hm, rfl⟩
    exact parsePopMessage_serialize hm

/-- The parser's checks, in the words of its contract: a non-empty string, a known first byte, and
the exact length of that version. -/
theorem parsePopMessage_checks_iff {b : Bytes} :
    (b ≠ [] ∧ (b.headD 0 = popMessageVersionV1 ∨ b.headD 0 = popMessageVersionV2) ∧
      b.length = if b.headD 0 = popMessageVersionV2 then popMessageLenV2 else popMessageLenV1) ↔
    ∃ v rest, b = v :: rest ∧ (v = 1 ∨ v = 2) ∧ b.length = if v = 2 then 209 else 177 := by
  constructor
  · rintro ⟨hne, hv, hlen⟩
    obtain ⟨v, rest, rfl⟩ := List.exists_cons_of_ne_nil hne
    exact ⟨v, rest, rfl, hv, hlen⟩
  · rintro ⟨v, rest, rfl, hv, hlen⟩
    exact ⟨List.cons_ne_nil v rest, hv, hlen⟩

/-- **`parse_pop_message` is an exact codec.**  It accepts exactly the strings that pass its
three checks, and then it returns the message whose layout the string is; every well-formed
message is read back from its layout; and it never fails anywhere but at the three checks, so no
reader's bound, `try_into` or `MathOverflow` branch is ever taken. -/
theorem parsePopMessage_codec (b : Bytes) (m : PopProofMessage) :
    ((∃ m, parsePopMessage b = .ok m) ↔
        ∃ v rest, b = v :: rest ∧ (v = 1 ∨ v = 2) ∧ b.length = if v = 2 then 209 else 177) ∧
    (parsePopMessage b = .ok m → serializePopMessage m = b) ∧
    (m.version = 2 ∨ m.version = 1 ∧ m.auditHash = Bytes32.zero →
      parsePopMessage (serializePopMessage m) = .ok m) ∧
    ∀ e, parsePopMessage b = .error e →
      e = .custom .invalidPopMessageLength ∨ e = .custom .invalidPopMessageVersion := by
  have hok : ∀ {b : Bytes}, (b ≠ [] ∧ (b.headD 0 = popMessageVersionV1 ∨
      b.headD 0 = popMessageVersionV2) ∧ b.length =
        if b.headD 0 = popMessageVersionV2 then popMessageLenV2 else popMessageLenV1) →
      ∃ m, parsePopMessage b = .ok m := by
    rintro b ⟨hne, hv, hlen⟩
    obtain ⟨v, rest, rfl⟩ := List.exists_cons_of_ne_nil hne
    obtain ⟨m', hm', hb⟩ := exists_serializePopMessage hv hlen
    exact ⟨m', hb ▸ parsePopMessage_serialize hm'⟩
  refine ⟨⟨fun ⟨m', h⟩ => ?_, fun h => hok (parsePopMessage_checks_iff.2 h)⟩,
    fun h => (parsePopMessage_eq_ok.1 h).2, parsePopMessage_serialize, fun e he => ?_⟩
  · obtain ⟨hm', rfl⟩ := parsePopMessage_eq_ok.1 h
    refine parsePopMessage_checks_iff.1 ⟨List.cons_ne_nil _ _, ?_, serializePopMessage_length m'⟩
    rcases hm' with h | ⟨h, -⟩
    · exact .inr h
    · exact .inl h
  · by_cases hc : b ≠ [] ∧ (b.headD 0 = popMessageVersionV1 ∨ b.headD 0 = popMessageVersionV2) ∧
        b.length = if b.headD 0 = popMessageVersionV2 then popMessageLenV2 else popMessageLenV1
    · obtain ⟨m', h⟩ := hok hc
      rw [h] at he
      cases he
    · rcases parsePopMessage_error_of_checks hc with h | h <;> rw [h] at he <;> cases he
      · exact .inl rfl
      · exact .inr rfl

end GrantProgram
