import GrantProgram.Codec
import GrantProgram.Ed25519
import Mathlib.Algebra.Order.Group.Int
import Mathlib.Algebra.Order.Group.Abs

/-
**The proof-of-process chain: `pop_entry_hash` and `verify_and_record_pop_proof`.**

Each claim must present a proof-of-process message, signed by the authority's registered signer,
that extends a hash chain kept per grant in a `PopState` account.  The message names the previous
entry of the chain twice, once per strand (`prev_hash` for the global strand and
`stream_prev_hash` for the recipient's), and commits to them and to its own fields in its
`entry_hash`, a domain-separated `hashv` of all of them.  `verify_and_record_pop_proof` reads the
signature co-instruction, decodes the message, binds it to the claim, recomputes the entry hash,
bounds the clock skew, checks that the message extends the recorded chain (or starts it, with two
zero previous hashes), and then advances both strands to the new entry.

The source function is one body; its first half (lines 645–697 of the program) only checks and
never touches the state, and its second half (lines 699–726) is the state transition.  They are
`GrantProgram.verifyPopProof` and `GrantProgram.recordPopProof` here, and
`GrantProgram.verifyAndRecordPopProof` is their composition, run in `EStateM` over the `PopState`
account so that what an error leaves in the account is part of the model.

Main definitions:

* `GrantProgram.hashv`, `GrantProgram.popEntryParts`, `GrantProgram.popEntryHash` — the hashing of
  an entry;
* `GrantProgram.absoluteI64Diff` — `absolute_i64_diff`;
* `GrantProgram.PopConfig`, `GrantProgram.PopState` — the signer registration and the chain state;
* `GrantProgram.verifyAndRecordPopProof` — `verify_and_record_pop_proof`.

Main results:

* `GrantProgram.absoluteI64Diff_eq_ok` — the difference is the mathematical `|a - b|`, and it fails
  exactly when that does not fit an `i64`;
* `GrantProgram.verifyPopProof_eq_ok` — the checks of the first half, all of them;
* `GrantProgram.recordPopProof_run_ok`, `GrantProgram.recordPopProof_run_error` — the transition,
  and that a rejected transition writes nothing;
* `GrantProgram.verifyAndRecordPopProof_exact` — **the whole function**: when it succeeds, what the
  new state is, and that every error leaves the state exactly as it was.
-/

set_option autoImplicit false

namespace GrantProgram

/-! ### Hashing an entry -/

/-- `hashv(&[parts])`: the digest of the concatenation of the parts. -/
def hashv (sha256 : Bytes → Hash) (parts : List Bytes) : Hash := sha256 parts.flatten

/-- The domain tag of a version 1 entry. -/
def popTagV1 : Bytes := ascii "we-ne:pop:v1"

/-- The domain tag of a version 2 entry. -/
def popTagV2 : Bytes := ascii "we-ne:pop:v2"

@[simp] theorem popTagV1_length : popTagV1.length = 12 := rfl

@[simp] theorem popTagV2_length : popTagV2.length = 12 := rfl

/-- The byte strings `pop_entry_hash` passes to `hashv`, for the two known versions. -/
def popEntryParts (version : UInt8) (prevHash streamPrevHash auditHash : Hash)
    (grant claimer : Pubkey) (periodIndex : UInt64) (issuedAt : I64) : Option (List Bytes) :=
  let periodBytes := leBytes periodIndex.toNat 8
  let issuedAtBytes := leBytes issuedAt.bits 8
  if version = popMessageVersionV1 then
    some [popTagV1, prevHash.toList, streamPrevHash.toList, grant.toList, claimer.toList,
      periodBytes, issuedAtBytes]
  else if version = popMessageVersionV2 then
    some [popTagV2, prevHash.toList, streamPrevHash.toList, auditHash.toList, grant.toList,
      claimer.toList, periodBytes, issuedAtBytes]
  else none

/-- `pop_entry_hash`. -/
def popEntryHash (sha256 : Bytes → Hash) (version : UInt8) (prevHash streamPrevHash auditHash : Hash)
    (grant claimer : Pubkey) (periodIndex : UInt64) (issuedAt : I64) : Except ProgramError Hash :=
  match popEntryParts version prevHash streamPrevHash auditHash grant claimer periodIndex issuedAt with
  | some parts => .ok (hashv sha256 parts)
  | none => .error (.custom .invalidPopMessageVersion)

/-- The entry hash a message commits to, computed from its own fields. -/
def PopProofMessage.expectedEntryHash (sha256 : Bytes → Hash) (m : PopProofMessage) :
    Except ProgramError Hash :=
  popEntryHash sha256 m.version m.prevHash m.streamPrevHash m.auditHash m.grant m.claimer
    m.periodIndex m.issuedAt

/-- The bytes `pop_entry_hash` hashes for a message, for the two known versions. -/
def PopProofMessage.entryPreimage? (m : PopProofMessage) : Option Bytes :=
  (popEntryParts m.version m.prevHash m.streamPrevHash m.auditHash m.grant m.claimer
    m.periodIndex m.issuedAt).map List.flatten

/-- A message's entry hash is the digest of its preimage. -/
theorem expectedEntryHash_eq_ok {sha256 : Bytes → Hash} {m : PopProofMessage} {h : Hash} :
    m.expectedEntryHash sha256 = .ok h ↔ ∃ b, m.entryPreimage? = some b ∧ sha256 b = h := by
  unfold PopProofMessage.expectedEntryHash popEntryHash PopProofMessage.entryPreimage? hashv
  cases popEntryParts m.version m.prevHash m.streamPrevHash m.auditHash m.grant m.claimer
    m.periodIndex m.issuedAt <;> simp

/-- Both versions of the preimage carry the previous global hash right after the 12-byte tag. -/
theorem entryPreimage?_prevHash {m : PopProofMessage} {b : Bytes} (h : m.entryPreimage? = some b) :
    (b.drop 12).take 32 = m.prevHash.toList := by
  unfold PopProofMessage.entryPreimage? popEntryParts at h
  split_ifs at h <;> simp only [Option.map_some', Option.map_none', Option.some.injEq,
    reduceCtorEq] at h <;>
    subst h <;> simp [List.drop_left', List.take_left']

/-! ### Clock skew -/

/-- `POP_MAX_SKEW_SECONDS`. -/
def popMaxSkewSeconds : ℤ := 600

/-- `absolute_i64_diff`. -/
def absoluteI64Diff (a b : I64) : Except ProgramError I64 :=
  if b.toInt ≤ a.toInt then okOr (a.checkedSub b) .mathOverflow
  else okOr (b.checkedSub a) .mathOverflow

/-- The difference is `|a - b|`; it exists exactly when that fits an `i64`. -/
theorem absoluteI64Diff_eq_ok {a b d : I64} :
    absoluteI64Diff a b = .ok d ↔ d.toInt = |a.toInt - b.toInt| := by
  unfold absoluteI64Diff I64.checkedSub
  split
  · rw [abs_of_nonneg (by omega)]
    cases h : I64.ofInt? (a.toInt - b.toInt) with
    | none =>
        simp only [okOr_none, reduceCtorEq, false_iff]
        rintro hd
        exact I64.ofInt?_eq_none.1 h (hd ▸ ⟨d.min_le, d.le_max⟩)
    | some x =>
        simp only [okOr_some, Except.ok.injEq]
        rw [← I64.ofInt?_eq_some.1 h]
        exact ⟨fun h => h ▸ rfl, fun h => by cases x; cases d; simp_all⟩
  · rw [abs_of_neg (by omega), neg_sub]
    cases h : I64.ofInt? (b.toInt - a.toInt) with
    | none =>
        simp only [okOr_none, reduceCtorEq, false_iff]
        rintro hd
        exact I64.ofInt?_eq_none.1 h (hd ▸ ⟨d.min_le, d.le_max⟩)
    | some x =>
        simp only [okOr_some, Except.ok.injEq]
        rw [← I64.ofInt?_eq_some.1 h]
        exact ⟨fun h => h ▸ rfl, fun h => by cases x; cases d; simp_all⟩

/-- A skew within the bound is an `i64`. -/
theorem exists_skew_iff {a b : I64} :
    (∃ d : I64, d.toInt = |a.toInt - b.toInt| ∧ d.toInt ≤ popMaxSkewSeconds) ↔
      |a.toInt - b.toInt| ≤ popMaxSkewSeconds := by
  constructor
  · rintro ⟨d, hd, hle⟩; exact hd ▸ hle
  · intro h
    have h0 := abs_nonneg (a.toInt - b.toInt)
    unfold popMaxSkewSeconds at h
    exact ⟨⟨|a.toInt - b.toInt|, by unfold i64Min; omega, by unfold i64Max; omega⟩, rfl, h⟩

/-! ### The accounts -/

/-- `PopConfig`: the signer an authority registers for its grants' proofs. -/
structure PopConfig where
  authority : Pubkey
  signerPubkey : Pubkey
  bump : UInt8
deriving DecidableEq

/-- `PopState`: the chain state of one grant. -/
structure PopState where
  grant : Pubkey
  lastGlobalHash : Hash
  lastStreamHash : Hash
  lastPeriodIndex : UInt64
  lastIssuedAt : I64
  initialized : Bool
  bump : UInt8
deriving DecidableEq

/-- The zeroed account `init_if_needed` creates for a grant's first claim. -/
def PopState.empty : PopState :=
  ⟨Bytes32.zero, Bytes32.zero, Bytes32.zero, 0, I64.zero, false, 0⟩

/-! ### `verify_and_record_pop_proof` -/

/-- The first half of `verify_and_record_pop_proof` (lines 645–697): find the signature
co-instruction just before this one, take the signer and the message out of it, and check the
message against the claim, its own entry hash and the clock.  It reads no state; it returns the
verified message. -/
def verifyPopProof (sha256 : Bytes → Hash) (sysvar : InstructionsSysvar) (popConfig : PopConfig)
    (grant claimer : Pubkey) (periodIndex : UInt64) (now : I64) :
    Except ProgramError PopProofMessage := do
  let currentIndex := loadCurrentIndexChecked sysvar
  require (currentIndex > 0) .missingPopSignatureInstruction
  let ed25519Ix ← okOr (loadInstructionAtChecked (currentIndex - 1) sysvar)
    .missingPopSignatureInstruction
  require (ed25519Ix.programId = ed25519ProgramId) .invalidPopSignatureProgram
  let (signerPubkey, messageBytes) ← extractEd25519SignerAndMessage ed25519Ix
  require (signerPubkey = popConfig.signerPubkey) .invalidPopSigner
  let message ← parsePopMessage messageBytes
  require (message.grant = grant) .popProofGrantMismatch
  require (message.claimer = claimer) .popProofClaimerMismatch
  require (message.periodIndex = periodIndex) .popProofPeriodMismatch
  -- `if message.version == POP_MESSAGE_VERSION_V2 { require!(audit_hash != [0; 32]) }`
  require (message.version = popMessageVersionV2 → message.auditHash ≠ Bytes32.zero)
    .popAuditHashMissing
  let expectedEntryHash ← message.expectedEntryHash sha256
  require (expectedEntryHash = message.entryHash) .popEntryHashMismatch
  let skew ← absoluteI64Diff now message.issuedAt
  require (skew.toInt ≤ popMaxSkewSeconds) .popProofExpired
  pure message

/-- The second half of `verify_and_record_pop_proof` (lines 699–726): the message must extend the
recorded chain on both strands, or start it; then both strands advance to its entry. -/
def recordPopProof (grant : Pubkey) (popStateBump : UInt8) (message : PopProofMessage) :
    EStateM ProgramError PopState Unit := do
  let popState ← get
  if popState.initialized then
    requireM (popState.grant = grant) .popStateGrantMismatch
    requireM (popState.lastGlobalHash = message.prevHash) .popHashChainBroken
    requireM (popState.lastStreamHash = message.streamPrevHash) .popStreamChainBroken
  else
    requireM (message.prevHash = Bytes32.zero) .popGenesisMismatch
    requireM (message.streamPrevHash = Bytes32.zero) .popGenesisMismatch
    modify fun s => { s with grant := grant, bump := popStateBump, initialized := true }
  modify fun s => { s with lastGlobalHash := message.entryHash, lastStreamHash := message.entryHash
                           lastPeriodIndex := message.periodIndex, lastIssuedAt := message.issuedAt }

/-- `verify_and_record_pop_proof`, over the claim's `PopState` account. -/
def verifyAndRecordPopProof (sha256 : Bytes → Hash) (sysvar : InstructionsSysvar)
    (popConfig : PopConfig) (grant claimer : Pubkey) (periodIndex : UInt64) (now : I64)
    (popStateBump : UInt8) : EStateM ProgramError PopState Unit := do
  let message ← liftM (verifyPopProof sha256 sysvar popConfig grant claimer periodIndex now)
  recordPopProof grant popStateBump message

/-! ### The checks -/

/-- **The checks of the first half**, all of them: the co-instruction is just before this one and
belongs to the Ed25519 program, its signer is the registered one, its message decodes, is bound
to this grant, claimer and period, carries an audit hash if it is of version 2, commits to its own
fields, and was issued within the skew bound of the clock. -/
theorem verifyPopProof_eq_ok {sha256 : Bytes → Hash} {sysvar : InstructionsSysvar}
    {popConfig : PopConfig} {g c : Pubkey} {k : UInt64} {now : I64} {m : PopProofMessage} :
    verifyPopProof sha256 sysvar popConfig g c k now = .ok m ↔
      0 < sysvar.currentIndex ∧ ∃ ix pk bytes,
        sysvar.instructions[sysvar.currentIndex - 1]? = some ix ∧ ix.programId = ed25519ProgramId ∧
        extractEd25519SignerAndMessage ix = .ok (pk, bytes) ∧ pk = popConfig.signerPubkey ∧
        parsePopMessage bytes = .ok m ∧ m.grant = g ∧ m.claimer = c ∧ m.periodIndex = k ∧
        (m.version = popMessageVersionV2 → m.auditHash ≠ Bytes32.zero) ∧
        m.expectedEntryHash sha256 = .ok m.entryHash ∧
        |now.toInt - m.issuedAt.toInt| ≤ popMaxSkewSeconds := by
  simp only [verifyPopProof, require_bind_eq_ok, okOr_bind_eq_ok, pure_eq_ok,
    loadCurrentIndexChecked, loadInstructionAtChecked]
  simp only [bind_eq_ok, Prod.exists, require_eq_ok, exists_const, absoluteI64Diff_eq_ok,
    Except.ok.injEq, exists_eq_right, exists_and_left, gt_iff_lt]
  constructor
  · rintro ⟨hi, ix, hix, hp, pk, bytes, hx, hpk, m', hm, hg, hc, hk, ha, h', he, rfl, d, hd, hle, rfl⟩
    exact ⟨hi, ix, hix, hp, pk, bytes, hx, hpk, hm, hg, hc, hk, ha, he, exists_skew_iff.1 ⟨d, hd, hle⟩⟩
  · rintro ⟨hi, ix, hix, hp, pk, bytes, hx, hpk, hm, hg, hc, hk, ha, he, hs⟩
    obtain ⟨d, hd, hle⟩ := exists_skew_iff.2 hs
    exact ⟨hi, ix, hix, hp, pk, bytes, hx, hpk, m, hm, hg, hc, hk, ha, _, he, rfl, d, hd, hle, rfl⟩

/-! ### The transition -/

/-- The message extends the recorded chain on both strands, or starts it. -/
def PopState.Extends (s : PopState) (grant : Pubkey) (m : PopProofMessage) : Prop :=
  (s.initialized = true ∧ s.grant = grant ∧ s.lastGlobalHash = m.prevHash ∧
      s.lastStreamHash = m.streamPrevHash) ∨
    (s.initialized = false ∧ m.prevHash = Bytes32.zero ∧ m.streamPrevHash = Bytes32.zero)

/-- The state once the entry `m` is recorded: both strands at its entry hash.  The bump is
written on the genesis entry only. -/
def PopState.advance (s : PopState) (grant : Pubkey) (bump : UInt8) (m : PopProofMessage) :
    PopState :=
  { s with grant := grant, bump := if s.initialized then s.bump else bump, initialized := true
           lastGlobalHash := m.entryHash, lastStreamHash := m.entryHash
           lastPeriodIndex := m.periodIndex, lastIssuedAt := m.issuedAt }

/-- Two messages that extend one chain state have one base, on both strands. -/
theorem PopState.Extends.base_eq {s : PopState} {g g' : Pubkey} {m m' : PopProofMessage}
    (h : s.Extends g m) (h' : s.Extends g' m') :
    m.prevHash = m'.prevHash ∧ m.streamPrevHash = m'.streamPrevHash := by
  rcases h with ⟨hi, -, h₁, h₂⟩ | ⟨hi, h₁, h₂⟩ <;>
    rcases h' with ⟨hi', -, h₁', h₂'⟩ | ⟨hi', h₁', h₂'⟩ <;> simp_all

/-- The chain state advanced to `m` is extended exactly by the messages for the same grant that
name `m`'s entry on both strands. -/
@[simp] theorem PopState.extends_advance {s : PopState} {g g' : Pubkey} {bump : UInt8}
    {m m' : PopProofMessage} :
    (s.advance g bump m).Extends g' m' ↔
      g = g' ∧ m.entryHash = m'.prevHash ∧ m.entryHash = m'.streamPrevHash := by
  simp [PopState.Extends, PopState.advance]

theorem recordPopProof_run(g : Pubkey) (bump : UInt8) (m : PopProofMessage) (s : PopState) :
    (recordPopProof g bump m).run s =
      if s.initialized then
        if s.grant = g then
          if s.lastGlobalHash = m.prevHash then
            if s.lastStreamHash = m.streamPrevHash then .ok () (s.advance g bump m)
            else .error (.custom .popStreamChainBroken) s
          else .error (.custom .popHashChainBroken) s
        else .error (.custom .popStateGrantMismatch) s
      else
        if m.prevHash = Bytes32.zero then
          if m.streamPrevHash = Bytes32.zero then .ok () (s.advance g bump m)
          else .error (.custom .popGenesisMismatch) s
        else .error (.custom .popGenesisMismatch) s := by
  simp only [recordPopProof, get_bind_run, ite_bind_run, bind_assoc, ite_run, requireM_bind_run,
    modify_bind_run, modify_run]
  cases hi : s.initialized <;> simp only [if_true, if_false, reduceCtorEq] <;> split_ifs <;>
    simp_all [PopState.advance]

theorem recordPopProof_run_ok {g : Pubkey} {bump : UInt8} {m : PopProofMessage} {s s' : PopState}
    {u : Unit} :
    (recordPopProof g bump m).run s = .ok u s' ↔ s.Extends g m ∧ s' = s.advance g bump m := by
  rw [recordPopProof_run]
  constructor
  · -- the two successful branches: an extension, and a genesis entry
    intro h
    split_ifs at h <;> cases h
    · exact ⟨.inl ⟨‹_›, ‹_›, ‹_›, ‹_›⟩, rfl⟩
    · exact ⟨.inr ⟨Bool.eq_false_iff.2 ‹_›, ‹_›, ‹_›⟩, rfl⟩
  · rintro ⟨⟨hi, hg, hp, hs⟩ | ⟨hi, hp, hs⟩, rfl⟩
    · simp [hi, hg, hp, hs]
    · simp [hi, hp, hs]

/-- **A rejected transition writes nothing.** -/
theorem recordPopProof_run_error {g : Pubkey} {bump : UInt8} {m : PopProofMessage}
    {s s' : PopState} {e : ProgramError} :
    (recordPopProof g bump m).run s = .error e s' → s' = s := by
  rw [recordPopProof_run]
  split_ifs <;> rintro ⟨⟩ <;> rfl

/-! ### The whole function -/

theorem verifyAndRecordPopProof_run (sha256 : Bytes → Hash) (sysvar : InstructionsSysvar)
    (popConfig : PopConfig) (g c : Pubkey) (k : UInt64) (now : I64) (bump : UInt8)
    (s : PopState) :
    (verifyAndRecordPopProof sha256 sysvar popConfig g c k now bump).run s =
      match verifyPopProof sha256 sysvar popConfig g c k now with
      | .ok m => (recordPopProof g bump m).run s
      | .error e => .error e s := by
  unfold verifyAndRecordPopProof
  cases verifyPopProof sha256 sysvar popConfig g c k now <;> rfl

/-- A recorded proof: `verify_and_record_pop_proof` takes `s` to `s'` through a verified message
that extends the chain. -/
theorem verifyAndRecordPopProof_run_ok {sha256 : Bytes → Hash} {sysvar : InstructionsSysvar}
    {popConfig : PopConfig} {g c : Pubkey} {k : UInt64} {now : I64} {bump : UInt8}
    {s s' : PopState} {u : Unit} :
    (verifyAndRecordPopProof sha256 sysvar popConfig g c k now bump).run s = .ok u s' ↔
      ∃ m, verifyPopProof sha256 sysvar popConfig g c k now = .ok m ∧ s.Extends g m ∧
        s' = s.advance g bump m := by
  rw [verifyAndRecordPopProof_run]
  cases verifyPopProof sha256 sysvar popConfig g c k now <;> simp [recordPopProof_run_ok]

/-- **`verify_and_record_pop_proof`, exactly.**  It succeeds on a `PopState` `s` exactly when the
co-instruction just before this one is an Ed25519 instruction whose extracted signer is the
registered one and whose message decodes to an `m` bound to this grant, claimer and period, with
an audit hash if it is of version 2, committing to its own fields, issued within 600 seconds of
the clock, and extending the recorded chain on both strands (or starting it, on an uninitialized
state, from two zero hashes).  The new state then records `m` as the last entry of both strands;
the bump is written on the genesis entry only.  Every error leaves `s` exactly as it was. -/
theorem verifyAndRecordPopProof_exact (sha256 : Bytes → Hash) (sysvar : InstructionsSysvar)
    (popConfig : PopConfig) (g c : Pubkey) (k : UInt64) (now : I64) (bump : UInt8)
    (s : PopState) :
    (∀ s', (verifyAndRecordPopProof sha256 sysvar popConfig g c k now bump).run s = .ok () s' ↔
      0 < sysvar.currentIndex ∧ ∃ ix pk bytes m,
        sysvar.instructions[sysvar.currentIndex - 1]? = some ix ∧
        ix.programId = ed25519ProgramId ∧
        extractEd25519SignerAndMessage ix = .ok (pk, bytes) ∧ pk = popConfig.signerPubkey ∧
        parsePopMessage bytes = .ok m ∧ m.grant = g ∧ m.claimer = c ∧ m.periodIndex = k ∧
        (m.version = 2 → m.auditHash ≠ Bytes32.zero) ∧
        popEntryHash sha256 m.version m.prevHash m.streamPrevHash m.auditHash m.grant m.claimer
          m.periodIndex m.issuedAt = .ok m.entryHash ∧
        |now.toInt - m.issuedAt.toInt| ≤ 600 ∧
        ((s.initialized = true ∧ s.grant = g ∧ s.lastGlobalHash = m.prevHash ∧
            s.lastStreamHash = m.streamPrevHash) ∨
          (s.initialized = false ∧ m.prevHash = Bytes32.zero ∧ m.streamPrevHash = Bytes32.zero)) ∧
        s' = { s with initialized := true, grant := g, lastGlobalHash := m.entryHash,
                      lastStreamHash := m.entryHash, lastPeriodIndex := k,
                      lastIssuedAt := m.issuedAt, bump := if s.initialized then s.bump else bump }) ∧
    ∀ e s', (verifyAndRecordPopProof sha256 sysvar popConfig g c k now bump).run s = .error e s' →
      s' = s := by
  rw [verifyAndRecordPopProof_run]
  refine ⟨fun s' => ?_, fun e s' => ?_⟩
  · cases hv : verifyPopProof sha256 sysvar popConfig g c k now with
    | error e =>
        refine iff_of_false (by simp) ?_
        rintro ⟨hi, ix, pk, bytes, m, hix, hp, hx, hpk, hm, hg, hc, hk, ha, he, hs, -⟩
        have := verifyPopProof_eq_ok.2 ⟨hi, ix, pk, bytes, hix, hp, hx, hpk, hm, hg, hc, hk, ha, he, hs⟩
        rw [hv] at this
        cases this
    | ok m =>
        obtain ⟨hi, ix, pk, bytes, hix, hp, hx, hpk, hm, hg, hc, hk, ha, he, hs⟩ :=
          verifyPopProof_eq_ok.1 hv
        simp only [recordPopProof_run_ok, PopState.Extends, PopState.advance]
        constructor
        · rintro ⟨hext, rfl⟩
          exact ⟨hi, ix, pk, bytes, m, hix, hp, hx, hpk, hm, hg, hc, hk, ha, he, hs, hext, by
            rw [hk]⟩
        · rintro ⟨-, ix', pk', bytes', m', hix', -, hx', -, hm', -, -, hk', -, -, -, hext, rfl⟩
          obtain rfl : ix' = ix := Option.some_inj.1 (hix'.symm.trans hix)
          obtain ⟨rfl, rfl⟩ := Prod.mk.inj (Except.ok.inj (hx'.symm.trans hx))
          obtain rfl : m' = m := Except.ok.inj (hm'.symm.trans hm)
          exact ⟨hext, by rw [hk']⟩
  · cases verifyPopProof sha256 sysvar popConfig g c k now with
    | error e' => rintro ⟨⟩; rfl
    | ok m => exact recordPopProof_run_error

end GrantProgram
