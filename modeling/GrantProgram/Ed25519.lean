import GrantProgram.Basic

/-
**The signature co-instruction: `extract_ed25519_signer_and_message`.**

A claim does not verify the proof-of-process signature itself.  The transaction carries, just
before the claim, an instruction of the native Ed25519 program, which the runtime has already
accepted; the claim reads that instruction back from the instructions sysvar and takes the signer
and the signed message out of its data.  The data starts with a 16-byte header: the number of
signatures (byte 0, which must be 1), a padding byte, and seven little-endian `u16` fields — the
offsets of the signature, the public key and the message, the message size, and for each of the
three the index of the instruction that holds it, which must be `u16::MAX` ("this instruction").

Main definitions:

* `GrantProgram.Instruction`, `GrantProgram.InstructionsSysvar` — an instruction of the transaction
  and the sysvar through which the program reads them;
* `GrantProgram.readU16Le` — `read_u16_le`;
* `GrantProgram.extractEd25519SignerAndMessage` — `extract_ed25519_signer_and_message`.

Main results:

* `GrantProgram.readU16Le_of_le` — a read inside the data returns the little-endian value there;
* `GrantProgram.extractEd25519SignerAndMessage_exact` — **the extractor accepts exactly the headers
  the native format allows with inline fields in bounds**, returns the public key and the message
  at their declared offsets, and fails with no error other than `InvalidPopSignatureData`: it
  never indexes or slices outside the data, and its `MathOverflow` and `try_into` branches are
  never taken.
-/

set_option autoImplicit false

namespace GrantProgram

/-! ### Instructions and the instructions sysvar -/

/-- An instruction of the transaction: the program it calls and its data (its account list is
never read by this program). -/
structure Instruction where
  programId : Pubkey
  data : Bytes

/-- The instructions sysvar: the instructions of the transaction and the index of the one
executing. -/
structure InstructionsSysvar where
  instructions : List Instruction
  currentIndex : ℕ

/-- `load_current_index_checked`. -/
def loadCurrentIndexChecked (sysvar : InstructionsSysvar) : ℕ := sysvar.currentIndex

/-- `load_instruction_at_checked`: fails on an index past the last instruction. -/
def loadInstructionAtChecked (i : ℕ) (sysvar : InstructionsSysvar) : Option Instruction :=
  sysvar.instructions[i]?

/-- The bytes of the native program `Ed25519SigVerify111111111111111111111111111`. -/
def ed25519ProgramIdBytes : Bytes :=
  [3, 125, 70, 214, 124, 147, 251, 190, 18, 249, 66, 143, 131, 141, 64, 255, 5, 112, 116, 73,
    39, 244, 138, 100, 252, 202, 112, 68, 128, 0, 0, 0]

/-- `ed25519_program::id()`. -/
def ed25519ProgramId : Pubkey := ⟨ed25519ProgramIdBytes, rfl⟩

/-! ### The header -/

/-- `read_u16_le`; the `u16` is returned as its value, a number below `2 ^ 16`. -/
def readU16Le (data : Bytes) (offset : ℕ) : Except ProgramError ℕ := do
  let stop ← okOr (checkedAddUsize offset 2) .mathOverflow
  require (stop ≤ data.length) .invalidPopSignatureData
  let lo ← index data offset
  let hi ← index data (offset + 1)
  pure (leValue [lo, hi])

/-- The little-endian `u16` at byte `i` of `d`. -/
def u16At (d : Bytes) (i : ℕ) : ℕ := leValue [d.getD i 0, d.getD (i + 1) 0]

theorem u16At_lt (d : Bytes) (i : ℕ) : u16At d i < 65536 := by
  have h₁ : (d.getD i 0).toNat < 256 := UInt8.toNat_lt_size _
  have h₂ : (d.getD (i + 1) 0).toNat < 256 := UInt8.toNat_lt_size _
  simp only [u16At, leValue]
  omega

theorem readU16Le_of_le {data : Bytes} {offset : ℕ} (h : offset + 2 ≤ data.length)
    (hs : offset + 2 < 18446744073709551616) :
    readU16Le data offset = .ok (u16At data offset) := by
  simp [readU16Le, checkedAddUsize_of_lt hs,
    require_of_true _ h, index_of_lt (show offset < data.length by omega),
    index_of_lt (show offset + 1 < data.length by omega), u16At]

/-- `extract_ed25519_signer_and_message`. -/
def extractEd25519SignerAndMessage (ix : Instruction) : Except ProgramError (Pubkey × Bytes) := do
  let data := ix.data
  require (16 ≤ data.length) .invalidPopSignatureData
  require ((← index data 0) = 1) .invalidPopSignatureData
  let signatureOffset ← readU16Le data 2
  let signatureInstructionIndex ← readU16Le data 4
  let publicKeyOffset ← readU16Le data 6
  let publicKeyInstructionIndex ← readU16Le data 8
  let messageDataOffset ← readU16Le data 10
  let messageDataSize ← readU16Le data 12
  let messageInstructionIndex ← readU16Le data 14
  -- the signature, the key and the message must all be inline
  require (signatureInstructionIndex = 65535 ∧ publicKeyInstructionIndex = 65535 ∧
    messageInstructionIndex = 65535) .invalidPopSignatureData
  let signatureEnd ← okOr (checkedAddUsize signatureOffset 64) .mathOverflow
  let publicKeyEnd ← okOr (checkedAddUsize publicKeyOffset 32) .mathOverflow
  let messageEnd ← okOr (checkedAddUsize messageDataOffset messageDataSize) .mathOverflow
  require (signatureEnd ≤ data.length ∧ publicKeyEnd ≤ data.length ∧ messageEnd ≤ data.length)
    .invalidPopSignatureData
  let signerPubkey ← okOr (Bytes32.ofList? (← sliceRange data publicKeyOffset publicKeyEnd))
    .invalidPopSignatureData
  let messageBytes ← sliceRange data messageDataOffset messageEnd
  pure (signerPubkey, messageBytes)

/-- **The extractor accepts exactly the native header with inline fields in bounds.**  It returns
`Ok((pk, msg))` exactly when the data has a full header, one signature, all three instruction
indices `u16::MAX`, and the signature, key and message ranges inside the data, and then `pk` and
`msg` are the bytes at the declared offsets.  Every other input is rejected with
`InvalidPopSignatureData`: no index or slice leaves the data (that would be a panic), and the
`MathOverflow` and `try_into` branches are never taken. -/
theorem extractEd25519SignerAndMessage_exact (programId : Pubkey) (d : Bytes) (pk : Pubkey) (msg : Bytes) :
    (extractEd25519SignerAndMessage ⟨programId, d⟩ = .ok (pk, msg) ↔
      16 ≤ d.length ∧ d.getD 0 0 = 1 ∧
      u16At d 4 = 65535 ∧ u16At d 8 = 65535 ∧ u16At d 14 = 65535 ∧
      u16At d 2 + 64 ≤ d.length ∧ u16At d 6 + 32 ≤ d.length ∧ u16At d 10 + u16At d 12 ≤ d.length ∧
      pk.toList = slice d (u16At d 6) (u16At d 6 + 32) ∧
      msg = slice d (u16At d 10) (u16At d 10 + u16At d 12)) ∧
    ∀ e, extractEd25519SignerAndMessage ⟨programId, d⟩ = .error e →
      e = .custom .invalidPopSignatureData := by
  by_cases h16 : 16 ≤ d.length
  · have r : ∀ i, i + 2 ≤ 16 → readU16Le d i = .ok (u16At d i) := fun i hi =>
      readU16Le_of_le (by omega) (by omega)
    have := u16At_lt d 2; have := u16At_lt d 6; have := u16At_lt d 10; have := u16At_lt d 12
    simp only [extractEd25519SignerAndMessage, require_bind, if_pos h16,
      index_of_lt (show 0 < d.length by omega), ok_bind, r 2 (by decide), r 4 (by decide),
      r 6 (by decide), r 8 (by decide), r 10 (by decide), r 12 (by decide), r 14 (by decide),
      checkedAddUsize_of_lt (show u16At d 2 + 64 < 18446744073709551616 by omega),
      checkedAddUsize_of_lt (show u16At d 6 + 32 < 18446744073709551616 by omega),
      checkedAddUsize_of_lt (show u16At d 10 + u16At d 12 < 18446744073709551616 by omega), okOr_some]
    split_ifs with h₀ hᵢ hb
    · rw [sliceRange_of_le (by omega) hb.2.1, ok_bind,
        Bytes32.ofList?_of_length ((slice_length hb.2.1).trans (by omega)), okOr_some, ok_bind,
        sliceRange_of_le (by omega) hb.2.2, ok_bind, pure_eq_ok]
      refine ⟨⟨fun h => ?_, fun h => ?_⟩, fun e h => by cases h⟩
      · cases h; exact ⟨h16, h₀, hᵢ.1, hᵢ.2.1, hᵢ.2.2, hb.1, hb.2.1, hb.2.2, rfl, rfl⟩
      · obtain ⟨-, -, -, -, -, -, -, -, hpk, rfl⟩ := h
        cases pk
        subst hpk
        rfl
    all_goals
      refine ⟨iff_of_false (by simp) (by tauto), fun e h => ?_⟩
      cases h; rfl
  · simp only [extractEd25519SignerAndMessage, require_bind, if_neg h16]
    exact ⟨iff_of_false (by simp) (by tauto), fun e h => by cases h; rfl⟩
end GrantProgram
