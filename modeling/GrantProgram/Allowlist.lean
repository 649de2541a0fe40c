import GrantProgram.Runs

/-
**The allowlist gate.**

A grant whose `merkle_root` is zero takes claims through `claim_grant` only; a grant with a
non-zero root takes them through `claim_grant_with_proof` only, with a proof that the claimer's
leaf is under the root.  The two handlers are otherwise the same code: the same account checks,
the same pause check, and the same proof of process, timing, payment and receipt.  This module
proves both halves of that design: past the gate the two entry points behave alike, and a claim
on a grant with an allowlist is a claim by a member of the tree the root was built from, unless
the digest has a collision among the preimages involved.

Main results:

* `GrantProgram.claimGrantWithProof_eq_claimGrant` — **the two entry points agree past the gate**:
  with a proof that verifies against a non-zero root, `claim_grant_with_proof` has the outcome of
  `claim_grant` on the same accounts with the root reset to zero;
* `GrantProgram.execute_claim_allowlisted` — **claims on an allowlisted grant are members'
  claims**: every successful claim on a grant with a non-zero root went through the proof entry
  point with a proof that verifies, and that proof places the claimer in any tree of that root or
  exhibits a collision of the digest.
-/

set_option autoImplicit false

namespace GrantProgram

/-! ### An accepted claim

The example grant, created and funded with 10 tokens by its authority, who has registered
`exampleSigner` and set the allowlist of the claimer alone, takes the claimer's claim of period 3
at the clock value of the specification's example, with a genesis proof of process signed by
that signer. -/

/-- The version 1 message of a claim of `claimer` on `grant` for period 3, issued at
`exampleNow`, extending the entry `prev` on both strands, with the entry hash of its fields under
the digest of `rt`. -/
def exampleMessage (rt : Runtime) (grant claimer : Pubkey) (prev : Hash) : PopProofMessage :=
  let m : PopProofMessage :=
    ⟨1, grant, claimer, 3, prev, prev, Bytes32.zero, Bytes32.zero, exampleNow⟩
  { m with entryHash := match m.expectedEntryHash rt.sha256 with
                        | .ok h => h
                        | .error _ => Bytes32.zero }

/-- The signature instruction of `exampleSigner` for the message `m` (the offsets header, the
signer's key at 16, the signature at 48 and the message at 112), then the claim. -/
def exampleSysvar (m : PopProofMessage) : InstructionsSysvar :=
  ⟨[⟨ed25519ProgramId, [1, 0, 48, 0, 255, 255, 16, 0, 255, 255, 112, 0, 177, 0, 255, 255] ++
      exampleSigner.toList ++ List.replicate 64 0 ++ serializePopMessage m⟩, ⟨Bytes32.zero, []⟩], 1⟩

/-- The claimer's claim on the example grant, into its token account, with the genesis message. -/
def exampleClaimAccounts : ClaimAccounts :=
  ⟨exampleGrantKey, exampleMint, exampleClaimer, exampleClaimerAta,
    exampleSysvar (exampleMessage exampleRuntime exampleGrantKey exampleClaimer Bytes32.zero)⟩

/-- The authority creates the example grant, funds it with 10 tokens and registers
`exampleSigner`. -/
def exampleSetup : List (I64 × ProgramInstruction) :=
  [(exampleNow, exampleCreate),
    (exampleNow, .fundGrant exampleGrantKey exampleMint exampleAuthorityAta exampleAuthority
      exampleAuthority 10),
    (exampleNow, .upsertPopConfig exampleAuthority exampleSigner)]

/-- The accounts after `exampleSetup`. -/
def exampleOpened : World := run exampleRuntime exampleWallets exampleSetup

/-- The example grant with the claimer's allowlist. -/
def exampleAllowlistGrant : Grant := { exampleOpenGrant with merkleRoot := exampleRoot }

/-- The accounts once the authority has also set the claimer's allowlist. -/
def exampleClaimWorld : World :=
  run exampleRuntime exampleOpened
    [(exampleNow, .setAllowlistRoot exampleGrantKey exampleMint exampleAuthority exampleRoot)]

/-- The accounts after the claim, through `claim_grant_with_proof` with the empty proof. -/
def exampleClaimAfter : World :=
  run exampleRuntime exampleClaimWorld [(exampleNow, .claimGrantWithProof exampleClaimAccounts 3 [])]

set_option maxRecDepth 4000 in
/-- The claim keeps the example grant as it is. -/
theorem execute_grant_frame_exampleClaim :
    execute exampleRuntime exampleNow exampleClaimWorld
        (.claimGrantWithProof exampleClaimAccounts 3 []) = .ok exampleClaimAfter ∧
    exampleClaimWorld.grants exampleGrantKey = some exampleAllowlistGrant ∧
    (∀ a m id amt p s e, ProgramInstruction.claimGrantWithProof exampleClaimAccounts 3 [] =
        .createGrant a m id amt p s e →
      (exampleRuntime.findProgramAddress (grantSeeds a m id)).1 = exampleGrantKey →
      exampleClaimAfter.grants exampleGrantKey =
        some ⟨a, m, (exampleRuntime.findProgramAddress (vaultSeeds exampleGrantKey)).1, id, amt,
          p, s, e, Bytes32.zero, false, (exampleRuntime.findProgramAddress (grantSeeds a m id)).2⟩) ∧
    (¬(ProgramInstruction.claimGrantWithProof exampleClaimAccounts 3 []).CreatesAt exampleRuntime
        exampleGrantKey →
      (exampleClaimAfter.grants exampleGrantKey = none ∧ ∃ m ata a,
        ProgramInstruction.claimGrantWithProof exampleClaimAccounts 3 [] =
          .closeGrant exampleGrantKey m ata a) ∨
      ∃ grant', exampleClaimAfter.grants exampleGrantKey = some grant' ∧
        grant'.SameTerms exampleAllowlistGrant ∧
        (grant'.paused ≠ exampleAllowlistGrant.paused → ∃ m a,
          ProgramInstruction.claimGrantWithProof exampleClaimAccounts 3 [] =
            .setPaused exampleGrantKey m a grant'.paused) ∧
        (grant'.merkleRoot ≠ exampleAllowlistGrant.merkleRoot → ∃ m a,
          ProgramInstruction.claimGrantWithProof exampleClaimAccounts 3 [] =
            .setAllowlistRoot exampleGrantKey m a grant'.merkleRoot)) :=
  have h : execute exampleRuntime exampleNow exampleClaimWorld
      (.claimGrantWithProof exampleClaimAccounts 3 []) = .ok exampleClaimAfter := rfl
  have hg : exampleClaimWorld.grants exampleGrantKey = some exampleAllowlistGrant := by decide
  ⟨h, hg, execute_grant_frame exampleRuntime exampleNow exampleClaimWorld exampleClaimAfter _
    exampleGrantKey exampleAllowlistGrant h hg⟩

/-! ### The two entry points -/

/-- Neither the account checks nor the shared part read the allowlist root. -/
theorem loadClaimGrant_setRoot (rt : Runtime) (w : World) (acc : ClaimAccounts) (k : UInt64)
    {g : Grant} (hg : w.grants acc.grant = some g) (r : Hash) :
    loadClaimGrant rt { w with grants := (Function.update w.grants acc.grant
        (some { g with merkleRoot := r })) } acc k =
      (fun ctx => { ctx with grant := { ctx.grant with merkleRoot := r } }) <$>
        loadClaimGrant rt w acc k := by
  simp only [loadClaimGrant, Function.update_same, hg, loadAccount, ok_bind, map_bind]
  rfl

theorem settleClaim_setRoot (rt : Runtime) (now : I64) (w : World) (acc : ClaimAccounts)
    (k : UInt64) (ctx : ClaimContext) (r : Hash) :
    settleClaim rt now w acc k { ctx with grant := { ctx.grant with merkleRoot := r } } =
      settleClaim rt now w acc k ctx := rfl

/-- The shared part writes every account kind but the grants. -/
theorem settleClaim_with_grants (rt : Runtime) (now : I64) (w : World) (acc : ClaimAccounts)
    (k : UInt64) (ctx : ClaimContext) (G : Pubkey → Option Grant) :
    settleClaim rt now { w with grants := G } acc k ctx =
      (fun w' => { w' with grants := G }) <$> settleClaim rt now w acc k ctx := by
  unfold settleClaim
  split
  · rfl
  · rcases requireClaimTiming ctx.grant now k with e | ⟨⟩
    · rfl
    · rcases transferFromVault acc.grant ctx.vault acc.mint ctx.claimerAta ctx.grant.amountPerPeriod
        with e | ⟨v, a⟩ <;> rfl

/-- **The two claim handlers differ only in the allowlist gate.**  Once a proof verifies against a
grant's non-zero root, `claim_grant_with_proof` does what `claim_grant` does on the same accounts
with the root reset to zero: the same error, or the same accounts apart from the grant's root. -/
theorem claimGrantWithProof_eq_claimGrant (rt : Runtime) (now : I64) (w : World)
    (acc : ClaimAccounts) (k : UInt64) (p : List Hash) (g : Grant)
    (hg : w.grants acc.grant = some g) (hr : g.merkleRoot ≠ Bytes32.zero)
    (hv : verifyMerkleSorted rt.sha256 g.merkleRoot (allowlistLeaf rt.sha256 acc.claimer) p = true) :
    claimGrantWithProof rt now w acc k p =
      (fun w' => { w' with grants := w.grants }) <$>
        claimGrant rt now { w with grants := (Function.update w.grants acc.grant
          (some { g with merkleRoot := Bytes32.zero })) } acc k := by
  unfold claimGrantWithProof claimGrant
  rw [loadClaimGrant_setRoot rt w acc k hg]
  rcases hc : loadClaimGrant rt w acc k with e | ctx
  · rfl
  obtain rfl : ctx.grant = g :=
    Option.some_injective _ ((loadClaimGrant_eq_ok.1 hc).1.symm.trans hg)
  simp only [map_ok, ok_bind, settleClaim_setRoot, settleClaim_with_grants]
  by_cases hp : ctx.grant.paused
  · simp [require, hp]
  rcases hs : settleClaim rt now w acc k ctx with e | w'
  · simp [require, hp, hr, hv]
  · obtain ⟨-, -, -, -, -, -, -, rfl⟩ := settleClaim_eq_ok.1 hs
    simp [require, hp, hr, hv]

set_option maxRecDepth 4000 in
theorem claimGrantWithProof_eq_claimGrant_allowlisted :
    exampleClaimWorld.grants exampleGrantKey = some exampleAllowlistGrant ∧
    exampleAllowlistGrant.merkleRoot ≠ Bytes32.zero ∧
    verifyMerkleSorted exampleRuntime.sha256 exampleAllowlistGrant.merkleRoot
      (allowlistLeaf exampleRuntime.sha256 exampleClaimAccounts.claimer) [] = true ∧
    claimGrantWithProof exampleRuntime exampleNow exampleClaimWorld exampleClaimAccounts 3 [] =
      (fun w' => { w' with grants := exampleClaimWorld.grants }) <$>
        claimGrant exampleRuntime exampleNow { exampleClaimWorld with grants :=
          (Function.update exampleClaimWorld.grants exampleGrantKey
            (some { exampleAllowlistGrant with merkleRoot := Bytes32.zero })) }
          exampleClaimAccounts 3 :=
  have hg : exampleClaimWorld.grants exampleGrantKey = some exampleAllowlistGrant := by decide
  have hr : exampleAllowlistGrant.merkleRoot ≠ Bytes32.zero := by decide
  have hv : verifyMerkleSorted exampleRuntime.sha256 exampleAllowlistGrant.merkleRoot
      (allowlistLeaf exampleRuntime.sha256 exampleClaimAccounts.claimer) [] = true := by decide
  ⟨hg, hr, hv, claimGrantWithProof_eq_claimGrant exampleRuntime exampleNow exampleClaimWorld
    exampleClaimAccounts 3 [] exampleAllowlistGrant hg hr hv⟩

/-! ### Soundness of the gate -/

/-- **A claim on an allowlisted grant is a member's claim.**  Every successful claim, through
either entry point, on a grant whose root is non-zero went through `claim_grant_with_proof` with a
proof that verifies against the root; and for any tree of claimer keys with that root, the proof
either places the claimer at a leaf or exhibits two distinct preimages with one digest among the
hashing of the verification and of the tree. -/
theorem execute_claim_allowlisted (rt : Runtime) (now : I64) (w w' : World)
    (ix : ProgramInstruction) (acc : ClaimAccounts) (k : UInt64) (grant : Grant)
    (h : execute rt now w ix = .ok w') (hc : ix.claim? = some (acc, k))
    (hg : w.grants acc.grant = some grant) (hr : grant.merkleRoot ≠ Bytes32.zero) :
    ∃ p, ix = .claimGrantWithProof acc k p ∧
      verifyMerkleSorted rt.sha256 grant.merkleRoot (allowlistLeaf rt.sha256 acc.claimer) p = true ∧
      ∀ T : MerkleTree, T.root rt.sha256 = grant.merkleRoot →
        acc.claimer ∈ T.keys ∨
          Collision rt.sha256 (allowlistPreimages rt.sha256 acc.claimer p ++ T.preimages rt.sha256) := by
  obtain ⟨ctx, hl, -, -, hgate⟩ := execute_claim h hc
  obtain rfl : ctx.grant = grant :=
    Option.some_injective _ ((loadClaimGrant_eq_ok.1 hl).1.symm.trans hg)
  rcases hgate with ⟨-, hz⟩ | ⟨p, rfl, -, hv⟩
  · exact absurd hz hr
  · refine ⟨p, rfl, hv, fun T hT => ?_⟩
    rw [← hT] at hv
    exact verifyMerkleSorted_sound rt.sha256 T acc.claimer p hv

set_option maxRecDepth 4000 in
theorem execute_claim_allowlisted_example :
    execute exampleRuntime exampleNow exampleClaimWorld
        (.claimGrantWithProof exampleClaimAccounts 3 []) = .ok exampleClaimAfter ∧
    exampleClaimWorld.grants exampleGrantKey = some exampleAllowlistGrant ∧
    exampleAllowlistGrant.merkleRoot ≠ Bytes32.zero ∧
    ∃ p, ProgramInstruction.claimGrantWithProof exampleClaimAccounts 3 [] =
        .claimGrantWithProof exampleClaimAccounts 3 p ∧
      verifyMerkleSorted exampleRuntime.sha256 exampleAllowlistGrant.merkleRoot
        (allowlistLeaf exampleRuntime.sha256 exampleClaimer) p = true ∧
      ∀ T : MerkleTree, T.root exampleRuntime.sha256 = exampleAllowlistGrant.merkleRoot →
        exampleClaimer ∈ T.keys ∨ Collision exampleRuntime.sha256
          (allowlistPreimages exampleRuntime.sha256 exampleClaimer p ++
            T.preimages exampleRuntime.sha256) :=
  have h : execute exampleRuntime exampleNow exampleClaimWorld
      (.claimGrantWithProof exampleClaimAccounts 3 []) = .ok exampleClaimAfter := rfl
  have hg : exampleClaimWorld.grants exampleGrantKey = some exampleAllowlistGrant := by decide
  have hr : exampleAllowlistGrant.merkleRoot ≠ Bytes32.zero := by decide
  ⟨h, hg, hr, execute_claim_allowlisted exampleRuntime exampleNow exampleClaimWorld
    exampleClaimAfter (.claimGrantWithProof exampleClaimAccounts 3 []) exampleClaimAccounts 3
    exampleAllowlistGrant h rfl hg hr⟩

end GrantProgram
