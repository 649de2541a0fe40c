import GrantProgram.Accounts
import GrantProgram.Merkle

/-
**The program's instructions over its accounts.**

The program has eight instructions.  Each one is a transaction of its own: Anchor first checks and
loads the accounts its `#[derive(Accounts)]` struct names, the handler then runs, and if anything
fails the runtime discards every change.  So an instruction is a function from the accounts to
either an error or the new accounts, and nothing of a failed one is visible afterwards.

Anchor checks the accounts of a struct in three passes, and the loaders here follow them: it
first deserializes, in the order of the struct, every account that is not created (an
`Account<T>` must exist, an `Account<Mint>` must be a mint, a `SystemAccount` must be the System
Program's); it then creates the `init` and `init_if_needed` accounts, in order, each paid by its
`payer`; and it last checks the constraints of the other accounts, in order (`seeds` before
`has_one`, then the `constraint`s).  The first failing check is the instruction's error.

Accounts at program-derived addresses are keyed by the variable part of their seeds (the vault and
the chain state of a grant by the grant's address, a receipt by `(grant, claimer, period_index)`,
a signer registration by its authority), which is to say that the address derivation is taken to
be injective and that a client passes the derived addresses; their lamports are at the addresses
the derivation gives.  User token accounts are a separate map from the vaults: a vault is owned by
its grant's address, which cannot sign, so it can never be a user's account.  Signers sign and
`mut` accounts are writable, as the struct requires.  Two checks that only a signature from a
derived address could fail are left out: `close = authority` requires the grant not to be the
authority, and `close_account` the vault not to be the authority.

Main definitions:

* `GrantProgram.loadClaimGrant`, `GrantProgram.ClaimLoaded` — the account checks of `ClaimGrant`,
  and what they establish;
* `GrantProgram.settleClaim` — the part the two claim handlers share;
* `GrantProgram.createGrant`, …, `GrantProgram.upsertPopConfig` — the eight instructions, and
  `GrantProgram.execute`, which dispatches on `GrantProgram.ProgramInstruction`.
-/

set_option autoImplicit false

namespace GrantProgram

/-! ### Payments -/

/-- `transfer_from_vault`: the vault pays `amount`, signed by the grant's address. -/
def transferFromVault (grantKey : Pubkey) (vault : TokenAccount) (mint : Pubkey)
    (destination : TokenAccount) (amount : UInt64) :
    Except ProgramError (TokenAccount × TokenAccount) := do
  require (vault.amount ≥ amount.toNat) .insufficientFunds
  transferChecked vault destination mint grantKey amount.toNat

/-- The vault's own balance check repeats the token program's. -/
theorem transferFromVault_eq_ok {grantKey mint : Pubkey}
    {vault destination vault' destination' : TokenAccount} {amount : UInt64} :
    transferFromVault grantKey vault mint destination amount = .ok (vault', destination') ↔
      transferChecked vault destination mint grantKey amount.toNat = .ok (vault', destination') := by
  simp only [transferFromVault, require_bind_eq_ok, and_iff_right_iff_imp]
  exact fun h => (transferChecked_eq_ok.1 h).1

/-- `record_receipt`. -/
def recordReceipt (grant claimer : Pubkey) (periodIndex : UInt64) (claimedAt : I64) :
    ClaimReceipt :=
  ⟨grant, claimer, periodIndex, claimedAt⟩

/-! ### Claims -/

/-- The accounts a claim names: the grant, the mint, the claimer (the signer, who pays the rent
of the accounts the claim creates), the claimer's token account, and the instructions sysvar (the
transaction's instructions). -/
structure ClaimAccounts where
  grant : Pubkey
  mint : Pubkey
  claimer : Pubkey
  claimerAta : Pubkey
  sysvar : InstructionsSysvar

/-- The accounts of `ClaimGrant` once Anchor has loaded and checked them, and the lamports after
it has created the receipt and the chain state. -/
structure ClaimContext where
  grant : Grant
  vault : TokenAccount
  claimerAta : TokenAccount
  popState : PopState
  popStateBump : UInt8
  popConfig : PopConfig
  system : SystemState

/-- The account checks of `ClaimGrant`, in Anchor's order: the grant, the mint, the vault, the
claimer's token account and the authority's signer registration are loaded; the receipt of the
period (`init`) and the grant's chain state (`init_if_needed`) are created, the claimer paying
their rent; then the grant's seeds, the token account's mint and owner, and the registration's
bump and authority are checked. -/
def loadClaimGrant (rt : Runtime) (w : World) (acc : ClaimAccounts) (periodIndex : UInt64) :
    Except ProgramError ClaimContext := do
  let grant ← loadAccount (w.grants acc.grant)
  check (w.mints acc.mint) (.anchor .accountNotInitialized)
  let vault ← loadAccount (w.vaults acc.grant)
  let claimerAta ← loadAccount (w.tokenAccounts acc.claimerAta)
  let popConfig ← loadAccount (w.popConfigs grant.authority)
  let system ← createAccount rt w.system acc.claimer
    (rt.findProgramAddress (receiptSeeds acc.grant acc.claimer periodIndex)).1
    (8 + ClaimReceipt.initSpace) (w.receipts (acc.grant, acc.claimer, periodIndex)).isSome
  let system ← initIfNeeded rt system acc.claimer (rt.findProgramAddress (popStateSeeds acc.grant)).1
    (8 + PopState.initSpace) (w.popStates acc.grant).isSome
  check (rt.findProgramAddress (grantSeeds grant.authority grant.mint grant.grantId) =
    (acc.grant, grant.bump)) (.anchor .constraintSeeds)
  require (claimerAta.mint = acc.mint) .mintMismatch
  require (claimerAta.owner = acc.claimer) .unauthorized
  check ((rt.findProgramAddress (popConfigSeeds grant.authority)).2 = popConfig.bump)
    (.anchor .constraintSeeds)
  require (popConfig.authority = grant.authority) .invalidPopConfigAuthority
  pure ⟨grant, vault, claimerAta, (w.popStates acc.grant).getD PopState.empty,
    (rt.findProgramAddress (popStateSeeds acc.grant)).2, popConfig, system⟩

/-- What the account checks of a claim establish about the context `ctx` they load. -/
structure ClaimLoaded (rt : Runtime) (w : World) (acc : ClaimAccounts) (k : UInt64)
    (ctx : ClaimContext) : Prop where
  /-- The grant exists. -/
  grant : w.grants acc.grant = some ctx.grant
  /-- The mint account is a mint. -/
  mint : w.mints acc.mint = true
  /-- The grant's vault exists. -/
  vault : w.vaults acc.grant = some ctx.vault
  /-- The claimer's token account exists. -/
  claimerAta : w.tokenAccounts acc.claimerAta = some ctx.claimerAta
  /-- The authority's signer registration exists. -/
  popConfig : w.popConfigs ctx.grant.authority = some ctx.popConfig
  /-- The claimer pays for the receipt, and then for the chain state if it does not exist. -/
  rent : ∃ s, createAccount rt w.system acc.claimer
      (rt.findProgramAddress (receiptSeeds acc.grant acc.claimer k)).1 (8 + ClaimReceipt.initSpace)
      (w.receipts (acc.grant, acc.claimer, k)).isSome = .ok s ∧
    initIfNeeded rt s acc.claimer (rt.findProgramAddress (popStateSeeds acc.grant)).1
      (8 + PopState.initSpace) (w.popStates acc.grant).isSome = .ok ctx.system
  /-- The grant is at the address of its seeds, with its bump. -/
  seeds : rt.findProgramAddress (grantSeeds ctx.grant.authority ctx.grant.mint ctx.grant.grantId) =
    (acc.grant, ctx.grant.bump)
  /-- The claimer's token account is of the claim's mint. -/
  ataMint : ctx.claimerAta.mint = acc.mint
  /-- The claimer owns its token account. -/
  ataOwner : ctx.claimerAta.owner = acc.claimer
  /-- The chain state, or the zeroed one `init_if_needed` creates. -/
  popState : ctx.popState = (w.popStates acc.grant).getD PopState.empty
  /-- The chain state's bump. -/
  popStateBump : ctx.popStateBump = (rt.findProgramAddress (popStateSeeds acc.grant)).2
  /-- The registration's bump is the one of its address. -/
  popConfigBump : (rt.findProgramAddress (popConfigSeeds ctx.grant.authority)).2 = ctx.popConfig.bump
  /-- The registration names the grant's authority. -/
  popConfigAuthority : ctx.popConfig.authority = ctx.grant.authority

/-- What both claim handlers do once their own gate has passed (lines 112–135 of `claim_grant`,
and the same lines 247–266 of `claim_grant_with_proof`): verify and record the proof of process,
check the timing, pay `amount_per_period` from the vault, and write the receipt. -/
def settleClaim (rt : Runtime) (now : I64) (w : World) (acc : ClaimAccounts)
    (periodIndex : UInt64) (ctx : ClaimContext) : Except ProgramError World :=
  match (verifyAndRecordPopProof rt.sha256 acc.sysvar ctx.popConfig acc.grant acc.claimer
      periodIndex now ctx.popStateBump).run ctx.popState with
  | .error e _ => .error e
  | .ok () popState => do
      requireClaimTiming ctx.grant now periodIndex
      let (vault, claimerAta) ← transferFromVault acc.grant ctx.vault acc.mint ctx.claimerAta
        ctx.grant.amountPerPeriod
      let receipt := recordReceipt acc.grant acc.claimer periodIndex now
      pure { w with
        vaults := Function.update w.vaults acc.grant (some vault)
        tokenAccounts := Function.update w.tokenAccounts acc.claimerAta (some claimerAta)
        receipts := Function.update w.receipts (acc.grant, acc.claimer, periodIndex) (some receipt)
        popStates := Function.update w.popStates acc.grant (some popState)
        system := ctx.system }

/-- `claim_grant`: a claim on a grant without an allowlist. -/
def claimGrant (rt : Runtime) (now : I64) (w : World) (acc : ClaimAccounts)
    (periodIndex : UInt64) : Except ProgramError World := do
  let ctx ← loadClaimGrant rt w acc periodIndex
  require (¬ctx.grant.paused) .paused
  require (ctx.grant.merkleRoot = Bytes32.zero) .allowlistRequired
  settleClaim rt now w acc periodIndex ctx

/-- `claim_grant_with_proof`: a claim on a grant with an allowlist, with the claimer's proof. -/
def claimGrantWithProof (rt : Runtime) (now : I64) (w : World) (acc : ClaimAccounts)
    (periodIndex : UInt64) (proof : List Hash) : Except ProgramError World := do
  let ctx ← loadClaimGrant rt w acc periodIndex
  require (¬ctx.grant.paused) .paused
  require (ctx.grant.merkleRoot ≠ Bytes32.zero) .allowlistNotEnabled
  let leaf := allowlistLeaf rt.sha256 acc.claimer
  require (verifyMerkleSorted rt.sha256 ctx.grant.merkleRoot leaf proof = true) .notInAllowlist
  settleClaim rt now w acc periodIndex ctx

/-! ### What a claim does -/

/-- **The account checks of a claim**, all of them. -/
theorem loadClaimGrant_eq_ok {rt : Runtime} {w : World} {acc : ClaimAccounts} {k : UInt64}
    {ctx : ClaimContext} : loadClaimGrant rt w acc k = .ok ctx ↔ ClaimLoaded rt w acc k ctx := by
  simp only [loadClaimGrant, bind_eq_ok, loadAccount_eq_ok, check_eq_ok, require_eq_ok,
    exists_const, pure_eq_ok, Except.ok.injEq]
  constructor
  · rintro ⟨g, hg, hm, v, hv, a, ha, pc, hpc, s₁, hs₁, s₂, hs₂, hs, hmint, ho, hb, hpa, rfl⟩
    exact ⟨hg, hm, hv, ha, hpc, ⟨s₁, hs₁, hs₂⟩, hs, hmint, ho, rfl, rfl, hb, hpa⟩
  · obtain ⟨g, v, a, ps, b, pc, s⟩ := ctx
    rintro ⟨hg, hm, hv, ha, hpc, ⟨s₁, hs₁, hs₂⟩, hs, hmint, ho, rfl, rfl, hb, hpa⟩
    exact ⟨g, hg, hm, v, hv, a, ha, pc, hpc, s₁, hs₁, s, hs₂, hs, hmint, ho, hb, hpa, rfl⟩

/-- A claim's receipt is new: its creation fails on an address in use. -/
theorem ClaimLoaded.fresh {rt : Runtime} {w : World} {acc : ClaimAccounts} {k : UInt64}
    {ctx : ClaimContext} (h : ClaimLoaded rt w acc k ctx) :
    w.receipts (acc.grant, acc.claimer, k) = none := by
  obtain ⟨s, hs, -⟩ := h.rent
  simpa using (createAccount_eq_ok.1 hs).2.1

/-- **The shared part of a claim**: the proof of process verifies and extends the chain, the
timing passes, the vault pays `amount_per_period`, and the vault, the claimer's account, the
fresh receipt, the chain state and the lamports of the account creations are written. -/
theorem settleClaim_eq_ok {rt : Runtime} {now : I64} {w : World} {acc : ClaimAccounts}
    {k : UInt64} {ctx : ClaimContext} {w' : World} :
    settleClaim rt now w acc k ctx = .ok w' ↔ ∃ m vault claimerAta,
      verifyPopProof rt.sha256 acc.sysvar ctx.popConfig acc.grant acc.claimer k now = .ok m ∧
      ctx.popState.Extends acc.grant m ∧ requireClaimTiming ctx.grant now k = .ok () ∧
      transferFromVault acc.grant ctx.vault acc.mint ctx.claimerAta ctx.grant.amountPerPeriod =
        .ok (vault, claimerAta) ∧
      w' = { w with
        vaults := Function.update w.vaults acc.grant (some vault)
        tokenAccounts := Function.update w.tokenAccounts acc.claimerAta (some claimerAta)
        receipts := Function.update w.receipts (acc.grant, acc.claimer, k)
          (some (recordReceipt acc.grant acc.claimer k now))
        popStates := Function.update w.popStates acc.grant
          (some (ctx.popState.advance acc.grant ctx.popStateBump m))
        system := ctx.system } := by
  unfold settleClaim
  split
  · rename_i e s' hr
    simp only [reduceCtorEq, false_iff, not_exists, not_and]
    intro m v a hv hx
    have : (verifyAndRecordPopProof rt.sha256 acc.sysvar ctx.popConfig acc.grant acc.claimer k now
        ctx.popStateBump).run ctx.popState = .ok () (ctx.popState.advance acc.grant ctx.popStateBump m) :=
      verifyAndRecordPopProof_run_ok.2 ⟨m, hv, hx, rfl⟩
    rw [hr] at this
    cases this
  · rename_i s' hr
    obtain ⟨m, hv, hx, rfl⟩ := verifyAndRecordPopProof_run_ok.1 hr
    simp only [bind_eq_ok, Prod.exists, pure_eq_ok, Except.ok.injEq]
    constructor
    · rintro ⟨u, ht, v, a, hta, rfl⟩
      exact ⟨m, v, a, hv, hx, ht, hta, rfl⟩
    · rintro ⟨m', v, a, hv', _, ht, hta, rfl⟩
      obtain rfl : m = m' := Except.ok.inj (hv.symm.trans hv')
      exact ⟨(), ht, v, a, hta, rfl⟩

theorem settleClaim_grants {rt : Runtime} {now : I64} {w : World} {acc : ClaimAccounts}
    {k : UInt64} {ctx : ClaimContext} {w' : World} (h : settleClaim rt now w acc k ctx = .ok w') :
    w'.grants = w.grants := by
  obtain ⟨_, _, _, _, _, _, _, rfl⟩ := settleClaim_eq_ok.1 h
  rfl

theorem claimGrant_eq_ok {rt : Runtime} {now : I64} {w : World} {acc : ClaimAccounts}
    {k : UInt64} {w' : World} :
    claimGrant rt now w acc k = .ok w' ↔ ∃ ctx, loadClaimGrant rt w acc k = .ok ctx ∧
      ctx.grant.paused = false ∧ ctx.grant.merkleRoot = Bytes32.zero ∧
      settleClaim rt now w acc k ctx = .ok w' := by
  simp [claimGrant, bind_eq_ok]

theorem claimGrantWithProof_eq_ok {rt : Runtime} {now : I64} {w : World} {acc : ClaimAccounts}
    {k : UInt64} {p : List Hash} {w' : World} :
    claimGrantWithProof rt now w acc k p = .ok w' ↔ ∃ ctx, loadClaimGrant rt w acc k = .ok ctx ∧
      ctx.grant.paused = false ∧ ctx.grant.merkleRoot ≠ Bytes32.zero ∧
      verifyMerkleSorted rt.sha256 ctx.grant.merkleRoot (allowlistLeaf rt.sha256 acc.claimer) p =
        true ∧
      settleClaim rt now w acc k ctx = .ok w' := by
  simp [claimGrantWithProof, bind_eq_ok]

/-! ### Administration -/

/-- The vault of `CreateGrant` (`init_if_needed`, `token::mint = mint`, `token::authority = grant`,
paid by `payer`): a new empty token account at the vault's address, or the existing one if it is
of the mint and owned by the grant's address.  The token program's `initialize_account3` of a new
vault does not fail: the mint is a mint, and the creation leaves the rent-exempt minimum. -/
def initVault (rt : Runtime) (w : World) (s : SystemState) (payer grantKey mint : Pubkey) :
    Except ProgramError (TokenAccount × SystemState) :=
  match w.vaults grantKey with
  | none => do
      let s ← createAccount rt s payer (rt.findProgramAddress (vaultSeeds grantKey)).1
        TokenAccount.len false
      pure (⟨mint, grantKey, 0⟩, s)
  | some v => do
      check (v.mint = mint) (.anchor .constraintTokenMint)
      check (v.owner = grantKey) (.anchor .constraintTokenOwner)
      pure (v, s)

/-- `create_grant`: creates the grant at the address of its seeds, or rewrites it if it exists
(`init_if_needed`), together with its vault, the authority paying the rent of what it creates. -/
def createGrant (rt : Runtime) (now : I64) (w : World) (authority mint : Pubkey)
    (grantId amountPerPeriod : UInt64) (periodSeconds startTs expiresAt : I64) :
    Except ProgramError World := do
  check (w.mints mint) (.anchor .accountNotInitialized)
  let (grantKey, grantBump) := rt.findProgramAddress (grantSeeds authority mint grantId)
  let system ← initIfNeeded rt w.system authority grantKey (8 + Grant.initSpace)
    (w.grants grantKey).isSome
  let (vault, system) ← initVault rt w system authority grantKey mint
  require (amountPerPeriod > 0) .invalidAmount
  require (periodSeconds.toInt > 0) .invalidPeriod
  -- `now + 365 * 24 * 60 * 60`, with the overflow check
  let latestStart ← orPanic (now.checkedAdd ⟨31536000, by unfold i64Min; omega,
    by unfold i64Max; omega⟩)
  require (startTs.toInt ≤ latestStart.toInt) .invalidStartTs
  let grant : Grant :=
    { authority := authority, mint := mint
      vault := (rt.findProgramAddress (vaultSeeds grantKey)).1, grantId := grantId
      amountPerPeriod := amountPerPeriod, periodSeconds := periodSeconds, startTs := startTs
      expiresAt := expiresAt, merkleRoot := Bytes32.zero, paused := false, bump := grantBump }
  pure { w with grants := Function.update w.grants grantKey (some grant)
                vaults := Function.update w.vaults grantKey (some vault)
                system := system }

/-- The constraints `FundGrant`, `CloseGrant`, `SetPaused` and `SetAllowlistRoot` put on their
grant, in Anchor's order: `seeds = [b"grant", authority, mint, grant_id]` with
`bump = grant.bump`, then `has_one = authority`. -/
def checkOwnedGrant (rt : Runtime) (grantKey mint authority : Pubkey) (grant : Grant) :
    Except ProgramError Unit := do
  check (rt.findProgramAddress (grantSeeds authority mint grant.grantId) = (grantKey, grant.bump))
    (.anchor .constraintSeeds)
  check (grant.authority = authority) (.anchor .constraintHasOne)

/-- The account checks of `SetPaused` and `SetAllowlistRoot`: the grant and the mint, then the
grant's constraints. -/
def loadOwnedGrant (rt : Runtime) (w : World) (grantKey mint authority : Pubkey) :
    Except ProgramError Grant := do
  let grant ← loadAccount (w.grants grantKey)
  check (w.mints mint) (.anchor .accountNotInitialized)
  checkOwnedGrant rt grantKey mint authority grant
  pure grant

/-- `fund_grant`: `funder` pays `amount` into the vault from its token account.  Its struct
names the grant's authority as a `SystemAccount`, which must be the System Program's, where the
other structs take a signer. -/
def fundGrant (rt : Runtime) (w : World) (grantKey mint fromAta funder authority : Pubkey)
    (amount : UInt64) : Except ProgramError World := do
  let grant ← loadAccount (w.grants grantKey)
  check (w.mints mint) (.anchor .accountNotInitialized)
  let vault ← loadAccount (w.vaults grantKey)
  let source ← loadAccount (w.tokenAccounts fromAta)
  check (w.system.systemOwned authority) (.anchor .accountNotSystemOwned)
  checkOwnedGrant rt grantKey mint authority grant
  require (source.mint = mint) .mintMismatch
  require (source.owner = funder) .unauthorized
  require (amount > 0) .invalidAmount
  require (grant.mint = mint) .mintMismatch
  require (vault.mint = mint) .mintMismatch
  let (source, vault) ← transferChecked source vault mint funder amount.toNat
  pure { w with tokenAccounts := Function.update w.tokenAccounts fromAta (some source)
                vaults := Function.update w.vaults grantKey (some vault) }

/-- `close_grant`: the vault's balance goes back to the authority, then the vault
(`close_account`) and the grant (`close = authority`) are closed, their lamports going to the
authority. -/
def closeGrant (rt : Runtime) (w : World) (grantKey mint authorityAta authority : Pubkey) :
    Except ProgramError World := do
  let grant ← loadAccount (w.grants grantKey)
  check (w.mints mint) (.anchor .accountNotInitialized)
  let vault ← loadAccount (w.vaults grantKey)
  let destination ← loadAccount (w.tokenAccounts authorityAta)
  checkOwnedGrant rt grantKey mint authority grant
  require (destination.mint = mint) .mintMismatch
  require (destination.owner = authority) .unauthorized
  let destination ← if vault.amount > 0 then do
      let (_, destination) ← transferChecked vault destination mint grantKey vault.amount
      pure destination
    else pure destination
  let system := (w.system.close (rt.findProgramAddress (vaultSeeds grantKey)).1 authority).close
    grantKey authority
  pure { w with tokenAccounts := Function.update w.tokenAccounts authorityAta (some destination)
                vaults := Function.update w.vaults grantKey none
                grants := Function.update w.grants grantKey none
                system := system }

/-- `set_paused`. -/
def setPaused (rt : Runtime) (w : World) (grantKey mint authority : Pubkey) (paused : Bool) :
    Except ProgramError World := do
  let grant ← loadOwnedGrant rt w grantKey mint authority
  let grant := { grant with paused := paused }
  pure { w with grants := Function.update w.grants grantKey (some grant) }

/-- `set_allowlist_root`. -/
def setAllowlistRoot (rt : Runtime) (w : World) (grantKey mint authority : Pubkey)
    (merkleRoot : Hash) : Except ProgramError World := do
  let grant ← loadOwnedGrant rt w grantKey mint authority
  let grant := { grant with merkleRoot := merkleRoot }
  pure { w with grants := Function.update w.grants grantKey (some grant) }

/-- `upsert_pop_config`: the authority registers its signer (`init_if_needed`, paid by the
authority). -/
def upsertPopConfig (rt : Runtime) (w : World) (authority signerPubkey : Pubkey) :
    Except ProgramError World := do
  let (popConfigKey, bump) := rt.findProgramAddress (popConfigSeeds authority)
  let system ← initIfNeeded rt w.system authority popConfigKey (8 + PopConfig.initSpace)
    (w.popConfigs authority).isSome
  let popConfig : PopConfig := ⟨authority, signerPubkey, bump⟩
  pure { w with popConfigs := Function.update w.popConfigs authority (some popConfig)
                system := system }

/-! ### What an administrative instruction does -/

theorem checkOwnedGrant_eq_ok {rt : Runtime} {grantKey mint authority : Pubkey} {grant : Grant}
    {u : Unit} : checkOwnedGrant rt grantKey mint authority grant = .ok u ↔
      rt.findProgramAddress (grantSeeds authority mint grant.grantId) = (grantKey, grant.bump) ∧
        grant.authority = authority := by
  simp [checkOwnedGrant, check_bind_eq_ok]

theorem loadOwnedGrant_eq_ok {rt : Runtime} {w : World} {grantKey mint authority : Pubkey}
    {grant : Grant} :
    loadOwnedGrant rt w grantKey mint authority = .ok grant ↔
      w.grants grantKey = some grant ∧ w.mints mint = true ∧
      rt.findProgramAddress (grantSeeds authority mint grant.grantId) = (grantKey, grant.bump) ∧
      grant.authority = authority := by
  simp only [loadOwnedGrant, bind_eq_ok, loadAccount_eq_ok, check_eq_ok, checkOwnedGrant_eq_ok,
    exists_const, pure_eq_ok, Except.ok.injEq]
  constructor
  · rintro ⟨g, hg, hm, ⟨hs, ha⟩, rfl⟩
    exact ⟨hg, hm, hs, ha⟩
  · rintro ⟨hg, hm, hs, ha⟩
    exact ⟨grant, hg, hm, ⟨hs, ha⟩, rfl⟩

/-- The vault `create_grant` writes: the one there, of the mint and owned by the grant's address,
or a new empty one the payer pays for. -/
theorem initVault_eq_ok {rt : Runtime} {w : World} {s s' : SystemState} {payer g mint : Pubkey}
    {v : TokenAccount} :
    initVault rt w s payer g mint = .ok (v, s') ↔
      (w.vaults g = none ∧ v = ⟨mint, g, 0⟩ ∧
        createAccount rt s payer (rt.findProgramAddress (vaultSeeds g)).1 TokenAccount.len false =
          .ok s') ∨
      (w.vaults g = some v ∧ v.mint = mint ∧ v.owner = g ∧ s' = s) := by
  unfold initVault
  split
  · rename_i hv
    simp only [hv, bind_eq_ok, pure_eq_ok, Except.ok.injEq, Prod.mk.injEq, true_and,
      reduceCtorEq, false_and, or_false]
    constructor
    · rintro ⟨t, ht, rfl, rfl⟩
      exact ⟨rfl, ht⟩
    · rintro ⟨rfl, ht⟩
      exact ⟨s', ht, rfl, rfl⟩
  · rename_i v₀ hv
    simp only [hv, check_bind_eq_ok, pure_eq_ok, Except.ok.injEq, Prod.mk.injEq, reduceCtorEq,
      false_and, Option.some.injEq, false_or]
    constructor
    · rintro ⟨hm, ho, rfl, rfl⟩
      exact ⟨rfl, hm, ho, rfl⟩
    · rintro ⟨rfl, hm, ho, rfl⟩
      exact ⟨hm, ho, rfl, rfl⟩

/-- `create_grant` checks the mint, creates or keeps the grant's account and its vault, validates
its arguments, and writes the grant at the address of its seeds, with no allowlist and unpaused,
and the vault. -/
theorem createGrant_eq_ok {rt : Runtime} {now : I64} {w : World} {authority mint : Pubkey}
    {grantId amountPerPeriod : UInt64} {periodSeconds startTs expiresAt : I64} {w' : World}
    (h : createGrant rt now w authority mint grantId amountPerPeriod periodSeconds startTs
      expiresAt = .ok w') :
    w.mints mint = true ∧ 0 < amountPerPeriod ∧ 0 < periodSeconds.toInt ∧ ∃ s vault system,
      initIfNeeded rt w.system authority (rt.findProgramAddress (grantSeeds authority mint grantId)).1
        (8 + Grant.initSpace)
        (w.grants (rt.findProgramAddress (grantSeeds authority mint grantId)).1).isSome = .ok s ∧
      initVault rt w s authority (rt.findProgramAddress (grantSeeds authority mint grantId)).1 mint =
        .ok (vault, system) ∧ w' = { w with
      grants := Function.update w.grants (rt.findProgramAddress (grantSeeds authority mint grantId)).1
        (some ⟨authority, mint,
          (rt.findProgramAddress (vaultSeeds (rt.findProgramAddress
            (grantSeeds authority mint grantId)).1)).1,
          grantId, amountPerPeriod, periodSeconds, startTs, expiresAt, Bytes32.zero, false,
          (rt.findProgramAddress (grantSeeds authority mint grantId)).2⟩)
      vaults := Function.update w.vaults (rt.findProgramAddress (grantSeeds authority mint grantId)).1
        (some vault)
      system := system } := by
  simp only [createGrant, bind_eq_ok, check_eq_ok, require_eq_ok, exists_const, pure_eq_ok,
    Prod.exists] at h
  obtain ⟨hm, s, hs, vault, system, hv, ha, hp, t, -, -, h⟩ := h
  exact ⟨hm, ha, hp, s, vault, system, hs, hv, (Except.ok.inj h).symm⟩

theorem fundGrant_eq_ok {rt : Runtime} {w : World} {grantKey mint fromAta funder authority : Pubkey}
    {amount : UInt64} {w' : World}
    (h : fundGrant rt w grantKey mint fromAta funder authority amount = .ok w') :
    ∃ source vault, w' = { w with
      tokenAccounts := Function.update w.tokenAccounts fromAta (some source)
      vaults := Function.update w.vaults grantKey (some vault) } := by
  simp only [fundGrant, bind_eq_ok, loadAccount_eq_ok, check_eq_ok, checkOwnedGrant_eq_ok,
    require_eq_ok, exists_const, pure_eq_ok, Prod.exists] at h
  obtain ⟨-, -, -, -, -, -, -, -, -, -, -, -, -, -, source, vault, -, h⟩ := h
  exact ⟨source, vault, (Except.ok.inj h).symm⟩

theorem closeGrant_eq_ok {rt : Runtime} {w : World} {grantKey mint authorityAta authority : Pubkey}
    {w' : World} (h : closeGrant rt w grantKey mint authorityAta authority = .ok w') :
    ∃ destination, w' = { w with
      tokenAccounts := Function.update w.tokenAccounts authorityAta (some destination)
      vaults := Function.update w.vaults grantKey none
      grants := Function.update w.grants grantKey none
      system := (w.system.close (rt.findProgramAddress (vaultSeeds grantKey)).1 authority).close
        grantKey authority } := by
  simp only [closeGrant, bind_eq_ok, loadAccount_eq_ok, check_eq_ok, checkOwnedGrant_eq_ok,
    require_eq_ok, exists_const, pure_eq_ok] at h
  obtain ⟨-, -, -, vault, -, destination, -, -, -, -, h⟩ := h
  split_ifs at h
  · obtain ⟨⟨_, destination⟩, -, h⟩ := bind_eq_ok.1 h
    exact ⟨destination, (Except.ok.inj h).symm⟩
  · exact ⟨destination, (Except.ok.inj h).symm⟩

theorem setPaused_eq_ok {rt : Runtime} {w : World} {grantKey mint authority : Pubkey}
    {paused : Bool} {w' : World} (h : setPaused rt w grantKey mint authority paused = .ok w') :
    ∃ grant, loadOwnedGrant rt w grantKey mint authority = .ok grant ∧
      w' = { w with grants := Function.update w.grants grantKey (some { grant with paused := paused }) } := by
  simp only [setPaused, bind_eq_ok, pure_eq_ok] at h
  obtain ⟨grant, hg, h⟩ := h
  exact ⟨grant, hg, (Except.ok.inj h).symm⟩

theorem setAllowlistRoot_eq_ok {rt : Runtime} {w : World} {grantKey mint authority : Pubkey}
    {merkleRoot : Hash} {w' : World}
    (h : setAllowlistRoot rt w grantKey mint authority merkleRoot = .ok w') :
    ∃ grant, loadOwnedGrant rt w grantKey mint authority = .ok grant ∧
      w' = { w with grants :=
        Function.update w.grants grantKey (some { grant with merkleRoot := merkleRoot }) } := by
  simp only [setAllowlistRoot, bind_eq_ok, pure_eq_ok] at h
  obtain ⟨grant, hg, h⟩ := h
  exact ⟨grant, hg, (Except.ok.inj h).symm⟩

theorem upsertPopConfig_eq_ok {rt : Runtime} {w : World} {authority signerPubkey : Pubkey}
    {w' : World} (h : upsertPopConfig rt w authority signerPubkey = .ok w') :
    ∃ system, w' = { w with
      popConfigs := Function.update w.popConfigs authority
        (some ⟨authority, signerPubkey, (rt.findProgramAddress (popConfigSeeds authority)).2⟩)
      system := system } := by
  simp only [upsertPopConfig, bind_eq_ok, pure_eq_ok] at h
  obtain ⟨system, -, h⟩ := h
  exact ⟨system, (Except.ok.inj h).symm⟩

/-! ### Dispatch -/

/-- The program's instructions with their arguments and accounts. -/
inductive ProgramInstruction
  | createGrant (authority mint : Pubkey) (grantId amountPerPeriod : UInt64)
      (periodSeconds startTs expiresAt : I64)
  | fundGrant (grant mint fromAta funder authority : Pubkey) (amount : UInt64)
  | claimGrant (acc : ClaimAccounts) (periodIndex : UInt64)
  | closeGrant (grant mint authorityAta authority : Pubkey)
  | setPaused (grant mint authority : Pubkey) (paused : Bool)
  | setAllowlistRoot (grant mint authority : Pubkey) (merkleRoot : Hash)
  | upsertPopConfig (authority signerPubkey : Pubkey)
  | claimGrantWithProof (acc : ClaimAccounts) (periodIndex : UInt64) (proof : List Hash)

/-- One instruction at clock `now`: the new accounts, or the error that discards it. -/
def execute (rt : Runtime) (now : I64) (w : World) : ProgramInstruction → Except ProgramError World
  | .createGrant a m id amt p s e => createGrant rt now w a m id amt p s e
  | .fundGrant g m src f a amt => fundGrant rt w g m src f a amt
  | .claimGrant acc k => claimGrant rt now w acc k
  | .closeGrant g m ata a => closeGrant rt w g m ata a
  | .setPaused g m a b => setPaused rt w g m a b
  | .setAllowlistRoot g m a r => setAllowlistRoot rt w g m a r
  | .upsertPopConfig a s => upsertPopConfig rt w a s
  | .claimGrantWithProof acc k p => claimGrantWithProof rt now w acc k p

/-- The accounts and the period of a claim, through either entry point. -/
def ProgramInstruction.claim? : ProgramInstruction → Option (ClaimAccounts × UInt64)
  | .claimGrant acc k => some (acc, k)
  | .claimGrantWithProof acc k _ => some (acc, k)
  | _ => none

section Dispatch

variable {rt : Runtime} {now : I64} {w w' : World} {ix : ProgramInstruction}

/-- **What a successful claim does**, through either entry point: the account checks pass, the
grant is not paused, the entry point's allowlist gate passes, and the shared part runs. -/
theorem execute_claim {acc : ClaimAccounts} {k : UInt64} (h : execute rt now w ix = .ok w')
    (hc : ix.claim? = some (acc, k)) :
    ∃ ctx, loadClaimGrant rt w acc k = .ok ctx ∧ ctx.grant.paused = false ∧
      settleClaim rt now w acc k ctx = .ok w' ∧
      (ix = .claimGrant acc k ∧ ctx.grant.merkleRoot = Bytes32.zero ∨
        ∃ p, ix = .claimGrantWithProof acc k p ∧ ctx.grant.merkleRoot ≠ Bytes32.zero ∧
          verifyMerkleSorted rt.sha256 ctx.grant.merkleRoot (allowlistLeaf rt.sha256 acc.claimer) p =
            true) := by
  cases ix <;> simp only [ProgramInstruction.claim?, reduceCtorEq, Option.some.injEq,
    Prod.mk.injEq] at hc
  case claimGrant =>
    obtain ⟨rfl, rfl⟩ := hc
    obtain ⟨ctx, hl, hp, hr, hs⟩ := claimGrant_eq_ok.1 h
    exact ⟨ctx, hl, hp, hs, .inl ⟨rfl, hr⟩⟩
  case claimGrantWithProof p =>
    obtain ⟨rfl, rfl⟩ := hc
    obtain ⟨ctx, hl, hp, hr, hv, hs⟩ := claimGrantWithProof_eq_ok.1 h
    exact ⟨ctx, hl, hp, hs, .inr ⟨p, rfl, hr, hv⟩⟩

/-- Only claims write receipts and chain states. -/
theorem execute_of_claim?_eq_none (h : execute rt now w ix = .ok w') (hc : ix.claim? = none) :
    w'.receipts = w.receipts ∧ w'.popStates = w.popStates := by
  cases ix with
  | createGrant => obtain ⟨-, -, -, _, _, _, -, -, rfl⟩ := createGrant_eq_ok h; exact ⟨rfl, rfl⟩
  | fundGrant => obtain ⟨_, _, rfl⟩ := fundGrant_eq_ok h; exact ⟨rfl, rfl⟩
  | closeGrant => obtain ⟨_, rfl⟩ := closeGrant_eq_ok h; exact ⟨rfl, rfl⟩
  | setPaused => obtain ⟨_, -, rfl⟩ := setPaused_eq_ok h; exact ⟨rfl, rfl⟩
  | setAllowlistRoot => obtain ⟨_, -, rfl⟩ := setAllowlistRoot_eq_ok h; exact ⟨rfl, rfl⟩
  | upsertPopConfig => obtain ⟨_, rfl⟩ := upsertPopConfig_eq_ok h; exact ⟨rfl, rfl⟩
  | claimGrant | claimGrantWithProof => cases hc

/-- No instruction creates or closes a mint. -/
theorem execute_mints (h : execute rt now w ix = .ok w') : w'.mints = w.mints := by
  cases ix with
  | createGrant => obtain ⟨-, -, -, _, _, _, -, -, rfl⟩ := createGrant_eq_ok h; rfl
  | fundGrant => obtain ⟨_, _, rfl⟩ := fundGrant_eq_ok h; rfl
  | closeGrant => obtain ⟨_, rfl⟩ := closeGrant_eq_ok h; rfl
  | setPaused => obtain ⟨_, -, rfl⟩ := setPaused_eq_ok h; rfl
  | setAllowlistRoot => obtain ⟨_, -, rfl⟩ := setAllowlistRoot_eq_ok h; rfl
  | upsertPopConfig => obtain ⟨_, rfl⟩ := upsertPopConfig_eq_ok h; rfl
  | claimGrant | claimGrantWithProof =>
    obtain ⟨ctx, -, -, hs, -⟩ := execute_claim h rfl
    obtain ⟨_, _, _, -, -, -, -, rfl⟩ := settleClaim_eq_ok.1 hs
    rfl

end Dispatch

end GrantProgram
