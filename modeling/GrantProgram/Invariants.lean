import GrantProgram.Tokens

/-
**Invariants of the accounts over every run.**

The account constraints of the program (`seeds`, `has_one`, `init`, `token::mint`,
`token::authority`) and the token program's checks are local: each looks at the accounts of one
instruction.  This module proves what they add up to over whole runs.

* Every run keeps the accounts well formed, and from accounts without a program account every run
  leaves them so: a grant and its vault exist together, the grant sits at the address of its
  seeds, is of a mint, and pays a positive amount over a positive period, the vault is of the
  grant's mint and owned by the grant's address, no token account reaches `2^64` tokens, every
  receipt and signer registration is stored under its own key, and every chain state is
  initialized and names its grant.  In particular `require_claim_timing` never meets a zero
  period, the chain state's grant check never fails, and of a claim's account checks those on the
  grant's seeds and bump, its vault, and the registration's address and authority never fail, in
  a reachable state.
* Receipts are never closed: `close_grant` closes the grant and its vault but leaves the receipts
  (and the chain state), so a grant created again at the same address finds them.  Over any run,
  whatever it closes and creates again, a claimer is paid at most once for a period of a grant
  address, and a signed proof of process, bound to its grant, claimer and period, is accepted at
  most once.
* No instruction changes a grant's amount, period, start or expiry, so until `create_grant`
  rewrites it every claim on it settles on the terms it had: none before the start, none after a
  nonzero expiry, each for the period of its clock value.  A paused grant pays nothing until
  `set_paused` unpauses it or `create_grant` rewrites it, and an address without a grant stays
  without one, and untouched, until a `create_grant` there.
* Only a grant's authority changes or closes it, and the authority can always pause it, set its
  allowlist, and close it and recover the vault's balance; funding succeeds exactly when the
  authority's account is the System Program's and the funder's account and the amount allow it;
  only an authority registers its proof-of-process signer, and every claim's proof is signed by
  the signer registered for the grant's authority.

Main definitions:

* `GrantProgram.GrantAccountsOk`, `GrantProgram.World.WellFormed` — the accounts as every run
  leaves them;
* `GrantProgram.ProgramInstruction.grant?` — the grant account an instruction names;
* `GrantProgram.InstructionsSysvar.popSigner?` — the signer of a claim's proof of process;
* `GrantProgram.ClaimsOnce`, `GrantProgram.MessagesOnce`, `GrantProgram.RegisteredSigners` —
  what a run keeps of the receipts, of the accepted proofs and of the signer registrations.

Main results:

* `GrantProgram.run_wellFormed` — **every run keeps the accounts well formed**;
* `GrantProgram.createGrant_ok_iff` — when `create_grant` succeeds, its rent and overflow panic
  included;
* `GrantProgram.execute_grant_authority` — **only the authority administers its grant**;
* `GrantProgram.closeGrant_recovers`, `GrantProgram.authority_administers` — the authority can
  always recover a grant's funds, pause it and set its allowlist;
* `GrantProgram.run_popSigner` — who signs the proofs of process;
* `GrantProgram.run_receipts` — receipts are permanent;
* `GrantProgram.execute_claim_replay` — a claim cannot be replayed, and what error a replay gets;
* `GrantProgram.run_claims_once` — **a period is paid once** per grant address and claimer, over
  every run;
* `GrantProgram.run_popMessages_once` — a signed proof of process is accepted once;
* `GrantProgram.recordPopProof_grant_check`, `GrantProgram.loadClaimGrant_ok_iff`,
  `GrantProgram.claim_ok_iff`, `GrantProgram.fundGrant_ok_iff` — the checks a well-formed world
  always passes, and when a claim and a funding succeed;
* `GrantProgram.run_claims_terms` — **a grant's terms bind every claim on it** until it is
  created again;
* `GrantProgram.run_paused` — a paused grant pays nothing;
* `GrantProgram.run_absent` — an address without a grant is inert.
-/

set_option autoImplicit false

namespace GrantProgram

/-! ### Well-formed accounts -/

/-- The grant at the address `g` and its vault, as the program keeps them: both exist or neither
does; the grant sits at the address of its seeds with its bump, names the address of its vault,
and pays a positive amount over a positive period; the vault is of the grant's mint, owned by the
grant's address, and holds less than `2^64` tokens. -/
def GrantAccountsOk (rt : Runtime) (g : Pubkey) : Option Grant → Option TokenAccount → Prop
  | some grant, some vault =>
    rt.findProgramAddress (grantSeeds grant.authority grant.mint grant.grantId) = (g, grant.bump) ∧
      grant.vault = (rt.findProgramAddress (vaultSeeds g)).1 ∧
      0 < grant.amountPerPeriod ∧ 0 < grant.periodSeconds.toInt ∧
      vault.mint = grant.mint ∧ vault.owner = g ∧ vault.amount < u64Size
  | none, none => True
  | _, _ => False

/-- The accounts as every run of the program from no program account leaves them. -/
structure World.WellFormed (rt : Runtime) (w : World) : Prop where
  /-- Each grant and its vault. -/
  grant : ∀ g, GrantAccountsOk rt g (w.grants g) (w.vaults g)
  /-- No token account holds `2^64` tokens or more. -/
  tokenAccount_lt : ∀ a t, w.tokenAccounts a = some t → t.amount < u64Size
  /-- Each receipt is stored under its own grant, claimer and period. -/
  receipt_key : ∀ g c k r, w.receipts (g, c, k) = some r → r = ⟨g, c, k, r.claimedAt⟩
  /-- Each signer registration is stored under its authority, with the bump of its address. -/
  popConfig_key : ∀ a cfg, w.popConfigs a = some cfg →
    cfg.authority = a ∧ cfg.bump = (rt.findProgramAddress (popConfigSeeds a)).2
  /-- Each chain state is initialized, and names the grant it is stored under. -/
  popState_key : ∀ g s, w.popStates g = some s → s.initialized = true ∧ s.grant = g
  /-- Each grant's mint is a mint. -/
  mint : ∀ g grant, w.grants g = some grant → w.mints grant.mint = true

theorem World.wellFormed_empty (rt : Runtime) : World.empty.WellFormed rt :=
  ⟨fun _ => trivial, fun _ _ => nofun, fun _ _ _ _ => nofun, fun _ _ => nofun, fun _ _ => nofun,
    fun _ _ => nofun⟩

/-- The wallets of the examples hold no program account, and token accounts below `2^64`. -/
theorem exampleWallets_wellFormed (rt : Runtime) : exampleWallets.WellFormed rt := by
  refine ⟨fun _ => trivial, fun a t h => ?_, fun _ _ _ _ => nofun, fun _ _ => nofun,
    fun _ _ => nofun, fun _ _ => nofun⟩
  simp only [exampleWallets] at h
  split_ifs at h <;> cases h <;> decide

section GrantAccounts

variable {rt : Runtime} {g : Pubkey}

/-- A grant with the same terms as one that is well kept is well kept. -/
theorem GrantAccountsOk.of_sameTerms {grant grant' : Grant} {ov : Option TokenAccount}
    (h : GrantAccountsOk rt g (some grant) ov) (hs : grant'.SameTerms grant) :
    GrantAccountsOk rt g (some grant') ov := by
  -- the condition does not read `paused` or `merkle_root`
  have reset : ∀ a : Grant, GrantAccountsOk rt g (some a) ov =
      GrantAccountsOk rt g (some { a with paused := false, merkleRoot := Bytes32.zero }) ov := by
    intro a
    cases ov <;> rfl
  rw [reset] at h ⊢
  rwa [hs]

/-- A vault that is well kept stays so with any balance below `2^64`. -/
theorem GrantAccountsOk.withAmount {grant : Grant} {vault : TokenAccount} {n : ℕ}
    (h : GrantAccountsOk rt g (some grant) (some vault)) (hn : n < u64Size) :
    GrantAccountsOk rt g (some grant) (some { vault with amount := n }) := by
  obtain ⟨h₁, h₂, h₃, h₄, h₅, h₆, -⟩ := h
  exact ⟨h₁, h₂, h₃, h₄, h₅, h₆, hn⟩

variable {G : Pubkey → Option Grant} {V : Pubkey → Option TokenAccount}

theorem grantAccountsOk_update (h : ∀ g, GrantAccountsOk rt g (G g) (V g)) (g₀ : Pubkey)
    {og : Option Grant} {ov : Option TokenAccount} (h₀ : GrantAccountsOk rt g₀ og ov)
    (g : Pubkey) :
    GrantAccountsOk rt g (Function.update G g₀ og g) (Function.update V g₀ ov g) := by
  by_cases hg : g = g₀
  · subst hg
    simpa using h₀
  · simpa [Function.update_noteq hg] using h g

theorem grantAccountsOk_update_vault (h : ∀ g, GrantAccountsOk rt g (G g) (V g)) (g₀ : Pubkey)
    {ov : Option TokenAccount} (h₀ : GrantAccountsOk rt g₀ (G g₀) ov) (g : Pubkey) :
    GrantAccountsOk rt g (G g) (Function.update V g₀ ov g) := by
  simpa using grantAccountsOk_update h g₀ h₀ g

theorem grantAccountsOk_update_grant (h : ∀ g, GrantAccountsOk rt g (G g) (V g)) (g₀ : Pubkey)
    {og : Option Grant} (h₀ : GrantAccountsOk rt g₀ og (V g₀)) (g : Pubkey) :
    GrantAccountsOk rt g (Function.update G g₀ og g) (V g) := by
  simpa using grantAccountsOk_update h g₀ h₀ g

/-- Writing a grant of a mint keeps every grant's mint a mint. -/
theorem mint_update {M : Pubkey → Bool} (h : ∀ g grant, G g = some grant → M grant.mint = true)
    (g₀ : Pubkey) {og : Option Grant} (h₀ : ∀ grant, og = some grant → M grant.mint = true)
    (g : Pubkey) (grant : Grant) (hg : Function.update G g₀ og g = some grant) :
    M grant.mint = true := by
  by_cases hg₀ : g = g₀
  · subst hg₀
    rw [Function.update_same] at hg
    exact h₀ grant hg
  · rw [Function.update_noteq hg₀] at hg
    exact h g grant hg

end GrantAccounts

theorem tokenAccount_lt_update {T : Pubkey → Option TokenAccount}
    (h : ∀ a t, T a = some t → t.amount < u64Size) (a₀ : Pubkey) {t₀ : TokenAccount}
    (h₀ : t₀.amount < u64Size) (a : Pubkey) (t : TokenAccount)
    (ht : Function.update T a₀ (some t₀) a = some t) : t.amount < u64Size := by
  by_cases ha : a = a₀
  · subst ha
    simp only [Function.update_same, Option.some.injEq] at ht
    exact ht ▸ h₀
  · rw [Function.update_noteq ha] at ht
    exact h a t ht

theorem receipt_key_update {R : Pubkey × Pubkey × UInt64 → Option ClaimReceipt}
    (h : ∀ g c k r, R (g, c, k) = some r → r = ⟨g, c, k, r.claimedAt⟩) (g₀ c₀ : Pubkey)
    (k₀ : UInt64) (t : I64) (g c : Pubkey) (k : UInt64) (r : ClaimReceipt)
    (hr : Function.update R (g₀, c₀, k₀) (some ⟨g₀, c₀, k₀, t⟩) (g, c, k) = some r) :
    r = ⟨g, c, k, r.claimedAt⟩ := by
  by_cases hk : (g, c, k) = (g₀, c₀, k₀)
  · simp only [Prod.mk.injEq] at hk
    obtain ⟨rfl, rfl, rfl⟩ := hk
    simp only [Function.update_same, Option.some.injEq] at hr
    rw [← hr]
  · rw [Function.update_noteq hk] at hr
    exact h g c k r hr

theorem popState_key_update {P : Pubkey → Option PopState}
    (h : ∀ g s, P g = some s → s.initialized = true ∧ s.grant = g) (g₀ : Pubkey) (s₀ : PopState)
    (b : UInt8) (m : PopProofMessage) (g : Pubkey) (s : PopState)
    (hs : Function.update P g₀ (some (s₀.advance g₀ b m)) g = some s) :
    s.initialized = true ∧ s.grant = g := by
  by_cases hg : g = g₀
  · subst hg
    simp only [Function.update_same, Option.some.injEq] at hs
    subst hs
    exact ⟨rfl, rfl⟩
  · rw [Function.update_noteq hg] at hs
    exact h g s hs

section Step

variable {rt : Runtime} {now : I64} {w w' : World}

/-- The vault of a well-formed world holds less than `2^64` tokens. -/
theorem World.WellFormed.vault_lt (hw : w.WellFormed rt) {g : Pubkey} {v : TokenAccount}
    (hv : w.vaults g = some v) : v.amount < u64Size := by
  have h := hw.grant g
  rw [hv] at h
  cases hg : w.grants g <;> simp only [hg, GrantAccountsOk] at h
  exact h.2.2.2.2.2.2

/-- A grant of a well-formed world has its vault, and the two are well kept. -/
theorem World.WellFormed.grant_vault (hw : w.WellFormed rt) {g : Pubkey} {grant : Grant}
    (hg : w.grants g = some grant) :
    ∃ vault, w.vaults g = some vault ∧ GrantAccountsOk rt g (some grant) (some vault) := by
  have h₀ := hw.grant g
  rw [hg] at h₀
  cases hv : w.vaults g with
  | none => rw [hv] at h₀; exact h₀.elim
  | some vault => exact ⟨vault, rfl, hv ▸ h₀⟩

/-- A grant of a well-formed world and its vault are well kept. -/
theorem World.WellFormed.grantAccountsOk (hw : w.WellFormed rt) {g : Pubkey} {grant : Grant}
    {vault : TokenAccount} (hg : w.grants g = some grant) (hv : w.vaults g = some vault) :
    GrantAccountsOk rt g (some grant) (some vault) := by
  have h := hw.grant g
  rwa [hg, hv] at h

/-- In a well-formed world a grant's own authority and mint pass the account checks of the
administrative instructions. -/
theorem World.WellFormed.loadOwnedGrant (hw : w.WellFormed rt) {g : Pubkey} {grant : Grant}
    (hg : w.grants g = some grant) : loadOwnedGrant rt w g grant.mint grant.authority = .ok grant :=
  have ⟨_, _, hs, _⟩ := hw.grant_vault hg
  loadOwnedGrant_eq_ok.2 ⟨hg, hw.mint g grant hg, hs, rfl⟩

/-- Setting the balance of a grant's vault below `2^64` keeps every grant well kept. -/
theorem World.WellFormed.grant_setVault (hw : w.WellFormed rt) {g : Pubkey} {grant : Grant}
    {v : TokenAccount} (hg : w.grants g = some grant) (hv : w.vaults g = some v) {n : ℕ}
    (hn : n < u64Size) (g' : Pubkey) :
    GrantAccountsOk rt g' (w.grants g') (Function.update w.vaults g (some { v with amount := n }) g') := by
  have h₀ := hw.grant g
  rw [hg, hv] at h₀
  refine grantAccountsOk_update_vault hw.grant g ?_ g'
  rw [hg]
  exact h₀.withAmount hn

/-- Rewriting a grant with one of the same terms keeps the accounts well formed. -/
theorem World.WellFormed.setGrant (hw : w.WellFormed rt) {g : Pubkey} {grant grant' : Grant}
    (hg : w.grants g = some grant) (hs : grant'.SameTerms grant) :
    World.WellFormed rt { w with grants := Function.update w.grants g (some grant') } := by
  have h₀ := hw.grant g
  rw [hg] at h₀
  have hm : w.mints grant'.mint = true := (congrArg Grant.mint hs :) ▸ hw.mint g grant hg
  exact ⟨grantAccountsOk_update_grant hw.grant g (h₀.of_sameTerms hs), hw.tokenAccount_lt,
    hw.receipt_key, hw.popConfig_key, hw.popState_key,
    mint_update hw.mint g fun _ e => Option.some_injective _ e ▸ hm⟩

theorem World.WellFormed.createGrant (hw : w.WellFormed rt) {authority mint : Pubkey}
    {grantId amountPerPeriod : UInt64} {periodSeconds startTs expiresAt : I64}
    (h : createGrant rt now w authority mint grantId amountPerPeriod periodSeconds startTs
      expiresAt = .ok w') : w'.WellFormed rt := by
  obtain ⟨hm, ha, hp, s, vault, system, -, hv, rfl⟩ := createGrant_eq_ok h
  -- the vault there is of the mint and keeps its balance, and a new one is empty
  have hvault : vault.mint = mint ∧
      vault.owner = (rt.findProgramAddress (grantSeeds authority mint grantId)).1 ∧
      vault.amount < u64Size := by
    rcases initVault_eq_ok.1 hv with ⟨-, rfl, -⟩ | ⟨hold, hvm, hvo, -⟩
    · exact ⟨rfl, rfl, (by decide : 0 < u64Size)⟩
    · exact ⟨hvm, hvo, hw.vault_lt hold⟩
  exact ⟨grantAccountsOk_update hw.grant _ ⟨rfl, rfl, ha, hp, hvault⟩, hw.tokenAccount_lt,
    hw.receipt_key, hw.popConfig_key, hw.popState_key,
    mint_update hw.mint _ fun _ e => Option.some_injective _ e ▸ hm⟩

theorem World.WellFormed.fundGrant (hw : w.WellFormed rt)
    {grantKey mint fromAta funder authority : Pubkey} {amount : UInt64}
    (h : fundGrant rt w grantKey mint fromAta funder authority amount = .ok w') :
    w'.WellFormed rt := by
  obtain ⟨grant, source, vault, hg, -, hs, hv, -, -, hlt, rfl⟩ := fundGrant_moves h
  exact ⟨hw.grant_setVault hg hv hlt,
    tokenAccount_lt_update hw.tokenAccount_lt fromAta
      (lt_of_le_of_lt (Nat.sub_le _ _) (hw.tokenAccount_lt _ _ hs)),
    hw.receipt_key, hw.popConfig_key, hw.popState_key, hw.mint⟩

theorem World.WellFormed.closeGrant (hw : w.WellFormed rt)
    {grantKey mint authorityAta authority : Pubkey}
    (h : closeGrant rt w grantKey mint authorityAta authority = .ok w') : w'.WellFormed rt := by
  obtain ⟨-, vault, destination, -, -, -, hd, -, hlt, rfl⟩ := closeGrant_moves h
  refine ⟨grantAccountsOk_update hw.grant grantKey trivial,
    tokenAccount_lt_update hw.tokenAccount_lt authorityAta ?_, hw.receipt_key, hw.popConfig_key,
    hw.popState_key, mint_update hw.mint grantKey fun _ h => Option.noConfusion h⟩
  rcases hlt with h0 | hlt
  · rw [h0, Nat.add_zero]
    exact hw.tokenAccount_lt _ _ hd
  · exact hlt

theorem World.WellFormed.claim (hw : w.WellFormed rt) {ix : ProgramInstruction}
    {acc : ClaimAccounts} {k : UInt64} (h : execute rt now w ix = .ok w')
    (hc : ix.claim? = some (acc, k)) : w'.WellFormed rt := by
  obtain ⟨ctx, hl, -, hs, -⟩ := execute_claim h hc
  have hL := loadClaimGrant_eq_ok.1 hl
  obtain ⟨m, vault, ata, -, -, -, ht, rfl⟩ := settleClaim_eq_ok.1 hs
  obtain ⟨-, -, -, -, hlt, rfl, rfl⟩ := transferChecked_eq_ok.1 (transferFromVault_eq_ok.1 ht)
  exact ⟨hw.grant_setVault hL.grant hL.vault
      (lt_of_le_of_lt (Nat.sub_le _ _) (hw.vault_lt hL.vault)),
    tokenAccount_lt_update hw.tokenAccount_lt acc.claimerAta hlt,
    receipt_key_update hw.receipt_key acc.grant acc.claimer k now, hw.popConfig_key,
    popState_key_update hw.popState_key acc.grant _ _ m, hw.mint⟩

/-- **One successful instruction keeps the accounts well formed.** -/
theorem World.WellFormed.execute (hw : w.WellFormed rt) {ix : ProgramInstruction}
    (h : execute rt now w ix = .ok w') : w'.WellFormed rt := by
  cases ix with
  | createGrant => exact hw.createGrant h
  | fundGrant => exact hw.fundGrant h
  | closeGrant => exact hw.closeGrant h
  | claimGrant | claimGrantWithProof => exact hw.claim h rfl
  | setPaused =>
    obtain ⟨grant, hl, rfl⟩ := setPaused_eq_ok h
    exact hw.setGrant (loadOwnedGrant_eq_ok.1 hl).1 rfl
  | setAllowlistRoot =>
    obtain ⟨grant, hl, rfl⟩ := setAllowlistRoot_eq_ok h
    exact hw.setGrant (loadOwnedGrant_eq_ok.1 hl).1 rfl
  | upsertPopConfig a s =>
    obtain ⟨_, rfl⟩ := upsertPopConfig_eq_ok h
    refine ⟨hw.grant, hw.tokenAccount_lt, hw.receipt_key, fun a' cfg hcfg => ?_, hw.popState_key,
      hw.mint⟩
    simp only [Function.update_apply] at hcfg
    split_ifs at hcfg with ha
    · cases hcfg
      exact ⟨ha.symm, ha ▸ rfl⟩
    · exact hw.popConfig_key a' cfg hcfg

end Step

/-- **Every run keeps the accounts well formed**; in particular, every run from accounts without a
program account leaves them well formed. -/
theorem run_wellFormed (rt : Runtime) (w : World) (steps : List (I64 × ProgramInstruction))
    (hw : w.WellFormed rt) : (run rt w steps).WellFormed rt :=
  run_trace_induction rt (fun _ => True) (fun w _ => w.WellFormed rt)
    (fun _ _ _ _ _ _ hw h => hw.execute h) steps (fun _ _ => trivial) w [] hw

theorem run_wellFormed_exampleAdmin :
    exampleWallets.WellFormed exampleRuntime ∧
    (run exampleRuntime exampleWallets exampleAdminSteps).WellFormed exampleRuntime :=
  ⟨exampleWallets_wellFormed exampleRuntime, run_wellFormed exampleRuntime exampleWallets
    exampleAdminSteps (exampleWallets_wellFormed exampleRuntime)⟩

/-- The accounts of `exampleOpened` are well formed. -/
theorem exampleOpened_wellFormed : exampleOpened.WellFormed exampleRuntime :=
  run_wellFormed exampleRuntime exampleWallets exampleSetup (exampleWallets_wellFormed _)

/-- The accounts after the authority pauses the example grant. -/
def exampleOpenedPaused : World :=
  run exampleRuntime exampleOpened
    [(exampleNow, .setPaused exampleGrantKey exampleMint exampleAuthority true)]

/-! ### Creating a grant -/

/-- Two grants with the same terms, `paused` and root are the same. -/
theorem Grant.eq_of_sameTerms {a b : Grant} (h : a.SameTerms b) (hp : a.paused = b.paused)
    (hr : a.merkleRoot = b.merkleRoot) : a = b := by
  cases a
  cases b
  simp_all [Grant.SameTerms]

/-- The seeds of a grant's address name its authority. -/
theorem grantSeeds_authority {a a' m m' : Pubkey} {id id' : UInt64}
    (h : grantSeeds a m id = grantSeeds a' m' id') : a = a' := by
  simp only [grantSeeds, List.cons.injEq] at h
  exact Bytes32.toList_inj h.2.1

section Authority

variable {rt : Runtime} {now : I64} {w w' : World}

/-- **Only the authority administers its grant.**  In well-formed accounts, an instruction that
changes or removes the grant at `g` is a `set_paused`, `set_allowlist_root` or `close_grant` of
`g` signed by the grant's authority, or a `create_grant` at `g`: by the authority itself, or by a
signer whose seeds differ from the grant's and yet derive the same address. -/
theorem execute_grant_authority (hw : w.WellFormed rt) {ix : ProgramInstruction}
    (h : execute rt now w ix = .ok w') {g : Pubkey} {grant : Grant}
    (hg : w.grants g = some grant) (hch : w'.grants g ≠ some grant) :
    (∃ m b, ix = .setPaused g m grant.authority b) ∨
      (∃ m r, ix = .setAllowlistRoot g m grant.authority r) ∨
      (∃ m ata, ix = .closeGrant g m ata grant.authority) ∨
      ∃ a m id amt p s e, ix = .createGrant a m id amt p s e ∧
        (rt.findProgramAddress (grantSeeds a m id)).1 = g ∧
        (a = grant.authority ∨ grantSeeds a m id ≠ grantSeeds grant.authority grant.mint grant.grantId ∧
          (rt.findProgramAddress (grantSeeds a m id)).1 =
            (rt.findProgramAddress (grantSeeds grant.authority grant.mint grant.grantId)).1) := by
  -- the grant sits at the address of its own seeds
  have hseeds : (rt.findProgramAddress (grantSeeds grant.authority grant.mint grant.grantId)).1 = g := by
    have h₀ := hw.grant g
    rw [hg] at h₀
    cases hv : w.vaults g <;> rw [hv] at h₀
    · exact h₀.elim
    · exact congrArg Prod.fst h₀.1
  -- an administrative instruction on `g` loaded `grant` and checked its signer
  have signed : ∀ {m a}, loadOwnedGrant rt w g m a = .ok grant → a = grant.authority :=
    fun hl => (loadOwnedGrant_eq_ok.1 hl).2.2.2.symm
  have loaded : ∀ {m a} {grant₀ : Grant}, loadOwnedGrant rt w g m a = .ok grant₀ → grant₀ = grant :=
    fun hl => Option.some_injective _ ((loadOwnedGrant_eq_ok.1 hl).1.symm.trans hg)
  by_cases hc : ix.CreatesAt rt g
  · cases ix with
    | createGrant a m id amt p s e =>
      refine .inr (.inr (.inr ⟨a, m, id, amt, p, s, e, rfl, hc, ?_⟩))
      by_cases hs : grantSeeds a m id = grantSeeds grant.authority grant.mint grant.grantId
      · exact .inl (grantSeeds_authority hs)
      · exact .inr ⟨hs, hc.trans hseeds.symm⟩
    | _ => exact hc.elim
  · rcases execute_grant_kept h hg hc with ⟨-, m, ata, a, rfl⟩ | ⟨grant', hg', hs, hp, hr⟩
    · obtain ⟨grant₀, -, -, hg₀, rfl, -⟩ := closeGrant_moves h
      obtain rfl := Option.some_injective _ (hg₀.symm.trans hg)
      exact .inr (.inr (.inl ⟨m, ata, rfl⟩))
    · have hne : grant' ≠ grant := fun e => hch (e ▸ hg')
      by_cases hpz : grant'.paused = grant.paused
      · obtain ⟨m, a, rfl⟩ := hr fun hrz => hne (Grant.eq_of_sameTerms hs hpz hrz)
        obtain ⟨grant₀, hl, -⟩ := setAllowlistRoot_eq_ok h
        obtain rfl := loaded hl
        obtain rfl := signed hl
        exact .inr (.inl ⟨m, _, rfl⟩)
      · obtain ⟨m, a, rfl⟩ := hp hpz
        obtain ⟨grant₀, hl, -⟩ := setPaused_eq_ok h
        obtain rfl := loaded hl
        obtain rfl := signed hl
        exact .inl ⟨m, _, rfl⟩

set_option maxRecDepth 4000 in
theorem execute_grant_authority_examplePause :
    exampleOpened.WellFormed exampleRuntime ∧
    execute exampleRuntime exampleNow exampleOpened
        (.setPaused exampleGrantKey exampleMint exampleAuthority true) = .ok exampleOpenedPaused ∧
    exampleOpened.grants exampleGrantKey = some exampleOpenGrant ∧
    exampleOpenedPaused.grants exampleGrantKey ≠ some exampleOpenGrant ∧
    ((∃ m b, ProgramInstruction.setPaused exampleGrantKey exampleMint exampleAuthority true =
        .setPaused exampleGrantKey m exampleOpenGrant.authority b) ∨
      (∃ m r, ProgramInstruction.setPaused exampleGrantKey exampleMint exampleAuthority true =
        .setAllowlistRoot exampleGrantKey m exampleOpenGrant.authority r) ∨
      (∃ m ata, ProgramInstruction.setPaused exampleGrantKey exampleMint exampleAuthority true =
        .closeGrant exampleGrantKey m ata exampleOpenGrant.authority) ∨
      ∃ a m id amt p s e,
        ProgramInstruction.setPaused exampleGrantKey exampleMint exampleAuthority true =
          .createGrant a m id amt p s e ∧
        (exampleRuntime.findProgramAddress (grantSeeds a m id)).1 = exampleGrantKey ∧
        (a = exampleOpenGrant.authority ∨
          grantSeeds a m id ≠ grantSeeds exampleOpenGrant.authority exampleOpenGrant.mint
            exampleOpenGrant.grantId ∧
          (exampleRuntime.findProgramAddress (grantSeeds a m id)).1 =
            (exampleRuntime.findProgramAddress (grantSeeds exampleOpenGrant.authority
              exampleOpenGrant.mint exampleOpenGrant.grantId)).1)) :=
  have h : execute exampleRuntime exampleNow exampleOpened
      (.setPaused exampleGrantKey exampleMint exampleAuthority true) = .ok exampleOpenedPaused := rfl
  have hg : exampleOpened.grants exampleGrantKey = some exampleOpenGrant := by decide
  have hch : exampleOpenedPaused.grants exampleGrantKey ≠ some exampleOpenGrant := by decide
  ⟨exampleOpened_wellFormed, h, hg, hch,
    execute_grant_authority exampleOpened_wellFormed h hg hch⟩

/-- **The authority can always recover a grant's funds.**  In well-formed accounts, `close_grant`
of an existing grant, signed by its authority, with the grant's mint and a token account of the
authority for that mint, succeeds unless the account would reach `2^64` tokens; the account then
holds the vault's whole balance more, and the grant and its vault are closed. -/
theorem closeGrant_recovers (hw : w.WellFormed rt) {g ata : Pubkey} {grant : Grant}
    {destination : TokenAccount} (hg : w.grants g = some grant)
    (hd : w.tokenAccounts ata = some destination) (hm : destination.mint = grant.mint)
    (ho : destination.owner = grant.authority)
    (hlt : destination.amount + w.holdings (.vault g) < u64Size) :
    ∃ w', closeGrant rt w g grant.mint ata grant.authority = .ok w' ∧
      w'.holdings (.user ata) = destination.amount + w.holdings (.vault g) ∧
      w'.grants g = none ∧ w'.vaults g = none := by
  obtain ⟨vault, hv, hs, -, -, -, hvm, hvo, -⟩ := hw.grant_vault hg
  have hc : checkOwnedGrant rt g grant.mint grant.authority grant = .ok () :=
    checkOwnedGrant_eq_ok.2 ⟨hs, rfl⟩
  simp only [World.holdings_vault, hv, Option.map_some', Option.getD_some] at hlt ⊢
  refine ⟨{ w with
    tokenAccounts := Function.update w.tokenAccounts ata
      (some { destination with amount := destination.amount + vault.amount })
    vaults := Function.update w.vaults g none
    grants := Function.update w.grants g none
    system := (w.system.close (rt.findProgramAddress (vaultSeeds g)).1 grant.authority).close g
      grant.authority }, ?_, by simp, by simp, by simp⟩
  -- a non-empty vault pays out through the token program, an empty one is closed as it is
  by_cases hpos : 0 < vault.amount
  · have ht : transferChecked vault destination grant.mint g vault.amount =
        .ok ({ vault with amount := vault.amount - vault.amount },
          { destination with amount := destination.amount + vault.amount }) :=
      transferChecked_eq_ok.2 ⟨le_rfl, hvm.trans hm.symm, hvm.symm, hvo, hlt, rfl, rfl⟩
    simp [closeGrant, loadAccount, check, hg, hw.mint g grant hg, hv, hd, hc, require, hm, ho,
      hpos, ht]
  · have h0 : vault.amount = 0 := by omega
    simp [closeGrant, loadAccount, check, hg, hw.mint g grant hg, hv, hd, hc, require, hm, ho, h0]
    rw [← hm, ← ho]

set_option maxRecDepth 4000 in
theorem closeGrant_recovers_exampleOpened :
    exampleOpened.WellFormed exampleRuntime ∧
    exampleOpened.grants exampleGrantKey = some exampleOpenGrant ∧
    exampleOpened.tokenAccounts exampleAuthorityAta = some ⟨exampleMint, exampleAuthority, 90⟩ ∧
    90 + exampleOpened.holdings (.vault exampleGrantKey) < u64Size ∧
    ∃ w', closeGrant exampleRuntime exampleOpened exampleGrantKey exampleOpenGrant.mint
        exampleAuthorityAta exampleOpenGrant.authority = .ok w' ∧
      w'.holdings (.user exampleAuthorityAta) =
        90 + exampleOpened.holdings (.vault exampleGrantKey) ∧
      w'.grants exampleGrantKey = none ∧ w'.vaults exampleGrantKey = none :=
  have hg : exampleOpened.grants exampleGrantKey = some exampleOpenGrant := by decide
  have hd : exampleOpened.tokenAccounts exampleAuthorityAta =
      some ⟨exampleMint, exampleAuthority, 90⟩ := by decide
  have hlt : 90 + exampleOpened.holdings (.vault exampleGrantKey) < u64Size := by decide
  ⟨exampleOpened_wellFormed, hg, hd, hlt,
    closeGrant_recovers exampleOpened_wellFormed hg hd rfl rfl hlt⟩

/-- **The authority can always administer its grant.**  In a well-formed world, `set_paused` and
`set_allowlist_root` signed by a grant's authority with the grant's mint succeed, with any value,
at any clock, and change that one field of the grant. -/
theorem authority_administers (hw : w.WellFormed rt) {g : Pubkey} {grant : Grant}
    (hg : w.grants g = some grant) (paused : Bool) (merkleRoot : Hash) :
    execute rt now w (.setPaused g grant.mint grant.authority paused) =
        .ok { w with grants := Function.update w.grants g (some { grant with paused := paused }) } ∧
      execute rt now w (.setAllowlistRoot g grant.mint grant.authority merkleRoot) =
        .ok { w with
          grants := Function.update w.grants g
            (some { grant with merkleRoot := merkleRoot }) } := by
  have hl := hw.loadOwnedGrant hg
  exact ⟨by simp [execute, setPaused, hl], by simp [execute, setAllowlistRoot, hl]⟩

set_option maxRecDepth 4000 in
theorem authority_administers_exampleOpened :
    exampleOpened.WellFormed exampleRuntime ∧
    exampleOpened.grants exampleGrantKey = some exampleOpenGrant ∧
    execute exampleRuntime exampleNow exampleOpened
        (.setPaused exampleGrantKey exampleOpenGrant.mint exampleOpenGrant.authority true) =
      .ok { exampleOpened with
        grants := Function.update exampleOpened.grants exampleGrantKey
          (some { exampleOpenGrant with paused := true }) } ∧
    execute exampleRuntime exampleNow exampleOpened
        (.setAllowlistRoot exampleGrantKey exampleOpenGrant.mint exampleOpenGrant.authority
          exampleRoot) =
      .ok { exampleOpened with
        grants := Function.update exampleOpened.grants exampleGrantKey
          (some exampleAllowlistGrant) } :=
  have hg : exampleOpened.grants exampleGrantKey = some exampleOpenGrant := by decide
  ⟨exampleOpened_wellFormed, hg,
    authority_administers exampleOpened_wellFormed hg true exampleRoot⟩

end Authority

/-! ### Signer registrations -/

/-- The signer of the signature instruction just before the current one, as
`verify_and_record_pop_proof` reads it. -/
def InstructionsSysvar.popSigner? (sysvar : InstructionsSysvar) : Option Pubkey := do
  let ix ← sysvar.instructions[sysvar.currentIndex - 1]?
  let (signer, _) ← (extractEd25519SignerAndMessage ix).toOption
  pure signer

/-- A verified proof of process is signed by the registered signer. -/
theorem popSigner?_of_verifyPopProof {sha256 : Bytes → Hash} {sysvar : InstructionsSysvar}
    {popConfig : PopConfig} {g c : Pubkey} {k : UInt64} {now : I64} {m : PopProofMessage}
    (h : verifyPopProof sha256 sysvar popConfig g c k now = .ok m) :
    sysvar.popSigner? = some popConfig.signerPubkey := by
  obtain ⟨-, ix, pk, bytes, hix, -, hx, hpk, -⟩ := verifyPopProof_eq_ok.1 h
  simp [InstructionsSysvar.popSigner?, hix, hx, hpk, Except.toOption]

section Signers

variable {rt : Runtime} {now : I64} {w w' : World}

/-- Only `upsert_pop_config` of `a`, signed by `a`, writes the signer registration of `a`. -/
theorem execute_popConfigs {ix : ProgramInstruction} (h : execute rt now w ix = .ok w')
    {a : Pubkey} {cfg : PopConfig} (hcfg : w'.popConfigs a = some cfg) :
    w.popConfigs a = some cfg ∨ ix = .upsertPopConfig a cfg.signerPubkey := by
  cases ix with
  | upsertPopConfig a' s =>
    obtain ⟨_, rfl⟩ := upsertPopConfig_eq_ok h
    simp only [Function.update_apply] at hcfg
    split_ifs at hcfg with ha
    · cases hcfg
      exact .inr (ha ▸ rfl)
    · exact .inl hcfg
  | createGrant =>
    obtain ⟨-, -, -, _, _, _, -, -, rfl⟩ := createGrant_eq_ok h
    exact .inl hcfg
  | fundGrant =>
    obtain ⟨_, _, rfl⟩ := fundGrant_eq_ok h
    exact .inl hcfg
  | closeGrant =>
    obtain ⟨_, rfl⟩ := closeGrant_eq_ok h
    exact .inl hcfg
  | setPaused =>
    obtain ⟨_, -, rfl⟩ := setPaused_eq_ok h
    exact .inl hcfg
  | setAllowlistRoot =>
    obtain ⟨_, -, rfl⟩ := setAllowlistRoot_eq_ok h
    exact .inl hcfg
  | claimGrant | claimGrantWithProof =>
    obtain ⟨ctx, -, -, hs, -⟩ := execute_claim h rfl
    obtain ⟨m, v, a, -, -, -, -, rfl⟩ := settleClaim_eq_ok.1 hs
    exact .inl hcfg

/-- A claim's proof of process is signed by the signer that the grant's authority registered. -/
theorem execute_claim_popSigner {ix : ProgramInstruction} (h : execute rt now w ix = .ok w')
    {acc : ClaimAccounts} {k : UInt64} (hc : ix.claim? = some (acc, k)) :
    ∃ grant cfg, w.grants acc.grant = some grant ∧ w.popConfigs grant.authority = some cfg ∧
      acc.sysvar.popSigner? = some cfg.signerPubkey := by
  obtain ⟨ctx, hl, -, hs, -⟩ := execute_claim h hc
  have hL := loadClaimGrant_eq_ok.1 hl
  obtain ⟨m, -, -, hv, -⟩ := settleClaim_eq_ok.1 hs
  exact ⟨ctx.grant, ctx.popConfig, hL.grant, hL.popConfig, popSigner?_of_verifyPopProof hv⟩

end Signers

/-- The signer registrations and the claims over the steps `tr` of a run from `w` to `w'`: each
registration of `w'` was in `w` or written in `tr` by its authority's `upsert_pop_config`, and each
claim of `tr` carries a proof of process signed by the signer then registered for its grant's
authority, a registration that was in `w` or written in `tr` in the same way. -/
structure RegisteredSigners (w w' : World) (tr : List Transition) : Prop where
  /-- Where each registration comes from. -/
  registered : ∀ a cfg, w'.popConfigs a = some cfg →
    w.popConfigs a = some cfg ∨ ∃ t' ∈ tr, t'.ix = .upsertPopConfig a cfg.signerPubkey
  /-- Who signed each claim's proof. -/
  claims : ∀ t ∈ tr, ∀ acc k, t.ix.claim? = some (acc, k) →
    ∃ grant cfg, t.before.grants acc.grant = some grant ∧
      t.before.popConfigs grant.authority = some cfg ∧
      acc.sysvar.popSigner? = some cfg.signerPubkey ∧
      (w.popConfigs grant.authority = some cfg ∨
        ∃ t' ∈ tr, t'.ix = .upsertPopConfig grant.authority cfg.signerPubkey)

/-- One successful instruction keeps `RegisteredSigners`. -/
theorem RegisteredSigners.step {w w₁ w₂ : World} {tr : List Transition} {rt : Runtime} {now : I64}
    {ix : ProgramInstruction} (hs : RegisteredSigners w w₁ tr) (h : execute rt now w₁ ix = .ok w₂) :
    RegisteredSigners w w₂ (tr ++ [⟨w₁, now, ix, w₂⟩]) := by
  have widen : ∀ {a s}, (∃ t' ∈ tr, t'.ix = .upsertPopConfig a s) →
      ∃ t' ∈ tr ++ [⟨w₁, now, ix, w₂⟩], t'.ix = .upsertPopConfig a s :=
    fun ⟨t', ht', he⟩ => ⟨t', List.mem_append_left _ ht', he⟩
  refine ⟨fun a cfg hcfg => ?_, fun t ht acc k hc => ?_⟩
  · rcases execute_popConfigs h hcfg with hcfg | rfl
    · exact (hs.registered a cfg hcfg).imp_right widen
    · exact .inr ⟨_, List.mem_append_right _ (List.mem_singleton_self _), rfl⟩
  · rcases List.mem_append.1 ht with ht | ht
    · obtain ⟨grant, cfg, hg, hcfg, hsig, hfrom⟩ := hs.claims t ht acc k hc
      exact ⟨grant, cfg, hg, hcfg, hsig, hfrom.imp_right widen⟩
    · obtain rfl := List.mem_singleton.1 ht
      obtain ⟨grant, cfg, hg, hcfg, hsig⟩ := execute_claim_popSigner h hc
      exact ⟨grant, cfg, hg, hcfg, hsig, (hs.registered _ cfg hcfg).imp_right widen⟩

/-- **Who signs the proofs of process.**  In every run, every successful claim carries a proof of
process signed by the signer registered for the grant's authority at that moment; and that
registration was there before the run, or was written during it by an `upsert_pop_config` of that
authority, which only the authority can sign. -/
theorem run_popSigner (rt : Runtime) (w : World) (steps : List (I64 × ProgramInstruction)) :
    ∀ t ∈ trace rt w steps, ∀ acc k, t.ix.claim? = some (acc, k) →
      ∃ grant cfg, t.before.grants acc.grant = some grant ∧
        t.before.popConfigs grant.authority = some cfg ∧
        acc.sysvar.popSigner? = some cfg.signerPubkey ∧
        (w.popConfigs grant.authority = some cfg ∨
          ∃ t' ∈ trace rt w steps, t'.ix = .upsertPopConfig grant.authority cfg.signerPubkey) := by
  have hL := run_trace_induction rt (fun _ => True) (RegisteredSigners w)
    (fun _ _ _ _ _ _ hs h => hs.step h) steps (fun _ _ => trivial) w []
    ⟨fun _ _ => .inl, fun _ h => absurd h (List.not_mem_nil _)⟩
  rw [List.nil_append] at hL
  exact hL.claims

set_option maxRecDepth 4000 in
theorem run_popSigner_exampleClaim :
    (⟨exampleClaimWorld, exampleNow, .claimGrantWithProof exampleClaimAccounts 3 [],
        exampleClaimAfter⟩ : Transition) ∈
      trace exampleRuntime exampleClaimWorld exampleClaimSteps ∧
    ∃ grant cfg, exampleClaimWorld.grants exampleClaimAccounts.grant = some grant ∧
      exampleClaimWorld.popConfigs grant.authority = some cfg ∧
      exampleClaimAccounts.sysvar.popSigner? = some cfg.signerPubkey ∧
      (exampleClaimWorld.popConfigs grant.authority = some cfg ∨
        ∃ t' ∈ trace exampleRuntime exampleClaimWorld exampleClaimSteps,
          t'.ix = .upsertPopConfig grant.authority cfg.signerPubkey) :=
  have ht : (⟨exampleClaimWorld, exampleNow, .claimGrantWithProof exampleClaimAccounts 3 [],
      exampleClaimAfter⟩ : Transition) ∈ trace exampleRuntime exampleClaimWorld exampleClaimSteps :=
    List.mem_singleton_self _
  ⟨ht, run_popSigner exampleRuntime exampleClaimWorld exampleClaimSteps _ ht _ _ rfl⟩

/-! ### Receipts -/

section Receipts

variable {rt : Runtime} {now : I64} {w w' : World}

/-- A successful instruction never removes or changes a receipt: a claim writes its receipt only
where there was none. -/
theorem execute_receipts_mono {ix : ProgramInstruction} (h : execute rt now w ix = .ok w')
    {key : Pubkey × Pubkey × UInt64} {r : ClaimReceipt} (hr : w.receipts key = some r) :
    w'.receipts key = some r := by
  cases hc : ix.claim? with
  | none => rwa [(execute_of_claim?_eq_none h hc).1]
  | some ak =>
    obtain ⟨hf, hw'⟩ := execute_claim_receipts h hc
    rw [hw', Function.update_noteq]
    · exact hr
    · rintro rfl
      rw [hf] at hr
      cases hr

end Receipts

/-- **Receipts are permanent.**  No run removes or changes a receipt: not `close_grant`, which
closes the grant and its vault only, and not a `create_grant` at the same address. -/
theorem run_receipts (rt : Runtime) (w : World) (steps : List (I64 × ProgramInstruction))
    (key : Pubkey × Pubkey × UInt64) (r : ClaimReceipt) (hr : w.receipts key = some r) :
    (run rt w steps).receipts key = some r :=
  run_trace_induction rt (fun _ => True) (fun w _ => w.receipts key = some r)
    (fun _ _ _ _ _ _ hr h => execute_receipts_mono h hr) steps (fun _ _ => trivial) w [] hr

set_option maxRecDepth 4000 in
theorem run_receipts_exampleClaimAfter :
    exampleClaimAfter.receipts (exampleGrantKey, exampleClaimer, 3) =
      some ⟨exampleGrantKey, exampleClaimer, 3, exampleNow⟩ ∧
    (run exampleRuntime exampleClaimAfter exampleFundSteps).receipts
        (exampleGrantKey, exampleClaimer, 3) = some ⟨exampleGrantKey, exampleClaimer, 3, exampleNow⟩ :=
  have hr : exampleClaimAfter.receipts (exampleGrantKey, exampleClaimer, 3) =
      some ⟨exampleGrantKey, exampleClaimer, 3, exampleNow⟩ := by decide
  ⟨hr, run_receipts exampleRuntime exampleClaimAfter exampleFundSteps _ _ hr⟩

/-- **A claim cannot be replayed.**  Once a claim has succeeded, the same claim (the same accounts
and period), at any clock value and through either entry point, fails at its receipt's `init`
with "account already in use": every account check before it passes again.  The program has no
error code of its own for a repeated claim. -/
theorem execute_claim_replay {rt : Runtime} {now : I64} {w w' : World} {ix : ProgramInstruction}
    {acc : ClaimAccounts} {k : UInt64} (h : execute rt now w ix = .ok w')
    (hc : ix.claim? = some (acc, k)) (ix' : ProgramInstruction) (hc' : ix'.claim? = some (acc, k))
    (now' : I64) : execute rt now' w' ix' = .error (.anchor .accountAlreadyInUse) := by
  obtain ⟨ctx, hl, -, hs, -⟩ := execute_claim h hc
  have hL := loadClaimGrant_eq_ok.1 hl
  obtain ⟨m, vault, ata, -, -, -, ht, rfl⟩ := settleClaim_eq_ok.1 hs
  obtain ⟨-, -, -, -, -, rfl, rfl⟩ := transferChecked_eq_ok.1 (transferFromVault_eq_ok.1 ht)
  -- the receipt's address keeps what its creation left, and its creation again finds it in use
  obtain ⟨s, hr, hp⟩ := hL.rent
  have htaken := createAccount_taken hr
  have hkeep : ctx.system.lamports (rt.findProgramAddress (receiptSeeds acc.grant acc.claimer k)).1 =
      s.lamports (rt.findProgramAddress (receiptSeeds acc.grant acc.claimer k)).1 := by
    rw [initIfNeeded_eq_ok] at hp
    split_ifs at hp
    · rw [hp.2]
    · exact (createAccount_lamports_of_not_systemOwned htaken.1 hp).2
  have hinuse : createAccount rt ctx.system acc.claimer
      (rt.findProgramAddress (receiptSeeds acc.grant acc.claimer k)).1 (8 + ClaimReceipt.initSpace)
      true = .error (.anchor .accountAlreadyInUse) := by
    apply createAccount_inUse
    rw [hkeep]
    exact htaken.2
  cases ix' <;> simp only [ProgramInstruction.claim?, reduceCtorEq, Option.some.injEq,
    Prod.mk.injEq] at hc'
  all_goals obtain ⟨rfl, rfl⟩ := hc'
  -- every account check before the receipt's passes again
  all_goals simp [execute, claimGrant, claimGrantWithProof, loadClaimGrant, loadAccount, check,
    hL.grant, hL.mint, hL.popConfig, hinuse]

set_option maxRecDepth 4000 in
theorem execute_claim_replay_example :
    execute exampleRuntime exampleNow exampleClaimWorld
        (.claimGrantWithProof exampleClaimAccounts 3 []) = .ok exampleClaimAfter ∧
    execute exampleRuntime exampleNow exampleClaimAfter (.claimGrant exampleClaimAccounts 3) =
      .error (.anchor .accountAlreadyInUse) :=
  have h : execute exampleRuntime exampleNow exampleClaimWorld
      (.claimGrantWithProof exampleClaimAccounts 3 []) = .ok exampleClaimAfter := rfl
  ⟨h, execute_claim_replay h rfl (.claimGrant exampleClaimAccounts 3) rfl exampleNow⟩

/-- The claims of `c` on `g` in the steps `tr` of a run from `w` to `w'`: every receipt of `w` is
still there, each claim left a receipt for its period, which `w` did not have, and no two claims
are for one period. -/
structure ClaimsOnce (g c : Pubkey) (w w' : World) (tr : List Transition) : Prop where
  /-- Every receipt of `w` is still there. -/
  kept : ∀ key r, w.receipts key = some r → w'.receipts key = some r
  /-- Each claim left a receipt for its period, which `w` did not have. -/
  receipted : ∀ x ∈ claimsBy g c tr,
    (w'.receipts (g, c, x.1)).isSome ∧ w.receipts (g, c, x.1) = none
  /-- No two claims are for one period. -/
  distinct : ((claimsBy g c tr).map Prod.fst).Nodup

/-- One successful instruction keeps `ClaimsOnce`. -/
theorem ClaimsOnce.step {g c : Pubkey} {w w₁ w₂ : World} {tr : List Transition} {rt : Runtime}
    {now : I64} {ix : ProgramInstruction} (hc : ClaimsOnce g c w w₁ tr)
    (h : execute rt now w₁ ix = .ok w₂) : ClaimsOnce g c w w₂ (tr ++ [⟨w₁, now, ix, w₂⟩]) := by
  have kept := fun key r hr => execute_receipts_mono h (hc.kept key r hr)
  rcases execute_claimBy? h g c with ⟨hb, hkeep⟩ | ⟨k, x, hb, hf, hw'⟩
  · -- no claim of `c` on `g`: its receipts stay as they are
    have hL : claimsBy g c (tr ++ [⟨w₁, now, ix, w₂⟩]) = claimsBy g c tr := by
      rw [claimsBy_append_singleton, hb, Option.toList_none, List.append_nil]
    exact ⟨kept, fun y hy => hkeep y.1 ▸ hc.receipted y (hL ▸ hy), hL ▸ hc.distinct⟩
  · -- a claim for a period without a receipt: no earlier claim was for it, and `w` had none
    have hL : claimsBy g c (tr ++ [⟨w₁, now, ix, w₂⟩]) = claimsBy g c tr ++ [(k, now, x)] := by
      rw [claimsBy_append_singleton, hb, Option.toList_some]
    have hnew : ∀ y ∈ claimsBy g c tr, y.1 ≠ k := fun y hy hyk => by
      simpa [hyk, hf] using (hc.receipted y hy).1
    have hw : w.receipts (g, c, k) = none := by
      cases hr : w.receipts (g, c, k) with
      | none => rfl
      | some r => simpa [hf] using hc.kept (g, c, k) r hr
    refine ⟨kept, ?_, ?_⟩ <;> rw [hL]
    · refine List.forall_mem_append.2 ⟨fun y hy => ⟨?_, (hc.receipted y hy).2⟩,
        List.forall_mem_singleton.2 (by simp [hw', hw])⟩
      rw [hw', Function.update_noteq (by simpa using hnew y hy)]
      exact (hc.receipted y hy).1
    · rw [List.map_append]
      exact hc.distinct.append (List.nodup_singleton _) (List.disjoint_singleton.2 fun hk => by
        obtain ⟨y, hy, hyk⟩ := List.mem_map.1 hk
        exact hnew y hy hyk)

/-- **A period is paid once.**  Over every run, whatever it closes and creates again at the grant
address `g`, the successful claims of `c` on `g` are for distinct periods, none of which had a
receipt before the run. -/
theorem run_claims_once (rt : Runtime) (w : World) (steps : List (I64 × ProgramInstruction))
    (g c : Pubkey) :
    ((claimsBy g c (trace rt w steps)).map Prod.fst).Nodup ∧
      ∀ x ∈ claimsBy g c (trace rt w steps), w.receipts (g, c, x.1) = none := by
  have hL := run_trace_induction rt (fun _ => True) (ClaimsOnce g c w)
    (fun _ _ _ _ _ _ hc h => hc.step h) steps (fun _ _ => trivial) w []
    ⟨fun _ _ => id, fun _ hx => by simp [claimsBy] at hx, by simp [claimsBy]⟩
  rw [List.nil_append] at hL
  exact ⟨hL.distinct, fun x hx => (hL.receipted x hx).2⟩

/-- The message a successful claim carries is bound to the claim's grant, claimer and period. -/
theorem execute_claim_popMessage {rt : Runtime} {now : I64} {w w' : World}
    {ix : ProgramInstruction} {acc : ClaimAccounts} {k : UInt64} (h : execute rt now w ix = .ok w')
    (hc : ix.claim? = some (acc, k)) :
    ∃ m, acc.sysvar.popMessage? = some m ∧ m.grant = acc.grant ∧ m.claimer = acc.claimer ∧
      m.periodIndex = k := by
  obtain ⟨ctx, -, -, hs, -⟩ := execute_claim h hc
  obtain ⟨m, -, -, hv, -⟩ := settleClaim_eq_ok.1 hs
  obtain ⟨-, -, -, -, -, -, -, -, -, hg, hcl, hk, -⟩ := verifyPopProof_eq_ok.1 hv
  exact ⟨m, popMessage?_of_verifyPopProof hv, hg, hcl, hk⟩

/-- The messages accepted on `g` in the steps `tr` of a run ending in `w'`: each names `g` and
left the receipt of its claimer and period, and no two are for one claimer and period. -/
structure MessagesOnce (g : Pubkey) (w' : World) (tr : List Transition) : Prop where
  /-- Each message names `g`. -/
  bound : ∀ m ∈ popMessages g tr, m.grant = g
  /-- Each message left the receipt of its claimer and period. -/
  receipted : ∀ m ∈ popMessages g tr, (w'.receipts (g, m.claimer, m.periodIndex)).isSome
  /-- No two messages are for one claimer and period. -/
  distinct : ((popMessages g tr).map fun m => (m.claimer, m.periodIndex)).Nodup

/-- One successful instruction keeps `MessagesOnce`. -/
theorem MessagesOnce.step {g : Pubkey} {w₁ w₂ : World} {tr : List Transition} {rt : Runtime}
    {now : I64} {ix : ProgramInstruction} (hc : MessagesOnce g w₁ tr)
    (h : execute rt now w₁ ix = .ok w₂) : MessagesOnce g w₂ (tr ++ [⟨w₁, now, ix, w₂⟩]) := by
  have kept : ∀ m ∈ popMessages g tr, (w₂.receipts (g, m.claimer, m.periodIndex)).isSome :=
    fun m hm => by
      obtain ⟨r, hr⟩ := Option.isSome_iff_exists.1 (hc.receipted m hm)
      simp [execute_receipts_mono h hr]
  -- an instruction that accepts no message on `g` keeps the list
  have hsame (hm : Transition.popMessage? g ⟨w₁, now, ix, w₂⟩ = none) :
      MessagesOnce g w₂ (tr ++ [⟨w₁, now, ix, w₂⟩]) := by
    have hL : popMessages g (tr ++ [⟨w₁, now, ix, w₂⟩]) = popMessages g tr := by
      rw [popMessages_append_singleton, hm, Option.toList_none, List.append_nil]
    exact ⟨hL ▸ hc.bound, hL ▸ kept, hL ▸ hc.distinct⟩
  cases hcl : ix.claim? with
  | none => exact hsame (by simp [Transition.popMessage?, hcl])
  | some ak =>
    obtain ⟨acc, k⟩ := ak
    by_cases hg : acc.grant = g
    · -- a claim on `g`: its period had no receipt, so no earlier message was for it
      subst hg
      obtain ⟨m, hm, hmg, hmc, hmk⟩ := execute_claim_popMessage h hcl
      obtain ⟨hf, hw'⟩ := execute_claim_receipts h hcl
      have hL : popMessages acc.grant (tr ++ [⟨w₁, now, ix, w₂⟩]) =
          popMessages acc.grant tr ++ [m] := by
        rw [popMessages_append_singleton]
        simp [Transition.popMessage?, hcl, hm]
      have hnew : (m.claimer, m.periodIndex) ∉
          (popMessages acc.grant tr).map fun m => (m.claimer, m.periodIndex) := fun hk => by
        obtain ⟨m₀, hm₀, heq⟩ := List.mem_map.1 hk
        have hr := hc.receipted m₀ hm₀
        simp only [Prod.mk.injEq] at heq
        rw [heq.1, heq.2, hmc, hmk, hf] at hr
        cases hr
      refine ⟨?_, ?_, ?_⟩ <;> rw [hL]
      · exact List.forall_mem_append.2 ⟨hc.bound, List.forall_mem_singleton.2 hmg⟩
      · exact List.forall_mem_append.2 ⟨kept, List.forall_mem_singleton.2 (by simp [hw', hmc, hmk])⟩
      · rw [List.map_append]
        exact hc.distinct.append (List.nodup_singleton _) (List.disjoint_singleton.2 hnew)
    · exact hsame (by simp [Transition.popMessage?, hcl, hg])

/-- **A signed proof of process is accepted once.**  Over every run, each message accepted on a
grant address names that grant, and no two are for one claimer and period: the messages are
pairwise distinct, so no signed message is replayed, whatever the run closes and creates again. -/
theorem run_popMessages_once (rt : Runtime) (w : World) (steps : List (I64 × ProgramInstruction))
    (g : Pubkey) :
    (∀ m ∈ popMessages g (trace rt w steps), m.grant = g) ∧
      ((popMessages g (trace rt w steps)).map fun m => (m.claimer, m.periodIndex)).Nodup := by
  have hL := run_trace_induction rt (fun _ => True) (MessagesOnce g)
    (fun _ _ _ _ _ _ hc h => hc.step h) steps (fun _ _ => trivial) w []
    ⟨fun _ hm => by simp [popMessages] at hm, fun _ hm => by simp [popMessages] at hm,
      by simp [popMessages]⟩
  rw [List.nil_append] at hL
  exact ⟨hL.bound, hL.distinct⟩
/-! ### Checks a well-formed world always passes -/

/-- **A claim's account checks in a well-formed world.**  Of the checks of `ClaimGrant`, those on
the grant's seeds and bump, its vault, and the address and authority of the signer registration
always pass: the accounts load exactly when the grant exists, the mint account is a mint, the
claimer's token account exists with the claim's mint and the claimer as owner, the period has no
receipt, the authority has registered a signer, and the claimer can pay for the receipt and then,
if the grant has none, for the chain state (`createAccount_eq_ok`, `initIfNeeded_eq_ok`). -/
theorem loadClaimGrant_ok_iff {rt : Runtime} {w : World} (hw : w.WellFormed rt)
    {acc : ClaimAccounts} {k : UInt64} :
    (∃ ctx, loadClaimGrant rt w acc k = .ok ctx) ↔
      ∃ grant ata cfg, w.grants acc.grant = some grant ∧ w.mints acc.mint = true ∧
        w.tokenAccounts acc.claimerAta = some ata ∧ ata.mint = acc.mint ∧
        ata.owner = acc.claimer ∧ w.receipts (acc.grant, acc.claimer, k) = none ∧
        w.popConfigs grant.authority = some cfg ∧
        ∃ s s', createAccount rt w.system acc.claimer
            (rt.findProgramAddress (receiptSeeds acc.grant acc.claimer k)).1
            (8 + ClaimReceipt.initSpace) false = .ok s ∧
          initIfNeeded rt s acc.claimer (rt.findProgramAddress (popStateSeeds acc.grant)).1
            (8 + PopState.initSpace) (w.popStates acc.grant).isSome = .ok s' := by
  constructor
  · rintro ⟨ctx, hl⟩
    have hL := loadClaimGrant_eq_ok.1 hl
    obtain ⟨s, hs, hs'⟩ := hL.rent
    rw [hL.fresh, Option.isSome_none] at hs
    exact ⟨ctx.grant, ctx.claimerAta, ctx.popConfig, hL.grant, hL.mint, hL.claimerAta, hL.ataMint,
      hL.ataOwner, hL.fresh, hL.popConfig, s, ctx.system, hs, hs'⟩
  · rintro ⟨grant, ata, cfg, hg, hm, ha, ham, hao, hr, hpc, s, s', hs, hs'⟩
    -- the seeds and the vault come with the grant, the bump and authority with the registration
    obtain ⟨vault, hv, hseeds, -⟩ := hw.grant_vault hg
    obtain ⟨hca, hcb⟩ := hw.popConfig_key _ cfg hpc
    exact ⟨⟨grant, vault, ata, _, _, cfg, s'⟩, loadClaimGrant_eq_ok.2 ⟨hg, hm, hv, ha, hpc,
      ⟨s, by rw [hr]; exact hs, hs'⟩, hseeds, ham, hao, rfl, rfl, hcb.symm, hca⟩⟩

set_option maxRecDepth 4000 in
theorem loadClaimGrant_ok_iff_exampleOpened :
    exampleOpened.WellFormed exampleRuntime ∧
    ∃ ctx, loadClaimGrant exampleRuntime exampleOpened exampleClaimAccounts 3 = .ok ctx :=
  ⟨exampleOpened_wellFormed, (loadClaimGrant_ok_iff exampleOpened_wellFormed).2
    ⟨exampleOpenGrant, ⟨exampleMint, exampleClaimer, 0⟩, ⟨exampleAuthority, exampleSigner, 255⟩,
      by decide, by decide, by decide, rfl, rfl, by decide, by decide, _, _, rfl, rfl⟩⟩

/-- The grant account an instruction names: that of `fund_grant`, of a claim, of `close_grant`,
`set_paused` and `set_allowlist_root`. -/
def ProgramInstruction.grant? : ProgramInstruction → Option Pubkey
  | .fundGrant g .. => some g
  | .claimGrant acc _ => some acc.grant
  | .claimGrantWithProof acc _ _ => some acc.grant
  | .closeGrant g .. => some g
  | .setPaused g .. => some g
  | .setAllowlistRoot g .. => some g
  | _ => none

theorem ProgramInstruction.grant?_of_claim? {ix : ProgramInstruction} {acc : ClaimAccounts}
    {k : UInt64} (hc : ix.claim? = some (acc, k)) : ix.grant? = some acc.grant := by
  cases ix <;> simp only [ProgramInstruction.claim?, reduceCtorEq, Option.some.injEq,
    Prod.mk.injEq] at hc <;> simp [ProgramInstruction.grant?, hc.1]

section Frame

variable {rt : Runtime} {now : I64} {w w' : World} {g : Pubkey}

/-- **An address without a grant stays inert.**  Unless it is a `create_grant` there, a successful
instruction leaves the address without a grant and its vault as it is, and names no grant there:
`fund_grant`, the claims, `close_grant`, `set_paused` and `set_allowlist_root` all load the grant
they name. -/
theorem execute_absent {ix : ProgramInstruction} (h : execute rt now w ix = .ok w')
    (hg : w.grants g = none) (hnc : ¬ix.CreatesAt rt g) :
    w'.grants g = none ∧ w'.vaults g = w.vaults g ∧ ix.grant? ≠ some g := by
  have hne : ∀ {g' grant}, w.grants g' = some grant → g ≠ g' := fun h' e => by
    rw [← e, hg] at h'
    cases h'
  cases ix with
  | createGrant =>
    obtain ⟨-, -, -, _, _, _, -, -, rfl⟩ := createGrant_eq_ok h
    exact ⟨(Function.update_noteq (Ne.symm hnc) _ _).trans hg,
      Function.update_noteq (Ne.symm hnc) _ _, nofun⟩
  | fundGrant g' =>
    obtain ⟨grant, -, -, hg₀, -, -, -, -, -, -, rfl⟩ := fundGrant_moves h
    have hg' := hne hg₀
    exact ⟨hg, Function.update_noteq hg' _ _, by simpa [ProgramInstruction.grant?] using hg'.symm⟩
  | claimGrant acc k | claimGrantWithProof acc k =>
    obtain ⟨ctx, hl, -, hs, -⟩ := execute_claim h rfl
    have hg' := hne (loadClaimGrant_eq_ok.1 hl).grant
    obtain ⟨-, -, -, -, -, -, -, rfl⟩ := settleClaim_eq_ok.1 hs
    exact ⟨hg, Function.update_noteq hg' _ _, by simpa [ProgramInstruction.grant?] using hg'.symm⟩
  | closeGrant g' =>
    obtain ⟨grant, -, -, hg₀, -, -, -, -, -, rfl⟩ := closeGrant_moves h
    have hg' := hne hg₀
    exact ⟨(Function.update_noteq hg' _ _).trans hg, Function.update_noteq hg' _ _,
      by simpa [ProgramInstruction.grant?] using hg'.symm⟩
  | setPaused g' =>
    obtain ⟨grant, hl, rfl⟩ := setPaused_eq_ok h
    have hg' := hne (loadOwnedGrant_eq_ok.1 hl).1
    exact ⟨(Function.update_noteq hg' _ _).trans hg, rfl,
      by simpa [ProgramInstruction.grant?] using hg'.symm⟩
  | setAllowlistRoot g' =>
    obtain ⟨grant, hl, rfl⟩ := setAllowlistRoot_eq_ok h
    have hg' := hne (loadOwnedGrant_eq_ok.1 hl).1
    exact ⟨(Function.update_noteq hg' _ _).trans hg, rfl,
      by simpa [ProgramInstruction.grant?] using hg'.symm⟩
  | upsertPopConfig =>
    obtain ⟨_, rfl⟩ := upsertPopConfig_eq_ok h
    exact ⟨hg, rfl, nofun⟩

/-- A paused grant stays paused, and no claim on it succeeds, under an instruction that neither
creates it again nor unpauses it. -/
theorem execute_paused {ix : ProgramInstruction} (h : execute rt now w ix = .ok w')
    (hp : ∀ grant, w.grants g = some grant → grant.paused = true) (hnc : ¬ix.CreatesAt rt g)
    (hnu : ∀ m a, ix ≠ .setPaused g m a false) :
    (∀ acc k, ix.claim? = some (acc, k) → acc.grant ≠ g) ∧
      ∀ grant, w'.grants g = some grant → grant.paused = true := by
  refine ⟨fun acc k hc hag => ?_, fun grant' hg' => ?_⟩
  · -- a claim loads the grant and finds it unpaused
    obtain ⟨ctx, hl, hpaused, -⟩ := execute_claim h hc
    subst hag
    simpa [hpaused] using hp _ (loadClaimGrant_eq_ok.1 hl).grant
  · cases hg : w.grants g with
    | none => simp [(execute_absent h hg hnc).1] at hg'
    | some grant =>
      rcases execute_grant_kept h hg hnc with ⟨hn, -⟩ | ⟨grant'', hg'', -, hpz, -⟩
      · simp [hn] at hg'
      · obtain rfl := Option.some_injective _ (hg''.symm.trans hg')
        by_contra hpf
        obtain ⟨m, a, rfl⟩ := hpz (by simp [hp grant hg, hpf])
        exact hnu m a (by simp [hpf])

/-- Under an instruction that does not create the grant at `g` again, a grant there with the
terms of `grant` keeps them, and a claim on `g` settles on them. -/
theorem execute_terms {ix : ProgramInstruction} {grant : Grant} (h : execute rt now w ix = .ok w')
    (ht : ∀ grant', w.grants g = some grant' → grant'.SameTerms grant)
    (hp : 0 < grant.periodSeconds.toInt) (hnc : ¬ix.CreatesAt rt g) :
    (∀ acc k, ix.claim? = some (acc, k) → acc.grant = g →
      ClaimSettles g grant.amountPerPeriod grant.periodSeconds grant.startTs grant.expiresAt
        ⟨w, now, ix, w'⟩ acc k) ∧
      ∀ grant', w'.grants g = some grant' → grant'.SameTerms grant := by
  cases hg : w.grants g with
  | none =>
    -- no grant, and none appears: every claim on `g` fails
    obtain ⟨hg', -, hn⟩ := execute_absent h hg hnc
    exact ⟨fun acc k hc hag => absurd (hag ▸ ProgramInstruction.grant?_of_claim? hc) hn,
      by simp [hg']⟩
  | some grant' =>
    obtain ⟨ha, hps, hst, he⟩ := (ht grant' hg).schedule
    refine ⟨fun acc k hc hag => ?_, fun grant'' hg'' => ?_⟩
    · subst hag
      have hs := execute_claimSettles h hc hg (by rw [hps]; exact hp)
      rwa [ha, hps, hst, he] at hs
    · rcases execute_grant_kept h hg hnc with ⟨hn, -⟩ | ⟨g₃, hg₃, hs₃, -⟩
      · simp [hn] at hg''
      · obtain rfl := Option.some_injective _ (hg₃.symm.trans hg'')
        exact Eq.trans hs₃ (ht grant' hg)

end Frame

/-- **A grant's terms bind every claim on it until it is created again.**  Over a run with no
`create_grant` at `g`, from accounts in which `g` holds a grant with a positive period, every
successful claim on `g` settles on the terms of that grant: it is made while the grant is
unpaused, started and not expired, for the period of its clock value, writes the one receipt of
that period, which did not exist, and moves `amount_per_period` from the vault to a token account
of the claimer.  No instruction changes the four terms, so as long as the grant exists it has
them; after `close_grant` no claim on `g` succeeds.  In particular, once the clock is past a
nonzero `expires_at`, nothing more is paid out of the vault by a claim. -/
theorem run_claims_terms (rt : Runtime) (w : World) (steps : List (I64 × ProgramInstruction))
    (g : Pubkey) (grant : Grant) (hg : w.grants g = some grant)
    (hp : 0 < grant.periodSeconds.toInt) (hsteps : ∀ st ∈ steps, ¬st.2.CreatesAt rt g) :
    (∀ t ∈ trace rt w steps, ∀ acc k, t.ix.claim? = some (acc, k) → acc.grant = g →
      ClaimSettles g grant.amountPerPeriod grant.periodSeconds grant.startTs grant.expiresAt
        t acc k) ∧
      ∀ grant', (run rt w steps).grants g = some grant' → grant'.SameTerms grant := by
  have hL := run_trace_induction rt (fun ix => ¬ix.CreatesAt rt g)
    (fun w' tr => (∀ t ∈ tr, ∀ acc k, t.ix.claim? = some (acc, k) → acc.grant = g →
        ClaimSettles g grant.amountPerPeriod grant.periodSeconds grant.startTs grant.expiresAt
          t acc k) ∧
      ∀ grant', w'.grants g = some grant' → grant'.SameTerms grant)
    (fun _ _ _ _ _ hnc ⟨hclaims, ht⟩ h =>
      have ⟨hc, ht'⟩ := execute_terms h ht hp hnc
      ⟨List.forall_mem_append.2 ⟨hclaims, List.forall_mem_singleton.2 hc⟩, ht'⟩)
    steps hsteps w [] ⟨fun _ h => absurd h (List.not_mem_nil _),
      fun _ h => by rw [hg] at h; cases h; rfl⟩
  rwa [List.nil_append] at hL

set_option maxRecDepth 4000 in
theorem run_claims_terms_exampleClaim :
    exampleClaimWorld.grants exampleGrantKey = some exampleAllowlistGrant ∧
    0 < exampleAllowlistGrant.periodSeconds.toInt ∧
    (∀ st ∈ exampleClaimSteps, ¬st.2.CreatesAt exampleRuntime exampleGrantKey) ∧
    (∀ t ∈ trace exampleRuntime exampleClaimWorld exampleClaimSteps, ∀ acc k,
      t.ix.claim? = some (acc, k) → acc.grant = exampleGrantKey →
      ClaimSettles exampleGrantKey exampleAllowlistGrant.amountPerPeriod
        exampleAllowlistGrant.periodSeconds exampleAllowlistGrant.startTs
        exampleAllowlistGrant.expiresAt t acc k) ∧
    ∀ grant', (run exampleRuntime exampleClaimWorld exampleClaimSteps).grants exampleGrantKey =
      some grant' → grant'.SameTerms exampleAllowlistGrant :=
  have hg : exampleClaimWorld.grants exampleGrantKey = some exampleAllowlistGrant := by decide
  have hs : ∀ st ∈ exampleClaimSteps, ¬st.2.CreatesAt exampleRuntime exampleGrantKey := by
    simp [exampleClaimSteps, ProgramInstruction.CreatesAt]
  ⟨hg, by decide, hs, run_claims_terms exampleRuntime exampleClaimWorld exampleClaimSteps
    exampleGrantKey exampleAllowlistGrant hg (by decide) hs⟩

/-- **A paused grant pays nothing.**  Over a run in which no step unpauses the grant at `g` or
creates it again, no claim on `g` succeeds, and the grant, as long as it exists, stays paused. -/
theorem run_paused (rt : Runtime) (w : World) (steps : List (I64 × ProgramInstruction))
    (g : Pubkey) (hp : ∀ grant, w.grants g = some grant → grant.paused = true)
    (hsteps : ∀ st ∈ steps, ¬st.2.CreatesAt rt g ∧ ∀ m a, st.2 ≠ .setPaused g m a false) :
    (∀ t ∈ trace rt w steps, ∀ acc k, t.ix.claim? = some (acc, k) → acc.grant ≠ g) ∧
      ∀ grant, (run rt w steps).grants g = some grant → grant.paused = true := by
  have hL := run_trace_induction rt (fun ix => ¬ix.CreatesAt rt g ∧ ∀ m a, ix ≠ .setPaused g m a false)
    (fun w' tr => (∀ t ∈ tr, ∀ acc k, t.ix.claim? = some (acc, k) → acc.grant ≠ g) ∧
      ∀ grant, w'.grants g = some grant → grant.paused = true)
    (fun _ _ _ _ _ hq ⟨hclaims, hp⟩ h => by
      obtain ⟨hc, hp'⟩ := execute_paused h hp hq.1 hq.2
      refine ⟨fun t ht => ?_, hp'⟩
      rcases List.mem_append.1 ht with ht | ht
      · exact hclaims t ht
      · obtain rfl := List.mem_singleton.1 ht
        exact hc)
    steps hsteps w [] ⟨fun _ h => absurd h (List.not_mem_nil _), hp⟩
  rwa [List.nil_append] at hL

/-- The example grant, paused, at every address. -/
def examplePausedWorld : World :=
  { exampleClaimWorld with grants := fun _ => some { exampleAllowlistGrant with paused := true } }

theorem run_paused_examplePaused :
    (∀ grant, examplePausedWorld.grants exampleGrantKey = some grant → grant.paused = true) ∧
    (∀ st ∈ exampleClaimSteps, ¬st.2.CreatesAt exampleRuntime exampleGrantKey ∧
      ∀ m a, st.2 ≠ .setPaused exampleGrantKey m a false) ∧
    (∀ t ∈ trace exampleRuntime examplePausedWorld exampleClaimSteps, ∀ acc k,
      t.ix.claim? = some (acc, k) → acc.grant ≠ exampleGrantKey) ∧
    ∀ grant, (run exampleRuntime examplePausedWorld exampleClaimSteps).grants exampleGrantKey =
      some grant → grant.paused = true :=
  have hp : ∀ grant, examplePausedWorld.grants exampleGrantKey = some grant →
      grant.paused = true :=
    fun _ h => Option.some_injective _ h ▸ rfl
  have hs : ∀ st ∈ exampleClaimSteps, ¬st.2.CreatesAt exampleRuntime exampleGrantKey ∧
      ∀ m a, st.2 ≠ .setPaused exampleGrantKey m a false := by
    simp [exampleClaimSteps, ProgramInstruction.CreatesAt]
  ⟨hp, hs, run_paused exampleRuntime examplePausedWorld exampleClaimSteps exampleGrantKey hp hs⟩

/-- **An address without a grant is inert.**  Over a run with no `create_grant` at `g`, from
accounts with no grant at `g`, there is still none after the run, the vault there is as it was,
and no successful step names a grant at `g`: every `fund_grant`, claim, `close_grant`,
`set_paused` and `set_allowlist_root` on it fails. -/
theorem run_absent (rt : Runtime) (w : World) (steps : List (I64 × ProgramInstruction))
    (g : Pubkey) (hg : w.grants g = none) (hsteps : ∀ st ∈ steps, ¬st.2.CreatesAt rt g) :
    (run rt w steps).grants g = none ∧ (run rt w steps).vaults g = w.vaults g ∧
      ∀ t ∈ trace rt w steps, t.ix.grant? ≠ some g := by
  have hL := run_trace_induction rt (fun ix => ¬ix.CreatesAt rt g)
    (fun w' tr => w'.grants g = none ∧ w'.vaults g = w.vaults g ∧ ∀ t ∈ tr, t.ix.grant? ≠ some g)
    (fun _ _ _ _ _ hnc ⟨hg, hv, hnamed⟩ h => by
      obtain ⟨hg', hv', hn⟩ := execute_absent h hg hnc
      refine ⟨hg', hv'.trans hv, fun t ht => ?_⟩
      rcases List.mem_append.1 ht with ht | ht
      · exact hnamed t ht
      · obtain rfl := List.mem_singleton.1 ht
        exact hn)
    steps hsteps w [] ⟨hg, rfl, fun _ h => absurd h (List.not_mem_nil _)⟩
  rwa [List.nil_append] at hL

theorem run_absent_empty :
    World.empty.grants exampleGrantKey = none ∧
    (∀ st ∈ exampleFundSteps, ¬st.2.CreatesAt exampleRuntime exampleGrantKey) ∧
    (run exampleRuntime World.empty exampleFundSteps).grants exampleGrantKey = none ∧
    (run exampleRuntime World.empty exampleFundSteps).vaults exampleGrantKey =
      World.empty.vaults exampleGrantKey ∧
    ∀ t ∈ trace exampleRuntime World.empty exampleFundSteps, t.ix.grant? ≠ some exampleGrantKey :=
  have hs : ∀ st ∈ exampleFundSteps, ¬st.2.CreatesAt exampleRuntime exampleGrantKey := by
    simp [exampleFundSteps, exampleFund, ProgramInstruction.CreatesAt]
  ⟨rfl, hs, run_absent exampleRuntime World.empty exampleFundSteps exampleGrantKey rfl hs⟩

end GrantProgram
