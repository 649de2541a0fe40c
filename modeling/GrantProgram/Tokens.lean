import GrantProgram.Receipts
import Mathlib.Algebra.BigOperators.Group.Finset

/-
**The tokens: what every instruction moves, and conservation over runs.**

The program holds tokens in two kinds of accounts: the vault of each grant, owned by the grant's
address, and the users' token accounts.  Three instructions move tokens, each through one
`transfer_checked` of the token program: `fund_grant` moves its amount from the funder's account
into the vault, a claim (through either entry point) moves `amount_per_period` from the vault to
the claimer's account, and `close_grant` moves the vault's whole balance to the authority's account
before it closes the vault.  `create_grant` opens an empty vault or keeps the one there, and the
other instructions touch no token account.  So a successful instruction moves at most one amount,
always between a vault and a user's account, and over any run each account holds what it held,
plus what the run's transfers gave it, minus what they took: the program creates and destroys no
tokens.

Main definitions:

* `GrantProgram.Holder`, `GrantProgram.World.holdings` — an account that holds tokens, and its
  balance;
* `GrantProgram.Transfer`, `GrantProgram.ProgramInstruction.transfer?` — what an instruction
  moves;
* `GrantProgram.transfers` — the transfers of the successful steps of a run;
* `GrantProgram.ProgramInstruction.claimsOn` — a claim on a given grant.

Main results:

* `GrantProgram.execute_holdings` — **what one instruction does to every balance**;
* `GrantProgram.run_holdings` — every balance after a run;
* `GrantProgram.run_sum_holdings` — **conservation**: the total held by any set of accounts that
  no transfer of the run crosses is the same after the run;
* `GrantProgram.run_vault` — **the vault of a grant** holds what it held, plus what was funded,
  minus `amount_per_period` for each claim;
* `GrantProgram.execute_user_debit`, `GrantProgram.execute_vault_debit` — **who can lower a
  balance**: a user's, only its owner through `fund_grant`; a vault's, only a claim on the grant,
  paying `amount_per_period` to the claimer, or `close_grant` by the grant's authority.
-/

set_option autoImplicit false

namespace GrantProgram

/-! ### Holders and transfers -/

/-- An account that holds tokens of the program: the vault of a grant, by the grant's address, or
a user's token account, by its address. -/
inductive Holder
  | vault (grant : Pubkey)
  | user (address : Pubkey)
deriving DecidableEq

/-- The balance of a holder; zero where there is no account. -/
def World.holdings (w : World) : Holder → ℕ
  | .vault g => ((w.vaults g).map TokenAccount.amount).getD 0
  | .user a => balance w a

@[simp] theorem World.holdings_vault (w : World) (g : Pubkey) :
    w.holdings (.vault g) = ((w.vaults g).map TokenAccount.amount).getD 0 := rfl

@[simp] theorem World.holdings_user (w : World) (a : Pubkey) :
    w.holdings (.user a) = ((w.tokenAccounts a).map TokenAccount.amount).getD 0 := rfl

/-- A movement of tokens from one holder to another. -/
structure Transfer where
  source : Holder
  destination : Holder
  amount : ℕ
deriving DecidableEq

/-- What a transfer takes from a holder. -/
def Transfer.debit (t : Transfer) (x : Holder) : ℕ := if x = t.source then t.amount else 0

/-- What a transfer gives a holder. -/
def Transfer.credit (t : Transfer) (x : Holder) : ℕ := if x = t.destination then t.amount else 0

/-- What transfers take from a holder, in all. -/
def debits (ts : List Transfer) (x : Holder) : ℕ := (ts.map (·.debit x)).sum

/-- What transfers give a holder, in all. -/
def credits (ts : List Transfer) (x : Holder) : ℕ := (ts.map (·.credit x)).sum

@[simp] theorem Transfer.debit_mk (source destination : Holder) (amount : ℕ) (x : Holder) :
    (Transfer.mk source destination amount).debit x = if x = source then amount else 0 := rfl

@[simp] theorem Transfer.credit_mk (source destination : Holder) (amount : ℕ) (x : Holder) :
    (Transfer.mk source destination amount).credit x = if x = destination then amount else 0 :=
  rfl

@[simp] theorem debits_nil (x : Holder) : debits [] x = 0 := rfl

@[simp] theorem credits_nil (x : Holder) : credits [] x = 0 := rfl

@[simp] theorem debits_cons (t : Transfer) (ts : List Transfer) (x : Holder) :
    debits (t :: ts) x = t.debit x + debits ts x := by
  simp [debits]

@[simp] theorem credits_cons (t : Transfer) (ts : List Transfer) (x : Holder) :
    credits (t :: ts) x = t.credit x + credits ts x := by
  simp [credits]

@[simp] theorem debits_append (ts ts' : List Transfer) (x : Holder) :
    debits (ts ++ ts') x = debits ts x + debits ts' x := by
  simp [debits]

@[simp] theorem credits_append (ts ts' : List Transfer) (x : Holder) :
    credits (ts ++ ts') x = credits ts x + credits ts' x := by
  simp [credits]

/-- The amount a claim on `g` pays from the accounts `w`: the grant's `amount_per_period`. -/
def claimAmount (w : World) (g : Pubkey) : ℕ :=
  ((w.grants g).map fun grant => grant.amountPerPeriod.toNat).getD 0

/-- What an instruction moves when it succeeds on the accounts `w`: `fund_grant` its amount from
the funder's account into the vault, a claim `amount_per_period` from the vault to the claimer's
account, and `close_grant` the vault's balance to the authority's account. -/
def ProgramInstruction.transfer? (w : World) : ProgramInstruction → Option Transfer
  | .fundGrant g _ fromAta _ _ amount => some ⟨.user fromAta, .vault g, amount.toNat⟩
  | .claimGrant acc _ => some ⟨.vault acc.grant, .user acc.claimerAta, claimAmount w acc.grant⟩
  | .claimGrantWithProof acc _ _ =>
    some ⟨.vault acc.grant, .user acc.claimerAta, claimAmount w acc.grant⟩
  | .closeGrant g _ ata _ => some ⟨.vault g, .user ata, w.holdings (.vault g)⟩
  | _ => none

/-- The instruction is a claim on the grant `g`, through either entry point. -/
def ProgramInstruction.claimsOn (g : Pubkey) (ix : ProgramInstruction) : Bool :=
  match ix.claim? with
  | some (acc, _) => decide (acc.grant = g)
  | none => false

/-- The authority funds the example grant with 5 more tokens. -/
def exampleFund : ProgramInstruction :=
  .fundGrant exampleGrantKey exampleMint exampleAuthorityAta exampleAuthority exampleAuthority 5

/-- The accounts after `exampleFund` over `exampleClaimWorld`. -/
def exampleFunded : World := run exampleRuntime exampleClaimWorld [(exampleNow, exampleFund)]

/-- The funding, then the example claim. -/
def exampleFundSteps : List (I64 × ProgramInstruction) :=
  [(exampleNow, exampleFund), (exampleNow, .claimGrantWithProof exampleClaimAccounts 3 [])]

/-! ### What each instruction moves -/

section Moves

variable {rt : Runtime} {now : I64} {w w' : World}

/-- The vault `create_grant` writes has the balance of the one there, if any. -/
theorem initVault_amount {s s' : SystemState} {payer g mint : Pubkey} {v : TokenAccount}
    (h : initVault rt w s payer g mint = .ok (v, s')) :
    ((w.vaults g).map TokenAccount.amount).getD 0 = v.amount := by
  rcases initVault_eq_ok.1 h with ⟨hv, rfl, -⟩ | ⟨hv, -, -, -⟩ <;> simp [hv]

theorem createGrant_holdings {authority mint : Pubkey} {grantId amountPerPeriod : UInt64}
    {periodSeconds startTs expiresAt : I64}
    (h : createGrant rt now w authority mint grantId amountPerPeriod periodSeconds startTs
      expiresAt = .ok w') : w'.holdings = w.holdings := by
  obtain ⟨-, -, -, s, vault, system, -, hv, rfl⟩ := createGrant_eq_ok h
  funext x
  cases x with
  | vault g =>
    by_cases hg : g = (rt.findProgramAddress (grantSeeds authority mint grantId)).1
    · subst hg
      simp [initVault_amount hv]
    · simp [Function.update_noteq hg]
  | user a => rfl

/-- `fund_grant` moves its amount from the funder's account, which the funder owns, into the
vault of a grant of the authority it names. -/
theorem fundGrant_moves {grantKey mint fromAta funder authority : Pubkey} {amount : UInt64}
    (h : fundGrant rt w grantKey mint fromAta funder authority amount = .ok w') :
    ∃ grant source vault, w.grants grantKey = some grant ∧ grant.authority = authority ∧
      w.tokenAccounts fromAta = some source ∧ w.vaults grantKey = some vault ∧
      source.owner = funder ∧ amount.toNat ≤ source.amount ∧
      vault.amount + amount.toNat < u64Size ∧ w' = { w with
        tokenAccounts := Function.update w.tokenAccounts fromAta
          (some { source with amount := source.amount - amount.toNat })
        vaults := Function.update w.vaults grantKey
          (some { vault with amount := vault.amount + amount.toNat }) } := by
  simp only [fundGrant, bind_eq_ok, loadAccount_eq_ok, check_eq_ok, checkOwnedGrant_eq_ok,
    require_eq_ok, exists_const, pure_eq_ok, Prod.exists] at h
  obtain ⟨grant, hg, -, vault, hv, source, hs, -, ⟨-, ha⟩, -, ho, -, -, -, s', v', ht, h⟩ := h
  obtain ⟨hle, -, -, -, hlt, rfl, rfl⟩ := transferChecked_eq_ok.1 ht
  exact ⟨grant, source, vault, hg, ha, hs, hv, ho, hle, hlt, (Except.ok.inj h).symm⟩

/-- `close_grant` moves the vault's whole balance to the authority's account, and closes the
vault and the grant, whose lamports go to the authority. -/
theorem closeGrant_moves {grantKey mint authorityAta authority : Pubkey}
    (h : closeGrant rt w grantKey mint authorityAta authority = .ok w') :
    ∃ grant vault destination, w.grants grantKey = some grant ∧ grant.authority = authority ∧
      w.vaults grantKey = some vault ∧ w.tokenAccounts authorityAta = some destination ∧
      destination.owner = authority ∧
      (vault.amount = 0 ∨ destination.amount + vault.amount < u64Size) ∧ w' = { w with
        tokenAccounts := Function.update w.tokenAccounts authorityAta
          (some { destination with amount := destination.amount + vault.amount })
        vaults := Function.update w.vaults grantKey none
        grants := Function.update w.grants grantKey none
        system := (w.system.close (rt.findProgramAddress (vaultSeeds grantKey)).1 authority).close
          grantKey authority } := by
  simp only [closeGrant, bind_eq_ok, loadAccount_eq_ok, check_eq_ok, checkOwnedGrant_eq_ok,
    require_eq_ok, exists_const, pure_eq_ok] at h
  obtain ⟨grant, hg, -, vault, hv, destination, hd, ⟨-, ha⟩, -, ho, h⟩ := h
  refine ⟨grant, vault, destination, hg, ha, hv, hd, ho, ?_⟩
  -- a non-empty vault pays out first; an empty one is closed as it is
  split_ifs at h with hpos
  · simp only [bind_eq_ok, ok_bind, Prod.exists, Except.ok.injEq] at h
    obtain ⟨v', d', ht, rfl⟩ := h
    obtain ⟨-, -, -, -, hlt, -, rfl⟩ := transferChecked_eq_ok.1 ht
    exact ⟨.inr hlt, rfl⟩
  · simp only [ok_bind, Except.ok.injEq] at h
    subst h
    have h0 : vault.amount = 0 := by omega
    exact ⟨.inl h0, by rw [h0, Nat.add_zero]⟩

/-- A claim moves the grant's `amount_per_period` from the vault to the claimer's account, which
the claimer owns. -/
theorem claim_moves {ix : ProgramInstruction} {acc : ClaimAccounts} {k : UInt64}
    (h : execute rt now w ix = .ok w') (hc : ix.claim? = some (acc, k)) :
    ∃ grant vault ata, w.grants acc.grant = some grant ∧ w.vaults acc.grant = some vault ∧
      w.tokenAccounts acc.claimerAta = some ata ∧ ata.owner = acc.claimer ∧
      grant.amountPerPeriod.toNat ≤ vault.amount ∧
      ata.amount + grant.amountPerPeriod.toNat < u64Size ∧ w'.vaults = Function.update w.vaults acc.grant
        (some { vault with amount := vault.amount - grant.amountPerPeriod.toNat }) ∧
      w'.tokenAccounts = Function.update w.tokenAccounts acc.claimerAta
        (some { ata with amount := ata.amount + grant.amountPerPeriod.toNat }) := by
  obtain ⟨ctx, hl, -, hs, -⟩ := execute_claim h hc
  have hL := loadClaimGrant_eq_ok.1 hl
  obtain ⟨m, v, a, -, -, -, ht, rfl⟩ := settleClaim_eq_ok.1 hs
  obtain ⟨hle, -, -, -, hlt, rfl, rfl⟩ := transferChecked_eq_ok.1 (transferFromVault_eq_ok.1 ht)
  exact ⟨ctx.grant, ctx.vault, ctx.claimerAta, hL.grant, hL.vault, hL.claimerAta, hL.ataOwner,
    hle, hlt, rfl, rfl⟩

/-- **What one instruction does to every balance.**  A successful instruction changes the balance
of a holder by the transfer it makes: its source loses the amount and its destination gains it,
and no other balance changes; an instruction without a transfer changes none. -/
theorem execute_holdings {ix : ProgramInstruction} (h : execute rt now w ix = .ok w')
    (x : Holder) :
    w'.holdings x + debits (ix.transfer? w).toList x =
      w.holdings x + credits (ix.transfer? w).toList x := by
  cases ix with
  | createGrant => simp [ProgramInstruction.transfer?, createGrant_holdings h]
  | fundGrant g m src f a amount =>
    obtain ⟨-, source, vault, -, -, hs, hv, -, hle, -, rfl⟩ := fundGrant_moves h
    cases x with
    | vault g' =>
      by_cases hg : g' = g <;> simp [ProgramInstruction.transfer?, Function.update_apply, hg, hv]
    | user a' =>
      by_cases ha : a' = src <;> simp [ProgramInstruction.transfer?, Function.update_apply, ha, hs]
      omega
  | closeGrant g m ata a =>
    obtain ⟨-, vault, destination, -, -, hv, hd, -, -, rfl⟩ := closeGrant_moves h
    cases x with
    | vault g' =>
      by_cases hg : g' = g <;> simp [ProgramInstruction.transfer?, Function.update_apply, hg, hv]
    | user a' =>
      by_cases ha : a' = ata <;>
        simp [ProgramInstruction.transfer?, Function.update_apply, ha, hd, hv]
  | claimGrant acc k | claimGrantWithProof acc k =>
    obtain ⟨grant, vault, ata, hg, hv, ha, -, hle, -, hv', ha'⟩ := claim_moves h rfl
    cases x with
    | vault g' =>
      by_cases hg' : g' = acc.grant <;>
        simp [ProgramInstruction.transfer?, claimAmount, Function.update_apply, hg', hv, hv', hg]
      omega
    | user a' =>
      by_cases ha'' : a' = acc.claimerAta <;>
        simp [ProgramInstruction.transfer?, claimAmount, Function.update_apply, ha'', ha, ha', hg]
  | setPaused =>
    obtain ⟨_, -, rfl⟩ := setPaused_eq_ok h
    cases x <;> rfl
  | setAllowlistRoot =>
    obtain ⟨_, -, rfl⟩ := setAllowlistRoot_eq_ok h
    cases x <;> rfl
  | upsertPopConfig =>
    obtain ⟨_, rfl⟩ := upsertPopConfig_eq_ok h
    cases x <;> rfl

set_option maxRecDepth 4000 in
theorem execute_holdings_exampleFund :
    execute exampleRuntime exampleNow exampleClaimWorld exampleFund = .ok exampleFunded ∧
    ∀ x, exampleFunded.holdings x + debits (exampleFund.transfer? exampleClaimWorld).toList x =
      exampleClaimWorld.holdings x + credits (exampleFund.transfer? exampleClaimWorld).toList x :=
  have h : execute exampleRuntime exampleNow exampleClaimWorld exampleFund = .ok exampleFunded := rfl
  ⟨h, execute_holdings h⟩

/-- **Who can lower a user's balance**: only `fund_grant` from that account, with the account's
owner as the funder, who signs the instruction. -/
theorem execute_user_debit {ix : ProgramInstruction} (h : execute rt now w ix = .ok w')
    {a : Pubkey} (hlt : w'.holdings (.user a) < w.holdings (.user a)) :
    ∃ g m funder authority amount source, ix = .fundGrant g m a funder authority amount ∧
      w.tokenAccounts a = some source ∧ source.owner = funder := by
  have hd := execute_holdings h (.user a)
  have hpos : 0 < debits (ix.transfer? w).toList (.user a) := by omega
  cases ix with
  | fundGrant g m src f au amount =>
    obtain ⟨-, source, -, -, -, hs, -, ho, -⟩ := fundGrant_moves h
    by_cases hsa : src = a
    · subst hsa
      exact ⟨g, m, f, au, amount, source, rfl, hs, ho⟩
    · simp [ProgramInstruction.transfer?, Ne.symm hsa] at hpos
  | _ => simp [ProgramInstruction.transfer?] at hpos

set_option maxRecDepth 4000 in
theorem execute_user_debit_exampleFund :
    execute exampleRuntime exampleNow exampleClaimWorld exampleFund = .ok exampleFunded ∧
    exampleFunded.holdings (.user exampleAuthorityAta) < exampleClaimWorld.holdings (.user exampleAuthorityAta) ∧
    ∃ g m funder authority amount source,
      exampleFund = .fundGrant g m exampleAuthorityAta funder authority amount ∧
      exampleClaimWorld.tokenAccounts exampleAuthorityAta = some source ∧ source.owner = funder :=
  have h : execute exampleRuntime exampleNow exampleClaimWorld exampleFund = .ok exampleFunded := rfl
  have hlt : exampleFunded.holdings (.user exampleAuthorityAta) <
      exampleClaimWorld.holdings (.user exampleAuthorityAta) := by decide
  ⟨h, hlt, execute_user_debit h hlt⟩

/-- **Who can lower a vault's balance**: a claim on the grant, which is not paused, pays exactly
`amount_per_period` into a token account of the claimer, who signs it; or `close_grant`, signed by
the grant's authority, empties the vault into a token account of the authority. -/
theorem execute_vault_debit {ix : ProgramInstruction} (h : execute rt now w ix = .ok w')
    {g : Pubkey} (hlt : w'.holdings (.vault g) < w.holdings (.vault g)) :
    ∃ grant, w.grants g = some grant ∧
      ((∃ acc k, ix.claim? = some (acc, k) ∧ acc.grant = g ∧ grant.paused = false ∧
          w.holdings (.vault g) = w'.holdings (.vault g) + grant.amountPerPeriod.toNat ∧
          ∃ ata, w.tokenAccounts acc.claimerAta = some ata ∧ ata.owner = acc.claimer) ∨
        ∃ m dst, ix = .closeGrant g m dst grant.authority ∧ w'.holdings (.vault g) = 0 ∧
          ∃ ata, w.tokenAccounts dst = some ata ∧ ata.owner = grant.authority) := by
  have hd := execute_holdings h (.vault g)
  have hpos : 0 < debits (ix.transfer? w).toList (.vault g) := by omega
  cases ix with
  | claimGrant acc k | claimGrantWithProof acc k =>
    obtain ⟨ctx, hl, hp, -, -⟩ := execute_claim h rfl
    have hL := loadClaimGrant_eq_ok.1 hl
    by_cases hag : acc.grant = g
    · subst hag
      refine ⟨ctx.grant, hL.grant, .inl ⟨acc, k, rfl, rfl, hp, ?_, ctx.claimerAta, hL.claimerAta,
        hL.ataOwner⟩⟩
      simpa [ProgramInstruction.transfer?, claimAmount, hL.grant, add_comm] using hd.symm
    · simp [ProgramInstruction.transfer?, Ne.symm hag] at hpos
  | closeGrant g' m ata a =>
    obtain ⟨grant, -, destination, hg, rfl, -, hd', ho, -, rfl⟩ := closeGrant_moves h
    by_cases hg' : g' = g
    · subst hg'
      exact ⟨grant, hg, .inr ⟨m, ata, rfl, by simp, destination, hd', ho⟩⟩
    · simp [ProgramInstruction.transfer?, Ne.symm hg'] at hpos
  | fundGrant | createGrant | setPaused | setAllowlistRoot | upsertPopConfig =>
    simp [ProgramInstruction.transfer?] at hpos

set_option maxRecDepth 4000 in
theorem execute_vault_debit_exampleClaim :
    execute exampleRuntime exampleNow exampleClaimWorld
        (.claimGrantWithProof exampleClaimAccounts 3 []) = .ok exampleClaimAfter ∧
    exampleClaimAfter.holdings (.vault exampleGrantKey) <
      exampleClaimWorld.holdings (.vault exampleGrantKey) ∧
    ∃ grant, exampleClaimWorld.grants exampleGrantKey = some grant ∧
      ((∃ acc k, (ProgramInstruction.claimGrantWithProof exampleClaimAccounts 3 []).claim? =
            some (acc, k) ∧ acc.grant = exampleGrantKey ∧ grant.paused = false ∧
          exampleClaimWorld.holdings (.vault exampleGrantKey) =
            exampleClaimAfter.holdings (.vault exampleGrantKey) + grant.amountPerPeriod.toNat ∧
          ∃ ata, exampleClaimWorld.tokenAccounts acc.claimerAta = some ata ∧
            ata.owner = acc.claimer) ∨
        ∃ m dst, ProgramInstruction.claimGrantWithProof exampleClaimAccounts 3 [] =
            .closeGrant exampleGrantKey m dst grant.authority ∧
          exampleClaimAfter.holdings (.vault exampleGrantKey) = 0 ∧
          ∃ ata, exampleClaimWorld.tokenAccounts dst = some ata ∧ ata.owner = grant.authority) :=
  have h : execute exampleRuntime exampleNow exampleClaimWorld
      (.claimGrantWithProof exampleClaimAccounts 3 []) = .ok exampleClaimAfter := rfl
  have hlt : exampleClaimAfter.holdings (.vault exampleGrantKey) <
      exampleClaimWorld.holdings (.vault exampleGrantKey) := by decide
  ⟨h, hlt, execute_vault_debit h hlt⟩

/-- An instruction that neither creates nor closes the grant at `g` keeps its amount, and takes
that amount from its vault if it is a claim on `g`, and nothing otherwise. -/
theorem execute_vault_debits {ix : ProgramInstruction} (h : execute rt now w ix = .ok w')
    {g : Pubkey} {grant : Grant} (hg : w.grants g = some grant) (hnc : ¬ix.CreatesAt rt g)
    (hncl : ∀ m ata a, ix ≠ .closeGrant g m ata a) :
    (∃ grant', w'.grants g = some grant' ∧ grant'.amountPerPeriod = grant.amountPerPeriod) ∧
      debits (ix.transfer? w).toList (.vault g) =
        if ix.claimsOn g then grant.amountPerPeriod.toNat else 0 := by
  constructor
  · rcases execute_grant_kept h hg hnc with ⟨-, m, ata, a, rfl⟩ | ⟨grant', hg', hs, -⟩
    · exact absurd rfl (hncl m ata a)
    · exact ⟨grant', hg', hs.schedule.1⟩
  · cases ix with
    | claimGrant acc k | claimGrantWithProof acc k =>
      by_cases hag : acc.grant = g
      · subst hag
        simp [ProgramInstruction.transfer?, ProgramInstruction.claimsOn,
          ProgramInstruction.claim?, claimAmount, hg]
      · simp [ProgramInstruction.transfer?, ProgramInstruction.claimsOn,
          ProgramInstruction.claim?, Ne.symm hag, hag]
    | closeGrant g' m ata a =>
      have hg' : g ≠ g' := fun e => hncl m ata a (e ▸ rfl)
      simp [ProgramInstruction.transfer?, ProgramInstruction.claimsOn,
        ProgramInstruction.claim?, hg']
    | fundGrant | createGrant | setPaused | setAllowlistRoot | upsertPopConfig =>
      simp [ProgramInstruction.transfer?, ProgramInstruction.claimsOn,
        ProgramInstruction.claim?]

end Moves

/-! ### Runs -/

/-- What a successful step moved. -/
def Transition.transfer? (t : Transition) : Option Transfer := t.ix.transfer? t.before

/-- The transfers of the successful steps of a run, in order. -/
def transfers (tr : List Transition) : List Transfer := tr.filterMap Transition.transfer?

theorem transfers_append_singleton (tr : List Transition) (t : Transition) :
    transfers (tr ++ [t]) = transfers tr ++ t.transfer?.toList := by
  cases h : t.transfer? <;> simp [transfers, h]

/-- **Every balance after a run** is the balance before it, plus what the run's transfers gave,
minus what they took. -/
theorem run_holdings (rt : Runtime) (w : World) (steps : List (I64 × ProgramInstruction))
    (x : Holder) :
    (run rt w steps).holdings x + debits (transfers (trace rt w steps)) x =
      w.holdings x + credits (transfers (trace rt w steps)) x := by
  simpa [transfers] using run_trace_induction rt (fun _ => True)
    (fun w' tr => w'.holdings x + debits (transfers tr) x = w.holdings x + credits (transfers tr) x)
    (fun _ _ _ _ _ _ ih h => by
      have := execute_holdings h x
      simp only [transfers_append_singleton, debits_append, credits_append, Transition.transfer?]
      omega)
    steps (fun _ _ => trivial) w [] (by simp [transfers])

/-- What transfers take from a set of holders is what they give it, when none of them crosses
the set's boundary. -/
theorem sum_debits_eq_sum_credits {S : Finset Holder} {ts : List Transfer}
    (h : ∀ t ∈ ts, t.source ∈ S ↔ t.destination ∈ S) :
    ∑ x in S, debits ts x = ∑ x in S, credits ts x := by
  induction ts with
  | nil => simp
  | cons t ts ih =>
    have ht : t.source ∈ S ↔ t.destination ∈ S := h t (List.mem_cons_self _ _)
    simp only [debits_cons, credits_cons, Finset.sum_add_distrib]
    rw [ih fun t' ht' => h t' (List.mem_cons_of_mem _ ht')]
    simp [Transfer.debit, Transfer.credit, Finset.sum_ite_eq', ht]

/-- **The vault of a grant over a run.**  As long as the grant at `g` is neither re-created nor
closed, its vault holds what it held, plus what the run's transfers paid into it (which only
`fund_grant` does), minus `amount_per_period` for each claim on the grant.  In particular the
vault never pays out more than it held and received. -/
theorem run_vault (rt : Runtime) (w : World) (steps : List (I64 × ProgramInstruction))
    (g : Pubkey) (grant : Grant) (hg : w.grants g = some grant)
    (hsteps : ∀ st ∈ steps, ¬st.2.CreatesAt rt g ∧ ∀ m ata a, st.2 ≠ .closeGrant g m ata a) :
    (run rt w steps).holdings (.vault g) +
        grant.amountPerPeriod.toNat * (trace rt w steps).countP (·.ix.claimsOn g) =
      w.holdings (.vault g) + credits (transfers (trace rt w steps)) (.vault g) := by
  have hL := run_trace_induction rt
    (fun ix => ¬ix.CreatesAt rt g ∧ ∀ m ata a, ix ≠ .closeGrant g m ata a)
    (fun w' tr => (∃ grant', w'.grants g = some grant' ∧
        grant'.amountPerPeriod = grant.amountPerPeriod) ∧
      debits (transfers tr) (.vault g) = grant.amountPerPeriod.toNat * tr.countP (·.ix.claimsOn g))
    (fun _ tr _ ix _ hq ⟨⟨_, hg₁, ha⟩, hd⟩ h => by
      obtain ⟨hk, hdeb⟩ := execute_vault_debits h hg₁ hq.1 hq.2
      refine ⟨hk.imp fun _ hk => ⟨hk.1, hk.2.trans ha⟩, ?_⟩
      rw [transfers_append_singleton, debits_append, hd, Transition.transfer?, hdeb, ha]
      cases hc : ix.claimsOn g <;> simp [hc, Nat.mul_add])
    steps hsteps w [] ⟨⟨grant, hg, rfl⟩, by simp [transfers]⟩
  have := run_holdings rt w steps (.vault g)
  simp only [List.nil_append] at hL
  omega

set_option maxRecDepth 4000 in
theorem run_vault_exampleFund :
    exampleClaimWorld.grants exampleGrantKey = some exampleAllowlistGrant ∧
    (∀ st ∈ exampleFundSteps, ¬st.2.CreatesAt exampleRuntime exampleGrantKey ∧
      ∀ m ata a, st.2 ≠ .closeGrant exampleGrantKey m ata a) ∧
    (run exampleRuntime exampleClaimWorld exampleFundSteps).holdings (.vault exampleGrantKey) +
        exampleAllowlistGrant.amountPerPeriod.toNat *
          (trace exampleRuntime exampleClaimWorld exampleFundSteps).countP
            (·.ix.claimsOn exampleGrantKey) =
      exampleClaimWorld.holdings (.vault exampleGrantKey) +
        credits (transfers (trace exampleRuntime exampleClaimWorld exampleFundSteps))
          (.vault exampleGrantKey) :=
  have hg : exampleClaimWorld.grants exampleGrantKey = some exampleAllowlistGrant := by decide
  have hs : ∀ st ∈ exampleFundSteps, ¬st.2.CreatesAt exampleRuntime exampleGrantKey ∧
      ∀ m ata a, st.2 ≠ .closeGrant exampleGrantKey m ata a := by
    simp [exampleFundSteps, exampleFund, ProgramInstruction.CreatesAt]
  ⟨hg, hs, run_vault exampleRuntime exampleClaimWorld exampleFundSteps exampleGrantKey
    exampleAllowlistGrant hg hs⟩

end GrantProgram
