import GrantProgram.Allowlist

/-
**Instructions on disjoint accounts commute.**

The runtime runs two transactions in parallel when neither writes an account the other reads or
writes.  This module gives every instruction of the program its footprint, the accounts it
writes, and the accounts it reads, as the code has them:

* `create_grant` writes the grant at the address of its seeds and that grant's vault, and the
  lamports and owners of the authority, who pays, and of the two addresses (`init_if_needed`);
  it reads the mint account;
* `fund_grant` writes the vault and the funder's token account, and reads the grant, the mint
  account and the authority's `SystemAccount`;
* a claim, through either entry point, writes the vault, the claimer's token account, the
  receipt and the chain state, and the lamports and owners of the claimer, who pays, and of the
  addresses of the receipt and the chain state; it reads the grant, the mint account and the
  signer registration of the grant's authority (any registration, since the address depends on
  the grant);
* `close_grant` writes the grant, its vault and the authority's token account, and the lamports
  and owners of the vault's and the grant's addresses and of the authority, who receives them;
  `set_paused` and `set_allowlist_root` write the grant; `upsert_pop_config` writes one
  registration, and the lamports and owners of the authority and of its address.  Each of them
  also reads the mint account it names.

`FundGrant` and `ClaimGrant` mark the grant `mut` but never change it: a footprint here is what
the code writes, which the accounts an instruction locks for writing contain.  The lamport
operations are local: the System Program's transfer, Anchor's account creation and the closing
of an account read and write the lamports and owners of the addresses they name only.

It proves that the outcome of an instruction depends only on the accounts it reads, that it
writes nothing outside its footprint, and from these two facts that two independent instructions,
neither of which writes what the other reads, commute: whichever runs first, both succeed and the
accounts end the same.  Over whole runs, where a failed instruction changes nothing, a batch of
pairwise independent instructions ends in the same accounts in every order.

Main definitions:

* `GrantProgram.AccountKey`, `GrantProgram.Footprint` — the accounts of the program and the
  lamports of an address, and the accounts one instruction writes;
* `GrantProgram.SystemState.Local` — a lamport operation that touches only some addresses;
* `GrantProgram.ProgramInstruction.writes`, `GrantProgram.ProgramInstruction.reads` — the
  footprint of an instruction, and the accounts it reads;
* `GrantProgram.ProgramInstruction.independent` — neither of two instructions writes what the
  other reads;
* `GrantProgram.World.overwrite`, `GrantProgram.World.AgreeOn` — a world with the accounts of a
  footprint taken from another, and two worlds that agree on a set of accounts;
* `GrantProgram.runStep` — one step of a run.

Main results:

* `GrantProgram.createAccount_local` — Anchor's account creation touches the payer and the new
  address only;
* `GrantProgram.execute_congr` — **the outcome depends only on the accounts read**, errors
  included;
* `GrantProgram.execute_frame` — an instruction writes nothing outside its footprint;
* `GrantProgram.execute_commute` — **independent instructions commute**;
* `GrantProgram.run_perm` — **a batch of pairwise independent instructions can run in any
  order**.
-/

set_option autoImplicit false

namespace GrantProgram

/-! ### Overwriting some keys -/

/-- `f` with the values at the keys `l` taken from `v`. -/
def overwriteAll {α β : Type} [DecidableEq α] (f : α → β) (l : List α) (v : α → β) (a : α) : β :=
  if a ∈ l then v a else f a

section OverwriteAll

variable {α β : Type} [DecidableEq α] {f u v : α → β} {l l₁ l₂ : List α} {a : α}

theorem overwriteAll_of_mem (h : a ∈ l) : overwriteAll f l v a = v a := if_pos h

theorem overwriteAll_of_not_mem (h : a ∉ l) : overwriteAll f l v a = f a := if_neg h

@[simp] theorem overwriteAll_nil : overwriteAll f [] v = f := rfl

/-- Overwriting one key with the value a write put there is the write. -/
@[simp] theorem overwriteAll_singleton_update (b : β) :
    overwriteAll f [a] (Function.update u a b) = Function.update f a b := by
  funext x
  by_cases hx : x = a
  · subst hx
    simp [overwriteAll]
  · simp [overwriteAll, hx]

theorem overwriteAll_overwriteAll : overwriteAll (overwriteAll f l u) l v = overwriteAll f l v := by
  funext x
  unfold overwriteAll
  split_ifs <;> rfl

theorem overwriteAll_eq_self (h : ∀ a ∈ l, v a = f a) : overwriteAll f l v = f := by
  funext x
  unfold overwriteAll
  split_ifs with hx
  · exact h x hx
  · rfl

theorem overwriteAll_comm (h : ∀ a ∈ l₁, a ∉ l₂) :
    overwriteAll (overwriteAll f l₂ v) l₁ u = overwriteAll (overwriteAll f l₁ u) l₂ v := by
  funext x
  unfold overwriteAll
  by_cases h₁ : x ∈ l₁
  · simp [h₁, h x h₁]
  · simp [h₁]

/-- A write at a key of `l` to two functions that agree on `l`. -/
theorem update_eq_overwriteAll {g : α → β} (ha : a ∈ l) (h : ∀ x ∈ l, f x = g x) (b : β) :
    Function.update f a b = overwriteAll f l (Function.update g a b) := by
  funext x
  by_cases hxl : x ∈ l
  · rw [overwriteAll_of_mem hxl]
    simp only [Function.update_apply, h x hxl]
  · rw [overwriteAll_of_not_mem hxl, Function.update_noteq fun (e : x = a) => hxl (e ▸ ha)]

end OverwriteAll

/-! ### Lamport operations that touch some addresses only -/

namespace SystemState

/-- `s` with the lamports and owners of the addresses `l` taken from `v`. -/
def overwrite (s : SystemState) (l : List Pubkey) (v : SystemState) : SystemState :=
  ⟨overwriteAll s.lamports l v.lamports, overwriteAll s.systemOwned l v.systemOwned⟩

/-- `s` and `t` hold the same lamports and owners at the addresses `l`. -/
def AgreeOn (l : List Pubkey) (s t : SystemState) : Prop :=
  ∀ a ∈ l, t.lamports a = s.lamports a ∧ t.systemOwned a = s.systemOwned a

/-- The lamport operation `f` reads and writes only the addresses `l`: over two states that agree
there, it fails alike, or succeeds on both and writes the same values there. -/
def Local (l : List Pubkey) (f : SystemState → Except ProgramError SystemState) : Prop :=
  ∀ s t, AgreeOn l s t → f t = t.overwrite l <$> f s

variable {l : List Pubkey} {s t u v : SystemState}

theorem agreeOn_overwrite (t v : SystemState) : AgreeOn l v (t.overwrite l v) :=
  fun _ ha => ⟨overwriteAll_of_mem ha, overwriteAll_of_mem ha⟩

@[simp] theorem overwrite_overwrite : (t.overwrite l u).overwrite l v = t.overwrite l v := by
  simp only [overwrite, overwriteAll_overwriteAll]

theorem overwrite_eq_self (h : AgreeOn l s t) : t.overwrite l s = t :=
  congrArg₂ SystemState.mk (overwriteAll_eq_self fun a ha => (h a ha).1.symm)
    (overwriteAll_eq_self fun a ha => (h a ha).2.symm)

/-- A pointwise operation that reads and writes the addresses `l` only. -/
theorem Local.pure_of {φ : SystemState → SystemState}
    (h : ∀ s t, AgreeOn l s t → φ t = t.overwrite l (φ s)) : Local l fun s => pure (φ s) :=
  fun s t hst => by dsimp only; rw [map_pure, h s t hst]

theorem Local.pure : Local l pure :=
  Local.pure_of fun _ _ h => (overwrite_eq_self h).symm

theorem Local.bind {f g : SystemState → Except ProgramError SystemState} (hf : Local l f)
    (hg : Local l g) : Local l fun s => f s >>= g := fun s t h => by
  dsimp only
  rw [hf s t h, bind_map_left, map_bind]
  congr 1
  funext s₁
  rw [hg s₁ _ (agreeOn_overwrite t s₁)]
  congr 1
  funext s₂
  exact overwrite_overwrite

/-- A condition on the addresses `l` only. -/
def Reads (l : List Pubkey) (c : SystemState → Prop) : Prop := ∀ s t, AgreeOn l s t → (c t ↔ c s)

theorem Local.ite {c : SystemState → Prop} [DecidablePred c] (hc : Reads l c)
    {f g : SystemState → Except ProgramError SystemState} (hf : Local l f) (hg : Local l g) :
    Local l fun s => if c s then f s else g s := fun s t h => by
  dsimp only
  by_cases hs : c s
  · rw [if_pos hs, if_pos ((hc s t h).2 hs), hf s t h]
  · rw [if_neg hs, if_neg (mt (hc s t h).1 hs), hg s t h]

theorem Local.check {c : SystemState → Prop} [DecidablePred c] (hc : Reads l c) (e : ProgramError)
    {f : SystemState → Except ProgramError SystemState} (hf : Local l f) :
    Local l fun s => GrantProgram.check (c s) e >>= fun _ => f s := fun s t h => by
  by_cases hs : c s
  · simp only [GrantProgram.check, if_pos hs, if_pos ((hc s t h).2 hs), hf s t h]
    rfl
  · simp only [GrantProgram.check, if_neg hs, if_neg (mt (hc s t h).1 hs)]
    rfl

/-- A move between two addresses of `l` reads and writes `l` only. -/
theorem move_overwrite {a b : Pubkey} {n : ℕ} (ha : a ∈ l) (hb : b ∈ l) (h : AgreeOn l s t) :
    t.move a b n = t.overwrite l (s.move a b n) := by
  have hx : ∀ x ∈ l, t.lamports x = s.lamports x := fun x hx => (h x hx).1
  simp only [move, overwrite, mk.injEq]
  constructor
  · funext x
    by_cases hxl : x ∈ l
    · rw [overwriteAll_of_mem hxl]
      simp only [Function.update_apply, hx a ha, hx b hb, hx x hxl]
    · have hxa : x ≠ a := fun e => hxl (e ▸ ha)
      have hxb : x ≠ b := fun e => hxl (e ▸ hb)
      rw [overwriteAll_of_not_mem hxl]
      simp only [Function.update_noteq hxa, Function.update_noteq hxb]
  · exact (overwriteAll_eq_self fun x hx => (h x hx).2.symm).symm

theorem assign_overwrite {a : Pubkey} (ha : a ∈ l) (h : AgreeOn l s t) :
    t.assign a = t.overwrite l (s.assign a) := by
  simp only [assign, overwrite, mk.injEq]
  exact ⟨(overwriteAll_eq_self fun x hx => (h x hx).1.symm).symm,
    update_eq_overwriteAll ha (fun x hx => (h x hx).2) false⟩

theorem close_overwrite {a b : Pubkey} (ha : a ∈ l) (hb : b ∈ l) (h : AgreeOn l s t) :
    t.close a b = t.overwrite l (s.close a b) := by
  have hm := congrArg SystemState.lamports (@move_overwrite l s t a b (s.lamports a) ha hb h)
  simp only [close, overwrite, mk.injEq, (h a ha).1]
  exact ⟨hm, update_eq_overwriteAll ha (fun x hx => (h x hx).2) true⟩

end SystemState

open SystemState

variable {l : List Pubkey}

/-- The System Program's transfer between two addresses of `l`, of an amount read from `l`. -/
theorem transferLamports_local {source destination : Pubkey} {n : SystemState → ℕ}
    (hs : source ∈ l) (hd : destination ∈ l) (hn : ∀ s t, AgreeOn l s t → n t = n s) :
    Local l fun s => transferLamports s source destination (n s) :=
  Local.check (fun s t h => by rw [(h source hs).2]) _ <|
    Local.check (fun s t h => by rw [hn s t h, (h source hs).1]) _ <|
      Local.pure_of fun s t h => by rw [hn s t h]; exact move_overwrite hs hd h

/-- **Anchor's account creation touches the payer and the new address only.** -/
theorem createAccount_local {rt : Runtime} {payer address : Pubkey} {space : ℕ} {inUse : Bool}
    (hp : payer ∈ l) (ha : address ∈ l) :
    Local l fun s => createAccount rt s payer address space inUse := by
  have hl : ∀ s t, AgreeOn l s t → t.lamports address = s.lamports address :=
    fun s t h => (h address ha).1
  have ho : Reads l fun s => s.systemOwned address ∧ inUse = false :=
    fun s t h => by dsimp only; rw [(h address ha).2]
  -- the allocation check and the assignment that end both branches
  have hassign : Local l fun s => pure (s.assign address) :=
    Local.pure_of fun _ _ h => assign_overwrite ha h
  have hallocate := Local.check ho (.anchor .accountAlreadyInUse) (Local.bind Local.pure hassign)
  unfold createAccount
  dsimp only
  refine Local.ite (fun s t h => by rw [hl s t h])
    (Local.check ho _ (Local.bind (transferLamports_local hp ha fun _ _ _ => rfl) hassign))
    (Local.check ?_ _ (Local.ite (fun s t h => by rw [hl s t h])
      (Local.bind (transferLamports_local hp ha fun s t h => by rw [hl s t h]) hallocate)
      (Local.bind Local.pure hallocate)))
  exact fun _ _ _ => Iff.rfl

theorem initIfNeeded_local {rt : Runtime} {payer address : Pubkey} {space : ℕ} {present : Bool}
    (hp : payer ∈ l) (ha : address ∈ l) :
    Local l fun s => initIfNeeded rt s payer address space present := by
  cases present
  · exact createAccount_local hp ha
  · exact Local.check (fun s t h => by rw [(h address ha).1]) _ Local.pure

theorem createAccount_congr {rt : Runtime} {payer address : Pubkey} {space : ℕ} {inUse : Bool}
    {s t : SystemState} (hp : payer ∈ l) (ha : address ∈ l) (h : AgreeOn l s t) :
    createAccount rt t payer address space inUse =
      t.overwrite l <$> createAccount rt s payer address space inUse :=
  createAccount_local hp ha s t h

theorem initIfNeeded_congr {rt : Runtime} {payer address : Pubkey} {space : ℕ} {present : Bool}
    {s t : SystemState} (hp : payer ∈ l) (ha : address ∈ l) (h : AgreeOn l s t) :
    initIfNeeded rt t payer address space present =
      t.overwrite l <$> initIfNeeded rt s payer address space present :=
  initIfNeeded_local hp ha s t h

/-- An `init_if_needed` on a state whose addresses `l` come from `s`. -/
theorem initIfNeeded_overwrite {rt : Runtime} {payer address : Pubkey} {space : ℕ}
    {present : Bool} (hp : payer ∈ l) (ha : address ∈ l) (t s : SystemState) :
    initIfNeeded rt (t.overwrite l s) payer address space present =
      t.overwrite l <$> initIfNeeded rt s payer address space present := by
  rw [initIfNeeded_congr hp ha (agreeOn_overwrite t s)]
  congr 1
  funext v
  exact overwrite_overwrite

/-- Closing two accounts into a third, all of `l`. -/
theorem close_close_overwrite {a b c : Pubkey} {s t : SystemState} (ha : a ∈ l) (hb : b ∈ l)
    (hc : c ∈ l) (h : AgreeOn l s t) :
    (t.close a c).close b c = t.overwrite l ((s.close a c).close b c) := by
  rw [close_overwrite ha hc h, close_overwrite hb hc (agreeOn_overwrite t (s.close a c)),
    overwrite_overwrite]

@[simp] theorem SystemState.overwrite_nil (s v : SystemState) : s.overwrite [] v = s := rfl

theorem SystemState.overwrite_comm (u : SystemState) {l₁ l₂ : List Pubkey} (v₁ v₂ : SystemState)
    (h : ∀ a ∈ l₁, a ∉ l₂) :
    (u.overwrite l₂ v₂).overwrite l₁ v₁ = (u.overwrite l₁ v₁).overwrite l₂ v₂ :=
  congrArg₂ SystemState.mk (overwriteAll_comm h) (overwriteAll_comm h)

/-! ### Accounts and footprints -/

/-- An account of the program, by kind and address; the lamports and owner of an address; and
the mint account at an address. -/
inductive AccountKey
  | grant (g : Pubkey)
  | vault (g : Pubkey)
  | tokenAccount (a : Pubkey)
  | receipt (key : Pubkey × Pubkey × UInt64)
  | popState (g : Pubkey)
  | popConfig (a : Pubkey)
  | system (a : Pubkey)
  | mint (a : Pubkey)
deriving DecidableEq

/-- The accounts one instruction writes, by kind; no instruction writes a mint. -/
structure Footprint where
  grant : List Pubkey
  vault : List Pubkey
  tokenAccount : List Pubkey
  receipt : List (Pubkey × Pubkey × UInt64)
  popState : List Pubkey
  popConfig : List Pubkey
  /-- The addresses whose lamports or owner the instruction changes. -/
  system : List Pubkey

/-- The accounts of a footprint. -/
def Footprint.keys (W : Footprint) : List AccountKey :=
  W.grant.map .grant ++ W.vault.map .vault ++ W.tokenAccount.map .tokenAccount ++
    W.receipt.map .receipt ++ W.popState.map .popState ++ W.popConfig.map .popConfig ++
    W.system.map .system

section Keys

variable (W : Footprint)

@[simp] theorem Footprint.grant_mem_keys (g : Pubkey) : AccountKey.grant g ∈ W.keys ↔ g ∈ W.grant := by
  simp [Footprint.keys]

@[simp] theorem Footprint.vault_mem_keys (g : Pubkey) : AccountKey.vault g ∈ W.keys ↔ g ∈ W.vault := by
  simp [Footprint.keys]

@[simp] theorem Footprint.tokenAccount_mem_keys (a : Pubkey) :
    AccountKey.tokenAccount a ∈ W.keys ↔ a ∈ W.tokenAccount := by
  simp [Footprint.keys]

@[simp] theorem Footprint.receipt_mem_keys (key : Pubkey × Pubkey × UInt64) :
    AccountKey.receipt key ∈ W.keys ↔ key ∈ W.receipt := by
  simp [Footprint.keys]

@[simp] theorem Footprint.popState_mem_keys (g : Pubkey) :
    AccountKey.popState g ∈ W.keys ↔ g ∈ W.popState := by
  simp [Footprint.keys]

@[simp] theorem Footprint.popConfig_mem_keys (a : Pubkey) :
    AccountKey.popConfig a ∈ W.keys ↔ a ∈ W.popConfig := by
  simp [Footprint.keys]

@[simp] theorem Footprint.system_mem_keys (a : Pubkey) : AccountKey.system a ∈ W.keys ↔ a ∈ W.system := by
  simp [Footprint.keys]

@[simp] theorem Footprint.mint_not_mem_keys (a : Pubkey) : AccountKey.mint a ∉ W.keys := by
  simp [Footprint.keys]

end Keys

/-- The addresses whose lamports a claim changes: the claimer's, who pays, and those of the
receipt and the chain state it creates. -/
def claimRentAddresses (rt : Runtime) (acc : ClaimAccounts) (k : UInt64) : List Pubkey :=
  [acc.claimer, (rt.findProgramAddress (receiptSeeds acc.grant acc.claimer k)).1,
    (rt.findProgramAddress (popStateSeeds acc.grant)).1]

/-- The footprint of an instruction. -/
def ProgramInstruction.writes (rt : Runtime) : ProgramInstruction → Footprint
  | .createGrant a m id _ _ _ _ =>
    let g := (rt.findProgramAddress (grantSeeds a m id)).1
    ⟨[g], [g], [], [], [], [], [a, g, (rt.findProgramAddress (vaultSeeds g)).1]⟩
  | .fundGrant g _ src _ _ _ => ⟨[], [g], [src], [], [], [], []⟩
  | .claimGrant acc k | .claimGrantWithProof acc k _ =>
    ⟨[], [acc.grant], [acc.claimerAta], [(acc.grant, acc.claimer, k)], [acc.grant], [],
      claimRentAddresses rt acc k⟩
  | .closeGrant g _ ata a => ⟨[g], [g], [ata], [], [], [], [(rt.findProgramAddress (vaultSeeds g)).1, a, g]⟩
  | .setPaused g _ _ _ | .setAllowlistRoot g _ _ _ => ⟨[g], [], [], [], [], [], []⟩
  | .upsertPopConfig a _ => ⟨[], [], [], [], [], [a], [a, (rt.findProgramAddress (popConfigSeeds a)).1]⟩

/-- The accounts an instruction reads and does not write: the mint account each names; the grant
of `fund_grant` and of a claim; the authority's `SystemAccount` of `fund_grant`; and the signer
registrations, one of which a claim looks up by the grant's authority. -/
def ProgramInstruction.readsOnly : ProgramInstruction → AccountKey → Bool
  | .createGrant _ m .., .mint m' => m' = m
  | .fundGrant g .., .grant g' => g' = g
  | .fundGrant _ m .., .mint m' => m' = m
  | .fundGrant _ _ _ _ a _, .system a' => a' = a
  | .claimGrant acc _, .grant g' | .claimGrantWithProof acc _ _, .grant g' => g' = acc.grant
  | .claimGrant acc _, .mint m' | .claimGrantWithProof acc _ _, .mint m' => m' = acc.mint
  | .claimGrant .., .popConfig _ | .claimGrantWithProof .., .popConfig _ => true
  | .closeGrant _ m .., .mint m' => m' = m
  | .setPaused _ m .., .mint m' | .setAllowlistRoot _ m .., .mint m' => m' = m
  | _, _ => false

/-- The accounts an instruction reads: its footprint and the accounts it only reads. -/
def ProgramInstruction.reads (rt : Runtime) (ix : ProgramInstruction) (key : AccountKey) : Bool :=
  key ∈ (ix.writes rt).keys || ix.readsOnly key

/-- An instruction reads every account it writes. -/
theorem ProgramInstruction.reads_of_mem_writes {rt : Runtime} {ix : ProgramInstruction}
    {key : AccountKey} (h : key ∈ (ix.writes rt).keys) : ix.reads rt key := by
  simp [ProgramInstruction.reads, h]

/-- A claim reads its grant and mint account, the grant's vault and chain state, the claimer's
token account and receipt, every signer registration, and the lamports it changes. -/
theorem ProgramInstruction.reads_of_claim {ix : ProgramInstruction} {acc : ClaimAccounts}
    {k : UInt64} (hc : ix.claim? = some (acc, k)) (rt : Runtime) :
    ix.reads rt (.grant acc.grant) ∧ ix.reads rt (.mint acc.mint) ∧ ix.reads rt (.vault acc.grant) ∧
      ix.reads rt (.tokenAccount acc.claimerAta) ∧
      ix.reads rt (.receipt (acc.grant, acc.claimer, k)) ∧ ix.reads rt (.popState acc.grant) ∧
      (∀ a, ix.reads rt (.popConfig a)) ∧ ∀ a ∈ claimRentAddresses rt acc k, ix.reads rt (.system a) := by
  cases ix <;> simp only [ProgramInstruction.claim?, reduceCtorEq, Option.some.injEq,
    Prod.mk.injEq] at hc <;> obtain ⟨rfl, rfl⟩ := hc <;>
    simp [ProgramInstruction.reads, ProgramInstruction.writes, ProgramInstruction.readsOnly]

/-- Two instructions are independent when neither writes an account the other reads. -/
def ProgramInstruction.independent (rt : Runtime) (ix₁ ix₂ : ProgramInstruction) : Bool :=
  (ix₁.writes rt).keys.all (fun key => !ix₂.reads rt key) &&
    (ix₂.writes rt).keys.all (fun key => !ix₁.reads rt key)

theorem ProgramInstruction.independent_comm (rt : Runtime) (ix₁ ix₂ : ProgramInstruction) :
    ix₁.independent rt ix₂ = ix₂.independent rt ix₁ := by
  simp only [ProgramInstruction.independent, Bool.and_comm]

theorem ProgramInstruction.independent_iff {rt : Runtime} {ix₁ ix₂ : ProgramInstruction} :
    ix₁.independent rt ix₂ ↔ (∀ key ∈ (ix₁.writes rt).keys, ix₂.reads rt key = false) ∧
      ∀ key ∈ (ix₂.writes rt).keys, ix₁.reads rt key = false := by
  simp [ProgramInstruction.independent]

/-- Independent instructions write disjoint footprints. -/
theorem ProgramInstruction.writes_disjoint {rt : Runtime} {ix₁ ix₂ : ProgramInstruction}
    (h : ix₁.independent rt ix₂) : ∀ key ∈ (ix₁.writes rt).keys, key ∉ (ix₂.writes rt).keys :=
  fun key h₁ h₂ => by
    simpa [(ProgramInstruction.independent_iff.1 h).1 key h₁] using
      ProgramInstruction.reads_of_mem_writes h₂

/-! ### Worlds that agree, and overwriting a footprint -/

/-- `u` with the accounts of the footprint `W` taken from `v`. -/
def World.overwrite (u : World) (W : Footprint) (v : World) : World :=
  ⟨overwriteAll u.grants W.grant v.grants, overwriteAll u.vaults W.vault v.vaults,
    overwriteAll u.tokenAccounts W.tokenAccount v.tokenAccounts,
    overwriteAll u.receipts W.receipt v.receipts, overwriteAll u.popStates W.popState v.popStates,
    overwriteAll u.popConfigs W.popConfig v.popConfigs, u.mints,
    u.system.overwrite W.system v.system⟩

/-- The worlds `w` and `u` hold the same accounts on the set `R`. -/
structure World.AgreeOn (R : AccountKey → Bool) (w u : World) : Prop where
  grants : ∀ g, R (.grant g) → u.grants g = w.grants g
  vaults : ∀ g, R (.vault g) → u.vaults g = w.vaults g
  tokenAccounts : ∀ a, R (.tokenAccount a) → u.tokenAccounts a = w.tokenAccounts a
  receipts : ∀ key, R (.receipt key) → u.receipts key = w.receipts key
  popStates : ∀ g, R (.popState g) → u.popStates g = w.popStates g
  popConfigs : ∀ a, R (.popConfig a) → u.popConfigs a = w.popConfigs a
  system : ∀ a, R (.system a) →
    u.system.lamports a = w.system.lamports a ∧ u.system.systemOwned a = w.system.systemOwned a
  mints : ∀ a, R (.mint a) → u.mints a = w.mints a

theorem World.agreeOn_refl (R : AccountKey → Bool) (w : World) : World.AgreeOn R w w :=
  ⟨fun _ _ => rfl, fun _ _ => rfl, fun _ _ => rfl, fun _ _ => rfl, fun _ _ => rfl, fun _ _ => rfl,
    fun _ _ => ⟨rfl, rfl⟩, fun _ _ => rfl⟩

theorem World.AgreeOn.symm {R : AccountKey → Bool} {w u : World} (h : World.AgreeOn R w u) :
    World.AgreeOn R u w :=
  ⟨fun g hg => (h.grants g hg).symm, fun g hg => (h.vaults g hg).symm,
    fun a ha => (h.tokenAccounts a ha).symm, fun key hk => (h.receipts key hk).symm,
    fun g hg => (h.popStates g hg).symm, fun a ha => (h.popConfigs a ha).symm,
    fun a ha => ⟨(h.system a ha).1.symm, (h.system a ha).2.symm⟩, fun a ha => (h.mints a ha).symm⟩

/-- Two worlds that agree on the lamports of the addresses `l`. -/
theorem World.AgreeOn.systemOn {R : AccountKey → Bool} {w u : World} (h : World.AgreeOn R w u)
    {l : List Pubkey} (hl : ∀ a ∈ l, R (.system a)) : SystemState.AgreeOn l w.system u.system :=
  fun a ha => h.system a (hl a ha)

/-- Overwriting a footprint that `R` does not meet leaves the accounts of `R` as they are. -/
theorem World.agreeOn_overwrite {R : AccountKey → Bool} {W : Footprint} (w v : World)
    (h : ∀ key ∈ W.keys, R key = false) : World.AgreeOn R w (w.overwrite W v) :=
  have hne : ∀ key ∈ W.keys, R key = true → False := fun key hk hr => by simp [h key hk] at hr
  ⟨fun _ hg => overwriteAll_of_not_mem fun hW => hne _ (by simpa using hW) hg,
    fun _ hg => overwriteAll_of_not_mem fun hW => hne _ (by simpa using hW) hg,
    fun _ ha => overwriteAll_of_not_mem fun hW => hne _ (by simpa using hW) ha,
    fun _ hk => overwriteAll_of_not_mem fun hW => hne _ (by simpa using hW) hk,
    fun _ hg => overwriteAll_of_not_mem fun hW => hne _ (by simpa using hW) hg,
    fun _ ha => overwriteAll_of_not_mem fun hW => hne _ (by simpa using hW) ha,
    fun _ ha => ⟨overwriteAll_of_not_mem fun hW => hne _ (by simpa using hW) ha,
      overwriteAll_of_not_mem fun hW => hne _ (by simpa using hW) ha⟩, fun _ _ => rfl⟩

/-- Overwriting a footprint with the values a world already holds there changes nothing. -/
theorem World.overwrite_eq_self {R : AccountKey → Bool} {W : Footprint} {w u : World}
    (h : World.AgreeOn R w u) (hW : ∀ key ∈ W.keys, R key) : u.overwrite W w = u := by
  obtain ⟨G, V, T, C, P, K, M, S⟩ := u
  simp only [World.overwrite, World.mk.injEq]
  refine ⟨overwriteAll_eq_self fun a ha => ?_, overwriteAll_eq_self fun a ha => ?_,
    overwriteAll_eq_self fun a ha => ?_, overwriteAll_eq_self fun a ha => ?_,
    overwriteAll_eq_self fun a ha => ?_, overwriteAll_eq_self fun a ha => ?_, trivial,
    SystemState.overwrite_eq_self fun a ha => h.system a (hW _ (by simpa using ha))⟩
  · exact (h.grants a (hW _ (by simpa using ha))).symm
  · exact (h.vaults a (hW _ (by simpa using ha))).symm
  · exact (h.tokenAccounts a (hW _ (by simpa using ha))).symm
  · exact (h.receipts a (hW _ (by simpa using ha))).symm
  · exact (h.popStates a (hW _ (by simpa using ha))).symm
  · exact (h.popConfigs a (hW _ (by simpa using ha))).symm

/-- Overwriting two disjoint footprints, in either order. -/
theorem World.overwrite_comm (u : World) {W₁ W₂ : Footprint} (v₁ v₂ : World)
    (h : ∀ key ∈ W₁.keys, key ∉ W₂.keys) :
    (u.overwrite W₂ v₂).overwrite W₁ v₁ = (u.overwrite W₁ v₁).overwrite W₂ v₂ := by
  simp only [World.overwrite, World.mk.injEq]
  exact ⟨overwriteAll_comm fun a h₁ h₂ => h (.grant a) (by simpa using h₁) (by simpa using h₂),
    overwriteAll_comm fun a h₁ h₂ => h (.vault a) (by simpa using h₁) (by simpa using h₂),
    overwriteAll_comm fun a h₁ h₂ => h (.tokenAccount a) (by simpa using h₁) (by simpa using h₂),
    overwriteAll_comm fun a h₁ h₂ => h (.receipt a) (by simpa using h₁) (by simpa using h₂),
    overwriteAll_comm fun a h₁ h₂ => h (.popState a) (by simpa using h₁) (by simpa using h₂),
    overwriteAll_comm fun a h₁ h₂ => h (.popConfig a) (by simpa using h₁) (by simpa using h₂),
    trivial, SystemState.overwrite_comm _ _ _ fun a h₁ h₂ =>
      h (.system a) (by simpa using h₁) (by simpa using h₂)⟩

/-! ### Each instruction sees only what it reads -/

section Congr

variable {rt : Runtime} {now : I64} {w u : World}

theorem loadOwnedGrant_congr {g mint authority : Pubkey} (hg : u.grants g = w.grants g)
    (hm : u.mints mint = w.mints mint) :
    loadOwnedGrant rt u g mint authority = loadOwnedGrant rt w g mint authority := by
  simp only [loadOwnedGrant, hg, hm]

/-- The vault of `CreateGrant` sees the vault's address and the lamports of the payer and of that
address only. -/
theorem initVault_overwrite {l : List Pubkey} {payer g mint : Pubkey} (hp : payer ∈ l)
    (hv : (rt.findProgramAddress (vaultSeeds g)).1 ∈ l) (hw : u.vaults g = w.vaults g)
    (t s : SystemState) :
    initVault rt u (t.overwrite l s) payer g mint =
      (fun r => (r.1, t.overwrite l r.2)) <$> initVault rt w s payer g mint := by
  unfold initVault
  rw [hw]
  split
  · simp only [createAccount_congr hp hv (agreeOn_overwrite t s), bind_map_left, map_bind,
      map_pure, overwrite_overwrite]
  · simp only [map_bind, map_pure]

theorem createGrant_congr {a m : Pubkey} {id amt : UInt64} {p s e : I64}
    (hm : u.mints m = w.mints m)
    (hg : u.grants (rt.findProgramAddress (grantSeeds a m id)).1 =
      w.grants (rt.findProgramAddress (grantSeeds a m id)).1)
    (hv : u.vaults (rt.findProgramAddress (grantSeeds a m id)).1 =
      w.vaults (rt.findProgramAddress (grantSeeds a m id)).1)
    (hs : SystemState.AgreeOn ((ProgramInstruction.createGrant a m id amt p s e).writes rt).system
      w.system u.system) :
    createGrant rt now u a m id amt p s e =
      u.overwrite ((ProgramInstruction.createGrant a m id amt p s e).writes rt) <$>
        createGrant rt now w a m id amt p s e := by
  simp only [ProgramInstruction.writes] at hs ⊢
  rcases hfp : rt.findProgramAddress (grantSeeds a m id) with ⟨g, b⟩
  rw [hfp] at hg hv hs
  have hmem : a ∈ [a, g, (rt.findProgramAddress (vaultSeeds g)).1] ∧
      g ∈ [a, g, (rt.findProgramAddress (vaultSeeds g)).1] ∧
      (rt.findProgramAddress (vaultSeeds g)).1 ∈ [a, g, (rt.findProgramAddress (vaultSeeds g)).1] := by
    simp
  simp only [createGrant, hfp, hm, hg, initIfNeeded_congr hmem.1 hmem.2.1 hs, bind_map_left,
    initVault_overwrite hmem.1 hmem.2.2 hv, map_bind, map_pure, overwrite_overwrite,
    World.overwrite, overwriteAll_singleton_update, overwriteAll_nil]

theorem fundGrant_congr {g mint src funder authority : Pubkey} {amount : UInt64}
    (hg : u.grants g = w.grants g) (hm : u.mints mint = w.mints mint)
    (hv : u.vaults g = w.vaults g) (hs : u.tokenAccounts src = w.tokenAccounts src)
    (ha : u.system.systemOwned authority = w.system.systemOwned authority) :
    fundGrant rt u g mint src funder authority amount =
      u.overwrite ((ProgramInstruction.fundGrant g mint src funder authority amount).writes rt) <$>
        fundGrant rt w g mint src funder authority amount := by
  simp only [fundGrant, ProgramInstruction.writes, hg, hm, hv, hs, ha, map_bind, map_pure,
    World.overwrite, overwriteAll_singleton_update, overwriteAll_nil, SystemState.overwrite_nil]

theorem closeGrant_congr {g mint ata authority : Pubkey} (hg : u.grants g = w.grants g)
    (hm : u.mints mint = w.mints mint) (hv : u.vaults g = w.vaults g)
    (ha : u.tokenAccounts ata = w.tokenAccounts ata)
    (hs : SystemState.AgreeOn ((ProgramInstruction.closeGrant g mint ata authority).writes rt).system
      w.system u.system) :
    closeGrant rt u g mint ata authority =
      u.overwrite ((ProgramInstruction.closeGrant g mint ata authority).writes rt) <$>
        closeGrant rt w g mint ata authority := by
  simp only [ProgramInstruction.writes] at hs ⊢
  have hmem : (rt.findProgramAddress (vaultSeeds g)).1 ∈
      [(rt.findProgramAddress (vaultSeeds g)).1, authority, g] ∧
      authority ∈ [(rt.findProgramAddress (vaultSeeds g)).1, authority, g] ∧
      g ∈ [(rt.findProgramAddress (vaultSeeds g)).1, authority, g] := by
    simp
  simp only [closeGrant, hg, hm, hv, ha, map_bind, map_pure, apply_ite (Functor.map _),
    World.overwrite, overwriteAll_singleton_update, overwriteAll_nil,
    close_close_overwrite hmem.1 hmem.2.2 hmem.2.1 hs]

/-- The account checks of a claim see the accounts the claim reads and the lamports it changes
only. -/
theorem loadClaimGrant_congr {acc : ClaimAccounts} {k : UInt64}
    (hg : u.grants acc.grant = w.grants acc.grant) (hm : u.mints acc.mint = w.mints acc.mint)
    (hv : u.vaults acc.grant = w.vaults acc.grant)
    (ha : u.tokenAccounts acc.claimerAta = w.tokenAccounts acc.claimerAta)
    (hc : u.popConfigs = w.popConfigs)
    (hr : u.receipts (acc.grant, acc.claimer, k) = w.receipts (acc.grant, acc.claimer, k))
    (hp : u.popStates acc.grant = w.popStates acc.grant)
    (hs : SystemState.AgreeOn (claimRentAddresses rt acc k) w.system u.system) :
    loadClaimGrant rt u acc k = (fun ctx => { ctx with
      system := u.system.overwrite (claimRentAddresses rt acc k) ctx.system }) <$>
        loadClaimGrant rt w acc k := by
  have hmem : acc.claimer ∈ claimRentAddresses rt acc k ∧
      (rt.findProgramAddress (receiptSeeds acc.grant acc.claimer k)).1 ∈
        claimRentAddresses rt acc k ∧
      (rt.findProgramAddress (popStateSeeds acc.grant)).1 ∈ claimRentAddresses rt acc k := by
    simp [claimRentAddresses]
  simp only [loadClaimGrant, hg, hm, hv, ha, hc, hr, hp, createAccount_congr hmem.1 hmem.2.1 hs,
    bind_map_left, initIfNeeded_overwrite hmem.1 hmem.2.2, map_bind, map_pure]

/-- The shared part of a claim reads no account: it works on the loaded context. -/
theorem settleClaim_congr (rt : Runtime) (now : I64) (w u : World) (acc : ClaimAccounts)
    (k : UInt64) (ctx : ClaimContext) :
    settleClaim rt now u acc k { ctx with
        system := u.system.overwrite (claimRentAddresses rt acc k) ctx.system } =
      u.overwrite ((ProgramInstruction.claimGrant acc k).writes rt) <$>
        settleClaim rt now w acc k ctx := by
  unfold settleClaim
  dsimp only
  split
  · rfl
  · simp only [ProgramInstruction.writes, map_bind, map_pure, World.overwrite,
      overwriteAll_singleton_update, overwriteAll_nil]

theorem upsertPopConfig_congr {a signer : Pubkey} (hc : u.popConfigs a = w.popConfigs a)
    (hs : SystemState.AgreeOn ((ProgramInstruction.upsertPopConfig a signer).writes rt).system
      w.system u.system) :
    upsertPopConfig rt u a signer =
      u.overwrite ((ProgramInstruction.upsertPopConfig a signer).writes rt) <$>
        upsertPopConfig rt w a signer := by
  simp only [ProgramInstruction.writes] at hs ⊢
  have hmem : a ∈ [a, (rt.findProgramAddress (popConfigSeeds a)).1] ∧
      (rt.findProgramAddress (popConfigSeeds a)).1 ∈ [a, (rt.findProgramAddress (popConfigSeeds a)).1] := by
    simp
  simp only [upsertPopConfig, hc, initIfNeeded_congr hmem.1 hmem.2 hs, bind_map_left,
    map_bind, map_pure, World.overwrite, overwriteAll_singleton_update, overwriteAll_nil]

/-- A claim, through either entry point, sees only what it reads. -/
theorem claim_congr {ix : ProgramInstruction} {acc : ClaimAccounts} {k : UInt64}
    (hc : ix.claim? = some (acc, k)) (h : World.AgreeOn (ix.reads rt) w u) :
    execute rt now u ix = u.overwrite (ix.writes rt) <$> execute rt now w ix := by
  obtain ⟨hg, hm, hv, ha, hr, hp, hcfg, hs⟩ := ProgramInstruction.reads_of_claim hc rt
  have hl := loadClaimGrant_congr (h.grants _ hg) (h.mints _ hm) (h.vaults _ hv)
    (h.tokenAccounts _ ha) (funext fun a => h.popConfigs a (hcfg a)) (h.receipts _ hr)
    (h.popStates _ hp) (h.systemOn hs)
  cases ix <;> simp only [ProgramInstruction.claim?, reduceCtorEq, Option.some.injEq,
    Prod.mk.injEq] at hc <;> obtain ⟨rfl, rfl⟩ := hc <;>
    simp only [execute, claimGrant, claimGrantWithProof, ProgramInstruction.writes, hl,
      bind_map_left, settleClaim_congr rt now w u, map_bind]

/-- **The outcome of an instruction depends only on the accounts it reads.**  Over two worlds that
agree where an instruction reads, it fails with the same error, or succeeds on both and writes the
same values into the accounts of its footprint. -/
theorem execute_congr {ix : ProgramInstruction} (h : World.AgreeOn (ix.reads rt) w u) :
    execute rt now u ix = u.overwrite (ix.writes rt) <$> execute rt now w ix := by
  have hr : ∀ key ∈ (ix.writes rt).keys, ix.reads rt key :=
    fun _ => ProgramInstruction.reads_of_mem_writes
  have ho : ∀ key, ix.readsOnly key → ix.reads rt key := fun key hk => by
    simp [ProgramInstruction.reads, hk]
  have hs : SystemState.AgreeOn (ix.writes rt).system w.system u.system :=
    h.systemOn fun a ha => hr _ ((Footprint.system_mem_keys _ a).2 ha)
  cases ix with
  | createGrant a m id amt p s e =>
    exact createGrant_congr (h.mints _ (ho _ (by simp [ProgramInstruction.readsOnly])))
      (h.grants _ (hr _ (by simp [ProgramInstruction.writes])))
      (h.vaults _ (hr _ (by simp [ProgramInstruction.writes]))) hs
  | fundGrant g m src f a amt =>
    exact fundGrant_congr (h.grants _ (ho _ (by simp [ProgramInstruction.readsOnly])))
      (h.mints _ (ho _ (by simp [ProgramInstruction.readsOnly])))
      (h.vaults _ (hr _ (by simp [ProgramInstruction.writes])))
      (h.tokenAccounts _ (hr _ (by simp [ProgramInstruction.writes])))
      (h.system a (ho _ (by simp [ProgramInstruction.readsOnly]))).2
  | claimGrant | claimGrantWithProof => exact claim_congr rfl h
  | closeGrant g m ata a =>
    exact closeGrant_congr (h.grants _ (hr _ (by simp [ProgramInstruction.writes])))
      (h.mints _ (ho _ (by simp [ProgramInstruction.readsOnly])))
      (h.vaults _ (hr _ (by simp [ProgramInstruction.writes])))
      (h.tokenAccounts _ (hr _ (by simp [ProgramInstruction.writes]))) hs
  | setPaused g m | setAllowlistRoot g m =>
    simp only [execute, setPaused, setAllowlistRoot, ProgramInstruction.writes,
      loadOwnedGrant_congr (h.grants g (hr _ (by simp [ProgramInstruction.writes])))
        (h.mints m (ho _ (by simp [ProgramInstruction.readsOnly]))), map_bind, map_pure,
      World.overwrite, overwriteAll_singleton_update, overwriteAll_nil, SystemState.overwrite_nil]
  | upsertPopConfig a sig =>
    exact upsertPopConfig_congr (h.popConfigs _ (hr _ (by simp [ProgramInstruction.writes]))) hs

/-- **An instruction writes nothing outside its footprint.** -/
theorem execute_frame {ix : ProgramInstruction} {w' : World} (h : execute rt now w ix = .ok w') :
    w' = w.overwrite (ix.writes rt) w' := by
  have e : execute rt now w ix = w.overwrite (ix.writes rt) <$> execute rt now w ix :=
    execute_congr (World.agreeOn_refl _ w)
  rw [h] at e
  exact Except.ok.inj e

end Congr

/-! ### Commuting instructions -/

/-- One step of a run: the accounts after the instruction, or the same accounts if it fails. -/
def runStep (rt : Runtime) (w : World) (s : I64 × ProgramInstruction) : World :=
  match execute rt s.1 w s.2 with
  | .ok w' => w'
  | .error _ => w

theorem run_cons (rt : Runtime) (w : World) (s : I64 × ProgramInstruction)
    (steps : List (I64 × ProgramInstruction)) :
    run rt w (s :: steps) = run rt (runStep rt w s) steps := by
  obtain ⟨now, ix⟩ := s
  simp only [run, runStep]
  cases execute rt now w ix <;> rfl

/-- One step of a run sees only the accounts its instruction reads, failed or not. -/
theorem runStep_congr {rt : Runtime} {s : I64 × ProgramInstruction} {w u : World}
    (h : World.AgreeOn (s.2.reads rt) w u) :
    runStep rt u s = u.overwrite (s.2.writes rt) (runStep rt w s) := by
  have c : execute rt s.1 u s.2 = _ := execute_congr h
  simp only [runStep, c]
  rcases execute rt s.1 w s.2 with e | v
  · exact (World.overwrite_eq_self h fun _ => ProgramInstruction.reads_of_mem_writes).symm
  · rfl

/-- Two independent steps of a run, in either order. -/
theorem runStep_comm (rt : Runtime) (u : World) {s₁ s₂ : I64 × ProgramInstruction}
    (h : s₁.2.independent rt s₂.2) :
    runStep rt (runStep rt u s₁) s₂ = runStep rt (runStep rt u s₂) s₁ := by
  obtain ⟨h₁₂, h₂₁⟩ := ProgramInstruction.independent_iff.1 h
  have e₁ : runStep rt u s₁ = u.overwrite (s₁.2.writes rt) (runStep rt u s₁) :=
    runStep_congr (World.agreeOn_refl _ u)
  have e₂ : runStep rt u s₂ = u.overwrite (s₂.2.writes rt) (runStep rt u s₂) :=
    runStep_congr (World.agreeOn_refl _ u)
  -- each step reads after the other what it reads in `u`
  have a₂ : World.AgreeOn (s₂.2.reads rt) u (runStep rt u s₁) := by
    rw [e₁]
    exact World.agreeOn_overwrite u _ h₁₂
  have a₁ : World.AgreeOn (s₁.2.reads rt) u (runStep rt u s₂) := by
    rw [e₂]
    exact World.agreeOn_overwrite u _ h₂₁
  calc runStep rt (runStep rt u s₁) s₂
      = (runStep rt u s₁).overwrite (s₂.2.writes rt) (runStep rt u s₂) := runStep_congr a₂
    _ = (u.overwrite (s₁.2.writes rt) (runStep rt u s₁)).overwrite (s₂.2.writes rt)
          (runStep rt u s₂) := by rw [← e₁]
    _ = (u.overwrite (s₂.2.writes rt) (runStep rt u s₂)).overwrite (s₁.2.writes rt)
          (runStep rt u s₁) :=
        (World.overwrite_comm _ _ _ (ProgramInstruction.writes_disjoint h)).symm
    _ = (runStep rt u s₂).overwrite (s₁.2.writes rt) (runStep rt u s₁) := by rw [← e₂]
    _ = runStep rt (runStep rt u s₂) s₁ := (runStep_congr a₁).symm

/-- **A batch of pairwise independent instructions can be run in any order.**  Two runs of the
same instructions, at the same clock values, in orders that are permutations of each other, end
in the same accounts when every two of the instructions are independent, whichever of them fail. -/
theorem run_perm (rt : Runtime) (w : World) {steps steps' : List (I64 × ProgramInstruction)}
    (hp : steps.Perm steps') (hi : steps.Pairwise fun s t => s.2.independent rt t.2) :
    run rt w steps = run rt w steps' := by
  induction hp generalizing w with
  | nil => rfl
  | cons s _ ih => rw [run_cons, run_cons, ih _ (List.pairwise_cons.1 hi).2]
  | swap s t l =>
    rw [run_cons, run_cons, run_cons, run_cons,
      runStep_comm rt w ((List.pairwise_cons.1 hi).1 s (List.mem_cons_self _ _))]
  | trans h₁₂ _ ih₁ ih₂ =>
    rw [ih₁ w hi, ih₂ w (h₁₂.pairwise hi fun h => by
      rwa [ProgramInstruction.independent_comm] at h)]

/-! ### Two claims in either order -/

/-- A second grant of the authority for the mint, the example grant's copy with id 1. -/
def exampleSecondCreate : ProgramInstruction :=
  .createGrant exampleAuthority exampleMint 1 1 exampleGrant.periodSeconds exampleGrant.startTs
    I64.zero

/-- The address of the second grant. -/
def exampleSecondGrantKey : Pubkey :=
  (exampleRuntime.findProgramAddress (grantSeeds exampleAuthority exampleMint 1)).1

/-- The authority creates both grants, funds each with 10 tokens and registers `exampleSigner`. -/
def exampleParallelSetup : List (I64 × ProgramInstruction) :=
  [(exampleNow, exampleCreate), (exampleNow, exampleSecondCreate),
    (exampleNow, .fundGrant exampleGrantKey exampleMint exampleAuthorityAta exampleAuthority
      exampleAuthority 10),
    (exampleNow, .fundGrant exampleSecondGrantKey exampleMint exampleAuthorityAta exampleAuthority
      exampleAuthority 10),
    (exampleNow, .upsertPopConfig exampleAuthority exampleSigner)]

/-- The accounts after `exampleParallelSetup`. -/
def exampleParallelWorld : World := run exampleRuntime exampleWallets exampleParallelSetup

/-- The authority's claim on the second grant, into its own token account, with the genesis
message. -/
def exampleSecondClaimAccounts : ClaimAccounts :=
  ⟨exampleSecondGrantKey, exampleMint, exampleAuthority, exampleAuthorityAta,
    exampleSysvar (exampleMessage exampleRuntime exampleSecondGrantKey exampleAuthority
      Bytes32.zero)⟩

/-- The claimer's claim on the example grant, then the authority's on the second one. -/
def exampleParallelSteps : List (I64 × ProgramInstruction) :=
  [(exampleNow, .claimGrant exampleClaimAccounts 3),
    (exampleNow, .claimGrant exampleSecondClaimAccounts 3)]

set_option maxRecDepth 4000 in
theorem run_perm_exampleClaims :
    exampleParallelSteps.Perm exampleParallelSteps.reverse ∧
    exampleParallelSteps.Pairwise (fun s t => s.2.independent exampleRuntime t.2) ∧
    run exampleRuntime exampleParallelWorld exampleParallelSteps =
      run exampleRuntime exampleParallelWorld exampleParallelSteps.reverse :=
  have hp : exampleParallelSteps.Perm exampleParallelSteps.reverse := (List.reverse_perm _).symm
  have hi : exampleParallelSteps.Pairwise
      (fun s t => s.2.independent exampleRuntime t.2) := by decide
  ⟨hp, hi, run_perm _ _ hp hi⟩

end GrantProgram
