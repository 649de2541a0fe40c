import GrantProgram.Chain
import Mathlib.Data.List.Nodup
import Mathlib.Data.List.Perm.Subperm
import Mathlib.Algebra.BigOperators.Group.List
import Mathlib.Algebra.Order.Ring.Nat

/-
**Receipts and payments of a grant over a run.**

After a grant is created, claims on it are made by any claimers, for any period index they
choose, at any clock values, interleaved with funding, pausing, allowlist changes and signer
registrations.  Whatever the run, each successful claim is made while the grant is unpaused and
within its lifetime, for the period of its clock value, writes the receipt of that period (which
did not exist), and moves exactly `amount_per_period` from the grant's vault to a token account of
the claimer.  The receipts of a claimer are exactly its claims, one per period, so up to any clock
value `t` a claimer receives `amount_per_period` times the number of its receipts, and has at most
one receipt per period that has begun by `t`.

The receipts of a grant are not closed with it: a grant closed and created again at the same
address still has the receipts of its first life.  So the receipts of a claimer on a grant are the
ones its address had when the grant was created, together with exactly its claims since.

Main definitions:

* `GrantProgram.claimsBy` — the claims of a claimer on a grant in a run: the period, the clock
  value and what it paid;
* `GrantProgram.ClaimSettles` — what one successful claim does;
* `GrantProgram.GrantLedger` — the invariant of a grant's receipts over a run.

Main results:

* `GrantProgram.execute_claimSettles` — every successful claim settles;
* `GrantProgram.GrantLedger.step` — every successful instruction other than `create_grant` and
  `close_grant` keeps the ledger;
* `GrantProgram.GrantLedger.received` — what the ledger says a claimer received up to a clock
  value;
* `GrantProgram.run_claims_of_createGrant` — **the receipts and payments of a grant over every run
  that follows its creation**.
-/

set_option autoImplicit false

namespace GrantProgram

/-! ### The claims of a run -/

/-- `create_grant` and `close_grant`, the instructions that write a grant's terms or remove it. -/
def ProgramInstruction.isCreateOrClose : ProgramInstruction → Bool
  | .createGrant .. => true
  | .closeGrant .. => true
  | _ => false

/-- The balance of a token account, zero where there is none. -/
def balance (w : World) (x : Pubkey) : ℕ := ((w.tokenAccounts x).map TokenAccount.amount).getD 0

/-- A successful claim of `c` on `g`: the period it claimed, its clock value, and what it paid into
the claimer's token account. -/
def Transition.claimBy? (g c : Pubkey) (t : Transition) : Option (UInt64 × I64 × ℕ) :=
  match t.ix.claim? with
  | some (acc, k) =>
    if acc.grant = g ∧ acc.claimer = c then
      some (k, t.now, balance t.after acc.claimerAta - balance t.before acc.claimerAta)
    else none
  | none => none

/-- The claims of `c` on `g` in a run, in order. -/
def claimsBy (g c : Pubkey) (tr : List Transition) : List (UInt64 × I64 × ℕ) :=
  tr.filterMap (Transition.claimBy? g c)

theorem claimsBy_append_singleton (g c : Pubkey) (tr : List Transition) (t : Transition) :
    claimsBy g c (tr ++ [t]) = claimsBy g c tr ++ (t.claimBy? g c).toList := by
  cases h : t.claimBy? g c <;> simp [claimsBy, h]

/-! ### One claim -/

/-- What a successful claim on the grant `g` of amount `amount`, period `p`, start `s` and expiry
`e` does, by the claimer of the accounts `acc` and for the period `k`. -/
structure ClaimSettles (g : Pubkey) (amount : UInt64) (p s e : I64) (t : Transition)
    (acc : ClaimAccounts) (k : UInt64) : Prop where
  /-- The grant exists and is not paused. -/
  unpaused : ∃ grant, t.before.grants g = some grant ∧ grant.paused = false
  /-- The grant has started. -/
  started : s.toInt ≤ t.now.toInt
  /-- The grant has not expired. -/
  unexpired : e.toInt = 0 ∨ t.now.toInt ≤ e.toInt
  /-- The period is the one of the clock value. -/
  period : (k.toNat : ℤ) = (t.now.toInt - s.toInt) / p.toInt
  /-- The period had no receipt. -/
  fresh : t.before.receipts (g, acc.claimer, k) = none
  /-- The receipt of the period is written, and no other. -/
  receipt : t.after.receipts =
    Function.update t.before.receipts (g, acc.claimer, k) (some ⟨g, acc.claimer, k, t.now⟩)
  /-- The vault pays `amount`, and no other vault changes. -/
  vault : ∃ v, t.before.vaults g = some v ∧ amount.toNat ≤ v.amount ∧
    t.after.vaults = Function.update t.before.vaults g (some { v with amount := v.amount - amount.toNat })
  /-- A token account of the claimer receives `amount`, and no other token account changes. -/
  paid : ∃ a, t.before.tokenAccounts acc.claimerAta = some a ∧ a.owner = acc.claimer ∧
    t.after.tokenAccounts =
      Function.update t.before.tokenAccounts acc.claimerAta (some { a with amount := a.amount + amount.toNat })

/-- The timing check of a grant with a positive period, read back. -/
theorem requireClaimTiming_eq_ok {grant : Grant} (hp : 0 < grant.periodSeconds.toInt) {now : I64}
    {k : UInt64} (h : requireClaimTiming grant now k = .ok ()) :
    (grant.expiresAt.toInt = 0 ∨ now.toInt ≤ grant.expiresAt.toInt) ∧
      grant.startTs.toInt ≤ now.toInt ∧
      (k.toNat : ℤ) = (now.toInt - grant.startTs.toInt) / grant.periodSeconds.toInt := by
  rw [requireClaimTiming_eq grant hp] at h
  split_ifs at h with hE hS hM hk
  exact ⟨or_iff_not_imp_left.2 hE, hS, hk⟩

/-- **Every successful claim settles**, on a grant with a positive period. -/
theorem execute_claimSettles {rt : Runtime} {now : I64} {w w' : World} {ix : ProgramInstruction}
    {acc : ClaimAccounts} {k : UInt64} {grant : Grant} (h : execute rt now w ix = .ok w')
    (hc : ix.claim? = some (acc, k)) (hg : w.grants acc.grant = some grant)
    (hp : 0 < grant.periodSeconds.toInt) :
    ClaimSettles acc.grant grant.amountPerPeriod grant.periodSeconds grant.startTs grant.expiresAt
      ⟨w, now, ix, w'⟩ acc k := by
  obtain ⟨ctx, hl, hpaused, hs, -⟩ := execute_claim h hc
  have hL := loadClaimGrant_eq_ok.1 hl
  obtain rfl : ctx.grant = grant := Option.some_injective _ (hL.grant.symm.trans hg)
  obtain ⟨m, v, a, -, -, ht, htr, rfl⟩ := settleClaim_eq_ok.1 hs
  obtain ⟨hE, hS, hk⟩ := requireClaimTiming_eq_ok hp ht
  obtain ⟨hle, -, -, -, -, rfl, rfl⟩ := transferChecked_eq_ok.1 (transferFromVault_eq_ok.1 htr)
  exact ⟨⟨_, hL.grant, hpaused⟩, hS, hE, hk, hL.fresh, rfl, ⟨_, hL.vault, hle, rfl⟩,
    ⟨_, hL.claimerAta, hL.ataOwner, rfl⟩⟩

/-- What a settled claim paid into the claimer's token account. -/
theorem ClaimSettles.balance_sub {g : Pubkey} {amount : UInt64} {p s e : I64} {t : Transition}
    {acc : ClaimAccounts} {k : UInt64} (h : ClaimSettles g amount p s e t acc k) :
    balance t.after acc.claimerAta - balance t.before acc.claimerAta = amount.toNat := by
  obtain ⟨a, ha, -, hpaid⟩ := h.paid
  simp [balance, ha, hpaid]

/-- A claim finds no receipt for its period and writes one. -/
theorem execute_claim_receipts {rt : Runtime} {now : I64} {w w' : World}
    {ix : ProgramInstruction} {acc : ClaimAccounts} {k : UInt64} (h : execute rt now w ix = .ok w')
    (hc : ix.claim? = some (acc, k)) :
    w.receipts (acc.grant, acc.claimer, k) = none ∧
      w'.receipts = Function.update w.receipts (acc.grant, acc.claimer, k)
        (some ⟨acc.grant, acc.claimer, k, now⟩) := by
  obtain ⟨ctx, hl, -, hs, -⟩ := execute_claim h hc
  obtain ⟨-, -, -, -, -, -, -, rfl⟩ := settleClaim_eq_ok.1 hs
  exact ⟨(loadClaimGrant_eq_ok.1 hl).fresh, rfl⟩

/-- A successful instruction either is no claim of `c` on `g`, and leaves the receipts of `c` on
`g`, or is one, for a period without a receipt, and writes the receipt of that period. -/
theorem execute_claimBy? {rt : Runtime} {now : I64} {w w' : World} {ix : ProgramInstruction}
    (h : execute rt now w ix = .ok w') (g c : Pubkey) :
    (Transition.claimBy? g c ⟨w, now, ix, w'⟩ = none ∧
      ∀ k, w'.receipts (g, c, k) = w.receipts (g, c, k)) ∨
    ∃ k x, Transition.claimBy? g c ⟨w, now, ix, w'⟩ = some (k, now, x) ∧
      w.receipts (g, c, k) = none ∧
      w'.receipts = Function.update w.receipts (g, c, k) (some ⟨g, c, k, now⟩) := by
  cases hcl : ix.claim? with
  | none =>
    refine .inl ⟨by simp [Transition.claimBy?, hcl], fun k => ?_⟩
    rw [(execute_of_claim?_eq_none h hcl).1]
  | some ak =>
    obtain ⟨acc, k⟩ := ak
    obtain ⟨hf, hw'⟩ := execute_claim_receipts h hcl
    by_cases hac : acc.grant = g ∧ acc.claimer = c
    · obtain ⟨rfl, rfl⟩ := hac
      exact .inr ⟨k, balance w' acc.claimerAta - balance w acc.claimerAta,
        by simp [Transition.claimBy?, hcl], hf, hw'⟩
    · refine .inl ⟨by simp only [Transition.claimBy?, hcl]; exact if_neg hac, fun k' => ?_⟩
      rw [hw', Function.update_noteq]
      simp only [ne_eq, Prod.mk.injEq, not_and]
      exact fun h₁ h₂ _ => hac ⟨h₁.symm, h₂.symm⟩

/-- The receipts of `c` on `g` are those of `R₀` and the claims `L`, one per period; writing the
receipt of a new claim for a period without one appends the claim. -/
theorem receipts_update_fresh {R R₀ : Pubkey × Pubkey × UInt64 → Option ClaimReceipt}
    {L : List (UInt64 × I64 × ℕ)} {g c : Pubkey} {k : UInt64} {now : I64} (x : ℕ)
    (hR : ∀ k r, R (g, c, k) = some r ↔ R₀ (g, c, k) = some r ∨
      r = ⟨g, c, k, r.claimedAt⟩ ∧ ∃ y ∈ L, y.1 = k ∧ y.2.1 = r.claimedAt)
    (hN : (L.map Prod.fst).Nodup) (hf : R (g, c, k) = none) :
    (∀ k' r, Function.update R (g, c, k) (some ⟨g, c, k, now⟩) (g, c, k') = some r ↔
      R₀ (g, c, k') = some r ∨
        r = ⟨g, c, k', r.claimedAt⟩ ∧ ∃ y ∈ L ++ [(k, now, x)], y.1 = k' ∧ y.2.1 = r.claimedAt) ∧
    ((L ++ [(k, now, x)]).map Prod.fst).Nodup := by
  -- neither an old claim nor `R₀` has a receipt for the period
  have hnew : ∀ y ∈ L, y.1 ≠ k := fun y hy hyk => by
    simpa [hf] using (hR k ⟨g, c, k, y.2.1⟩).2 (.inr ⟨rfl, y, hy, hyk, rfl⟩)
  have hold : ∀ r, R₀ (g, c, k) ≠ some r := fun r h₀ => by simpa [hf] using (hR k r).2 (.inl h₀)
  refine ⟨fun k' r => ?_, ?_⟩
  · rcases eq_or_ne k' k with rfl | hk
    · simp only [Function.update_same, Option.some.injEq, List.mem_append, List.mem_singleton]
      constructor
      · rintro rfl
        exact .inr ⟨rfl, _, .inr rfl, rfl, rfl⟩
      · rintro (h₀ | ⟨hr, y, hy | rfl, hyk, hyr⟩)
        · exact absurd h₀ (hold r)
        · exact absurd hyk (hnew y hy)
        · rw [hr, ← hyr]
    · rw [Function.update_noteq (by simpa using hk), hR]
      simp [or_and_right, exists_or, hk.symm]
  · rw [List.map_append]
    exact hN.append (List.nodup_singleton _) (List.disjoint_singleton.2 fun hk => by
      obtain ⟨y, hy, hyk⟩ := List.mem_map.1 hk
      exact hnew y hy hyk)

/-! ### The ledger of a grant -/

/-- The receipts of the grant `g`, created with amount `amount`, period `p`, start `s` and expiry
`e` at an address with the receipts `R₀`, over the successful steps `tr` of a run that leads to
the accounts `w`. -/
structure GrantLedger (g : Pubkey) (amount : UInt64) (p s e : I64)
    (R₀ : Pubkey × Pubkey × UInt64 → Option ClaimReceipt) (w : World) (tr : List Transition) :
    Prop where
  /-- The grant keeps its terms. -/
  terms : ∃ grant, w.grants g = some grant ∧ grant.amountPerPeriod = amount ∧
    grant.periodSeconds = p ∧ grant.startTs = s ∧ grant.expiresAt = e
  /-- Its period is positive. -/
  period_pos : 0 < p.toInt
  /-- Every successful claim on it settled. -/
  settled : ∀ t ∈ tr, ∀ acc k, t.ix.claim? = some (acc, k) → acc.grant = g →
    ClaimSettles g amount p s e t acc k
  /-- Its receipts are those of `R₀` and the claims on it. -/
  receipts : ∀ c k r, w.receipts (g, c, k) = some r ↔ R₀ (g, c, k) = some r ∨
    r = ⟨g, c, k, r.claimedAt⟩ ∧ ∃ x ∈ claimsBy g c tr, x.1 = k ∧ x.2.1 = r.claimedAt
  /-- No claimer claimed a period twice. -/
  distinct : ∀ c, ((claimsBy g c tr).map Prod.fst).Nodup

namespace GrantLedger

variable {g : Pubkey} {amount : UInt64} {p s e : I64}
  {R₀ : Pubkey × Pubkey × UInt64 → Option ClaimReceipt} {w w' : World} {tr : List Transition}

/-- Each claim in the ledger paid `amount`, at a clock value past the start, for the period of that
clock value. -/
theorem mem_claimsBy (hl : GrantLedger g amount p s e R₀ w tr) {c : Pubkey} {x : UInt64 × I64 × ℕ}
    (hx : x ∈ claimsBy g c tr) :
    x.2.2 = amount.toNat ∧ s.toInt ≤ x.2.1.toInt ∧
      (x.1.toNat : ℤ) = (x.2.1.toInt - s.toInt) / p.toInt := by
  obtain ⟨t, ht, hx⟩ := List.mem_filterMap.1 hx
  unfold Transition.claimBy? at hx
  split at hx
  · rename_i acc k hc
    split_ifs at hx with hac
    cases hx
    have hs := hl.settled t ht acc k hc hac.1
    exact ⟨hs.balance_sub, hs.started, hs.period⟩
  · cases hx

/-- **One successful instruction other than `create_grant` and `close_grant` keeps the ledger.** -/
theorem step (hl : GrantLedger g amount p s e R₀ w tr) {rt : Runtime} {now : I64}
    {ix : ProgramInstruction} (h : execute rt now w ix = .ok w') (hix : ix.isCreateOrClose = false) :
    GrantLedger g amount p s e R₀ w' (tr ++ [⟨w, now, ix, w'⟩]) := by
  obtain ⟨grant, hg, rfl, rfl, rfl, rfl⟩ := hl.terms
  have hnc : ¬ix.CreatesAt rt g := by cases ix <;> simp_all [ProgramInstruction.CreatesAt,
    ProgramInstruction.isCreateOrClose]
  have hterms : ∃ grant', w'.grants g = some grant' ∧ grant'.amountPerPeriod = grant.amountPerPeriod ∧
      grant'.periodSeconds = grant.periodSeconds ∧ grant'.startTs = grant.startTs ∧
      grant'.expiresAt = grant.expiresAt := by
    rcases execute_grant_kept h hg hnc with ⟨-, m, ata, a, rfl⟩ | ⟨grant', hg', hsame, -, -⟩
    · cases hix
    · exact ⟨grant', hg', hsame.schedule⟩
  -- the receipts of each claimer, as the claims of the longer trace
  have key : ∀ c, (∀ k r, w'.receipts (g, c, k) = some r ↔ R₀ (g, c, k) = some r ∨
      r = ⟨g, c, k, r.claimedAt⟩ ∧
        ∃ x ∈ claimsBy g c (tr ++ [⟨w, now, ix, w'⟩]), x.1 = k ∧ x.2.1 = r.claimedAt) ∧
      ((claimsBy g c (tr ++ [⟨w, now, ix, w'⟩])).map Prod.fst).Nodup := by
    intro c
    rw [claimsBy_append_singleton]
    rcases execute_claimBy? h g c with ⟨hb, hkeep⟩ | ⟨k, x, hb, hf, hw'⟩
    · simp only [hb, hkeep, Option.toList_none, List.append_nil]
      exact ⟨hl.receipts c, hl.distinct c⟩
    · rw [hb, Option.toList_some, hw']
      exact receipts_update_fresh x (hl.receipts c) (hl.distinct c) hf
  refine ⟨hterms, hl.period_pos, fun t ht acc k hc hac => ?_, fun c => (key c).1,
    fun c => (key c).2⟩
  rcases List.mem_append.1 ht with ht | ht
  · exact hl.settled t ht acc k hc hac
  · obtain rfl := List.mem_singleton.1 ht
    subst hac
    exact execute_claimSettles h hc hg hl.period_pos

/-- **What a claimer received up to a clock value.**  Up to `t`, `c` received `amount` for each of
its claims, and there are at most `max 0 (floor((t - s) / p) + 1)` of them: their periods are
distinct, and each is at most the period of `t`. -/
theorem received (hl : GrantLedger g amount p s e R₀ w tr) (c : Pubkey) (t : I64) :
    (((claimsBy g c tr).filter (·.2.1.toInt ≤ t.toInt)).map (·.2.2)).sum =
        amount.toNat * ((claimsBy g c tr).filter (·.2.1.toInt ≤ t.toInt)).length ∧
      ((claimsBy g c tr).filter (·.2.1.toInt ≤ t.toInt)).length ≤
        ((t.toInt - s.toInt) / p.toInt + 1).toNat := by
  set L := (claimsBy g c tr).filter (·.2.1.toInt ≤ t.toInt)
  have hmem : ∀ x ∈ L, x.2.2 = amount.toNat ∧ (x.1.toNat : ℤ) ≤ (t.toInt - s.toInt) / p.toInt := by
    intro x hx
    obtain ⟨hx, hxt⟩ := List.mem_filter.1 hx
    obtain ⟨hpaid, hs, hk⟩ := hl.mem_claimsBy hx
    refine ⟨hpaid, hk ▸ Int.ediv_le_ediv hl.period_pos ?_⟩
    simp only [decide_eq_true_eq] at hxt
    omega
  constructor
  · rw [List.map_congr_left fun x hx => (hmem x hx).1, List.map_const', List.sum_const_nat,
      mul_comm]
  · -- distinct periods, each below `floor((t - s) / p) + 1`
    have hnodup : (L.map fun x => x.1.toNat).Nodup := by
      simpa [List.map_map, Function.comp_def] using
        ((hl.distinct c).sublist ((List.filter_sublist _).map _)).map fun _ _ h => UInt64.toNat.inj h
    have hsub : (L.map fun x => x.1.toNat) ⊆ List.range ((t.toInt - s.toInt) / p.toInt + 1).toNat := by
      intro n hn
      obtain ⟨x, hx, rfl⟩ := List.mem_map.1 hn
      have := (hmem x hx).2
      rw [List.mem_range]
      omega
    simpa using (hnodup.subperm hsub).length_le

end GrantLedger

/-- A `create_grant` starts the ledger of the grant it creates, with the receipts of its address. -/
theorem GrantLedger.of_createGrant {rt : Runtime} {now : I64} {w w' : World}
    {authority mint : Pubkey} {grantId amountPerPeriod : UInt64}
    {periodSeconds startTs expiresAt : I64}
    (h : createGrant rt now w authority mint grantId amountPerPeriod periodSeconds startTs
      expiresAt = .ok w') :
    GrantLedger (rt.findProgramAddress (grantSeeds authority mint grantId)).1 amountPerPeriod
      periodSeconds startTs expiresAt w.receipts w' [] := by
  obtain ⟨-, -, hp, -, -, -, -, -, rfl⟩ := createGrant_eq_ok h
  exact ⟨⟨_, Function.update_same _ _ _, rfl, rfl, rfl, rfl⟩, hp, by simp, by simp [claimsBy],
    by simp [claimsBy]⟩

/-! ### Every run after the creation -/

/-- **The receipts and payments of a grant over every run that follows its creation.**  Let a
`create_grant` create the grant `g`, and let a run of claims through either entry point,
`fund_grant`, `set_paused`, `set_allowlist_root` and `upsert_pop_config` follow, by any claimers,
for any periods, at any clock values.  Every successful claim on `g` settles: it is made while `g`
is unpaused, started and not expired, for the period of its clock value, writes the one receipt
of that period, which did not exist, and moves `amount_per_period` from the vault to a token
account of the claimer.  For each claimer, no two claims are for one period, and the receipts are
those the address had before the creation together with exactly its claims; up to any clock value
`t` it received `amount_per_period` for each of its claims up to `t`, and there are at most
`max 0 (floor((t - start_ts) / period_seconds) + 1)` of them. -/
theorem run_claims_of_createGrant (rt : Runtime) (now₀ : I64) (w₀ w₁ : World)
    (authority mint g : Pubkey) (grantId amountPerPeriod : UInt64)
    (periodSeconds startTs expiresAt : I64)
    (hcreate : createGrant rt now₀ w₀ authority mint grantId amountPerPeriod periodSeconds startTs
      expiresAt = .ok w₁)
    (hg : (rt.findProgramAddress (grantSeeds authority mint grantId)).1 = g)
    (steps : List (I64 × ProgramInstruction))
    (hsteps : ∀ st ∈ steps, st.2.isCreateOrClose = false) :
    (∀ t ∈ trace rt w₁ steps, ∀ acc k, t.ix.claim? = some (acc, k) → acc.grant = g →
      ClaimSettles g amountPerPeriod periodSeconds startTs expiresAt t acc k) ∧
    ∀ c, ((claimsBy g c (trace rt w₁ steps)).map Prod.fst).Nodup ∧
      (∀ k r, (run rt w₁ steps).receipts (g, c, k) = some r ↔ w₀.receipts (g, c, k) = some r ∨
        r = ⟨g, c, k, r.claimedAt⟩ ∧
          ∃ x ∈ claimsBy g c (trace rt w₁ steps), x.1 = k ∧ x.2.1 = r.claimedAt) ∧
      ∀ t : I64,
        (((claimsBy g c (trace rt w₁ steps)).filter (·.2.1.toInt ≤ t.toInt)).map (·.2.2)).sum =
          amountPerPeriod.toNat *
            ((claimsBy g c (trace rt w₁ steps)).filter (·.2.1.toInt ≤ t.toInt)).length ∧
        ((claimsBy g c (trace rt w₁ steps)).filter (·.2.1.toInt ≤ t.toInt)).length ≤
          ((t.toInt - startTs.toInt) / periodSeconds.toInt + 1).toNat := by
  subst hg
  have hL := run_trace_induction rt (fun ix => ix.isCreateOrClose = false)
    (GrantLedger _ amountPerPeriod periodSeconds startTs expiresAt w₀.receipts)
    (fun _ _ _ _ _ hix hl h => hl.step h hix) steps hsteps w₁ []
    (GrantLedger.of_createGrant hcreate)
  rw [List.nil_append] at hL
  exact ⟨hL.settled, fun c => ⟨hL.distinct c, hL.receipts c, hL.received c⟩⟩

/-- The example grant, created over `exampleWallets`. -/
def exampleCreated : World := run exampleRuntime exampleWallets [(exampleNow, exampleCreate)]

/-- The authority funds the example grant and registers its signer, and the claimer claims
period 3 through `claim_grant`, the grant having no allowlist. -/
def exampleGrantSteps : List (I64 × ProgramInstruction) :=
  [(exampleNow, .fundGrant exampleGrantKey exampleMint exampleAuthorityAta exampleAuthority
      exampleAuthority 10),
    (exampleNow, .upsertPopConfig exampleAuthority exampleSigner),
    (exampleNow, .claimGrant exampleClaimAccounts 3)]

set_option maxRecDepth 4000 in
theorem run_claims_of_createGrant_example :
    createGrant exampleRuntime exampleNow exampleWallets exampleAuthority exampleMint 0 1
        exampleGrant.periodSeconds exampleGrant.startTs I64.zero = .ok exampleCreated ∧
    (exampleRuntime.findProgramAddress (grantSeeds exampleAuthority exampleMint 0)).1 =
      exampleGrantKey ∧
    (∀ st ∈ exampleGrantSteps, st.2.isCreateOrClose = false) ∧
    (∀ t ∈ trace exampleRuntime exampleCreated exampleGrantSteps, ∀ acc k,
      t.ix.claim? = some (acc, k) → acc.grant = exampleGrantKey →
      ClaimSettles exampleGrantKey 1 exampleGrant.periodSeconds exampleGrant.startTs I64.zero t acc
        k) ∧
    ∀ c, ((claimsBy exampleGrantKey c (trace exampleRuntime exampleCreated exampleGrantSteps)).map
        Prod.fst).Nodup ∧
      (∀ k r, (run exampleRuntime exampleCreated exampleGrantSteps).receipts (exampleGrantKey, c, k) =
          some r ↔ exampleWallets.receipts (exampleGrantKey, c, k) = some r ∨
        r = ⟨exampleGrantKey, c, k, r.claimedAt⟩ ∧
          ∃ x ∈ claimsBy exampleGrantKey c (trace exampleRuntime exampleCreated exampleGrantSteps),
            x.1 = k ∧ x.2.1 = r.claimedAt) ∧
      ∀ t : I64,
        (((claimsBy exampleGrantKey c (trace exampleRuntime exampleCreated exampleGrantSteps)).filter
            (·.2.1.toInt ≤ t.toInt)).map (·.2.2)).sum =
          (1 : UInt64).toNat *
            ((claimsBy exampleGrantKey c
              (trace exampleRuntime exampleCreated exampleGrantSteps)).filter
              (·.2.1.toInt ≤ t.toInt)).length ∧
        ((claimsBy exampleGrantKey c (trace exampleRuntime exampleCreated exampleGrantSteps)).filter
            (·.2.1.toInt ≤ t.toInt)).length ≤
          ((t.toInt - exampleGrant.startTs.toInt) / exampleGrant.periodSeconds.toInt + 1).toNat :=
  have hsteps : ∀ st ∈ exampleGrantSteps, st.2.isCreateOrClose = false := by decide
  ⟨rfl, rfl, hsteps,
    run_claims_of_createGrant exampleRuntime exampleNow exampleWallets exampleCreated
      exampleAuthority exampleMint exampleGrantKey 0 1 exampleGrant.periodSeconds
      exampleGrant.startTs I64.zero rfl rfl exampleGrantSteps hsteps⟩

set_option maxRecDepth 4000 in
/-- Before `start_ts - period_seconds`, the bound `amount_per_period * (floor((t - start_ts) /
period_seconds) + 1)` is negative, while a claimer has received nothing: after the creation of the
example grant and no other step, at `t = -10_000_000`. -/
theorem run_claims_before_start :
    createGrant exampleRuntime exampleNow exampleWallets exampleAuthority exampleMint 0 1
        exampleGrant.periodSeconds exampleGrant.startTs I64.zero = .ok exampleCreated ∧
    (((((claimsBy exampleGrantKey exampleClaimer (trace exampleRuntime exampleCreated [])).filter
        (·.2.1.toInt ≤ -10000000)).map (·.2.2)).sum : ℕ) : ℤ) >
      ((1 : UInt64).toNat : ℤ) *
        ((-10000000 - exampleGrant.startTs.toInt) / exampleGrant.periodSeconds.toInt + 1) :=
  -- the received total is `0` and the bound is `1 * (-4 + 1) = -3`
  ⟨rfl, show Int.negSucc 2 < 0 from Int.negSucc_lt_zero 2⟩

end GrantProgram
