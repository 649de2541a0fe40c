import GrantProgram.Basic
import Mathlib.Algebra.Order.Group.Int

/-
**The grant and its periods: `Grant` and `require_claim_timing`.**

A grant releases `amount_per_period` tokens to each eligible claimer once per period of
`period_seconds`, counted from `start_ts`, until `expires_at` (`0` for never).  A claim names its
period index; the index is a seed of the claim's receipt account, so the client must supply it, and
`require_claim_timing` recomputes it from the clock and rejects any other value.  It is the only
arithmetic of the program on client-influenced values: a checked `i64` subtraction, an `i64`
division and an `as u64` cast.

Main definitions:

* `GrantProgram.Grant` — the grant account;
* `GrantProgram.requireClaimTiming` — `require_claim_timing`.

Main results:

* `GrantProgram.eq_ediv_iff` — an index is the quotient exactly when the elapsed time lies in its
  window;
* `GrantProgram.div?_of_nonneg` — on a non-negative elapsed time and a positive period the
  division neither panics nor leaves the range of `u64` when cast;
* `GrantProgram.requireClaimTiming_exact` — **the timing check over the integers**: it passes
  exactly inside the grant's lifetime, when the elapsed time fits an `i64` and lies in the window
  of the claimed index; it never panics; and at any clock value at most one index passes.
-/

set_option autoImplicit false

namespace GrantProgram

/-- The `Grant` account. -/
structure Grant where
  authority : Pubkey
  mint : Pubkey
  vault : Pubkey
  grantId : UInt64
  amountPerPeriod : UInt64
  periodSeconds : I64
  startTs : I64
  /-- `0` means no expiry. -/
  expiresAt : I64
  /-- The allowlist root; `[0; 32]` disables the allowlist. -/
  merkleRoot : Hash
  paused : Bool
  bump : UInt8
deriving DecidableEq

/-- `require_claim_timing`. -/
def requireClaimTiming (grant : Grant) (now : I64) (periodIndex : UInt64) :
    Except ProgramError Unit := do
  -- `if grant.expires_at != 0 { require!(now <= grant.expires_at) }`
  require (grant.expiresAt.toInt ≠ 0 → now.toInt ≤ grant.expiresAt.toInt) .grantExpired
  require (now.toInt ≥ grant.startTs.toInt) .grantNotStarted
  let elapsed ← okOr (now.checkedSub grant.startTs) .mathOverflow
  let quotient ← orPanic (elapsed.div? grant.periodSeconds)
  let expectedPeriodIndex := quotient.toU64
  require (periodIndex = expectedPeriodIndex) .invalidPeriodIndex

/-! ### The period window -/

/-- The window of period `k`: the quotient is `k` exactly when `k * p ≤ e < (k + 1) * p`. -/
theorem eq_ediv_iff {k e p : ℤ} (hp : 0 < p) : k = e / p ↔ k * p ≤ e ∧ e < (k + 1) * p := by
  rw [← Int.le_ediv_iff_mul_le hp, ← Int.ediv_lt_iff_lt_mul hp]
  omega

/-- Dividing a non-negative `i64` by a positive one neither panics nor leaves `[0, i64::MAX]`, so
the `as u64` cast of the quotient is its value. -/
theorem div?_of_nonneg {e p : I64} (he : 0 ≤ e.toInt) (hp : 0 < p.toInt) :
    ∃ q, e.div? p = some q ∧ q.toInt = e.toInt / p.toInt ∧
      (q.toU64.toNat : ℤ) = e.toInt / p.toInt := by
  have h₁ : 0 ≤ e.toInt / p.toInt := Int.ediv_nonneg he hp.le
  have h₂ : e.toInt / p.toInt ≤ e.toInt := Int.ediv_le_self _ he
  have h₃ := e.le_max
  unfold i64Max at h₃
  refine ⟨⟨e.toInt / p.toInt, by unfold i64Min; omega, by unfold i64Max; omega⟩, ?_, rfl, ?_⟩
  · rw [I64.div?, if_neg (by omega), Int.tdiv_eq_ediv he hp.le, I64.ofInt?_eq_some]
  · simp only [I64.toU64, I64.bits]
    rw [UInt64.toNat_ofNat_of_lt (by unfold UInt64.size; omega)]
    omega

theorem checkedSub_of_le {a b : I64} (h₁ : b.toInt ≤ a.toInt) (h₂ : a.toInt - b.toInt ≤ i64Max) :
    ∃ d, a.checkedSub b = some d ∧ d.toInt = a.toInt - b.toInt := by
  have := b.le_max
  have := a.min_le
  unfold i64Min i64Max at *
  exact ⟨⟨_, by unfold i64Min; omega, h₂⟩, I64.ofInt?_eq_some.2 rfl, rfl⟩

theorem checkedSub_eq_none {a b : I64} (h : ¬a.toInt - b.toInt ≤ i64Max) : a.checkedSub b = none :=
  I64.ofInt?_eq_none.2 fun h' => h h'.2

/-- `require_claim_timing` on a grant with a positive period, one check after the other, over the
integers. -/
theorem requireClaimTiming_eq (grant : Grant) (hp : 0 < grant.periodSeconds.toInt) (now : I64)
    (k : UInt64) :
    requireClaimTiming grant now k =
      if grant.expiresAt.toInt ≠ 0 → now.toInt ≤ grant.expiresAt.toInt then
        if grant.startTs.toInt ≤ now.toInt then
          if now.toInt - grant.startTs.toInt ≤ i64Max then
            if (k.toNat : ℤ) = (now.toInt - grant.startTs.toInt) / grant.periodSeconds.toInt then
              .ok ()
            else .error (.custom .invalidPeriodIndex)
          else .error (.custom .mathOverflow)
        else .error (.custom .grantNotStarted)
      else .error (.custom .grantExpired) := by
  unfold requireClaimTiming
  split_ifs with hE hS hM hk
  · obtain ⟨e, he, hev⟩ := checkedSub_of_le hS hM
    obtain ⟨q, hq, -, hqk⟩ := div?_of_nonneg (show 0 ≤ e.toInt by omega) hp
    rw [hev] at hqk
    simp only [require_of_true _ hE, require_of_true _ (ge_iff_le.2 hS), he, hq, ok_bind,
      okOr_some, orPanic_some]
    exact require_of_true _ (UInt64.toNat.inj (by omega))
  · obtain ⟨e, he, hev⟩ := checkedSub_of_le hS hM
    obtain ⟨q, hq, -, hqk⟩ := div?_of_nonneg (show 0 ≤ e.toInt by omega) hp
    rw [hev] at hqk
    simp only [require_of_true _ hE, require_of_true _ (ge_iff_le.2 hS), he, hq, ok_bind,
      okOr_some, orPanic_some]
    exact require_of_false _ fun h => hk (by rw [h]; omega)
  · simp [require_of_true _ hE, require_of_true _ (ge_iff_le.2 hS), checkedSub_eq_none hM]
  · simp [require_of_true _ hE, require_of_false _ (show ¬now.toInt ≥ grant.startTs.toInt by omega)]
  · simp [require_of_false _ hE]

/-- **`require_claim_timing` over the integers.**  On a grant with a positive period (the only
ones `create_grant` makes) it passes exactly when the grant has not expired, has started, the
elapsed time `now - start_ts` fits an `i64`, and that time lies in the window
`[k * period_seconds, (k + 1) * period_seconds)` of the claimed index `k`.  It never panics: its
division never meets a zero divisor, and the `as u64` cast of the quotient is the quotient itself.
So at any clock value at most one index passes. -/
theorem requireClaimTiming_exact (grant : Grant) (hp : 0 < grant.periodSeconds.toInt) (now : I64)
    (periodIndex : UInt64) :
    (requireClaimTiming grant now periodIndex = .ok () ↔
      (grant.expiresAt.toInt = 0 ∨ now.toInt ≤ grant.expiresAt.toInt) ∧
      grant.startTs.toInt ≤ now.toInt ∧ now.toInt - grant.startTs.toInt ≤ i64Max ∧
      (periodIndex.toNat : ℤ) * grant.periodSeconds.toInt ≤ now.toInt - grant.startTs.toInt ∧
      now.toInt - grant.startTs.toInt < ((periodIndex.toNat : ℤ) + 1) * grant.periodSeconds.toInt) ∧
    requireClaimTiming grant now periodIndex ≠ .error .panic ∧
    (∀ e : I64, 0 ≤ e.toInt → ∃ q, e.div? grant.periodSeconds = some q ∧
      (q.toU64.toNat : ℤ) = e.toInt / grant.periodSeconds.toInt) ∧
    ∀ k : UInt64, requireClaimTiming grant now periodIndex = .ok () →
      requireClaimTiming grant now k = .ok () → k = periodIndex := by
  -- the check passes exactly when each of its four tests does, the last one as a quotient
  have hok : ∀ k : UInt64, requireClaimTiming grant now k = .ok () ↔
      (grant.expiresAt.toInt = 0 ∨ now.toInt ≤ grant.expiresAt.toInt) ∧
      grant.startTs.toInt ≤ now.toInt ∧ now.toInt - grant.startTs.toInt ≤ i64Max ∧
      (k.toNat : ℤ) = (now.toInt - grant.startTs.toInt) / grant.periodSeconds.toInt := by
    intro k
    have hE : (grant.expiresAt.toInt ≠ 0 → now.toInt ≤ grant.expiresAt.toInt) ↔
        grant.expiresAt.toInt = 0 ∨ now.toInt ≤ grant.expiresAt.toInt := by
      rw [imp_iff_not_or, not_not]
    rw [requireClaimTiming_eq grant hp]
    split_ifs with h₁ h₂ h₃ h₄
    · exact iff_of_true rfl ⟨hE.1 h₁, h₂, h₃, h₄⟩
    · exact iff_of_false nofun fun h => h₄ h.2.2.2
    · exact iff_of_false nofun fun h => h₃ h.2.2.1
    · exact iff_of_false nofun fun h => h₂ h.2.1
    · exact iff_of_false nofun fun h => h₁ (hE.2 h.1)
  refine ⟨by rw [hok, eq_ediv_iff hp], ?_, fun e he => ?_, fun k h h' => ?_⟩
  · rw [requireClaimTiming_eq grant hp]
    split_ifs <;> nofun
  · obtain ⟨q, hq, -, hc⟩ := div?_of_nonneg he hp
    exact ⟨q, hq, hc⟩
  · have := ((hok k).1 h').2.2.2
    have := ((hok periodIndex).1 h).2.2.2
    exact UInt64.toNat.inj (by omega)

/-- The example of the specification: with `start_ts = 1000` and a 30-day period, at
`now = 1000 + 3 * 2_592_000 + 500` the index is 3. -/
def exampleGrant : Grant :=
  ⟨Bytes32.zero, Bytes32.zero, Bytes32.zero, 0, 1,
    ⟨2592000, by unfold i64Min; omega, by unfold i64Max; omega⟩,
    ⟨1000, by unfold i64Min; omega, by unfold i64Max; omega⟩, I64.zero, Bytes32.zero, false, 0⟩

/-- `now = 1000 + 3 * 2_592_000 + 500`. -/
def exampleNow : I64 := ⟨7777500, by unfold i64Min; omega, by unfold i64Max; omega⟩

theorem requireClaimTiming_exampleGrant :
    0 < exampleGrant.periodSeconds.toInt ∧
      requireClaimTiming exampleGrant exampleNow 3 = .ok () ∧
      requireClaimTiming exampleGrant exampleNow 2 ≠ .ok () ∧
      requireClaimTiming exampleGrant exampleNow 4 ≠ .ok () := by
  have h := requireClaimTiming_exact exampleGrant (by decide) exampleNow 3
  have h₃ : requireClaimTiming exampleGrant exampleNow 3 = .ok () := h.1.2 (by decide)
  exact ⟨by decide, h₃, fun h₂ => absurd (h.2.2.2 2 h₃ h₂) (by decide),
    fun h₄ => absurd (h.2.2.2 4 h₃ h₄) (by decide)⟩

end GrantProgram
